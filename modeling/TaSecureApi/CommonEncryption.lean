import TaSecureApi.CipherStore
import TaSecureApi.Lib.Transition

namespace TaSecureApi
set_option autoImplicit true
open Transition

/-- A sample that has been verified, what the verification read, and the number of the cipher that
it found behind the handle. -/
structure CheckedSample where
  sample : SaSample
  reading : Reading
  cipher : Option Nat
  deriving DecidableEq

/-- Where a call of `ta_sa_process_common_encryption` stands between its exclusive sections. -/
inductive CommandPc
  | idle
  | verifying (checked : List CheckedSample) (todo : List SaSample)
  | processing (todo : List CheckedSample)
  | returned (result : Except CencExit Unit)

def CommandPc.checked : CommandPc → List CheckedSample
  | verifying checked _ => checked
  | processing todo => todo
  | _ => []

/-- A sample that was processed, by which call, with the cipher and the steps it took. -/
structure Decryption (Ctx : Type) where
  caller : Nat
  checked : CheckedSample
  cipher : Cipher Ctx
  steps : List CencEvent

/-- The stores of a client, the memory, and the calls that are running. The log has the newest
decryption first. -/
structure ClientState (Ctx : Type) where
  ciphers : CipherStore Ctx
  svps : Nat → Except SaStatus (Option SvpBuffer)
  memory : Memory
  commands : Nat → CommandPc
  log : List (Decryption Ctx)

/-- The requests of the client, one action for each exclusive section. `cipherProcess` is what a
request that uses a cipher leaves of the context of OpenSSL, and `other` what all other requests,
and the client itself, do to the memory and to the SVP buffers. -/
inductive ClientAction (Ctx : Type)
  | cipherInit (header : SaHeader) (algorithm : SaCipherAlgorithm) (mode : SaCipherMode)
      (created : Except SaStatus Ctx) (found reading : Reading)
  | cipherRelease (context : Nat)
  | cipherUpdateIv (context : Nat) (iv : Option Iv) (ivLength : Nat)
  | cipherProcess (context : Nat) (evpCipher : Ctx)
  | other (svps : Nat → Except SaStatus (Option SvpBuffer)) (memory : Memory)
  | start (caller : Nat) (samples : Option (List SaSample))
  | verify (caller : Nat) (reading : Reading)
  | process (caller : Nat)

variable {Ctx : Type}

namespace ClientState

def idle (ciphers : CipherStore Ctx) (svps : Nat → Except SaStatus (Option SvpBuffer))
    (memory : Memory) : ClientState Ctx where
  ciphers := ciphers
  svps := svps
  memory := memory
  commands _ := .idle
  log := []

def client (σ : ClientState Ctx) (callerUuid : SaUuid) : Client Ctx where
  ciphers context := (cipherStoreAcquireExclusive σ.ciphers context callerUuid).map Prod.snd
  svps := σ.svps

def setCommand (σ : ClientState Ctx) (caller : Nat) (pc : CommandPc) : ClientState Ctx :=
  { σ with commands := Function.update σ.commands caller pc }

/-- One pass of the loop that verifies the samples, or its end. -/
def verify (σ : ClientState Ctx) (callerUuid : SaUuid) (caller : Nat) (reading : Reading)
    (checked : List CheckedSample) : List SaSample → ClientState Ctx
  | [] => σ.setCommand caller (.processing checked)
  | sample :: todo =>
    match verifySample (σ.client callerUuid) reading sample with
    | .error status => σ.setCommand caller (.returned (.error (.status status)))
    | .ok () =>
      let found := cipherStoreAcquireExclusive σ.ciphers sample.context callerUuid
      σ.setCommand caller
        (.verifying (checked ++ [⟨sample, reading, found.toOption.map Prod.fst⟩]) todo)

/-- What a processed sample leaves of the cipher it found, if it came to use one. -/
def decrypted (σ : ClientState Ctx) (callerUuid : SaUuid) (caller : Nat) (checked : CheckedSample)
    (r : CencResult Ctx) : ClientState Ctx :=
  match cipherStoreAcquireExclusive σ.ciphers checked.sample.context callerUuid, r.context with
  | .ok (n, cipher), some context =>
    { σ with
      ciphers := σ.ciphers.setEvpCipher n context.evpCipher
      memory := r.memory
      log := ⟨caller, checked, cipher, r.log⟩ :: σ.log }
  | _, _ => σ

/-- One pass of the loop that processes the samples, or its end. -/
def process (evp : Evp Ctx) (σ : ClientState Ctx) (callerUuid : SaUuid) (caller : Nat) :
    List CheckedSample → ClientState Ctx
  | [] => σ.setCommand caller (.returned (.ok ()))
  | checked :: todo =>
    let r := cencProcessSample evp (σ.client callerUuid) checked.sample σ.memory
    (σ.decrypted callerUuid caller checked r).setCommand caller
      (match r.result with
        | .ok _ => .processing todo
        | .error exit => .returned (.error exit))

/-- One section of one of the requests of a client, all made with one UUID. -/
def step (evp : Evp Ctx) (callerUuid : SaUuid) (σ : ClientState Ctx) :
    ClientAction Ctx → Option (ClientState Ctx)
  | .cipherInit header algorithm mode created found reading =>
    some { σ with ciphers :=
      (taSaCryptoCipherInit σ.ciphers callerUuid header algorithm mode created found reading).2.2 }
  | .cipherRelease context =>
    some { σ with ciphers := (cipherStoreRemove σ.ciphers context callerUuid).2 }
  | .cipherUpdateIv context iv ivLength =>
    some { σ with ciphers :=
      (taSaCryptoCipherUpdateIv evp σ.ciphers callerUuid context iv ivLength).2 }
  | .cipherProcess context evpCipher =>
    match cipherStoreAcquireExclusive σ.ciphers context callerUuid with
    | .error _ => some σ
    | .ok (n, _) => some { σ with ciphers := σ.ciphers.setEvpCipher n evpCipher }
  | .other svps memory => some { σ with svps := svps, memory := memory }
  | .start caller samples =>
    match σ.commands caller, samples with
    | .idle, none => some (σ.setCommand caller (.returned (.error (.status .nullParameter))))
    | .idle, some samples => some (σ.setCommand caller (.verifying [] samples))
    | _, _ => none
  | .verify caller reading =>
    match σ.commands caller with
    | .verifying checked todo => some (σ.verify callerUuid caller reading checked todo)
    | _ => none
  | .process caller =>
    match σ.commands caller with
    | .processing todo => some (σ.process evp callerUuid caller todo)
    | _ => none

end ClientState

def CencEvent.decrypts : CencEvent → Bool
  | call _ _ bytesToProcess => bytesToProcess > 0
  | _ => false

/-- The cipher may decrypt to a clear buffer, as far as one reading of the world says. -/
structure Cipher.AllowsClear (cipher : Cipher Ctx) (reading : Reading) : Prop where
  mode : cipher.cipherMode = .decrypt
  algorithm : cipher.cipherAlgorithm = .aesCtr ∨ cipher.cipherAlgorithm = .aesCbc
  decrypt : rightsAllowedDecrypt cipher.keyRights .symmetric reading
  clear : rightsAllowedClear cipher.keyRights

/-- Bytes were decrypted into a clear buffer. -/
def Decryption.IntoClear (d : Decryption Ctx) : Prop :=
  d.checked.sample.out.any SaBuffer.isClear ∧ d.steps.any CencEvent.decrypts

/-- They were decrypted with a cipher that the call had found to allow it. -/
def Decryption.Allowed (d : Decryption Ctx) : Prop := d.cipher.AllowsClear d.checked.reading

/-- The sample that is processed next has no clear output, or its handle names no other cipher than
the one that was verified. -/
def sameCipher (callerUuid : SaUuid) (σ : ClientState Ctx) : ClientAction Ctx → Bool
  | .process caller =>
    match σ.commands caller with
    | .processing (checked :: _) =>
      !checked.sample.out.any SaBuffer.isClear ||
        match cipherStoreAcquireExclusive σ.ciphers checked.sample.context callerUuid with
        | .error _ => true
        | .ok (n, _) => checked.cipher = some n
    | _ => true
  | _ => true

section Invariant

variable {evp : Evp Ctx} {callerUuid : SaUuid} {σ σ' : ClientState Ctx} {a : ClientAction Ctx}

namespace ClientState

/-- Everything that a section can do to the calls and to the ciphers. -/
inductive Change (evp : Evp Ctx) (callerUuid : SaUuid) (σ : ClientState Ctx) :
    ClientAction Ctx → ClientState Ctx → Prop
  | request {a ciphers svps memory} (h : σ.ciphers.Extends ciphers) :
      Change evp callerUuid σ a ⟨ciphers, svps, memory, σ.commands, σ.log⟩
  | moved {a caller pc} (h : ∀ checked ∈ pc.checked, checked ∈ (σ.commands caller).checked) :
      Change evp callerUuid σ a (σ.setCommand caller pc)
  | verified {caller reading checked sample todo}
      (hpc : σ.commands caller = .verifying checked (sample :: todo))
      (h : verifySample (σ.client callerUuid) reading sample = .ok ()) :
      Change evp callerUuid σ (.verify caller reading) (σ.setCommand caller (.verifying (checked ++
        [⟨sample, reading, (cipherStoreAcquireExclusive σ.ciphers sample.context
          callerUuid).toOption.map Prod.fst⟩]) todo))
  | processed {caller checked todo pc} {r : CencResult Ctx}
      (hpc : σ.commands caller = .processing (checked :: todo))
      (h : ∀ c ∈ pc.checked, c ∈ todo) :
      Change evp callerUuid σ (.process caller)
        ((σ.decrypted callerUuid caller checked r).setCommand caller pc)

theorem step_change (h : step evp callerUuid σ a = some σ') : Change evp callerUuid σ a σ' := by
  cases a with
  | cipherInit header algorithm mode created found reading =>
    cases h
    exact .request (taSaCryptoCipherInit_extends _ _ _ _ _ _ _ _)
  | cipherRelease context =>
    cases h
    exact .request (cipherStoreRemove_extends _ _ _)
  | cipherUpdateIv context iv ivLength =>
    cases h
    exact .request (taSaCryptoCipherUpdateIv_extends _ _ _ _ _ _)
  | cipherProcess context evpCipher =>
    simp only [step] at h
    split at h
    · cases h
      exact .request (.refl _)
    · cases h
      exact .request (σ.ciphers.setEvpCipher_extends _ _)
  | other svps memory =>
    cases h
    exact .request (.refl _)
  | start caller samples =>
    simp only [step] at h
    split at h
    · cases h
      exact .moved (by simp [CommandPc.checked])
    · cases h
      exact .moved (by simp [CommandPc.checked])
    · cases h
  | verify caller reading =>
    simp only [step] at h
    split at h
    · rename_i checked todo hpc
      cases h
      cases todo with
      | nil => exact .moved (by simp [hpc, CommandPc.checked])
      | cons sample todo =>
        cases hv : verifySample (σ.client callerUuid) reading sample with
        | error status =>
          simp only [verify, hv]
          exact .moved (by simp [CommandPc.checked])
        | ok _ =>
          simp only [verify, hv]
          exact .verified hpc hv
    · cases h
  | process caller =>
    simp only [step] at h
    split at h
    · rename_i todo hpc
      cases h
      cases todo with
      | nil => exact .moved (by simp [CommandPc.checked])
      | cons checked todo =>
        unfold process
        apply Change.processed hpc
        split
        · exact fun c hc => hc
        · simp [CommandPc.checked]
    · cases h

end ClientState

/-- What is said of ciphers is about their algorithm, their mode and the rights of their keys. -/
def Stable (allows : Cipher Ctx → CheckedSample → Prop) : Prop :=
  ∀ ⦃c c' : Cipher Ctx⦄ checked, c'.cipherAlgorithm = c.cipherAlgorithm →
    c'.cipherMode = c.cipherMode → c'.keyRights = c.keyRights → allows c checked → allows c' checked

def Establishes (allows : Cipher Ctx → CheckedSample → Prop) : Prop :=
  ∀ (client : Client Ctx) (reading : Reading) (sample : SaSample) (c : Cipher Ctx) n,
    verifySample client reading sample = .ok () → client.ciphers sample.context = .ok c →
    allows c ⟨sample, reading, n⟩

def CheckedSample.Holds (allows : Cipher Ctx → CheckedSample → Prop) (ciphers : CipherStore Ctx)
    (checked : CheckedSample) : Prop :=
  ∀ n ∈ checked.cipher, ∃ c, ciphers.ciphers[n]? = some c ∧ allows c checked

theorem CheckedSample.Holds.extends {allows : Cipher Ctx → CheckedSample → Prop}
    {ciphers ciphers' : CipherStore Ctx} {checked : CheckedSample} (hstable : Stable allows)
    (h : checked.Holds allows ciphers) (he : ciphers.Extends ciphers') :
    checked.Holds allows ciphers' := by
  intro n hn
  obtain ⟨c, hc, ha⟩ := h n hn
  obtain ⟨c', hc', halg, hmode, hrights⟩ := he n c hc
  exact ⟨c', hc', hstable checked halg hmode hrights ha⟩

theorem CheckedSample.holds_of_verifySample {allows : Cipher Ctx → CheckedSample → Prop}
    {reading : Reading} {sample : SaSample} (hverify : Establishes allows)
    (h : verifySample (σ.client callerUuid) reading sample = .ok ()) :
    CheckedSample.Holds allows σ.ciphers ⟨sample, reading, (cipherStoreAcquireExclusive σ.ciphers
      sample.context callerUuid).toOption.map Prod.fst⟩ := by
  intro n hn
  dsimp only at hn
  cases hf : cipherStoreAcquireExclusive σ.ciphers sample.context callerUuid with
  | error e =>
    rw [hf] at hn
    cases hn
  | ok found =>
    obtain ⟨m, c⟩ := found
    rw [hf] at hn
    cases hn
    have hfound : (σ.client callerUuid).ciphers sample.context = .ok c := by
      dsimp only [ClientState.client]
      rw [hf]
      rfl
    exact ⟨c, (cipherStoreAcquireExclusive_ok hf).1, hverify _ _ _ _ _ h hfound⟩

/-- The verified samples hold, and what was decrypted was allowed. -/
structure SampleInvariant (allows : Cipher Ctx → CheckedSample → Prop) (σ : ClientState Ctx) :
    Prop where
  checked : ∀ caller, ∀ c ∈ (σ.commands caller).checked, CheckedSample.Holds allows σ.ciphers c
  log : ∀ d ∈ σ.log, allows d.cipher d.checked

theorem ClientState.decrypted_extends (σ : ClientState Ctx) (callerUuid : SaUuid) (caller : Nat)
    (checked : CheckedSample) (r : CencResult Ctx) :
    σ.ciphers.Extends (σ.decrypted callerUuid caller checked r).ciphers := by
  unfold decrypted
  split
  · exact σ.ciphers.setEvpCipher_extends _ _
  · exact .refl _

theorem ClientState.decrypted_commands (σ : ClientState Ctx) (callerUuid : SaUuid) (caller : Nat)
    (checked : CheckedSample) (r : CencResult Ctx) :
    (σ.decrypted callerUuid caller checked r).commands = σ.commands := by
  unfold decrypted
  split <;> rfl

theorem ClientState.decrypted_log {d : Decryption Ctx}
    (h : d ∈ (σ.decrypted callerUuid caller checked r).log) : d ∈ σ.log ∨ d.checked = checked ∧
      ∃ n, cipherStoreAcquireExclusive σ.ciphers checked.sample.context callerUuid =
        .ok (n, d.cipher) := by
  unfold decrypted at h
  split at h
  · rename_i n cipher context hf hc
    rcases List.mem_cons.1 h with rfl | h
    · exact .inr ⟨rfl, n, hf⟩
    · exact .inl h
  · exact .inl h

theorem SampleInvariant.idle {allows : Cipher Ctx → CheckedSample → Prop}
    (ciphers : CipherStore Ctx) (svps : Nat → Except SaStatus (Option SvpBuffer))
    (memory : Memory) : SampleInvariant allows (.idle ciphers svps memory) where
  checked := by
    intro caller c hc
    cases hc
  log := by
    intro d hd
    cases hd

theorem SampleInvariant.setCommand {allows : Cipher Ctx → CheckedSample → Prop}
    (hI : SampleInvariant allows σ) (h : ∀ c ∈ pc.checked, c.Holds allows σ.ciphers) :
    SampleInvariant allows (σ.setCommand caller pc) where
  checked caller' c hc := by
    simp only [ClientState.setCommand, Function.update_apply] at hc
    split_ifs at hc
    · exact h c hc
    · exact hI.checked caller' c hc
  log := hI.log

/-- A section keeps the invariant when a sample that is processed is so with the cipher that was
verified, or is one that any cipher is allowed for. -/
theorem SampleInvariant.change {allows : Cipher Ctx → CheckedSample → Prop}
    (hstable : Stable allows) (hverify : Establishes allows) (hI : SampleInvariant allows σ)
    (hsame : ∀ caller checked todo n c, a = .process caller →
      σ.commands caller = .processing (checked :: todo) →
      cipherStoreAcquireExclusive σ.ciphers checked.sample.context callerUuid = .ok (n, c) →
      checked.cipher = some n ∨ allows c checked)
    (h : ClientState.Change evp callerUuid σ a σ') : SampleInvariant allows σ' := by
  cases h with
  | request h =>
    exact ⟨fun caller c hc => (hI.checked caller c hc).extends hstable h, hI.log⟩
  | @moved _ caller _ h => exact hI.setCommand fun c hc => hI.checked caller c (h c hc)
  | @verified caller reading checked sample todo hpc h =>
    apply hI.setCommand
    intro c hc
    rcases List.mem_append.1 hc with hc | hc
    · exact hI.checked caller c (by rw [hpc]; exact hc)
    · rw [List.mem_singleton.1 hc]
      exact CheckedSample.holds_of_verifySample hverify h
  | @processed caller checked todo pc r hpc h =>
    have htodo : ∀ c ∈ checked :: todo, c.Holds allows σ.ciphers := by
      intro c hc
      exact hI.checked caller c (by rw [hpc]; exact hc)
    have hext := σ.decrypted_extends callerUuid caller checked r
    have hdec : SampleInvariant allows (σ.decrypted callerUuid caller checked r) := by
      constructor
      · intro caller' c hc
        rw [σ.decrypted_commands] at hc
        exact (hI.checked caller' c hc).extends hstable hext
      · intro d hd
        rcases ClientState.decrypted_log hd with hd | ⟨hchecked, n, hf⟩
        · exact hI.log d hd
        · rw [hchecked]
          rcases hsame caller checked todo n d.cipher rfl hpc hf with hn | hallows
          · obtain ⟨c, hc, ha⟩ := htodo checked List.mem_cons_self n hn
            rw [(cipherStoreAcquireExclusive_ok hf).1] at hc
            cases hc
            exact ha
          · exact hallows
    exact hdec.setCommand fun c hc =>
      (htodo c (List.mem_cons_of_mem _ (h c hc))).extends hstable hext

/-- A cipher may decrypt to a clear buffer, if that is what the sample has. -/
def allowsClear (c : Cipher Ctx) (checked : CheckedSample) : Prop :=
  checked.sample.out.any SaBuffer.isClear → c.AllowsClear checked.reading

theorem allowsClear_stable : Stable (@allowsClear Ctx) := by
  intro c c' checked halg hmode hrights ha hclear
  have ha := ha hclear
  constructor
  · rw [hmode]
    exact ha.mode
  · rw [halg]
    exact ha.algorithm
  · rw [hrights]
    exact ha.decrypt
  · rw [hrights]
    exact ha.clear

theorem allowsClear_establishes : Establishes (@allowsClear Ctx) := by
  intro client reading sample c n h hfound hclear
  obtain ⟨c', subsampleLengths, out, inp, outBytes, inBytes, hv⟩ := verifySample_ok h
  have hc := hv.cipherFound
  rw [hfound] at hc
  cases hc
  dsimp only at hclear
  rw [hv.outFound] at hclear
  exact ⟨hv.mode, hv.algorithm, hv.rights, hv.clear hclear⟩

theorem allowsClear_of_sameCipher (hs : sameCipher callerUuid σ a = true) :
    ∀ caller checked todo n c, a = .process caller →
      σ.commands caller = .processing (checked :: todo) →
      cipherStoreAcquireExclusive σ.ciphers checked.sample.context callerUuid = .ok (n, c) →
      checked.cipher = some n ∨ allowsClear c checked := by
  rintro caller checked todo n c rfl hpc hf
  by_cases hclear : checked.sample.out.any SaBuffer.isClear = true
  · simp only [sameCipher, hpc, hf, hclear, Bool.not_true, Bool.false_or, decide_eq_true_eq] at hs
    exact .inl hs
  · exact .inr fun h => absurd h hclear

end Invariant

/-- In every run in which no handle of a clear output comes to name another cipher between the two
loops, all bytes decrypted into clear buffers are decrypted as the rights of their keys allow. -/
theorem commonEncryption_clear (evp : Evp Ctx) (callerUuid : SaUuid) (ciphers : CipherStore Ctx)
    (svps : Nat → Except SaStatus (Option SvpBuffer)) (memory : Memory)
    (actions : List (ClientAction Ctx)) (σ : ClientState Ctx)
    (hsame : Meets (ClientState.step evp callerUuid) (fun σ a => sameCipher callerUuid σ a = true)
      (.idle ciphers svps memory) actions)
    (hrun : exec (ClientState.step evp callerUuid) (.idle ciphers svps memory) actions = some σ) :
    ∀ d ∈ σ.log, d.IntoClear → d.Allowed := by
  have hI : SampleInvariant allowsClear σ := by
    apply exec_invariant (fun s a s' hI hs ha => SampleInvariant.change allowsClear_stable
      allowsClear_establishes hI (allowsClear_of_sameCipher hs) (ClientState.step_change ha)) _
      hsame hrun
    exact .idle ciphers svps memory
  intro d hd hclear
  exact hI.log d hd hclear.1

/-- Rights that allow everything at every time, and the same without `SVP_OPTIONAL`. -/
def allRights : SaRights := ⟨BitVec.allOnes 64, 0#64, 0, 2 ^ 63, [allMatch], .replicate 64 0⟩

def svpRights : SaRights := { allRights with
  usageFlags := BitVec.allOnes 64 ^^^ saUsageBitMask .svpOptional }

/-- The creation of an AES-CTR cipher for decryption, for a key with the rights. -/
def ctrInit (rights : SaRights) : ClientAction (BitVec (64 + 64) × Nat) :=
  .cipherInit ⟨rights, .symmetric, .zero, 16⟩ .aesCtr .decrypt (.ok (0, 0)) noOutputs noOutputs

def clearSample : SaSample := { ctrSample 7 [⟨0, 20⟩] with context := 31 }

/-- A sample is verified with one cipher; before it is processed the cipher is released, and its
handle given to another one, whose key requires SVP. -/
def recycledRun : List (ClientAction (BitVec (64 + 64) × Nat)) :=
  [ctrInit allRights, .start 0 (some [clearSample]), .verify 0 noOutputs, .verify 0 noOutputs,
    .cipherRelease 31, ctrInit svpRights, .process 0]

def sameRun : List (ClientAction (BitVec (64 + 64) × Nat)) :=
  [ctrInit allRights, .start 0 (some [clearSample]), .verify 0 noOutputs, .verify 0 noOutputs,
    ctrInit svpRights, .process 0]

def noCiphers : CipherStore (BitVec (64 + 64) × Nat) := (cipherStoreInit 32).get (by decide)

/-- The block function of the two runs, which is no cipher, makes decryption visible. -/
def constantEvp : Evp (BitVec (64 + 64) × Nat) := Evp.ctr fun _ _ => 90

def noSvps : Nat → Except SaStatus (Option SvpBuffer) := fun _ => .error .invalidParameter

/-- A byte of a key that requires SVP ends up in a clear buffer. -/
theorem commonEncryption_not_clear : ∃ σ, exec (ClientState.step constantEvp (.ofByte 1))
      (.idle noCiphers noSvps fun _ => 0) recycledRun = some σ ∧
    σ.memory 2000 = 90 ∧ ∃ d ∈ σ.log, d.IntoClear ∧ ¬ d.Allowed := by
  have h : (exec (ClientState.step constantEvp (.ofByte 1)) (.idle noCiphers noSvps fun _ => 0)
      recycledRun).any (fun σ => σ.memory 2000 = 90 && σ.log.any fun d =>
        d.checked.sample.out.any SaBuffer.isClear && d.steps.any CencEvent.decrypts &&
        !rightsAllowedClear d.cipher.keyRights) = true := by
    decide +kernel
  obtain ⟨σ, hrun, h⟩ := Option.any_eq_true .. |>.1 h
  obtain ⟨hm, hd⟩ := (Bool.and_eq_true _ _).mp h
  obtain ⟨d, hd, h⟩ := List.any_eq_true.1 hd
  simp only [Bool.and_eq_true, Bool.not_eq_true'] at h
  refine ⟨σ, hrun, of_decide_eq_true hm, d, hd, h.1, fun ha => ?_⟩
  rw [ha.clear] at h
  cases h.2

theorem commonEncryption_clear_same : ∃ σ, exec (ClientState.step constantEvp (.ofByte 1))
      (.idle noCiphers noSvps fun _ => 0) sameRun = some σ ∧
    (∃ d ∈ σ.log, d.IntoClear) ∧ ∀ d ∈ σ.log, d.IntoClear → d.Allowed := by
  have h : (exec (ClientState.step constantEvp (.ofByte 1)) (.idle noCiphers noSvps fun _ => 0)
      sameRun).any (fun σ => σ.log.any fun d =>
        d.checked.sample.out.any SaBuffer.isClear && d.steps.any CencEvent.decrypts) = true := by
    decide +kernel
  obtain ⟨σ, hrun, h⟩ := Option.any_eq_true .. |>.1 h
  obtain ⟨d, hd, h⟩ := List.any_eq_true.1 h
  refine ⟨σ, hrun, ⟨d, hd, (Bool.and_eq_true _ _).mp h⟩, ?_⟩
  exact commonEncryption_clear constantEvp (.ofByte 1) noCiphers noSvps (fun _ => 0) sameRun σ
    (by decide +kernel) hrun

end TaSecureApi
