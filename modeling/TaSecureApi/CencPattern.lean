import TaSecureApi.CencKeystream

namespace TaSecureApi
set_option autoImplicit true
open Wp

variable {Ctx : Type} {ε : Type} {evp : Evp Ctx} {setup : CencSetup Ctx} {s s' s'' : CencState Ctx}

inductive CipherCall
  | init (iv : Iv)
  | update (out inp n : Nat)
  deriving DecidableEq

/-- Contexts that keep the calls that were made on them, and what they last wrote to an address. An
update that succeeds has a length that is not negative, and writes its output and nothing else. -/
structure Evp.Traced (evp : Evp Ctx) where
  trace : Ctx → List CipherCall
  output : Ctx → Memory
  init : ∀ context iv, (evp.decryptInit context iv).1 →
    trace (evp.decryptInit context iv).2 = trace context ++ [.init iv] ∧
      output (evp.decryptInit context iv).2 = output context
  positive : ∀ context memory out inp inl,
    (evp.decryptUpdate context memory out inp inl).succeeded → 0 ≤ inl
  update : ∀ context memory out inp (n : Nat),
    (evp.decryptUpdate context memory out inp n).succeeded →
    trace (evp.decryptUpdate context memory out inp n).context =
      trace context ++ [.update out inp n]
  written : ∀ context memory out inp (n : Nat),
    (evp.decryptUpdate context memory out inp n).succeeded →
    ∀ a, (out ≤ a ∧ a < out + n) →
      (evp.decryptUpdate context memory out inp n).memory a =
        output (evp.decryptUpdate context memory out inp n).context a
  frame : ∀ context memory out inp (n : Nat),
    (evp.decryptUpdate context memory out inp n).succeeded →
    ∀ a, (a < out ∨ out + n ≤ a) →
      (evp.decryptUpdate context memory out inp n).memory a = memory a ∧
        output (evp.decryptUpdate context memory out inp n).context a = output context a

/-- What the calls do byte by byte: a byte is decrypted from one address to another, and the chain
is begun again at an IV. -/
inductive CipherStep
  | restart (iv : Iv)
  | byte (out inp : Nat)
  deriving DecidableEq

def byteSteps (out inp n : Nat) : List CipherStep :=
  (List.range n).map fun i => .byte (out + i) (inp + i)

/-- In CTR mode there is no chain, and a restart only says where the key stream goes on. -/
def CipherCall.steps (alg : SaCipherAlgorithm) : CipherCall → List CipherStep
  | init iv => if alg = .aesCbc then [.restart iv] else []
  | update out inp n => byteSteps out inp n

def cipherSteps (alg : SaCipherAlgorithm) (calls : List CipherCall) : List CipherStep :=
  calls.flatMap (CipherCall.steps alg)

theorem cipherSteps_concat : cipherSteps alg (calls ++ [call]) =
    cipherSteps alg calls ++ call.steps alg := by
  simp [cipherSteps]

theorem byteSteps_add : byteSteps out inp (a + b) =
    byteSteps out inp a ++ byteSteps (out + a) (inp + a) b := by
  simp [byteSteps, List.range_add, Nat.add_assoc]

/-- The loop of a call of `decrypt` takes pieces that come to the bytes it is given. -/
def LoopWhole (rollover : Bool) (n lead full before : Nat) : Prop :=
  n = 0 ∨ if rollover then lead ≤ n ∧ full = (n - lead) / 16 ∧ PiecesOk true n lead full before
    else n < 2 ^ 31

/-- No call of `decrypt`, or one that takes the bytes it is given: their number is one that an `int`
holds, or, where the counter rolls over, the call is not shorter than the block that is pending and
the numbers of its pieces are such. -/
def CencEvent.Whole (alg : SaCipherAlgorithm) : CencEvent → Prop
  | call enc counter n => LoopWhole (rollsOver alg enc counter n) n (leadingPartialBlockSize enc)
      (fullBlocks enc n) (blocksBeforeRollover counter)
  | _ => True

/-- No call of `decrypt` failed, and each of them takes the bytes that it is given. -/
structure CallsComplete (alg : SaCipherAlgorithm) (log : List CencEvent) : Prop where
  ended : openCalls log = 0
  whole : ∀ event ∈ log, event.Whole alg

/-- Some bytes that went through the cipher in order, one after the other, and nothing else that
was written. -/
structure Stepped (t : evp.Traced) (alg : SaCipherAlgorithm) (out inp n : Nat)
    (s s' : CencState Ctx) : Prop where
  silent : Extends CencEvent.Silent s s'
  steps : cipherSteps alg (t.trace s'.context.evpCipher) =
    cipherSteps alg (t.trace s.context.evpCipher) ++ byteSteps out inp n
  written : ∀ a, (out ≤ a ∧ a < out + n) → s'.memory a = t.output s'.context.evpCipher a
  frame : ∀ a, (a < out ∨ out + n ≤ a) → s'.memory a = s.memory a ∧
    t.output s'.context.evpCipher a = t.output s.context.evpCipher a

section Decrypt

variable (t : evp.Traced) (alg : SaCipherAlgorithm)

variable {t alg} in
theorem Stepped.refl (s : CencState Ctx) : Stepped t alg out inp 0 s s :=
  ⟨.refl s, (List.append_nil _).symm, by omega, fun _ _ => ⟨rfl, rfl⟩⟩

variable {t alg} in
theorem Stepped.append (h : Stepped t alg out inp a s s')
    (h' : Stepped t alg (out + a) (inp + a) b s' s'') : Stepped t alg out inp (a + b) s s'' where
  silent := h.silent.trans h'.silent
  steps := by rw [h'.steps, h.steps, byteSteps_add, List.append_assoc]
  written x hx := by
    by_cases hlt : x < out + a
    · obtain ⟨hmemory, houtput⟩ := h'.frame x (by omega)
      rw [hmemory, houtput, h.written x (by omega)]
    · exact h'.written x (by omega)
  frame x hx := by
    obtain ⟨hmemory, houtput⟩ := h'.frame x (by omega)
    rw [hmemory, houtput]
    exact h.frame x (by omega)

variable {t alg} in
theorem Stepped.then (h : Stepped t alg out inp n s s') (he : Extends CencEvent.Silent s' s'')
    (hcontext : s''.context.evpCipher = s'.context.evpCipher)
    (hmemory : s''.memory = s'.memory) : Stepped t alg out inp n s s'' where
  silent := h.silent.trans he
  steps := by rw [hcontext, h.steps]
  written := by rw [hcontext, hmemory]; exact h.written
  frame := by rw [hcontext, hmemory]; exact h.frame

/-- An update decrypts as many bytes as it reports, which are those it was given where their number
is one that an `int` holds. -/
theorem contextDecrypt_steps (hsized : evp.Sized) : wp (contextDecrypt evp out inp n)
      (fun length s' => Stepped t alg out inp length s s' ∧ length < 2 ^ 31 ∧
        (n < 2 ^ 31 → length = n))
      (fun _ s' => Extends CencEvent.Silent s s') s := by
  have hextends (evpCipher : Ctx) (memory : Memory) : Extends CencEvent.Silent s { s with
      context := { s.context with evpCipher := evpCipher }
      memory := memory
      log := .access inp out n :: s.log } :=
    ⟨rfl, rfl, rfl, id, [.access inp out n], rfl, by simp [CencEvent.Silent]⟩
  apply wp_contextDecrypt
  · intro _ hs
    obtain ⟨m, hm⟩ := Int.eq_ofNat_of_zero_le (t.positive _ _ _ _ _ hs)
    have hlt := castInt_lt n
    have hlength : castSize (evp.decryptUpdate s.context.evpCipher s.memory out inp
        (castInt n)).outl = m := by
      rw [hsized _ _ _ _ _ (t.positive _ _ _ _ _ hs) hs, hm, castSize_natCast (by omega)]
    have hwhole : n < 2 ^ 31 → m = n := by
      intro hn
      rw [castInt_of_lt hn] at hm
      omega
    rw [hlength]
    rw [hm] at hs ⊢
    refine ⟨⟨hextends _ _, ?_, t.written _ _ _ _ m hs, t.frame _ _ _ _ m hs⟩, by omega, hwhole⟩
    rw [t.update _ _ _ _ m hs, cipherSteps_concat]
    rfl
  · exact fun _ evpCipher memory _ => hextends evpCipher memory

theorem contextSetIv_steps (ha : Able s out' inp') (halg : alg ≠ .aesCbc) :
    wp (contextSetIv evp) (fun _ s' => Stepped t alg out inp 0 s s')
      (fun _ s' => Extends CencEvent.Silent s s') s := by
  have h := Extends.refl (P := CencEvent.Silent) s
  apply wp_contextSetIv ha.mode ha.takesIv
  · intro hs
    obtain ⟨htrace, houtput⟩ := t.init _ _ hs
    refine ⟨⟨h.offset, h.algorithm, h.mode, h.bounded, h.log⟩, ?_, by omega,
      fun _ _ => ⟨rfl, congrFun houtput _⟩⟩
    rw [htrace, cipherSteps_concat, CipherCall.steps, if_neg halg]
    rfl
  · exact fun _ _ _ => ⟨h.offset, h.algorithm, h.mode, h.bounded, h.log⟩

theorem decryptBlocks_steps (hsized : evp.Sized) (ha : Able s out' inp') (halg : alg ≠ .aesCbc) :
    wp (decryptBlocks evp out inp n blocks)
      (fun length s' => Stepped t alg out inp length s s' ∧ length < 2 ^ 31 ∧
        (n < 2 ^ 31 → length = n))
      (fun _ s' => Extends CencEvent.Silent s s') s := by
  simp only [decryptBlocks, wp_bind]
  apply (contextDecrypt_steps t alg hsized).mono
  · rintro length s₁ ⟨h₁, hlength⟩
    simp only [wp_bind, wp_modify]
    have hcounter : Extends CencEvent.Silent s₁ (s₁.addCounter blocks) :=
      ⟨rfl, rfl, rfl, id, [], rfl, List.forall_mem_nil _⟩
    have h₁' := h₁.then hcounter rfl rfl
    apply wp.mono (contextSetIv_steps t alg (ha.extends h₁'.silent) halg)
    · intro _ s₂ h₂
      simp only [wp_bind, wp_modify, wp_pure]
      have hcount : Extends CencEvent.Silent s₂ (s₂.addEncByteCount length) :=
        ⟨rfl, rfl, rfl, fun _ => Nat.mod_lt _ (by decide), [], rfl, List.forall_mem_nil _⟩
      exact ⟨(h₁'.append h₂).then hcount rfl rfl, hlength⟩
    · exact fun _ _ h₂ => h₁'.silent.trans h₂
  · exact fun _ _ h => h

theorem decryptLeadingPartialBlock_steps (hsized : evp.Sized) (ha : Able s out' inp')
    (halg : alg ≠ .aesCbc) :
    wp (decryptLeadingPartialBlock evp out inp lead)
      (fun length s' => Stepped t alg out inp length s s' ∧ length < 2 ^ 31 ∧
        (lead < 2 ^ 31 → length = lead))
      (fun _ s' => Extends CencEvent.Silent s s') s := by
  simp only [decryptLeadingPartialBlock, wp_ite, wp_pure]
  exact ⟨fun _ => decryptBlocks_steps t alg hsized ha halg,
    fun _ => ⟨.refl s, by decide, fun _ => by omega⟩⟩

theorem decryptToRollover_steps (hsized : evp.Sized) (ha : Able s out' inp')
    (halg : alg ≠ .aesCbc) :
    wp (decryptToRollover evp out inp lead full before)
      (fun r s' => Stepped t alg out inp r.1 s s' ∧ r.1 < 2 ^ 32 ∧
        (lead < 16 → min before full * 16 < 2 ^ 31 → r.1 = lead + min before full * 16))
      (fun _ s' => Extends CencEvent.Silent s s') s := by
  simp only [decryptToRollover, wp_bind]
  apply (decryptLeadingPartialBlock_steps t alg hsized ha halg).mono
  · rintro a s₁ ⟨h₁, ha₁, hlead⟩
    simp only [wp_ite, wp_bind, wp_pure]
    refine ⟨fun _ => ?_, fun _ => ⟨h₁, by omega, fun hlt _ => by omega⟩⟩
    apply wp.mono (decryptBlocks_steps t alg hsized (ha.extends h₁.silent) halg)
    · rintro b s₂ ⟨h₂, hb₂, hblocks⟩
      simp only [wp_bind, wp_subtract, wp_pure]
      have hsum : sizeAdd a b = a + b := sizeAdd_of_lt (by omega)
      have hsubtract : Extends CencEvent.Silent s₂ { s₂ with
          log := .subtract full (min before full) :: s₂.log } :=
        ⟨rfl, rfl, rfl, id, [.subtract _ _], rfl, by simp [CencEvent.Silent]⟩
      rw [hsum]
      exact ⟨(h₁.append h₂).then hsubtract rfl rfl, by omega, fun hlt hfull => by
        rw [hlead (by omega), hblocks hfull, aesBlockSize]⟩
    · exact fun _ _ h₂ => h₁.silent.trans h₂
  · exact fun _ _ h => h

theorem decryptRest_steps (hsized : evp.Sized) :
    wp (decryptRest evp out inp n a lead full)
      (fun _ s' => ∃ b, Stepped t alg (out + a) (inp + a) b s s' ∧
        (a ≤ n → n < 2 ^ 64 → n - a < 2 ^ 31 → b = n - a))
      (fun _ s' => Extends CencEvent.Silent s s') s := by
  simp only [decryptRest, wp_bind, wp_subtract]
  have hsubtract : Extends CencEvent.Silent s { s with log := .subtract n a :: s.log } :=
    ⟨rfl, rfl, rfl, id, [.subtract _ _], rfl, by simp [CencEvent.Silent]⟩
  apply (contextDecrypt_steps t alg hsized).mono
  · rintro b s₁ ⟨h₁, -, hwhole⟩
    simp only [wp_bind, wp_modify]
    have hcount : Extends CencEvent.Silent s₁ ((s₁.addCounter
        (full + if lead > 0 then 1 else 0)).addEncByteCount b) :=
      ⟨rfl, rfl, rfl, fun _ => Nat.mod_lt _ (by decide), [], rfl, List.forall_mem_nil _⟩
    have h₀ : Stepped t alg (out + a) (inp + a) 0 s { s with log := .subtract n a :: s.log } :=
      (Stepped.refl s).then hsubtract rfl rfl
    refine ⟨b, ?_, fun hle hn hlt => ?_⟩
    · have h := (h₀.append h₁).then hcount rfl rfl
      rwa [Nat.zero_add] at h
    · rw [sizeSub_of_le hle hn] at hwhole
      exact hwhole hlt
  · exact fun _ _ h => hsubtract.trans h

/-- A call decrypts some bytes from its start on, those that it is given where its pieces come to
them. -/
theorem decryptLoop_steps (hsized : evp.Sized) (ha : Able s out' inp')
    (halg : rollover = true → alg ≠ .aesCbc) (hn : n < 2 ^ 64) (hlead : lead < 16) :
    wp (decryptLoop evp out inp n lead full before rollover)
      (fun _ s' => ∃ b, Stepped t alg out inp b s s' ∧
        (LoopWhole rollover n lead full before → b = n))
      (fun _ s' => Extends CencEvent.Silent s s') s := by
  simp only [decryptLoop, wp_ite, wp_pure]
  refine ⟨fun hpos => ⟨fun hrollover => ?_, fun hrollover => ?_⟩, fun hzero => ?_⟩
  · have hwhole : LoopWhole rollover n lead full before →
        lead ≤ n ∧ full = (n - lead) / 16 ∧ PiecesOk true n lead full before := by
      intro h
      have hpieces := h.resolve_left (by omega)
      rwa [if_pos hrollover] at hpieces
    simp only [wp_bind]
    apply (decryptToRollover_steps t alg hsized ha (halg hrollover)).mono
    · rintro ⟨a, left⟩ s₁ ⟨h₁, -, ha₁⟩
      have htaken : LoopWhole rollover n lead full before →
          a = lead + min before full * 16 ∧ a ≤ n ∧ n - a < 2 ^ 31 := by
        intro h
        obtain ⟨hle, hfull, hblocks, hrest⟩ := hwhole h
        have hmin := Nat.min_le_right before full
        have ha : a = lead + min before full * 16 := ha₁ hlead hblocks
        exact ⟨ha, by omega, by omega⟩
      simp only [wp_ite, wp_pure]
      refine ⟨fun _ => ?_, fun hge => ⟨a, h₁, fun h => ?_⟩⟩
      · apply wp.mono (decryptRest_steps t alg hsized)
        · rintro - s₂ ⟨b, h₂, hb⟩
          refine ⟨a + b, h₁.append h₂, fun h => ?_⟩
          obtain ⟨-, hle, hlt⟩ := htaken h
          rw [hb hle hn hlt]
          omega
        · exact fun _ _ h => h₁.silent.trans h
      · obtain ⟨-, hle, -⟩ := htaken h
        omega
    · exact fun _ _ h => h
  · apply (decryptRest_steps t alg hsized).mono
    · rintro - s₁ ⟨b, h₁, hb⟩
      refine ⟨b, h₁, fun h => ?_⟩
      have hlt := h.resolve_left (by omega)
      rw [if_neg hrollover] at hlt
      exact hb (Nat.zero_le n) hn hlt
    · exact fun _ _ h => h
  · exact ⟨0, .refl s, fun _ => by omega⟩

end Decrypt

/-- What becomes of the next bytes of a sample: they are copied or decrypted, or, before them, the
chain is begun again. -/
inductive SamplePiece
  | copied (n : Nat)
  | decrypted (n : Nat)
  | restarted

def SamplePiece.marks : SamplePiece → List Bool
  | copied n => List.replicate n false
  | decrypted n => List.replicate n true
  | restarted => []

def marks (pieces : List SamplePiece) : List Bool := pieces.flatMap SamplePiece.marks

def planSteps (setup : CencSetup Ctx) : Nat → List SamplePiece → List CipherStep
  | _, [] => []
  | k, .copied n :: pieces => planSteps setup (k + n) pieces
  | k, .decrypted n :: pieces =>
    byteSteps (setup.outBytes + k) (setup.inBytes + k) n ++ planSteps setup (k + n) pieces
  | k, .restarted :: pieces =>
    (CipherCall.init setup.iv).steps setup.cipherAlgorithm ++ planSteps setup k pieces

@[simp] theorem marks_nil : marks [] = [] := rfl

@[simp] theorem marks_cons : marks (piece :: pieces) = piece.marks ++ marks pieces := rfl

@[simp] theorem marks_append : marks (pieces ++ pieces') = marks pieces ++ marks pieces' :=
  List.flatMap_append

theorem planSteps_append : planSteps setup k (pieces ++ pieces') =
    planSteps setup k pieces ++ planSteps setup (k + (marks pieces).length) pieces' := by
  induction pieces generalizing k with
  | nil => rfl
  | cons piece pieces ih =>
    cases piece with
    | copied n =>
      simp only [List.cons_append, planSteps, ih, marks_cons, SamplePiece.marks,
        List.length_append, List.length_replicate, Nat.add_assoc]
    | decrypted n =>
      simp only [List.cons_append, planSteps, ih, marks_cons, SamplePiece.marks,
        List.length_append, List.length_replicate, Nat.add_assoc, List.append_assoc]
    | restarted =>
      simp only [List.cons_append, planSteps, ih, marks_cons, SamplePiece.marks,
        List.nil_append, List.append_assoc]

/-- Some pieces from an offset on, one after the other. -/
structure Performed (t : evp.Traced) (setup : CencSetup Ctx) (k : Nat) (pieces : List SamplePiece)
    (s s' : CencState Ctx) : Prop where
  steps : cipherSteps setup.cipherAlgorithm (t.trace s'.context.evpCipher) =
    cipherSteps setup.cipherAlgorithm (t.trace s.context.evpCipher) ++ planSteps setup k pieces
  copied : ∀ i, (marks pieces)[i]? = some false →
    s'.memory (setup.outBytes + k + i) = s.memory (setup.inBytes + k + i)
  decrypted : ∀ i, (marks pieces)[i]? = some true →
    s'.memory (setup.outBytes + k + i) =
      t.output s'.context.evpCipher (setup.outBytes + k + i)
  frame : ∀ a, (a < setup.outBytes + k ∨ setup.outBytes + k + (marks pieces).length ≤ a) →
    s'.memory a = s.memory a ∧
      t.output s'.context.evpCipher a = t.output s.context.evpCipher a

/-- A state from which the code has gone `n` bytes on, and did so piece by piece as far as the calls
of `decrypt` are complete. -/
structure After (t : evp.Traced) (setup : CencSetup Ctx) (n : Nat) (pieces : List SamplePiece)
    (s s' : CencState Ctx) : Prop where
  offset : s'.offset = s.offset + n
  algorithm : s'.context.cipherAlgorithm = s.context.cipherAlgorithm
  mode : s'.context.cipherMode = s.context.cipherMode
  bounded : s.encByteCount < 2 ^ 64 → s'.encByteCount < 2 ^ 64
  complete : CallsComplete setup.cipherAlgorithm s'.log → CallsComplete setup.cipherAlgorithm s.log
  performed : CallsComplete setup.cipherAlgorithm s'.log →
    (marks pieces).length = n ∧ Performed t setup s.offset pieces s s'

/-- The two ranges of a sample of some length are apart, and a context for CTR or CBC decrypts
between them. -/
structure CencSetup.Decrypts (setup : CencSetup Ctx) (length : Nat) : Prop
    extends setup.Fits length where
  apart : setup.outBytes + length < setup.inBytes ∨ setup.inBytes + length < setup.outBytes

section Pieces

variable {t : evp.Traced} {length : Nat}

theorem Performed.append (hd : setup.Decrypts length)
    (h : Performed t setup k pieces s s')
    (h' : Performed t setup (k + (marks pieces).length) pieces' s' s'')
    (hle : k + (marks pieces).length + (marks pieces').length ≤ length) :
    Performed t setup k (pieces ++ pieces') s s'' where
  steps := by rw [h'.steps, h.steps, planSteps_append, List.append_assoc]
  copied i hi := by
    have hapart := hd.apart
    rw [marks_append] at hi
    by_cases hlt : i < (marks pieces).length
    · rw [List.getElem?_append_left hlt] at hi
      rw [(h'.frame _ (by omega)).1, h.copied i hi]
    · obtain ⟨j, rfl⟩ := Nat.exists_eq_add_of_le (Nat.le_of_not_lt hlt)
      rw [List.getElem?_append_right (by omega), Nat.add_sub_cancel_left] at hi
      have hj := h'.copied j hi
      obtain ⟨hjlt, -⟩ := List.getElem?_eq_some_iff.1 hi
      rw [← Nat.add_assoc, ← Nat.add_assoc] at hj ⊢
      rw [hj, (h.frame _ (by omega)).1]
  decrypted i hi := by
    rw [marks_append] at hi
    by_cases hlt : i < (marks pieces).length
    · rw [List.getElem?_append_left hlt] at hi
      obtain ⟨hmemory, houtput⟩ := h'.frame (setup.outBytes + k + i) (by omega)
      rw [hmemory, houtput, h.decrypted i hi]
    · obtain ⟨j, rfl⟩ := Nat.exists_eq_add_of_le (Nat.le_of_not_lt hlt)
      rw [List.getElem?_append_right (by omega), Nat.add_sub_cancel_left] at hi
      have hj := h'.decrypted j hi
      rwa [← Nat.add_assoc] at hj ⊢
  frame a ha := by
    rw [marks_append, List.length_append] at ha
    obtain ⟨hmemory, houtput⟩ := h'.frame a (by omega)
    rw [hmemory, houtput]
    exact h.frame a (by omega)

theorem After.append (hd : setup.Decrypts length) (h : After t setup a pieces s s')
    (h' : After t setup b pieces' s' s'') (hle : s.offset + a + b ≤ length) :
    After t setup (a + b) (pieces ++ pieces') s s'' where
  offset := by rw [h'.offset, h.offset, Nat.add_assoc]
  algorithm := h'.algorithm.trans h.algorithm
  mode := h'.mode.trans h.mode
  bounded hb := h'.bounded (h.bounded hb)
  complete hc := h.complete (h'.complete hc)
  performed hc := by
    obtain ⟨hb, hp'⟩ := h'.performed hc
    obtain ⟨ha, hp⟩ := h.performed (h'.complete hc)
    rw [h.offset, ← ha] at hp'
    refine ⟨by rw [marks_append, List.length_append, ha, hb], hp.append hd hp' (by omega)⟩

theorem After.of_incomplete (h : After t setup n pieces s s')
    (hc : ¬CallsComplete setup.cipherAlgorithm s'.log) :
    After t setup n pieces' s s' :=
  ⟨h.offset, h.algorithm, h.mode, h.bounded, h.complete, fun hc' => absurd hc' hc⟩

theorem After.congr (h : After t setup n pieces s s') (hmarks : marks pieces' = marks pieces)
    (hsteps : ∀ k, planSteps setup k pieces' = planSteps setup k pieces) :
    After t setup n pieces' s s' :=
  ⟨h.offset, h.algorithm, h.mode, h.bounded, h.complete, fun hc => by
    obtain ⟨hn, hsteps', hcopied, hdecrypted, hframe⟩ := h.performed hc
    exact ⟨hmarks ▸ hn, hsteps'.trans (by rw [hsteps]), hmarks ▸ hcopied, hmarks ▸ hdecrypted,
      hmarks ▸ hframe⟩⟩

theorem After.refl (s : CencState Ctx) : After t setup 0 [] s s :=
  ⟨rfl, rfl, rfl, id, id, fun _ =>
    ⟨rfl, (List.append_nil _).symm, nofun, nofun, fun _ _ => ⟨rfl, rfl⟩⟩⟩

theorem After.status (h : After t setup n pieces s s') (status : SaStatus) :
    After t setup n pieces s { s' with status := status } :=
  ⟨h.offset, h.algorithm, h.mode, h.bounded, h.complete, fun hc => by
    obtain ⟨hn, hsteps, hcopied, hdecrypted, hframe⟩ := h.performed hc
    exact ⟨hn, hsteps, hcopied, hdecrypted, hframe⟩⟩

theorem copyClear_after (t : evp.Traced) : wp (copyClear (ε := ε) setup n)
    (fun _ s' => After t setup n [.copied n] s s') (fun _ _ => False) s := by
  rw [wp_copyClear]
  constructor
  · intro _
    have hmarks : marks [.copied n] = List.replicate n false := List.append_nil _
    refine ⟨rfl, rfl, rfl, id, fun hc => ⟨hc.ended, fun event hm => ?_⟩, fun _ => ⟨?_, ?_⟩⟩
    · exact hc.whole event (List.mem_cons_of_mem _ hm)
    · rw [hmarks, List.length_replicate]
    · refine ⟨(List.append_nil _).symm, fun i hi => ?_, fun i hi => ?_, fun a ha => ?_⟩
      · rw [hmarks, List.getElem?_replicate] at hi
        have hin : setup.outBytes + s.offset ≤ setup.outBytes + s.offset + i ∧
            setup.outBytes + s.offset + i < setup.outBytes + s.offset + n := by
          split_ifs at hi with hlt
          omega
        simp only [memcpy, if_pos hin, Nat.add_sub_cancel_left]
      · rw [hmarks, List.getElem?_replicate] at hi
        split_ifs at hi
        cases hi
      · rw [hmarks, List.length_replicate] at ha
        have hout : ¬(setup.outBytes + s.offset ≤ a ∧ a < setup.outBytes + s.offset + n) := by
          omega
        simp only [memcpy, if_neg hout, and_self]
  · intro hzero
    obtain rfl : n = 0 := by omega
    exact (After.refl s).congr rfl fun _ => rfl

/-- A context as it is for the whole sample. -/
structure Prepared (setup : CencSetup Ctx) (s : CencState Ctx) : Prop where
  algorithm : s.context.cipherAlgorithm = setup.cipherAlgorithm
  mode : s.context.cipherMode = .decrypt
  bounded : s.encByteCount < 2 ^ 64

theorem Prepared.after (h : Prepared setup s) (ha : After t setup n pieces s s') :
    Prepared setup s' :=
  ⟨ha.algorithm.trans h.algorithm, ha.mode.trans h.mode, ha.bounded h.bounded⟩

theorem Prepared.able (h : Prepared setup s) (hf : setup.Fits length) :
    Able s setup.outBytes setup.inBytes where
  mode := h.mode
  takesIv := by
    rw [h.algorithm]
    rcases hf.algorithm with halg | halg
    · rw [halg]
      rfl
    · rw [halg]
      rfl
  outNonNull := hf.outNonNull
  inNonNull := hf.inNonNull

theorem contextSetIv_after (t : evp.Traced) (hf : setup.Fits length) (hp : Prepared setup s)
    (hiv : s.iv = setup.iv) :
    wp (contextSetIv evp) (fun _ s' => After t setup 0 [.restarted] s s') (fun _ _ => True) s := by
  obtain ⟨hm, ha, -, -⟩ := hp.able hf
  apply wp_contextSetIv hm ha
  · intro hs
    obtain ⟨htrace, houtput⟩ := t.init _ _ hs
    refine ⟨rfl, rfl, rfl, id, id, fun _ =>
      ⟨rfl, ?_, nofun, nofun, fun _ _ => ⟨rfl, congrFun houtput _⟩⟩⟩
    rw [htrace, cipherSteps_concat, hiv]
    exact congrArg _ (List.append_nil _).symm
  · exact fun _ _ _ => trivial

theorem rollsOver_ctr (h : rollsOver alg e counter n = true) : alg ≠ .aesCbc := by
  rw [rollsOver, Bool.and_eq_true, decide_eq_true_iff] at h
  rw [h.2]
  decide

/-- A call of `decrypt` that succeeds is complete where it moves on by the bytes that it was given,
one that fails never is. -/
theorem decryptProtected_after (t : evp.Traced) (hsized : evp.Sized) (hf : setup.Fits length)
    (hp : Prepared setup s) (hn : n < 2 ^ 64) :
    wp (decryptProtected evp setup n)
      (fun _ s' => After t setup n [.decrypted n] s s')
      (fun _ s' => After t setup 0 [] s s' ∧ ¬CallsComplete setup.cipherAlgorithm s'.log) s := by
  rw [wp_decryptProtected, wp_decrypt]
  have hable : Able (s.called n) setup.outBytes setup.inBytes := by
    obtain ⟨hm, ha, hout, hin⟩ := hp.able hf
    exact ⟨hm, ha, hout, hin⟩
  apply (decryptLoop_steps t setup.cipherAlgorithm hsized hable rollsOver_ctr hn
    leadingPartialBlockSize_lt).mono
  · rintro - s₁ ⟨b, h₁, hwhole⟩
    have hopen : openCalls s₁.log = openCalls s.log + 1 := h₁.silent.openCalls_eq
    have hlog : CencEvent.call s.encByteCount s.iv.counter n :: s.log ⊆ s₁.log :=
      List.Subset.trans (List.Subset.trans (List.subset_cons_self _ _) (List.subset_cons_self _ _))
        h₁.silent.log_subset
    have hcomplete : CallsComplete setup.cipherAlgorithm
        (.advanced n s.encByteCount s₁.encByteCount :: s₁.log) →
          CallsComplete setup.cipherAlgorithm s.log := by
      intro hc
      refine ⟨?_, fun event hm => hc.whole event (.tail _ (hlog (.tail _ hm)))⟩
      have hended := hc.ended
      rw [openCalls, hopen] at hended
      exact hended
    refine ⟨congrArg (· + n) h₁.silent.offset, h₁.silent.algorithm, h₁.silent.mode,
      h₁.silent.bounded, hcomplete, fun hc => ?_⟩
    obtain rfl : b = n := hwhole (hc.whole _ (.tail _ (hlog (.head _))))
    have hmarks : marks [.decrypted b] = List.replicate b true := List.append_nil _
    refine ⟨by rw [hmarks, List.length_replicate], ?_, fun i hi => ?_, fun i hi => ?_,
      fun a ha => ?_⟩
    · exact h₁.steps.trans (congrArg _ (List.append_nil _).symm)
    · rw [hmarks, List.getElem?_replicate] at hi
      split_ifs at hi
      cases hi
    · rw [hmarks, List.getElem?_replicate] at hi
      split_ifs at hi with hlt
      exact h₁.written _ (by omega)
    · rw [hmarks, List.length_replicate] at ha
      exact h₁.frame a ha
  · intro e s' h
    have hincomplete : ¬CallsComplete setup.cipherAlgorithm s'.log := by
      intro hc
      have hended := hc.ended
      rw [h.openCalls_eq] at hended
      exact absurd hended (Nat.succ_ne_zero _)
    exact ⟨⟨h.offset, h.algorithm, h.mode, h.bounded, fun hc => absurd hc hincomplete,
      fun hc => absurd hc hincomplete⟩, hincomplete⟩

def planStripes (setup : CencSetup Ctx) : (fuel bytesLeft : Nat) → List SamplePiece
  | 0, _ => []
  | fuel + 1, bytesLeft =>
    if bytesLeft ≥ aesBlockSize then
      let block := stripe setup.cryptByteBlock bytesLeft
      let skipped := if setup.skipByteBlock > 0 then
        stripe setup.skipByteBlock (bytesLeft - block) else 0
      .decrypted block :: .copied skipped ::
        planStripes setup fuel (bytesLeft - block - skipped)
    else []

theorem cryptStripe_after (t : evp.Traced) (hsized : evp.Sized) (hf : setup.Fits length)
    (hp : Prepared setup s) (hn : n < 2 ^ 64) :
    wp (cryptStripe evp setup n)
      (fun going s' => if going then After t setup n [.decrypted n] s s'
        else After t setup 0 [] s s' ∧ ¬CallsComplete setup.cipherAlgorithm s'.log)
      (fun _ _ => True) s := by
  simp only [cryptStripe, wp_ite, wp_bind, wp_outcome, wp_pure]
  constructor
  · intro _
    apply (decryptProtected_after t hsized hf hp hn).mono
    · exact fun _ _ h => h.status .ok
    · exact fun e _ h => ⟨h.1.status e, h.2⟩
  · intro hzero
    obtain rfl : n = 0 := by omega
    exact (After.refl s).congr rfl fun _ => rfl

/-- One stripe after the other, by induction on the fuel. -/
theorem patternLoop_after (t : evp.Traced) (hsized : evp.Sized) (hd : setup.Decrypts length)
    (hp : Prepared setup s) (hle : s.offset + left ≤ length) :
    wp (patternLoop evp setup fuel left)
      (fun left' s' => ∃ n, n + left' = left ∧
        After t setup n (planStripes setup fuel left) s s')
      (fun _ _ => True) s := by
  have hlength := hd.length_lt
  induction fuel generalizing left s with
  | zero =>
    simp only [patternLoop, wp_ite, wp_throw, wp_pure]
    exact ⟨fun _ => trivial, fun _ => ⟨0, Nat.zero_add _, .refl s⟩⟩
  | succ fuel ih =>
    simp only [patternLoop, wp_ite, wp_bind, wp_pure, planStripes]
    constructor
    · intro hge
      rw [if_pos hge]
      have hblock := stripe_le setup.cryptByteBlock left
      have hskipped : (if setup.skipByteBlock > 0 then stripe setup.skipByteBlock
          (left - stripe setup.cryptByteBlock left) else 0) ≤
            left - stripe setup.cryptByteBlock left := by
        split_ifs
        · exact stripe_le _ _
        · exact Nat.zero_le _
      apply (cryptStripe_after t hsized hd.toFits hp (by omega)).mono
      · intro going s₁ h₁
        simp only [wp_ite, wp_bind, wp_pure]
        constructor
        · rintro rfl
          rw [if_pos rfl] at h₁
          apply (copyClear_after t).mono
          · intro _ s₂ h₂
            have h₁₂ := h₁.append hd h₂ (by omega)
            apply (ih (hp.after h₁₂) (by rw [h₁₂.offset]; omega)).mono
            · rintro left' s₃ ⟨n, hn, h₃⟩
              exact ⟨_, by omega, h₁₂.append hd h₃ (by omega)⟩
            · exact fun _ _ _ => trivial
          · exact fun _ _ h => h.elim
        · intro hgoing
          rw [if_neg hgoing] at h₁
          exact ⟨0, Nat.zero_add _, h₁.1.of_incomplete h₁.2⟩
      · exact fun _ _ _ => trivial
    · intro hlt
      rw [if_neg hlt]
      exact ⟨0, Nat.zero_add _, .refl s⟩

def planFull (setup : CencSetup Ctx) (p : Nat) : List SamplePiece :=
  let remainder := if setup.cipherAlgorithm = .aesCbc then p % aesBlockSize else 0
  [.decrypted (p - remainder), .copied remainder]

def planPattern (setup : CencSetup Ctx) (p : Nat) : List SamplePiece :=
  (if setup.cipherAlgorithm = .aesCbc then [.restarted] else []) ++
    (planStripes setup p p ++ [.copied (p - (marks (planStripes setup p p)).length)])

def planSubsample (setup : CencSetup Ctx) (subsample : SaSubsampleLength) : List SamplePiece :=
  .copied subsample.bytesOfClearData ::
    if subsample.bytesOfProtectedData > 0 then
      if setup.cryptByteBlock = 0 then planFull setup subsample.bytesOfProtectedData
      else planPattern setup subsample.bytesOfProtectedData
    else []

def planSample (setup : CencSetup Ctx) (subsamples : List SaSubsampleLength) : List SamplePiece :=
  subsamples.flatMap (planSubsample setup)

theorem processFull_after (t : evp.Traced) (hsized : evp.Sized) (hd : setup.Decrypts length)
    (hp : Prepared setup s) (hle : s.offset + p ≤ length) :
    wp (processFull evp setup p) (fun _ s' => After t setup p (planFull setup p) s s')
      (fun _ _ => True) s := by
  have hlength := hd.length_lt
  have hrem : (if setup.cipherAlgorithm = .aesCbc then p % aesBlockSize else 0) ≤ p := by
    split_ifs
    · exact Nat.mod_le _ _
    · exact Nat.zero_le _
  simp only [processFull, planFull, wp_bind]
  apply wp_orBreak
  apply (decryptProtected_after t hsized hd.toFits hp (by omega)).mono
  · intro _ s₁ h₁
    apply (copyClear_after t).mono
    · intro _ s₂ h₂
      have h := (h₁.status .ok).append hd h₂ (by omega)
      rwa [Nat.sub_add_cancel hrem] at h
    · exact fun _ _ h => h.elim
  · exact fun _ _ _ => trivial

theorem processPattern_after (t : evp.Traced) (hsized : evp.Sized) (hd : setup.Decrypts length)
    (hp : Prepared setup s) (hle : s.offset + p ≤ length) :
    wp (processPattern evp setup p) (fun _ s' => After t setup p (planPattern setup p) s s')
      (fun _ _ => True) s := by
  have hstripes : ∀ s₀ pieces, After t setup 0 pieces s s₀ →
      wp (patternLoop evp setup p p >>= copyClear setup) (fun _ s' => After t setup p
        (pieces ++ (planStripes setup p p ++
          [.copied (p - (marks (planStripes setup p p)).length)])) s s') (fun _ _ => True) s₀ := by
    intro s₀ pieces h₀
    rw [wp_bind]
    have hoffset := h₀.offset
    apply (patternLoop_after t hsized hd (hp.after h₀) (by omega)).mono
    · rintro left s₁ ⟨n, hn, h₁⟩
      apply (copyClear_after t).mono
      · intro _ s₂ h₂
        have h := h₀.append hd (h₁.append hd h₂ (by omega)) (by omega)
        rw [hn, Nat.zero_add] at h
        by_cases hc : CallsComplete setup.cipherAlgorithm s₂.log
        · have hleft := (h₁.performed (h₂.complete hc)).1
          rwa [hleft, show p - n = left by omega]
        · exact h.of_incomplete hc
      · exact fun _ _ h => h.elim
    · exact fun _ _ _ => trivial
  simp only [processPattern, planPattern, wp_ite, wp_bind, wp_modify]
  constructor
  · intro hcbc
    rw [if_pos hcbc]
    apply wp_orBreak
    have hprepared : Prepared setup { s with iv := setup.iv } :=
      ⟨hp.algorithm, hp.mode, hp.bounded⟩
    apply (contextSetIv_after t hd.toFits hprepared rfl).mono
    · intro _ s₁ h₁
      have h₁' : After t setup 0 [.restarted] s s₁ :=
        ⟨h₁.offset, h₁.algorithm, h₁.mode, h₁.bounded, h₁.complete, fun hc => by
          obtain ⟨hn, hsteps, hcopied, hdecrypted, hframe⟩ := h₁.performed hc
          exact ⟨hn, hsteps, hcopied, hdecrypted, hframe⟩⟩
      exact hstripes _ _ (h₁'.status .ok)
    · exact fun _ _ _ => trivial
  · intro hctr
    rw [if_neg hctr]
    exact (wp_bind _ _).1 (hstripes s [] (.refl s))

theorem processSubsample_after (t : evp.Traced) (hsized : evp.Sized) (hd : setup.Decrypts length)
    (hp : Prepared setup s)
    (hle : s.offset + (subsample.bytesOfClearData + subsample.bytesOfProtectedData) ≤ length) :
    wp (processSubsample evp setup subsample)
      (fun _ s' => After t setup (subsample.bytesOfClearData + subsample.bytesOfProtectedData)
        (planSubsample setup subsample) s s')
      (fun _ _ => True) s := by
  simp only [processSubsample, wp_bind]
  apply (copyClear_after t).mono
  · intro _ s₁ h₁
    have hp₁ := hp.after h₁
    have hle₁ : s₁.offset + subsample.bytesOfProtectedData ≤ length := by
      rw [h₁.offset]
      omega
    simp only [wp_ite, wp_pure]
    refine ⟨fun hpos => ⟨fun hfull => ?_, fun hpattern => ?_⟩, fun hzero => ?_⟩
    · rw [planSubsample, if_pos hpos, if_pos hfull]
      exact (processFull_after t hsized hd hp₁ hle₁).mono
        (fun _ _ h₂ => h₁.append hd h₂ (by omega)) fun _ _ _ => trivial
    · rw [planSubsample, if_pos hpos, if_neg hpattern]
      exact (processPattern_after t hsized hd hp₁ hle₁).mono
        (fun _ _ h₂ => h₁.append hd h₂ (by omega)) fun _ _ _ => trivial
    · rw [planSubsample, if_neg hzero]
      obtain hz : subsample.bytesOfProtectedData = 0 := by omega
      rwa [hz]
  · exact fun _ _ h => h.elim

theorem processSubsamples_after (t : evp.Traced) (hsized : evp.Sized) (hd : setup.Decrypts length)
    (hp : Prepared setup s) (hle : s.offset + totalLength subsamples ≤ length) :
    wp (processSubsamples evp setup subsamples)
      (fun _ s' => After t setup (totalLength subsamples) (planSample setup subsamples) s s')
      (fun _ _ => True) s := by
  induction subsamples generalizing s with
  | nil => exact .refl s
  | cons subsample rest ih =>
    have htotal : totalLength (subsample :: rest) = subsample.bytesOfClearData +
        subsample.bytesOfProtectedData + totalLength rest := by simp [totalLength]
    simp only [processSubsamples, wp_bind]
    apply (processSubsample_after t hsized hd hp (by omega)).mono
    · intro _ s₁ h₁
      apply (ih (hp.after h₁) (by rw [h₁.offset]; omega)).mono
      · intro _ s₂ h₂
        have h := h₁.append hd h₂ (by omega)
        rwa [← htotal] at h
      · exact fun _ _ _ => trivial
    · exact fun _ _ _ => trivial

theorem processBytes_after (t : evp.Traced) (hsized : evp.Sized) (hd : setup.Decrypts length)
    (hle : totalLength subsamples ≤ length) (memory : Memory) :
    wp (processBytes evp setup subsamples)
      (fun offset s' => offset = totalLength subsamples ∧ After t setup (totalLength subsamples)
        (.restarted :: planSample setup subsamples) (setup.start memory) s')
      (fun _ _ => True) (setup.start memory) := by
  have hstart : Prepared setup (setup.start memory) :=
    ⟨hd.contextAlgorithm, hd.contextMode, by simp [CencSetup.start]⟩
  simp only [processBytes, wp_bind]
  apply wp_orBreak
  apply (contextSetIv_after t hd.toFits hstart rfl).mono
  · intro _ s₁ h₁
    have h₁ := h₁.status .ok
    have hoffset : s₁.offset = 0 := h₁.offset
    have hle₁ : s₁.offset + totalLength subsamples ≤ length := by omega
    simp only [wp_bind]
    apply (processSubsamples_after t hsized hd (hstart.after h₁) hle₁).mono
    · intro _ s₂ h₂
      have h := h₁.append hd h₂ (by simpa [CencSetup.start] using hle)
      rw [Nat.zero_add] at h
      have htotal : s₂.offset = totalLength subsamples := h.offset.trans (Nat.zero_add _)
      simp only [wp_bind, wp_get, wp_ite, wp_pure, wp_throw, htotal]
      exact ⟨fun _ => ⟨trivial, h⟩, fun _ => trivial⟩
    · exact fun _ _ _ => trivial
  · exact fun _ _ _ => trivial

end Pieces

/-- Byte `j` of `p` bytes of protected data is decrypted: with a pattern, where its block is a whole
one among the first `crypt` of each `crypt + skip`, and else in CBC where its block is a whole one,
and in CTR always. -/
def decryptedByte (alg : SaCipherAlgorithm) (crypt skip p j : Nat) : Bool :=
  if crypt = 0 then alg ≠ .aesCbc || j / 16 < p / 16
  else j / 16 < p / 16 && j / 16 % (crypt + skip) < crypt

def protectedMarks (setup : CencSetup Ctx) (p : Nat) : List Bool :=
  (List.range p).map (decryptedByte setup.cipherAlgorithm setup.cryptByteBlock
    setup.skipByteBlock p)

def sampleMarks (setup : CencSetup Ctx) (subsamples : List SaSubsampleLength) : List Bool :=
  subsamples.flatMap fun subsample => List.replicate subsample.bytesOfClearData false ++
    protectedMarks setup subsample.bytesOfProtectedData

def markedSteps (setup : CencSetup Ctx) : Nat → List Bool → List CipherStep
  | _, [] => []
  | k, mark :: rest =>
    (if mark then [.byte (setup.outBytes + k) (setup.inBytes + k)] else []) ++
      markedSteps setup (k + 1) rest

/-- The steps of the cipher for a sample: the decrypted bytes in their order, and in CBC with a
pattern a chain of its own, from the IV of the sample on, for each subsample with protected data. -/
def sampleSteps (setup : CencSetup Ctx) : Nat → List SaSubsampleLength → List CipherStep
  | _, [] => []
  | k, subsample :: rest =>
    (if subsample.bytesOfProtectedData > 0 ∧ setup.cryptByteBlock ≠ 0 then
        (CipherCall.init setup.iv).steps setup.cipherAlgorithm else []) ++
      (markedSteps setup (k + subsample.bytesOfClearData)
          (protectedMarks setup subsample.bytesOfProtectedData) ++
        sampleSteps setup (k + subsample.bytesOfClearData + subsample.bytesOfProtectedData) rest)

section Marks

variable {flag : Nat → Bool} {length : Nat}

theorem markedSteps_append : markedSteps setup k (ms ++ ms') =
    markedSteps setup k ms ++ markedSteps setup (k + ms.length) ms' := by
  induction ms generalizing k with
  | nil => rfl
  | cons mark ms ih =>
    simp only [List.cons_append, markedSteps, ih, List.length_cons, List.append_assoc]
    rw [Nat.add_assoc k 1, Nat.add_comm 1]

theorem markedSteps_false : markedSteps setup k (List.replicate n false) = [] := by
  induction n generalizing k with
  | zero => rfl
  | succ n ih => exact ih

theorem markedSteps_true : markedSteps setup k (List.replicate n true) =
    byteSteps (setup.outBytes + k) (setup.inBytes + k) n := by
  induction n generalizing k with
  | zero => rfl
  | succ n ih =>
    rw [Nat.add_comm n 1, byteSteps_add, List.replicate_add, markedSteps_append, ih]
    rfl

theorem planSteps_eq (h : .restarted ∉ pieces) :
    planSteps setup k pieces = markedSteps setup k (marks pieces) := by
  induction pieces generalizing k with
  | nil => rfl
  | cons piece pieces ih =>
    obtain ⟨hpiece, hrest⟩ := not_or.1 (List.mem_cons.not.1 h)
    rw [marks_cons, markedSteps_append, ← ih hrest]
    cases piece with
    | copied n =>
      rw [planSteps, SamplePiece.marks, markedSteps_false, List.length_replicate, List.nil_append]
    | decrypted n =>
      rw [planSteps, SamplePiece.marks, markedSteps_true, List.length_replicate]
    | restarted => exact absurd rfl hpiece

theorem Flagged.map_range (h : Flagged flag length value k n) :
    (List.range n).map (fun i => flag (k + i)) = List.replicate n value := by
  refine List.eq_replicate_iff.2 ⟨by simp, fun b hb => ?_⟩
  obtain ⟨i, hi, rfl⟩ := List.mem_map.1 hb
  exact h.2 i (List.mem_range.1 hi)

theorem map_range_add : (List.range (a + b)).map (fun i => flag (k + i)) =
    (List.range a).map (fun i => flag (k + i)) ++
      (List.range b).map (fun i => flag (k + a + i)) := by
  simp [List.range_add, Nat.add_assoc]

theorem marks_planStripes (hc : 0 < setup.cryptByteBlock) (hcrypt : setup.cryptByteBlock < 2 ^ 60)
    (hfuel : left ≤ fuel) (hp : StripesPlanned setup (Flagged flag length false)
      (Flagged flag length true) fuel k left) :
    marks (planStripes setup fuel left) ++
        List.replicate (left - (marks (planStripes setup fuel left)).length) false =
      (List.range left).map fun i => flag (k + i) := by
  induction fuel generalizing k left with
  | zero =>
    obtain rfl : left = 0 := by omega
    rfl
  | succ fuel ih =>
    rw [planStripes]
    unfold StripesPlanned at hp
    by_cases hge : left ≥ aesBlockSize
    · rw [if_pos hge] at hp ⊢
      obtain ⟨hblock, hskip, hrest⟩ := hp
      have hge' : 16 ≤ left := hge
      have hpos : 16 ≤ stripe setup.cryptByteBlock left := by
        rw [stripe_of_lt hcrypt]
        omega
      have hle := stripe_le setup.cryptByteBlock left
      have hle' : (if setup.skipByteBlock > 0 then stripe setup.skipByteBlock
          (left - stripe setup.cryptByteBlock left) else 0) ≤
            left - stripe setup.cryptByteBlock left := by
        split_ifs
        · exact stripe_le _ _
        · exact Nat.zero_le _
      dsimp only at hblock hskip hrest ⊢
      generalize stripe setup.cryptByteBlock left = block at *
      generalize (if setup.skipByteBlock > 0 then stripe setup.skipByteBlock (left - block)
        else 0) = skipped at *
      have hih := ih (by omega) hrest
      have hleft : left = block + (skipped + (left - block - skipped)) := by omega
      conv_rhs => rw [hleft]
      rw [map_range_add, map_range_add, (hblock (by omega)).map_range, hskip.map_range, ← hih]
      simp only [marks_cons, SamplePiece.marks, List.length_append, List.length_replicate,
        List.append_assoc]
      rw [← Nat.sub_sub, ← Nat.sub_sub]
    · rw [if_neg hge] at hp ⊢
      exact hp.map_range.symm

theorem restarted_notMem_planStripes : .restarted ∉ planStripes setup fuel left := by
  induction fuel generalizing left with
  | zero => exact List.not_mem_nil
  | succ fuel ih =>
    rw [planStripes]
    split_ifs <;> simp [ih]

theorem decryptedByte_eq_inStripe (hc : 0 < crypt) :
    decryptedByte alg crypt skip p j = inStripe crypt skip p j := by
  have hblock : j / 16 < p / 16 ↔ j < p / 16 * 16 := by omega
  rw [decryptedByte, if_neg hc.ne', inStripe, decide_eq_false hc.ne', Bool.false_or]
  simp only [hblock]

theorem protectedMarks_eq : protectedMarks setup p = (List.range p).map fun i =>
    decryptedByte setup.cipherAlgorithm setup.cryptByteBlock setup.skipByteBlock p (0 + i) := by
  simp only [protectedMarks, Nat.zero_add]

theorem marks_planPattern (hc : 0 < setup.cryptByteBlock) (hcrypt : setup.cryptByteBlock < 2 ^ 60)
    (hskip : setup.skipByteBlock < 2 ^ 60) :
    marks (planStripes setup p p ++ [.copied (p - (marks (planStripes setup p p)).length)]) =
      protectedMarks setup p := by
  let flag := decryptedByte setup.cipherAlgorithm setup.cryptByteBlock setup.skipByteBlock p
  have hflag : ∀ j < p, flag (0 + j) =
      inStripe setup.cryptByteBlock setup.skipByteBlock p j := by
    intro j _
    rw [Nat.zero_add]
    exact decryptedByte_eq_inStripe hc
  have hplanned : StripesPlanned setup (Flagged flag p false) (Flagged flag p true) p (0 + 0) p :=
    stripesPlanned_flagged (Nat.zero_add p).le hflag hc hcrypt hskip (Nat.zero_add p)
      (fun _ => rfl) fun _ => Nat.zero_mod _
  have h := marks_planStripes hc hcrypt le_rfl hplanned
  rw [protectedMarks_eq, marks_append, ← h]
  exact congrArg _ (List.append_nil _)

theorem marks_planFull (hc : setup.cryptByteBlock = 0) :
    marks (planFull setup p) = protectedMarks setup p := by
  have hmarks : ∀ a b, marks [.decrypted a, .copied b] =
      List.replicate a true ++ List.replicate b false := fun _ _ => by
    simp [SamplePiece.marks]
  rw [planFull, protectedMarks_eq, hc]
  split_ifs with hcbc
  · have hdecrypted : Flagged (decryptedByte setup.cipherAlgorithm 0 setup.skipByteBlock p) p true 0
        (p - p % 16) := by
      refine ⟨by omega, fun i hi => ?_⟩
      have hblock : (0 + i) / 16 < p / 16 := by omega
      rw [decryptedByte, if_pos rfl, decide_eq_true hblock, Bool.or_true]
    have hcopied : Flagged (decryptedByte setup.cipherAlgorithm 0 setup.skipByteBlock p) p false
        (0 + (p - p % 16)) (p % 16) := by
      refine ⟨by omega, fun i hi => ?_⟩
      have hblock : ¬(0 + (p - p % 16) + i) / 16 < p / 16 := by omega
      rw [decryptedByte, if_pos rfl, decide_eq_false hblock, hcbc]
      rfl
    rw [aesBlockSize, hmarks, ← hdecrypted.map_range, ← hcopied.map_range, ← map_range_add,
      Nat.sub_add_cancel (Nat.mod_le p 16)]
  · have hdecrypted : Flagged (decryptedByte setup.cipherAlgorithm 0 setup.skipByteBlock p) p true 0
        p := by
      refine ⟨by omega, fun i _ => ?_⟩
      rw [decryptedByte, if_pos rfl, decide_eq_true hcbc, Bool.true_or]
    rw [hmarks, hdecrypted.map_range]
    exact List.append_nil _

theorem marks_planSubsample (hcrypt : setup.cryptByteBlock < 2 ^ 60)
    (hskip : setup.skipByteBlock < 2 ^ 60) : marks (planSubsample setup subsample) =
      List.replicate subsample.bytesOfClearData false ++
        protectedMarks setup subsample.bytesOfProtectedData := by
  rw [planSubsample, marks_cons]
  refine congrArg _ ?_
  split_ifs with hpos hfull
  · exact marks_planFull hfull
  · rw [planPattern, marks_append, marks_planPattern (Nat.pos_of_ne_zero hfull) hcrypt hskip]
    split_ifs <;> rfl
  · rw [show subsample.bytesOfProtectedData = 0 by omega]
    rfl

theorem marks_planSample (hcrypt : setup.cryptByteBlock < 2 ^ 60)
    (hskip : setup.skipByteBlock < 2 ^ 60) :
    marks (planSample setup subsamples) = sampleMarks setup subsamples := by
  induction subsamples with
  | nil => rfl
  | cons subsample rest ih =>
    rw [planSample, List.flatMap_cons, marks_append, marks_planSubsample hcrypt hskip]
    exact congrArg _ ih

theorem planSteps_planSample (hcrypt : setup.cryptByteBlock < 2 ^ 60)
    (hskip : setup.skipByteBlock < 2 ^ 60) :
    planSteps setup k (planSample setup subsamples) = sampleSteps setup k subsamples := by
  have hprotected : ∀ k p, planSteps setup k (if p > 0 then
      if setup.cryptByteBlock = 0 then planFull setup p else planPattern setup p else []) =
        (if p > 0 ∧ setup.cryptByteBlock ≠ 0 then
          (CipherCall.init setup.iv).steps setup.cipherAlgorithm else []) ++
          markedSteps setup k (protectedMarks setup p) := by
    intro k p
    by_cases hpos : p > 0
    · by_cases hfull : setup.cryptByteBlock = 0
      · rw [if_pos hpos, if_pos hfull, if_neg (fun h => h.2 hfull), ← marks_planFull hfull]
        exact planSteps_eq (by simp [planFull])
      · rw [if_pos hpos, if_neg hfull, if_pos ⟨hpos, hfull⟩, planPattern, planSteps_append,
          ← marks_planPattern (Nat.pos_of_ne_zero hfull) hcrypt hskip]
        have hstripes : .restarted ∉ planStripes setup p p ++
            [.copied (p - (marks (planStripes setup p p)).length)] := by
          simp [restarted_notMem_planStripes]
        rw [planSteps_eq hstripes]
        split_ifs with hcbc
        · simp [planSteps, SamplePiece.marks]
        · simp [planSteps, CipherCall.steps, hcbc]
    · rw [if_neg hpos, if_neg (fun h => hpos h.1), show p = 0 by omega]
      rfl
  induction subsamples generalizing k with
  | nil => rfl
  | cons subsample rest ih =>
    have hlength : (marks (planSubsample setup subsample)).length =
        subsample.bytesOfClearData + subsample.bytesOfProtectedData := by
      simp [marks_planSubsample hcrypt hskip, protectedMarks]
    have ih := ih (k := k + subsample.bytesOfClearData + subsample.bytesOfProtectedData)
    rw [planSample, List.flatMap_cons, planSteps_append, hlength, ← Nat.add_assoc, planSubsample,
      planSteps, hprotected, sampleSteps, ← ih, List.append_assoc]
    rfl

end Marks

/-- What a sample is to become: byte by byte it is decrypted, in the order of the bytes and by the
chains that it is to have, or copied as it was. -/
structure PatternFollowed (t : evp.Traced) (setup : CencSetup Ctx)
    (subsamples : List SaSubsampleLength) (memory memory' : Memory) (context : Ctx) : Prop where
  steps : cipherSteps setup.cipherAlgorithm (t.trace context) =
    cipherSteps setup.cipherAlgorithm (t.trace setup.context.evpCipher) ++
      ((CipherCall.init setup.iv).steps setup.cipherAlgorithm ++ sampleSteps setup 0 subsamples)
  decrypted : ∀ i, (sampleMarks setup subsamples)[i]? = some true →
    memory' (setup.outBytes + i) = t.output context (setup.outBytes + i)
  copied : ∀ i, (sampleMarks setup subsamples)[i]? = some false →
    memory' (setup.outBytes + i) = memory (setup.inBytes + i)

theorem Verified.decrypts {client : Client Ctx}
    (hv : Verified client reading sample cipher subsamples out inp outBytes inBytes)
    (hs : cencSetup client sample = .ok (setup, subsamples)) :
    setup.Decrypts (cencGetRequiredLength subsamples) := by
  obtain ⟨-, -, -, -, hout, hin, -⟩ := hv.of_setup hs
  obtain ⟨-, -, -, hapart⟩ := hv.ranges
  subst hout hin
  exact { hv.fits hs with apart := hapart }

/-- A sample that was accepted follows its pattern where no call of `decrypt` fails, each of them
takes the bytes that it is given, and the lengths of the stripes in bytes do not overflow. -/
theorem cencProcessSample_pattern (evp : Evp Ctx) (t : evp.Traced) (client : Client Ctx)
    (reading : Reading) (sample sample' : SaSample) (memory : Memory) (setup : CencSetup Ctx)
    (subsamples : List SaSubsampleLength) (hsized : evp.Sized)
    (hv : verifySample client reading sample = .ok ())
    (hs : cencSetup client sample = .ok (setup, subsamples))
    (hcrypt : sample.cryptByteBlock < 2 ^ 60) (hskip : sample.skipByteBlock < 2 ^ 60)
    (hcalls : CallsComplete setup.cipherAlgorithm (cencProcessSample evp client sample memory).log)
    (hok : (cencProcessSample evp client sample memory).result = .ok sample') :
    (∃ context, (cencProcessSample evp client sample memory).context = some context ∧
      PatternFollowed t setup subsamples memory
        (cencProcessSample evp client sample memory).memory context.evpCipher) ∧
    sample' = { sample with
      out := sample.out.map (SaBuffer.advance (totalLength subsamples))
      inp := sample.inp.map (SaBuffer.advance (totalLength subsamples)) } := by
  obtain ⟨cipher, subsamples', out, inp, outBytes, inBytes, hver⟩ := verifySample_ok hv
  obtain ⟨rfl, -, halg, hmode, -, -, -, hc, hsk⟩ := hver.of_setup hs
  have hd := hver.decrypts hs
  obtain ⟨hlen, -⟩ := cencGetRequiredLength_eq hver.noOverflow
  obtain ⟨offset, hoffset⟩ := processBytes_of_ok hs hok
  rw [cencProcessSample_of_setup hs] at hcalls hok ⊢
  dsimp only at hcalls hok ⊢
  obtain ⟨rfl, hafter⟩ := (processBytes_after t hsized hd hlen.ge memory).of_ok
    (Prod.ext hoffset rfl)
  obtain ⟨-, hsteps, hcopied, hdecrypted, -⟩ := hafter.performed hcalls
  rw [marks_cons, SamplePiece.marks, List.nil_append, marks_planSample (hc ▸ hcrypt)
    (hsk ▸ hskip)] at hcopied hdecrypted
  rw [planSteps, planSteps_planSample (hc ▸ hcrypt) (hsk ▸ hskip)] at hsteps
  rw [hoffset] at hok
  exact ⟨⟨_, rfl, hsteps, hdecrypted, hcopied⟩, (Except.ok.inj hok).symm⟩

/-- A context together with the calls that were made on it and what they wrote. -/
structure RecordedContext (Ctx : Type) where
  context : Ctx
  calls : List CipherCall
  output : Memory

/-- OpenSSL with contexts that keep the calls. It has no updates of a negative length. -/
def Evp.recorded (evp : Evp Ctx) : Evp (RecordedContext Ctx) where
  decryptUpdate context memory out inp inl :=
    if inl < 0 then ⟨false, context, memory, 0⟩
    else
      let update := evp.decryptUpdate context.context memory out inp inl
      let n := inl.toNat
      { succeeded := update.succeeded
        context := ⟨update.context, context.calls ++ [.update out inp n], fun a =>
          if out ≤ a ∧ a < out + n then update.memory a else context.output a⟩
        memory := update.memory
        outl := update.outl }
  decryptInit context iv :=
    let (succeeded, evpCipher) := evp.decryptInit context.context iv
    (succeeded, ⟨evpCipher, context.calls ++ [.init iv], context.output⟩)
  encryptInit context iv :=
    let (succeeded, evpCipher) := evp.encryptInit context.context iv
    (succeeded, ⟨evpCipher, context.calls ++ [.init iv], context.output⟩)

theorem not_between {out n a : Nat} (h : a < out ∨ out + n ≤ a) : ¬(out ≤ a ∧ a < out + n) := by
  omega

def Evp.tracedCtr (block : BitVec (64 + 64) → Nat → UInt8) : (Evp.ctr block).recorded.Traced where
  trace := RecordedContext.calls
  output := RecordedContext.output
  init _ _ _ := ⟨rfl, rfl⟩
  positive _ _ _ _ inl h := by
    by_contra hneg
    simp [Evp.recorded, if_pos (Int.not_le.1 hneg)] at h
  update _ _ _ _ n _ := by simp [Evp.recorded, Int.not_lt.2 (Int.natCast_nonneg n)]
  written _ _ out _ n _ a ha := by
    simp [Evp.recorded, Int.not_lt.2 (Int.natCast_nonneg n), ha]
  frame _ _ out _ n _ a ha := by
    simp [Evp.recorded, Evp.ctr, Int.not_lt.2 (Int.natCast_nonneg n), not_between ha]

theorem Evp.recorded_sized (block : BitVec (64 + 64) → Nat → UInt8) :
    (Evp.ctr block).recorded.Sized := by
  intro _ _ _ _ inl hinl _
  simp [Evp.recorded, Evp.ctr, Int.not_lt.2 hinl]

/-- The client with one cipher for AES-CTR, with a context that keeps its calls. -/
def recordedClient : Client (RecordedContext (BitVec (64 + 64) × Nat)) where
  ciphers handle := if handle = 0 then
      .ok {
        cipherAlgorithm := .aesCtr
        cipherMode := .decrypt
        keyRights := ⟨BitVec.allOnes 64, 0#64, 0, 2 ^ 63, [], .replicate 64 0⟩
        symmetricContext := some ⟨.aesCtr, .decrypt, ⟨(0, 0), [], fun _ => 0⟩⟩
        agrees := by rintro _ ⟨⟩; exact ⟨rfl, rfl⟩ }
    else .error .invalidParameter
  svps _ := .error .invalidParameter

/-- A sample of that client with a pattern, of some bytes from one address to another. -/
def patternSample (crypt skip inp out size : Nat) (subsampleLengths : List SaSubsampleLength) :
    SaSample where
  iv := some ⟨0, 7⟩
  ivLength := 16
  cryptByteBlock := crypt
  skipByteBlock := skip
  subsampleLengths := some subsampleLengths
  context := 0
  out := some (.clear out size 0)
  inp := some (.clear inp size 0)

def patternSetup (crypt skip inp out : Nat) :
    CencSetup (RecordedContext (BitVec (64 + 64) × Nat)) where
  cipherAlgorithm := .aesCtr
  context := ⟨.aesCtr, .decrypt, ⟨(0, 0), [], fun _ => 0⟩⟩
  iv := ⟨0, 7⟩
  outBytes := out
  inBytes := inp
  cryptByteBlock := crypt
  skipByteBlock := skip

instance (rollover : Bool) (n lead full before : Nat) :
    Decidable (LoopWhole rollover n lead full before) := by
  unfold LoopWhole
  infer_instance

instance (alg : SaCipherAlgorithm) : DecidablePred (CencEvent.Whole alg)
  | .call .. => inferInstanceAs (Decidable (LoopWhole _ _ _ _ _))
  | .access .. => inferInstanceAs (Decidable True)
  | .subtract .. => inferInstanceAs (Decidable True)
  | .advanced .. => inferInstanceAs (Decidable True)

theorem callsComplete_iff {alg : SaCipherAlgorithm} {log : List CencEvent} :
    CallsComplete alg log ↔ openCalls log = 0 ∧ ∀ event ∈ log, event.Whole alg :=
  ⟨fun h => ⟨h.ended, h.whole⟩, fun h => ⟨h.1, h.2⟩⟩

/-- One block of two is decrypted, and what is left after the last whole block is copied. -/
theorem cencProcessSample_pattern_stripes :
    (∃ context, (cencProcessSample (Evp.ctr nonceBlock).recorded recordedClient
        (patternSample 1 1 1000 2000 500 [⟨3, 40⟩, ⟨0, 20⟩]) fun a => UInt8.ofNat a).context =
          some context ∧
      PatternFollowed (Evp.tracedCtr nonceBlock) (patternSetup 1 1 1000 2000)
        [⟨3, 40⟩, ⟨0, 20⟩] (fun a => UInt8.ofNat a)
        (cencProcessSample (Evp.ctr nonceBlock).recorded recordedClient
          (patternSample 1 1 1000 2000 500 [⟨3, 40⟩, ⟨0, 20⟩]) fun a => UInt8.ofNat a).memory
        context.evpCipher) ∧
    { patternSample 1 1 1000 2000 500 [⟨3, 40⟩, ⟨0, 20⟩] with
      out := some (.clear 2000 500 63), inp := some (.clear 1000 500 63) } =
        { patternSample 1 1 1000 2000 500 [⟨3, 40⟩, ⟨0, 20⟩] with
          out := (patternSample 1 1 1000 2000 500 [⟨3, 40⟩, ⟨0, 20⟩]).out.map
            (SaBuffer.advance (totalLength [⟨3, 40⟩, ⟨0, 20⟩]))
          inp := (patternSample 1 1 1000 2000 500 [⟨3, 40⟩, ⟨0, 20⟩]).inp.map
            (SaBuffer.advance (totalLength [⟨3, 40⟩, ⟨0, 20⟩])) } :=
  cencProcessSample_pattern (Evp.ctr nonceBlock).recorded (Evp.tracedCtr nonceBlock) recordedClient
    noOutputs (patternSample 1 1 1000 2000 500 [⟨3, 40⟩, ⟨0, 20⟩])
    { patternSample 1 1 1000 2000 500 [⟨3, 40⟩, ⟨0, 20⟩] with
      out := some (.clear 2000 500 63), inp := some (.clear 1000 500 63) }
    (fun a => UInt8.ofNat a) (patternSetup 1 1 1000 2000) [⟨3, 40⟩, ⟨0, 20⟩]
    (Evp.recorded_sized _) (by decide) rfl (by decide) (by decide)
    (callsComplete_iff.2 (by decide +kernel)) (by decide +kernel)

theorem byte_mem_markedSteps {marks : List Bool} (h : marks[i]? = some true) :
    .byte (setup.outBytes + (k + i)) (setup.inBytes + (k + i)) ∈ markedSteps setup k marks := by
  induction marks generalizing k i with
  | nil => cases h
  | cons mark marks ih =>
    cases i with
    | zero =>
      obtain rfl : mark = true := Option.some.inj h
      exact List.mem_append_left _ (List.mem_singleton_self _)
    | succ i =>
      have hi := ih (k := k + 1) h
      rw [Nat.add_assoc, Nat.add_comm 1] at hi
      exact List.mem_append_right _ hi

/-- The first stripe has 2^31 bytes, of which none is decrypted, and the call succeeds. -/
theorem cencProcessSample_not_pattern : ¬ ∀ (Ctx : Type) (evp : Evp Ctx) (t : evp.Traced)
    (client : Client Ctx) (reading : Reading) (sample sample' : SaSample) (memory : Memory)
    (setup : CencSetup Ctx) (subsamples : List SaSubsampleLength), evp.Sized →
    verifySample client reading sample = .ok () →
    cencSetup client sample = .ok (setup, subsamples) →
    sample.cryptByteBlock < 2 ^ 60 → sample.skipByteBlock < 2 ^ 60 →
    (cencProcessSample evp client sample memory).result = .ok sample' →
    (∃ context, (cencProcessSample evp client sample memory).context = some context ∧
      PatternFollowed t setup subsamples memory
        (cencProcessSample evp client sample memory).memory context.evpCipher) ∧
    sample' = { sample with
      out := sample.out.map (SaBuffer.advance (totalLength subsamples))
      inp := sample.inp.map (SaBuffer.advance (totalLength subsamples)) } := by
  intro h
  let sample := patternSample (2 ^ 27) 0 1000 (2 ^ 33) (2 ^ 31 + 16) [⟨0, 2 ^ 31⟩, ⟨0, 16⟩]
  obtain ⟨⟨context, hcontext, hfollowed⟩, -⟩ := h _ (Evp.ctr nonceBlock).recorded
    (Evp.tracedCtr nonceBlock) recordedClient noOutputs sample
    { sample with
      out := some (.clear (2 ^ 33) (2 ^ 31 + 16) (2 ^ 31 + 16))
      inp := some (.clear 1000 (2 ^ 31 + 16) (2 ^ 31 + 16)) }
    (fun a => UInt8.ofNat a) (patternSetup (2 ^ 27) 0 1000 (2 ^ 33)) [⟨0, 2 ^ 31⟩, ⟨0, 16⟩]
    (Evp.recorded_sized _) (by decide) rfl (by decide) (by decide) (by decide +kernel)
  -- the first byte is to be decrypted
  have hmarked : (protectedMarks (patternSetup (2 ^ 27) 0 1000 (2 ^ 33)) (2 ^ 31))[0]? =
      some true := by
    simp [protectedMarks, patternSetup, decryptedByte]
  have hstep : CipherStep.byte (2 ^ 33) 1000 ∈
      cipherSteps .aesCtr context.evpCipher.calls := by
    refine hfollowed.steps ▸ List.mem_append_right _ (List.mem_append_right _ ?_)
    refine List.mem_append_right _ (List.mem_append_left _ ?_)
    exact byte_mem_markedSteps hmarked
  have hnone : (cencProcessSample (Evp.ctr nonceBlock).recorded recordedClient sample
      fun a => UInt8.ofNat a).context.all (fun context =>
        .byte (2 ^ 33) 1000 ∉ cipherSteps .aesCtr context.evpCipher.calls) := by
    decide +kernel
  rw [hcontext] at hnone
  exact of_decide_eq_true hnone hstep

end TaSecureApi
