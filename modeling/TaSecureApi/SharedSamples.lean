import TaSecureApi.CencPattern
import TaSecureApi.CencTermination
import TaSecureApi.CipherStore

namespace TaSecureApi
set_option autoImplicit true
open Wp

variable {Ctx : Type} {ε : Type} {evp : Evp Ctx} {setup : CencSetup Ctx} {s s' : CencState Ctx}

/-- `sa_sample`, with its pointers to the buffers. -/
structure SharedSample where
  iv : Option Iv
  ivLength : Nat
  cryptByteBlock : Nat
  skipByteBlock : Nat
  subsampleLengths : Option (List SaSubsampleLength)
  context : Nat
  out : Option Nat
  inp : Option Nat
  deriving DecidableEq, Repr

def SharedSample.load (sample : SharedSample) (buffers : Nat → SaBuffer) : SaSample where
  iv := sample.iv
  ivLength := sample.ivLength
  cryptByteBlock := sample.cryptByteBlock
  skipByteBlock := sample.skipByteBlock
  subsampleLengths := sample.subsampleLengths
  context := sample.context
  out := sample.out.map buffers
  inp := sample.inp.map buffers

/-- The loop that verifies the samples; each verification reads the world anew. -/
def verifySharedSamples (client : Client Ctx) (buffers : Nat → SaBuffer) :
    List (Reading × SharedSample) → Except SaStatus Unit
  | [] => .ok ()
  | (reading, sample) :: rest => do
    verifySample client reading (sample.load buffers)
    verifySharedSamples client buffers rest

/-- What the loop that processes the samples goes on with. -/
structure SamplesState (Ctx : Type) where
  client : Client Ctx
  buffers : Nat → SaBuffer
  memory : Memory

def Client.setEvpCipher (client : Client Ctx) (context : Nat) (evpCipher : Ctx) : Client Ctx where
  ciphers := Function.update client.ciphers context
    ((client.ciphers context).map (Cipher.setEvpCipher · evpCipher))
  svps := client.svps

def advanceAt (pointer : Option Nat) (offset : Nat) (buffers : Nat → SaBuffer) :
    Nat → SaBuffer :=
  pointer.elim buffers fun p => Function.update buffers p ((buffers p).advance offset)

/-- `cenc_process_sample`, on a sample that shares its buffers. -/
def cencProcessShared (evp : Evp Ctx) (sample : SharedSample) (σ : SamplesState Ctx) :
    Except CencExit Unit × SamplesState Ctx :=
  match cencSetup σ.client (sample.load σ.buffers) with
  | .error exit => (.error exit, σ)
  | .ok (setup, subsampleLengths) =>
    let r := (processBytes evp setup subsampleLengths).run.run (setup.start σ.memory)
    let σ' := { σ with
      client := σ.client.setEvpCipher sample.context r.2.context.evpCipher
      memory := r.2.memory }
    match r.1 with
    | .error exit => (.error exit, σ')
    | .ok offset => (.ok (), { σ' with
        buffers := advanceAt sample.out offset (advanceAt sample.inp offset σ.buffers) })

def processSharedSamples (evp : Evp Ctx) :
    List SharedSample → SamplesState Ctx → Except CencExit Unit × SamplesState Ctx
  | [], σ => (.ok (), σ)
  | sample :: rest, σ =>
    match cencProcessShared evp sample σ with
    | (.ok (), σ') => processSharedSamples evp rest σ'
    | r => r

/-- `ta_sa_process_common_encryption`, for a client that was found. -/
def taSaProcessCommonEncryption (evp : Evp Ctx) (samples : Option (List (Reading × SharedSample)))
    (σ : SamplesState Ctx) : Except CencExit Unit × SamplesState Ctx :=
  match samples with
  | none => (.error (.status .nullParameter), σ)
  | some samples =>
    match verifySharedSamples σ.client σ.buffers samples with
    | .error status => (.error (.status status), σ)
    | .ok () => processSharedSamples evp (samples.map Prod.snd) σ

def SharedSample.requiredLength (sample : SharedSample) : Nat :=
  cencGetRequiredLength (sample.subsampleLengths.getD [])

/-- What `verify_sample` requires of the ranges of a sample. -/
def RangesVerified (client : Client Ctx) (buffers : Nat → SaBuffer) (sample : SharedSample) :
    Prop :=
  ∃ out inp outBytes inBytes, sample.out = some out ∧ sample.inp = some inp ∧
    convertBuffer client sample.requiredLength (buffers out) = .ok outBytes ∧
    convertBuffer client sample.requiredLength (buffers inp) = .ok inBytes ∧
    ¬ overlaps outBytes inBytes sample.requiredLength

/-- In every run of the processing, the ranges of each sample that it comes to are as the
verification requires. -/
def StaysVerified (client : Client Ctx) (buffers : Nat → SaBuffer) (samples : List SharedSample) :
    Prop :=
  ∀ (evp : Evp Ctx) (memory : Memory) earlier sample later σ,
    samples = earlier ++ sample :: later →
    processSharedSamples evp earlier ⟨client, buffers, memory⟩ = (.ok (), σ) →
    RangesVerified σ.client σ.buffers sample

def traversed (pointer : Nat) (samples : List SharedSample) : Nat :=
  (samples.map fun sample =>
    (if sample.inp = some pointer then sample.requiredLength else 0) +
      if sample.out = some pointer then sample.requiredLength else 0).sum

def room (client : Client Ctx) : SaBuffer → Nat
  | .clear _ length offset => length - offset
  | .svp buffer offset => (client.svps buffer).toOption.elim 0 svpGetSize - offset
  | .other _ => 0

/-- The ranges of a sample lie in their buffers, and apart, also behind the bytes that the samples
before it move the two offsets by. -/
def MovedApart (client : Client Ctx) (buffers : Nat → SaBuffer) (earlier : List SharedSample)
    (sample : SharedSample) : Prop :=
  ∀ out inp outBytes inBytes, sample.out = some out → sample.inp = some inp →
    convertBuffer client sample.requiredLength (buffers out) = .ok outBytes →
    convertBuffer client sample.requiredLength (buffers inp) = .ok inBytes →
    traversed out earlier + sample.requiredLength ≤ room client (buffers out) ∧
    traversed inp earlier + sample.requiredLength ≤ room client (buffers inp) ∧
    ¬ overlaps (outBytes + traversed out earlier) (inBytes + traversed inp earlier)
      sample.requiredLength

/-- A sample whose cipher has a context, and whose pattern is none that the loop over its stripes
does not come past. -/
def Processable (client : Client Ctx) (sample : SharedSample) : Prop :=
  (∀ cipher, client.ciphers sample.context = .ok cipher → cipher.symmetricContext.isSome) ∧
  ∀ subsample ∈ sample.subsampleLengths.getD [], sample.cryptByteBlock = 0 ∨
    subsample.bytesOfProtectedData < aesBlockSize ∨
    ¬ (2 ^ 60 ∣ sample.cryptByteBlock ∧ 2 ^ 60 ∣ sample.skipByteBlock)

theorem cencSetup_eq_ok {client : Client Ctx} :
    cencSetup client sample = .ok (setup, subsamples) ↔
      ∃ cipher out inp iv context outBytes inBytes,
        client.ciphers sample.context = .ok cipher ∧
        sample.subsampleLengths = some subsamples ∧ sample.out = some out ∧
        sample.inp = some inp ∧ sample.iv = some iv ∧
        cencGetRequiredLength subsamples ≠ cencOverflow ∧
        convertBuffer client (cencGetRequiredLength subsamples) out = .ok outBytes ∧
        convertBuffer client (cencGetRequiredLength subsamples) inp = .ok inBytes ∧
        cipher.symmetricContext = some context ∧
        setup = ⟨cipher.cipherAlgorithm, context, iv, outBytes, inBytes, sample.cryptByteBlock,
          sample.skipByteBlock⟩ := by
  constructor
  · intro h
    unfold cencSetup at h
    cases hcipher : client.ciphers sample.context with
    | error => rw [hcipher] at h; cases h
    | ok cipher =>
      rw [hcipher] at h
      dsimp only at h
      split at h
      · rename_i lengths out inp iv hlengths hout hinp hiv
        split_ifs at h with hlen
        cases houtBytes : convertBuffer client (cencGetRequiredLength lengths) out with
        | error => rw [houtBytes] at h; cases h
        | ok outBytes =>
          cases hinBytes : convertBuffer client (cencGetRequiredLength lengths) inp with
          | error => rw [houtBytes, hinBytes] at h; cases h
          | ok inBytes =>
            cases hcontext : cipher.symmetricContext with
            | none => rw [houtBytes, hinBytes, hcontext] at h; cases h
            | some context =>
              rw [houtBytes, hinBytes, hcontext] at h
              cases h
              exact ⟨cipher, out, inp, iv, context, outBytes, inBytes, rfl, hlengths, hout, hinp,
                hiv, hlen, houtBytes, hinBytes, hcontext, rfl⟩
      · cases h
  · rintro ⟨cipher, out, inp, iv, context, outBytes, inBytes, hcipher, hlengths, hout, hinp, hiv,
      hlen, houtBytes, hinBytes, hcontext, rfl⟩
    unfold cencSetup
    rw [hcipher, hlengths, hout, hinp, hiv]
    dsimp only
    rw [if_neg hlen, houtBytes, hinBytes]
    dsimp only
    rw [hcontext]

/-- The processing of a sample at an offset, with the context of the sample. -/
structure Carried (setup : CencSetup Ctx) (k : Nat) (s : CencState Ctx) : Prop where
  offset : s.offset = k
  algorithm : s.context.cipherAlgorithm = setup.cipherAlgorithm
  mode : s.context.cipherMode = .decrypt

section Carried

variable {length : Nat}

theorem Carried.able (hf : setup.Fits length) (h : Carried setup k s) (a : Nat) :
    Able s (setup.outBytes + a) (setup.inBytes + a) where
  mode := h.mode
  takesIv := by
    rw [h.algorithm]
    rcases hf.algorithm with halg | halg
    · rw [halg]
      rfl
    · rw [halg]
      rfl
  outNonNull := by
    have hout := hf.outNonNull
    omega
  inNonNull := by
    have hin := hf.inNonNull
    omega

theorem Carried.decrypt (hf : setup.Fits length) (h : Carried setup k s)
    (hcbc : setup.cipherAlgorithm = .aesCbc → n % 16 = 0) (hn : n < 2 ^ 64) :
    wp (decryptProtected evp setup n) (fun _ s' => Carried setup (k + n) s')
      (fun _ s' => Carried setup k s' ∧ ¬ evp.NeverFails) s := by
  rw [wp_decryptProtected, wp_decrypt]
  obtain ⟨hm, ha, hout, hin⟩ := h.able hf s.offset
  have hable : Able (s.called n) (setup.outBytes + s.offset) (setup.inBytes + s.offset) :=
    ⟨hm, ha, hout, hin⟩
  have hstream : (s.called n).context.cipherAlgorithm.isStream ∨
      rollsOver setup.cipherAlgorithm s.encByteCount s.iv.counter n = false ∧ n % 16 = 0 := by
    have halg : (s.called n).context.cipherAlgorithm = setup.cipherAlgorithm := h.algorithm
    rw [halg]
    rcases hf.algorithm with halg | halg
    · exact .inl (by rw [halg]; rfl)
    · refine .inr ⟨Bool.eq_false_iff.2 fun hroll => rollsOver_ctr hroll halg, hcbc halg⟩
  have hcarried {s₁ : CencState Ctx} (h₁ : Extends CencEvent.Silent (s.called n) s₁) :
      Carried setup k s₁ :=
    ⟨h₁.offset.trans h.offset, h₁.algorithm.trans h.algorithm, h₁.mode.trans h.mode⟩
  apply (decryptLoop_silent hable hstream hn).mono
  · intro _ s₁ h₁
    obtain ⟨hoffset, halg, hmode⟩ := hcarried h₁
    exact ⟨congrArg (· + n) hoffset, halg, hmode⟩
  · exact fun _ _ h₁ => ⟨hcarried h₁.1, h₁.2⟩

theorem Carried.restart (hf : setup.Fits length) (h : Carried setup k s) :
    wp (contextSetIv evp) (fun _ s' => Carried setup k s') (fun _ _ => ¬ evp.NeverFails) s := by
  apply (contextSetIv_extends (P := CencEvent.Silent) (h.able hf 0)).mono
  · rintro - s₁ ⟨h₁, -⟩
    exact ⟨h₁.offset.trans h.offset, h₁.algorithm.trans h.algorithm, h₁.mode.trans h.mode⟩
  · exact fun _ _ h₁ => h₁.2

theorem Carried.copy (h : Carried setup k s) : wp (copyClear (ε := ε) setup n)
    (fun _ s' => Carried setup (k + n) s' ∧ s'.status = s.status) (fun _ _ => False) s := by
  rw [wp_copyClear]
  constructor
  · exact fun _ => ⟨⟨congrArg (· + n) h.offset, h.algorithm, h.mode⟩, rfl⟩
  · intro hzero
    obtain rfl : n = 0 := by omega
    exact ⟨h, rfl⟩

theorem carried_keeps (evp : Evp Ctx) (hf : setup.Fits length) :
    Keeps evp setup length (Carried setup) (fun _ => True) (InRange length)
      (BlocksInRange setup length) where
  stop _ _ _ := trivial
  status _ _ _ h := ⟨h.offset, h.algorithm, h.mode⟩
  copy _ _ _ _ h := h.copy.mono (fun _ _ h' => h'.1) fun _ _ h' => h'.elim
  decrypt := by
    rintro k n s ⟨hle, hcbc⟩ h
    have hlt := hf.length_lt
    apply (h.decrypt hf hcbc (by omega)).mono
    · exact fun _ _ h' => h'
    · rintro e s' ⟨h', -⟩
      refine ⟨trivial, fun _ m status _ => ?_⟩
      have hs : Carried setup k { s' with status := status } := ⟨h'.offset, h'.algorithm, h'.mode⟩
      exact hs.copy.mono (fun _ _ h'' => h''.1) fun _ _ h'' => h''.elim
  restart _ s _ h := by
    have hiv : Carried setup _ { s with iv := setup.iv } := ⟨h.offset, h.algorithm, h.mode⟩
    exact (hiv.restart hf).mono (fun _ _ h' => h') fun _ _ _ => trivial

theorem CencSetup.Fits.carried (hf : setup.Fits length) (memory : Memory) :
    Carried setup 0 (setup.start memory) :=
  ⟨rfl, hf.contextAlgorithm, hf.contextMode⟩

/-- Wherever the processing of a sample ends with success, it has gone past the whole sample. -/
theorem processBytes_offset (evp : Evp Ctx) (hf : setup.Fits length)
    (hle : totalLength subsamples ≤ length) (memory : Memory) :
    wp (processBytes evp setup subsamples) (fun offset _ => offset = totalLength subsamples)
      (fun _ _ => True) (setup.start memory) := by
  have hcarried := (carried_keeps evp hf).wp_processBytes
    (samplePlanned_inRange (k := 0) (by omega)) hle
    (((hf.carried memory).restart hf).mono (fun _ _ h => h) fun _ _ _ => trivial)
  have hoffset : wp (processBytes evp setup subsamples) (fun offset s' => offset = s'.offset)
      (fun _ _ => True) (setup.start memory) := by
    rw [processBytes, wp_bind]
    apply wp_of_forall
    · intro _ s₁
      rw [wp_bind]
      apply wp_of_forall
      · intro _ s₂
        simp only [wp_bind, wp_get, wp_ite, wp_pure, wp_throw]
        exact ⟨fun _ => trivial, fun _ => trivial⟩
      · exact fun _ _ => trivial
    · exact fun _ _ => trivial
  exact (hcarried.and hoffset).mono (fun _ _ h => h.2.trans h.1.offset) fun _ _ _ => trivial

structure Fine (setup : CencSetup Ctx) (k : Nat) (s : CencState Ctx) : Prop
    extends Carried setup k s where
  status : s.status = .ok

theorem Fine.copy (h : Fine setup k s) : wp (copyClear (ε := CencExit) setup n)
    (fun _ s' => Fine setup (k + n) s') (fun _ _ => False) s :=
  h.toCarried.copy.mono (fun _ _ h' => ⟨h'.1, h'.2.trans h.status⟩) fun _ _ h' => h'

theorem Fine.crypt (hnever : evp.NeverFails) (hf : setup.Fits length) (h : Fine setup k s)
    (hblocks : n % 16 = 0) (hn : n < 2 ^ 64) :
    wp (cryptStripe evp setup n) (fun going s' => going = true ∧ Fine setup (k + n) s')
      (fun _ _ => False) s := by
  simp only [cryptStripe, wp_ite, wp_bind, wp_outcome, wp_pure]
  constructor
  · intro _
    apply (h.decrypt hf (fun _ => hblocks) hn).mono
    · exact fun _ _ h' => ⟨rfl, ⟨h'.offset, h'.algorithm, h'.mode⟩, rfl⟩
    · exact fun _ _ h' => absurd hnever h'.2
  · intro hzero
    obtain rfl : n = 0 := by omega
    exact ⟨trivial, h⟩

/-- One stripe after the other, by induction on the fuel. -/
theorem Fine.loop (hnever : evp.NeverFails) (hf : setup.Fits length) (h : Fine setup k s)
    (hpos : Progresses setup left) (hfuel : left ≤ fuel) (hn : left < 2 ^ 64) :
    wp (patternLoop evp setup fuel left)
      (fun left' s' => ∃ k', k' + left' = k + left ∧ Fine setup k' s') (fun _ _ => False) s := by
  induction fuel generalizing k left s with
  | zero =>
    obtain rfl : left = 0 := by omega
    simp only [patternLoop, wp_ite, wp_throw, wp_pure]
    exact ⟨fun hge => absurd hge (by decide), fun _ => ⟨k, rfl, h⟩⟩
  | succ fuel ih =>
    simp only [patternLoop, wp_ite, wp_bind, wp_pure]
    refine ⟨fun hge => ?_, fun _ => ⟨k, rfl, h⟩⟩
    have hblock := stripe_le setup.cryptByteBlock left
    have hlength : 0 < passLength setup left := hpos left hge le_rfl
    unfold passLength at hlength
    dsimp only at hlength
    apply (h.crypt hnever hf stripe_mod (by omega)).mono
    · rintro going s₁ ⟨rfl, h₁⟩
      simp only [wp_ite, wp_bind, wp_pure]
      refine ⟨fun _ => ?_, fun hn => absurd trivial hn⟩
      apply h₁.copy.mono
      · intro _ s₂ h₂
        have hskipped : (if setup.skipByteBlock > 0 then stripe setup.skipByteBlock
            (left - stripe setup.cryptByteBlock left) else 0) ≤
              left - stripe setup.cryptByteBlock left := by
          split_ifs
          · exact stripe_le _ _
          · exact Nat.zero_le _
        apply (ih h₂ (hpos.mono (by omega)) (by omega) (by omega)).mono
        · rintro left' s₃ ⟨k', he, h₃⟩
          exact ⟨k', by omega, h₃⟩
        · exact fun _ _ h' => h'
      · exact fun _ _ h' => h'
    · exact fun _ _ h' => h'

theorem Fine.full (hnever : evp.NeverFails) (hf : setup.Fits length) (h : Fine setup k s)
    (hn : p < 2 ^ 64) :
    wp (processFull evp setup p) (fun _ s' => ∃ k', Fine setup k' s') (fun _ _ => False) s := by
  have hblocks : setup.cipherAlgorithm = .aesCbc → (p - if setup.cipherAlgorithm = .aesCbc then
      p % aesBlockSize else 0) % 16 = 0 := by
    intro hcbc
    rw [if_pos hcbc]
    unfold aesBlockSize
    omega
  simp only [processFull, wp_bind]
  apply wp_orBreak
  apply (h.decrypt hf hblocks (by omega)).mono
  · intro _ s₁ h₁
    have hfine : Fine setup _ { s₁ with status := .ok } :=
      ⟨⟨h₁.offset, h₁.algorithm, h₁.mode⟩, rfl⟩
    exact hfine.copy.mono (fun _ _ h' => ⟨_, h'⟩) fun _ _ h' => h'
  · exact fun _ _ h' => absurd hnever h'.2

theorem Fine.pattern (hnever : evp.NeverFails) (hf : setup.Fits length)
    (h : Fine setup k s) (hpos : Progresses setup p) (hn : p < 2 ^ 64) :
    wp (processPattern evp setup p) (fun _ s' => ∃ k', Fine setup k' s') (fun _ _ => False) s := by
  have hstripes : ∀ {k : Nat} {s₁ : CencState Ctx}, Fine setup k s₁ →
      wp (patternLoop evp setup p p >>= copyClear setup)
        (fun _ s' => ∃ k', Fine setup k' s') (fun _ _ => False) s₁ := by
    intro k s₁ h₁
    rw [wp_bind]
    apply (h₁.loop hnever hf hpos le_rfl hn).mono
    · rintro left s₂ ⟨k', -, h₂⟩
      exact h₂.copy.mono (fun _ _ h' => ⟨_, h'⟩) fun _ _ h' => h'
    · exact fun _ _ h' => h'
  simp only [processPattern, wp_ite, wp_bind, wp_modify]
  refine ⟨fun _ => ?_, fun _ => (wp_bind _ _).1 (hstripes h)⟩
  apply wp_orBreak
  have hiv : Carried setup k { s with iv := setup.iv } := ⟨h.offset, h.algorithm, h.mode⟩
  apply (hiv.restart hf).mono
  · exact fun _ s₁ h₁ => hstripes ⟨⟨h₁.offset, h₁.algorithm, h₁.mode⟩, rfl⟩
  · exact fun _ _ hn => hn hnever

/-- Where OpenSSL never fails and no pattern is caught in its loop, the subsamples are gone past one
after the other, by induction on the list. -/
theorem Fine.all (hnever : evp.NeverFails) (hf : setup.Fits length)
    (h : Fine setup k s) (hn : totalLength subsamples < 2 ^ 64)
    (hpos : ∀ subsample ∈ subsamples, setup.cryptByteBlock = 0 ∨
      Progresses setup subsample.bytesOfProtectedData) :
    wp (processSubsamples evp setup subsamples) (fun _ s' => ∃ k', Fine setup k' s')
      (fun _ _ => False) s := by
  induction subsamples generalizing k s with
  | nil => exact ⟨k, h⟩
  | cons subsample rest ih =>
    obtain ⟨hsub, hrest⟩ := List.forall_mem_cons.1 hpos
    have htotal : totalLength (subsample :: rest) = subsample.bytesOfClearData +
        subsample.bytesOfProtectedData + totalLength rest := by simp [totalLength]
    have hgo : ∀ s₁, (∃ k', Fine setup k' s₁) → wp (processSubsamples evp setup rest)
        (fun _ s' => ∃ k', Fine setup k' s') (fun _ _ => False) s₁ := by
      rintro s₁ ⟨k', h'⟩
      exact ih h' (by omega) hrest
    simp only [processSubsamples, processSubsample, wp_bind]
    apply h.copy.mono
    · intro _ s₁ h₁
      simp only [wp_ite, wp_pure]
      refine ⟨fun _ => ⟨fun _ => ?_, fun hpattern => ?_⟩, fun _ => hgo _ ⟨_, h₁⟩⟩
      · exact (h₁.full hnever hf (by omega)).mono (fun _ => hgo) fun _ _ h' => h'
      · exact (h₁.pattern hnever hf (hsub.resolve_left hpattern) (by omega)).mono
          (fun _ => hgo) fun _ _ h' => h'
    · exact fun _ _ h' => h'

theorem processBytes_succeeds (hnever : evp.NeverFails) (hf : setup.Fits length)
    (hle : totalLength subsamples ≤ length)
    (hpos : ∀ subsample ∈ subsamples, setup.cryptByteBlock = 0 ∨
      Progresses setup subsample.bytesOfProtectedData) (memory : Memory) :
    wp (processBytes evp setup subsamples) (fun _ _ => True) (fun _ _ => False)
      (setup.start memory) := by
  have hlt := hf.length_lt
  rw [processBytes, wp_bind]
  apply wp_orBreak
  apply ((hf.carried memory).restart hf).mono
  · intro _ s₁ h₁
    have hfine : Fine setup 0 { s₁ with status := .ok } :=
      ⟨⟨h₁.offset, h₁.algorithm, h₁.mode⟩, rfl⟩
    rw [wp_bind]
    apply (hfine.all hnever hf (by omega) hpos).mono
    · rintro - s₂ ⟨k', h₂⟩
      simp only [wp_bind, wp_get, wp_ite, wp_pure, wp_throw]
      exact ⟨fun _ => trivial, fun hne => hne h₂.status⟩
    · exact fun _ _ h' => h'
  · exact fun _ _ hn => hn hnever

end Carried

/-- A loop whose passes take no bytes off is not left, by induction on the fuel. -/
theorem patternLoop_stuck (evp : Evp Ctx) (hn : ¬ Progresses setup left) :
    wp (patternLoop evp setup fuel left) (fun _ _ => False) (fun _ _ => True) s := by
  obtain ⟨hge, hboth⟩ := not_or.1 ((progresses_iff setup left).not.1 hn)
  have hzero : passLength setup left = 0 := by
    by_contra hne
    exact hboth ((passLength_pos setup (not_lt.1 hge)).1 (Nat.pos_of_ne_zero hne))
  induction fuel generalizing s with
  | zero =>
    simp only [patternLoop, wp_ite, wp_throw, wp_pure]
    exact ⟨fun _ => trivial, fun hlt => hge (not_le.1 hlt)⟩
  | succ fuel ih =>
    rw [patternLoop_succ, if_pos (not_lt.1 hge), wp_bind]
    unfold wp
    rw [(stripesPass_of_passLength_zero evp (not_lt.1 hge) hzero s).2]
    exact ih

theorem processBytes_progresses (evp : Evp Ctx) : wp (processBytes evp setup subsamples)
    (fun _ _ => ∀ subsample ∈ subsamples, setup.cryptByteBlock = 0 ∨
      Progresses setup subsample.bytesOfProtectedData) (fun _ _ => True) s := by
  have hsubsample : ∀ (subsample : SaSubsampleLength) s₁,
      wp (processSubsample evp setup subsample) (fun _ _ => setup.cryptByteBlock = 0 ∨
        Progresses setup subsample.bytesOfProtectedData) (fun _ _ => True) s₁ := by
    intro subsample s₁
    by_cases h : setup.cryptByteBlock = 0 ∨ Progresses setup subsample.bytesOfProtectedData
    · exact wp_of_forall (fun _ _ => h) fun _ _ => trivial
    · obtain ⟨hpattern, hstuck⟩ := not_or.1 h
      have hloop : ∀ s₂, wp (patternLoop evp setup subsample.bytesOfProtectedData
          subsample.bytesOfProtectedData >>= copyClear setup)
          (fun _ _ => setup.cryptByteBlock = 0 ∨
            Progresses setup subsample.bytesOfProtectedData) (fun _ _ => True) s₂ := by
        intro s₂
        rw [wp_bind]
        exact (patternLoop_stuck evp hstuck).mono (fun _ _ hf => hf.elim) fun _ _ h => h
      have hpos : subsample.bytesOfProtectedData > 0 := by
        have hge := (not_or.1 ((progresses_iff setup _).not.1 hstuck)).1
        unfold aesBlockSize at hge
        omega
      rw [processSubsample, wp_bind]
      apply wp_of_forall
      · intro _ s₂
        rw [if_pos hpos, if_neg hpattern]
        simp only [processPattern, wp_ite, wp_bind, wp_modify]
        refine ⟨fun _ => ?_, fun _ => (wp_bind _ _).1 (hloop s₂)⟩
        apply wp_of_forall
        · exact fun _ s₃ => hloop s₃
        · exact fun _ _ => trivial
      · exact fun _ _ => trivial
  have hsubsamples : ∀ s₁, wp (processSubsamples evp setup subsamples)
      (fun _ _ => ∀ subsample ∈ subsamples, setup.cryptByteBlock = 0 ∨
        Progresses setup subsample.bytesOfProtectedData) (fun _ _ => True) s₁ := by
    induction subsamples with
    | nil => exact fun s₁ => List.forall_mem_nil _
    | cons subsample rest ih =>
      intro s₁
      rw [processSubsamples, wp_bind]
      apply (hsubsample subsample s₁).mono
      · intro _ s₂ h
        exact (ih s₂).mono (fun _ _ hrest => List.forall_mem_cons.2 ⟨h, hrest⟩) fun _ _ h => h
      · exact fun _ _ h => h
  rw [processBytes, wp_bind]
  apply wp_of_forall
  · intro _ s₁
    rw [wp_bind]
    apply (hsubsamples s₁).mono
    · intro _ s₂ h
      exact wp_of_forall (fun _ _ => h) fun _ _ => trivial
    · exact fun _ _ h => h
  · exact fun _ _ => trivial

theorem convertBuffer_clear {client : Client Ctx} :
    convertBuffer client n (.clear buffer length offset) = .ok bytes ↔
      buffer ≠ 0 ∧ buffer + length < 2 ^ 64 ∧ offset + n ≤ length ∧ bytes = buffer + offset := by
  simp only [convertBuffer]
  constructor
  · intro h
    cases hrange : addOverflow offset n with
    | none =>
      rw [hrange] at h
      split_ifs at h
    | some range =>
      rw [hrange] at h
      dsimp only at h
      split_ifs at h with hnull hlen hvalid
      obtain ⟨rfl, -⟩ := addOverflow_eq_some.1 hrange
      obtain ⟨-, hv⟩ := memoryIsValid_iff.1 hvalid
      exact ⟨hnull, hv, not_lt.1 hlen, (addOverflow_elim_ok h).symm⟩
  · rintro ⟨hnull, hvalid, hlen, rfl⟩
    have hrange : addOverflow offset n = some (offset + n) :=
      addOverflow_eq_some.2 ⟨rfl, by omega⟩
    have haddress : addOverflow buffer offset = some (buffer + offset) :=
      addOverflow_eq_some.2 ⟨rfl, by omega⟩
    rw [if_neg hnull, hrange]
    dsimp only
    rw [if_neg (not_lt.2 hlen), if_neg (not_not.2 (memoryIsValid_iff.2 ⟨hnull, hvalid⟩)), haddress]
    rfl

theorem convertBuffer_svp {client : Client Ctx} :
    convertBuffer client n (.svp buffer offset) = .ok bytes ↔
      ∃ svpBuffer, client.svps buffer = .ok (some svpBuffer) ∧ offset + n ≤ svpBuffer.size ∧
        bytes = svpBuffer.svpMemory + offset := by
  simp only [convertBuffer]
  constructor
  · intro h
    cases hsvp : client.svps buffer with
    | error => rw [hsvp] at h; cases h
    | ok svpBuffer =>
      cases hrange : addOverflow offset n with
      | none => rw [hsvp, hrange] at h; cases h
      | some range =>
        rw [hsvp, hrange] at h
        dsimp only at h
        split_ifs at h with hnull hlen
        obtain ⟨rfl, -⟩ := addOverflow_eq_some.1 hrange
        cases svpBuffer with
        | none => exact absurd rfl hnull
        | some svpBuffer =>
          exact ⟨svpBuffer, rfl, not_lt.1 hlen, (addOverflow_elim_ok h).symm⟩
  · rintro ⟨svpBuffer, hsvp, hlen, rfl⟩
    obtain ⟨hnull, hvalid⟩ := memoryIsValid_iff.1 svpBuffer.valid
    have hrange : addOverflow offset n = some (offset + n) :=
      addOverflow_eq_some.2 ⟨rfl, by omega⟩
    have haddress : addOverflow svpBuffer.svpMemory offset = some (svpBuffer.svpMemory + offset) :=
      addOverflow_eq_some.2 ⟨rfl, by omega⟩
    have hmemory : ¬ svpGetSvpMemory (some svpBuffer) = 0 := hnull
    have hsize : ¬ offset + n > svpGetSize (some svpBuffer) := not_lt.2 hlen
    rw [hsvp, hrange]
    dsimp only
    rw [if_neg hmemory, if_neg hsize, svpGetSvpMemory, haddress]
    rfl

/-- A buffer that was converted holds its bytes behind its offset, and so does the buffer moved by
some of them, as far as there is room. -/
theorem convertBuffer_advance {client : Client Ctx} {buffer : SaBuffer}
    (hb : buffer.isClear ∨ buffer.isSvp) (h : convertBuffer client n buffer = .ok bytes)
    (hm : m ≤ room client buffer) :
    convertBuffer client k (buffer.advance m) = .ok bytes' ↔
      m + k ≤ room client buffer ∧ bytes' = bytes + m := by
  cases buffer with
  | clear buffer length offset =>
    obtain ⟨hnull, hvalid, hlen, rfl⟩ := convertBuffer_clear.1 h
    have hroom : room client (.clear buffer length offset) = length - offset := rfl
    rw [hroom] at hm ⊢
    have hmoved : (offset + m) % 2 ^ 64 = offset + m := Nat.mod_eq_of_lt (by omega)
    rw [SaBuffer.advance, hmoved, convertBuffer_clear]
    constructor
    · rintro ⟨-, -, hle, rfl⟩
      exact ⟨by omega, by omega⟩
    · rintro ⟨hle, rfl⟩
      exact ⟨hnull, hvalid, by omega, by omega⟩
  | svp buffer offset =>
    obtain ⟨svpBuffer, hsvp, hlen, rfl⟩ := convertBuffer_svp.1 h
    obtain ⟨-, hvalid⟩ := memoryIsValid_iff.1 svpBuffer.valid
    have hroom : room client (.svp buffer offset) = svpBuffer.size - offset := by
      rw [room, hsvp]
      rfl
    rw [hroom] at hm ⊢
    have hmoved : (offset + m) % 2 ^ 64 = offset + m := Nat.mod_eq_of_lt (by omega)
    rw [SaBuffer.advance, hmoved, convertBuffer_svp]
    constructor
    · rintro ⟨svpBuffer', hsvp', hle, rfl⟩
      cases hsvp.symm.trans hsvp'
      exact ⟨by omega, by omega⟩
    · rintro ⟨hle, rfl⟩
      exact ⟨svpBuffer, hsvp, by omega, by omega⟩
  | other => simp [SaBuffer.isClear, SaBuffer.isSvp] at hb

theorem advance_advance (buffer : SaBuffer) :
    (buffer.advance a).advance b = buffer.advance (a + b) := by
  cases buffer with
  | clear buffer length start => simp only [SaBuffer.advance]; congr 1; omega
  | svp buffer start => simp only [SaBuffer.advance]; congr 1; omega
  | other => rfl

/-- A client whose ciphers have other contexts of OpenSSL. -/
structure SameClient (client client' : Client Ctx) : Prop where
  svps : client'.svps = client.svps
  ciphers : ∀ {context cipher}, client.ciphers context = .ok cipher →
    ∃ cipher', client'.ciphers context = .ok cipher' ∧
      cipher'.cipherAlgorithm = cipher.cipherAlgorithm ∧
      cipher'.cipherMode = cipher.cipherMode ∧
      cipher'.symmetricContext.isSome = cipher.symmetricContext.isSome

theorem SameClient.refl (client : Client Ctx) : SameClient client client :=
  ⟨rfl, fun h => ⟨_, h, rfl, rfl, rfl⟩⟩

theorem SameClient.setEvpCipher {client client' : Client Ctx} (h : SameClient client client')
    (context : Nat) (evpCipher : Ctx) :
    SameClient client (client'.setEvpCipher context evpCipher) where
  svps := h.svps
  ciphers := by
    intro handle cipher hcipher
    obtain ⟨cipher', hcipher', halg, hmode, hcontext⟩ := h.ciphers hcipher
    simp only [Client.setEvpCipher, Function.update_apply]
    split_ifs with he
    · subst he
      refine ⟨cipher'.setEvpCipher evpCipher, by rw [hcipher']; rfl, halg, hmode, ?_⟩
      rw [← hcontext]
      exact Option.isSome_map
    · exact ⟨cipher', hcipher', halg, hmode, hcontext⟩

/-- A sample that was accepted, with what was found for it. -/
structure Accepted (client : Client Ctx) (buffers : Nat → SaBuffer) (sample : SharedSample)
    (cipher : Cipher Ctx) (out inp outBytes inBytes : Nat) : Prop where
  ivFound : sample.iv.isSome
  lengthsFound : sample.subsampleLengths.isSome
  outFound : sample.out = some out
  inFound : sample.inp = some inp
  cipherFound : client.ciphers sample.context = .ok cipher
  mode : cipher.cipherMode = .decrypt
  algorithm : cipher.cipherAlgorithm = .aesCtr ∨ cipher.cipherAlgorithm = .aesCbc
  outType : (buffers out).isClear ∨ (buffers out).isSvp
  inType : (buffers inp).isClear ∨ (buffers inp).isSvp
  noOverflow : sample.requiredLength ≠ cencOverflow
  outRange : convertBuffer client sample.requiredLength (buffers out) = .ok outBytes
  inRange : convertBuffer client sample.requiredLength (buffers inp) = .ok inBytes
  apart : ¬ overlaps outBytes inBytes sample.requiredLength

theorem accepted_of_verifySample {client : Client Ctx}
    (h : verifySample client reading (sample.load buffers) = .ok ()) :
    ∃ cipher out inp outBytes inBytes, Accepted client buffers sample cipher out inp outBytes
      inBytes := by
  obtain ⟨cipher, subsamples, outBuffer, inBuffer, outBytes, inBytes, hv⟩ := verifySample_ok h
  obtain ⟨out, hout, rfl⟩ := Option.map_eq_some_iff.1 hv.outFound
  obtain ⟨inp, hinp, rfl⟩ := Option.map_eq_some_iff.1 hv.inFound
  have hlengths : sample.subsampleLengths = some subsamples := hv.lengthsFound
  have hlength : sample.requiredLength = cencGetRequiredLength subsamples := by
    rw [SharedSample.requiredLength, hlengths]
    rfl
  refine ⟨cipher, out, inp, outBytes, inBytes, ?_⟩
  exact {
    ivFound := hv.ivFound
    lengthsFound := by rw [hlengths]; rfl
    outFound := hout
    inFound := hinp
    cipherFound := hv.cipherFound
    mode := hv.mode
    algorithm := hv.algorithm
    outType := hv.outType
    inType := hv.inType
    noOverflow := hlength ▸ hv.noOverflow
    outRange := hlength ▸ hv.outRange
    inRange := hlength ▸ hv.inRange
    apart := hlength ▸ hv.apart }

theorem verifySharedSamples_ok {client : Client Ctx} {samples : List (Reading × SharedSample)}
    (h : verifySharedSamples client buffers samples = .ok ()) :
    ∀ sample ∈ samples.map Prod.snd, ∃ cipher out inp outBytes inBytes,
      Accepted client buffers sample cipher out inp outBytes inBytes := by
  induction samples with
  | nil => nofun
  | cons first rest ih =>
    obtain ⟨reading, sample⟩ := first
    obtain ⟨u, hfirst, hrest⟩ := bind_eq_ok.1 h
    exact List.forall_mem_cons.2 ⟨accepted_of_verifySample hfirst, ih hrest⟩

section Processing

variable {client : Client Ctx} {buffers : Nat → SaBuffer} {σ σ' : SamplesState Ctx}
  {sample : SharedSample} {cipher : Cipher Ctx} {earlier : List SharedSample}

theorem Accepted.different (ha : Accepted client buffers sample cipher out inp outBytes inBytes) :
    out ≠ inp := by
  rintro rfl
  have hsame := ha.outRange.symm.trans ha.inRange
  cases hsame
  exact ha.apart (.inl ⟨le_rfl, Nat.le_add_right _ _⟩)

theorem Accepted.length_lt (ha : Accepted client buffers sample cipher out inp outBytes inBytes) :
    sample.requiredLength < 2 ^ 63 := by
  obtain ⟨-, hout⟩ := convertBuffer_range ha.outType ha.outRange
  obtain ⟨-, hin⟩ := convertBuffer_range ha.inType ha.inRange
  have hapart := ha.apart
  unfold overlaps at hapart
  omega

theorem traversed_concat (p : Nat) (earlier : List SharedSample) (sample : SharedSample) :
    traversed p (earlier ++ [sample]) = traversed p earlier +
      ((if sample.inp = some p then sample.requiredLength else 0) +
        if sample.out = some p then sample.requiredLength else 0) := by
  simp [traversed]

/-- After some samples of an accepted list, each buffer that holds bytes has been moved by theirs,
and not past its end. -/
structure BuffersMoved (client : Client Ctx) (buffers : Nat → SaBuffer)
    (earlier : List SharedSample) (σ : SamplesState Ctx) : Prop where
  sameClient : SameClient client σ.client
  moved : ∀ {p n bytes}, (buffers p).isClear ∨ (buffers p).isSvp →
    convertBuffer client n (buffers p) = .ok bytes →
    traversed p earlier ≤ room client (buffers p) ∧
      σ.buffers p = (buffers p).advance (traversed p earlier)

theorem advance_zero {buffer : SaBuffer} (hb : buffer.isClear ∨ buffer.isSvp)
    (h : convertBuffer client n buffer = .ok bytes) : buffer.advance 0 = buffer := by
  cases buffer with
  | clear buffer length offset =>
    obtain ⟨-, hvalid, hlen, -⟩ := convertBuffer_clear.1 h
    simp only [SaBuffer.advance]
    congr 1
    omega
  | svp buffer offset =>
    obtain ⟨svpBuffer, -, hlen, -⟩ := convertBuffer_svp.1 h
    obtain ⟨-, hvalid⟩ := memoryIsValid_iff.1 svpBuffer.valid
    simp only [SaBuffer.advance]
    congr 1
    omega
  | other => simp [SaBuffer.isClear, SaBuffer.isSvp] at hb

theorem buffersMoved_nil (client : Client Ctx) (buffers : Nat → SaBuffer) (memory : Memory) :
    BuffersMoved client buffers [] ⟨client, buffers, memory⟩ :=
  ⟨.refl client, fun hb h => ⟨Nat.zero_le _, (advance_zero hb h).symm⟩⟩

theorem BuffersMoved.converted (hi : BuffersMoved client buffers earlier σ)
    (hb : (buffers p).isClear ∨ (buffers p).isSvp)
    (h : convertBuffer client n (buffers p) = .ok bytes) :
    convertBuffer σ.client n (σ.buffers p) = .ok bytes' ↔
      traversed p earlier + n ≤ room client (buffers p) ∧
        bytes' = bytes + traversed p earlier := by
  obtain ⟨hroom, hmoved⟩ := hi.moved hb h
  rw [convertBuffer_congr hi.sameClient.svps, hmoved]
  exact convertBuffer_advance hb h hroom

theorem BuffersMoved.rangesVerified (hi : BuffersMoved client buffers earlier σ)
    (ha : Accepted client buffers sample cipher out inp outBytes inBytes) :
    RangesVerified σ.client σ.buffers sample ↔ MovedApart client buffers earlier sample := by
  constructor
  · rintro ⟨out', inp', outBytes', inBytes', hout, hinp, hout', hin', hapart⟩
    cases ha.outFound.symm.trans hout
    cases ha.inFound.symm.trans hinp
    obtain ⟨hroomOut, rfl⟩ := (hi.converted ha.outType ha.outRange).1 hout'
    obtain ⟨hroomIn, rfl⟩ := (hi.converted ha.inType ha.inRange).1 hin'
    intro out₁ inp₁ outBytes₁ inBytes₁ hout₁ hinp₁ houtBytes hinBytes
    cases ha.outFound.symm.trans hout₁
    cases ha.inFound.symm.trans hinp₁
    cases ha.outRange.symm.trans houtBytes
    cases ha.inRange.symm.trans hinBytes
    exact ⟨hroomOut, hroomIn, hapart⟩
  · intro hm
    obtain ⟨hroomOut, hroomIn, hapart⟩ :=
      hm out inp outBytes inBytes ha.outFound ha.inFound ha.outRange ha.inRange
    exact ⟨out, inp, _, _, ha.outFound, ha.inFound,
      (hi.converted ha.outType ha.outRange).2 ⟨hroomOut, rfl⟩,
      (hi.converted ha.inType ha.inRange).2 ⟨hroomIn, rfl⟩, hapart⟩

/-- What the processing of an accepted sample starts with, where it comes to start. -/
theorem BuffersMoved.started (hi : BuffersMoved client buffers earlier σ)
    (ha : Accepted client buffers sample cipher out inp outBytes inBytes)
    (hs : cencSetup σ.client (sample.load σ.buffers) = .ok (setup, subsamples)) :
    sample.subsampleLengths = some subsamples ∧
      sample.requiredLength = totalLength subsamples ∧
      setup.Fits sample.requiredLength ∧ setup.cryptByteBlock = sample.cryptByteBlock ∧
      setup.skipByteBlock = sample.skipByteBlock ∧ cipher.symmetricContext.isSome ∧
      traversed out earlier + sample.requiredLength ≤ room client (buffers out) ∧
      traversed inp earlier + sample.requiredLength ≤ room client (buffers inp) := by
  obtain ⟨cipher', outBuffer, inBuffer, iv, context, outBytes', inBytes', hcipher, hlengths, hout,
    hinp, -, hlen, hout', hin', hcontext, rfl⟩ := cencSetup_eq_ok.1 hs
  obtain ⟨cipher₁, hcipher₁, halg, hmode, hsome⟩ := hi.sameClient.ciphers ha.cipherFound
  cases hcipher.symm.trans hcipher₁
  have hsubsamples : sample.subsampleLengths = some subsamples := hlengths
  have hlength : sample.requiredLength = cencGetRequiredLength subsamples := by
    rw [SharedSample.requiredLength, hsubsamples]
    rfl
  rw [← hlength] at hout' hin' hlen
  have houtBuffer : outBuffer = σ.buffers out := by
    have hfound : sample.out.map σ.buffers = some outBuffer := hout
    rw [ha.outFound] at hfound
    exact (Option.some.inj hfound).symm
  have hinBuffer : inBuffer = σ.buffers inp := by
    have hfound : sample.inp.map σ.buffers = some inBuffer := hinp
    rw [ha.inFound] at hfound
    exact (Option.some.inj hfound).symm
  subst houtBuffer hinBuffer
  obtain ⟨hroomOut, rfl⟩ := (hi.converted ha.outType ha.outRange).1 hout'
  obtain ⟨hroomIn, rfl⟩ := (hi.converted ha.inType ha.inRange).1 hin'
  obtain ⟨houtNe, -⟩ := convertBuffer_range ha.outType ha.outRange
  obtain ⟨hinNe, -⟩ := convertBuffer_range ha.inType ha.inRange
  obtain ⟨hagrees, hagrees'⟩ := cipher'.agrees context hcontext
  refine ⟨hsubsamples, hlength.trans (cencGetRequiredLength_eq (hlength ▸ hlen)).1, ?_, rfl, rfl,
    ?_,
    hroomOut, hroomIn⟩
  · exact {
      algorithm := by rw [halg]; exact ha.algorithm
      contextAlgorithm := hagrees
      contextMode := hagrees'.trans (hmode.trans ha.mode)
      outNonNull := by dsimp only; omega
      inNonNull := by dsimp only; omega
      length_lt := ha.length_lt }
  · rw [← hsome, hcontext]
    rfl

theorem progresses_iff_processable {sample : SharedSample}
    (hlengths : sample.subsampleLengths = some subsamples)
    (hcrypt : setup.cryptByteBlock = sample.cryptByteBlock)
    (hskip : setup.skipByteBlock = sample.skipByteBlock) :
    (∀ subsample ∈ subsamples, setup.cryptByteBlock = 0 ∨
        Progresses setup subsample.bytesOfProtectedData) ↔
      ∀ subsample ∈ sample.subsampleLengths.getD [], sample.cryptByteBlock = 0 ∨
        subsample.bytesOfProtectedData < aesBlockSize ∨
        ¬ (2 ^ 60 ∣ sample.cryptByteBlock ∧ 2 ^ 60 ∣ sample.skipByteBlock) := by
  rw [hlengths, Option.getD_some]
  simp only [progresses_iff, hcrypt, hskip]

/-- A sample that was processed with success has moved its buffers on, and is one that can be
processed. -/
theorem BuffersMoved.processed (hi : BuffersMoved client buffers earlier σ)
    (ha : Accepted client buffers sample cipher out inp outBytes inBytes)
    (h : cencProcessShared evp sample σ = (.ok (), σ')) :
    BuffersMoved client buffers (earlier ++ [sample]) σ' ∧ Processable client sample := by
  unfold cencProcessShared at h
  cases hs : cencSetup σ.client (sample.load σ.buffers) with
  | error exit =>
    rw [hs] at h
    exact absurd (Prod.mk.inj h).1 nofun
  | ok started =>
    obtain ⟨setup, subsamples⟩ := started
    obtain ⟨hlengths, hlength, hfits, hcrypt, hskip, hcontext, hroomOut, hroomIn⟩ :=
      hi.started ha hs
    rw [hs] at h
    dsimp only at h
    split at h
    · exact absurd (Prod.mk.inj h).1 nofun
    · rename_i offset hoffset
      obtain ⟨-, rfl⟩ := Prod.mk.inj h
      obtain rfl : offset = totalLength subsamples :=
        (processBytes_offset evp hfits hlength.ge σ.memory).of_ok (Prod.ext hoffset rfl)
      have hrun : (processBytes evp setup subsamples).run.run (setup.start σ.memory) =
          (.ok (totalLength subsamples), _) := Prod.ext hoffset rfl
      have hprogress := (processBytes_progresses evp).of_ok hrun
      refine ⟨⟨hi.sameClient.setEvpCipher _ _, fun {p n bytes} hb hbytes => ?_⟩, ?_, ?_⟩
      · obtain ⟨hroom, hmoved⟩ := hi.moved hb hbytes
        have hne := ha.different
        rw [traversed_concat, ha.inFound, ha.outFound, ← hlength]
        simp only [advanceAt, Option.elim_some, Option.some.injEq]
        rcases eq_or_ne inp p with rfl | hinp
        · rw [if_pos rfl, if_neg hne, Function.update_of_ne hne.symm, Function.update_self, hmoved,
            advance_advance]
          exact ⟨hroomIn, rfl⟩
        rcases eq_or_ne out p with rfl | hout
        · rw [if_neg hinp, if_pos rfl, Function.update_self, Function.update_of_ne hne, hmoved,
            advance_advance, Nat.zero_add]
          exact ⟨hroomOut, rfl⟩
        · rw [if_neg hinp, if_neg hout, Function.update_of_ne hout.symm,
            Function.update_of_ne hinp.symm]
          exact ⟨hroom, hmoved⟩
      · intro cipher₁ hcipher
        cases ha.cipherFound.symm.trans hcipher
        exact hcontext
      · exact (progresses_iff_processable hlengths hcrypt hskip).1 hprogress

/-- Where OpenSSL never fails, a sample is processed with success where its ranges still lie in
their buffers. -/
theorem BuffersMoved.succeeds (hnever : evp.NeverFails)
    (hi : BuffersMoved client buffers earlier σ)
    (ha : Accepted client buffers sample cipher out inp outBytes inBytes)
    (hp : Processable client sample) (hm : MovedApart client buffers earlier sample) :
    ∃ σ', cencProcessShared evp sample σ = (.ok (), σ') := by
  obtain ⟨hroomOut, hroomIn, -⟩ :=
    hm out inp outBytes inBytes ha.outFound ha.inFound ha.outRange ha.inRange
  obtain ⟨iv, hiv⟩ := Option.isSome_iff_exists.1 ha.ivFound
  obtain ⟨subsamples, hlengths⟩ := Option.isSome_iff_exists.1 ha.lengthsFound
  obtain ⟨cipher', hcipher, -, -, hsome⟩ := hi.sameClient.ciphers ha.cipherFound
  obtain ⟨context, hcontext⟩ :=
    Option.isSome_iff_exists.1 (hsome.trans (hp.1 cipher ha.cipherFound))
  have hlength : sample.requiredLength = cencGetRequiredLength subsamples := by
    rw [SharedSample.requiredLength, hlengths]
    rfl
  obtain ⟨setup, hs⟩ : ∃ setup : CencSetup Ctx,
      cencSetup σ.client (sample.load σ.buffers) = .ok (setup, subsamples) := by
    refine ⟨_, cencSetup_eq_ok.2 ⟨cipher', σ.buffers out, σ.buffers inp, iv, context,
      outBytes + traversed out earlier, inBytes + traversed inp earlier, hcipher, hlengths,
      congrArg (Option.map σ.buffers) ha.outFound, congrArg (Option.map σ.buffers) ha.inFound,
      hiv, hlength ▸ ha.noOverflow, ?_, ?_, hcontext, rfl⟩⟩
    · rw [← hlength]
      exact (hi.converted ha.outType ha.outRange).2 ⟨hroomOut, rfl⟩
    · rw [← hlength]
      exact (hi.converted ha.inType ha.inRange).2 ⟨hroomIn, rfl⟩
  obtain ⟨-, hlength, hfits, hcrypt, hskip, -, -, -⟩ := hi.started ha hs
  have hprogress := (progresses_iff_processable hlengths hcrypt hskip).2 hp.2
  obtain ⟨offset, hoffset, -⟩ :=
    (processBytes_succeeds hnever hfits hlength.ge hprogress σ.memory).exists_ok
  unfold cencProcessShared
  rw [hs]
  dsimp only
  rw [hoffset]
  exact ⟨_, rfl⟩

theorem processSharedSamples_cons {rest : List SharedSample} :
    processSharedSamples evp (sample :: rest) σ = (.ok (), σ') ↔
      ∃ σ₁, cencProcessShared evp sample σ = (.ok (), σ₁) ∧
        processSharedSamples evp rest σ₁ = (.ok (), σ') := by
  rw [processSharedSamples]
  constructor
  · intro h
    split at h
    · rename_i σ₁ hfirst
      exact ⟨σ₁, hfirst, h⟩
    · rename_i r hne
      exact absurd h (hne σ')
  · rintro ⟨σ₁, hfirst, hrest⟩
    rw [hfirst]
    exact hrest

/-- One sample after the other, by induction on the list. -/
theorem BuffersMoved.run {before : List SharedSample} (hi : BuffersMoved client buffers before σ)
    (hacc : ∀ sample ∈ earlier, ∃ cipher out inp outBytes inBytes,
      Accepted client buffers sample cipher out inp outBytes inBytes)
    (h : processSharedSamples evp earlier σ = (.ok (), σ')) :
    BuffersMoved client buffers (before ++ earlier) σ' ∧
      ∀ sample ∈ earlier, Processable client sample := by
  induction earlier generalizing before σ with
  | nil =>
    cases h
    exact ⟨by rwa [List.append_nil], nofun⟩
  | cons sample rest ih =>
    obtain ⟨σ₁, hfirst, hrest⟩ := processSharedSamples_cons.1 h
    obtain ⟨⟨cipher, out, inp, outBytes, inBytes, ha⟩, hacc⟩ := List.forall_mem_cons.1 hacc
    obtain ⟨hi₁, hp⟩ := hi.processed ha hfirst
    obtain ⟨hi', hps⟩ := ih hi₁ hacc hrest
    rw [List.append_assoc, List.singleton_append] at hi'
    exact ⟨hi', List.forall_mem_cons.2 ⟨hp, hps⟩⟩

/-- Samples that can be processed, and whose ranges still lie in their buffers behind those before
them, are processed with success where OpenSSL never fails. -/
theorem BuffersMoved.reaches (hnever : evp.NeverFails) {before : List SharedSample}
    (hi : BuffersMoved client buffers before σ)
    (hacc : ∀ sample ∈ earlier, ∃ cipher out inp outBytes inBytes,
      Accepted client buffers sample cipher out inp outBytes inBytes)
    (hp : ∀ sample ∈ earlier, Processable client sample)
    (hm : ∀ pre sample post, earlier = pre ++ sample :: post →
      MovedApart client buffers (before ++ pre) sample) :
    ∃ σ', processSharedSamples evp earlier σ = (.ok (), σ') := by
  induction earlier generalizing before σ with
  | nil => exact ⟨σ, rfl⟩
  | cons sample rest ih =>
    obtain ⟨⟨cipher, out, inp, outBytes, inBytes, ha⟩, hacc⟩ := List.forall_mem_cons.1 hacc
    obtain ⟨hp, hps⟩ := List.forall_mem_cons.1 hp
    have hfirst := hm [] sample rest rfl
    rw [List.append_nil] at hfirst
    obtain ⟨σ₁, hprocessed⟩ := hi.succeeds hnever ha hp hfirst
    obtain ⟨hi₁, -⟩ := hi.processed ha hprocessed
    obtain ⟨σ', hrest⟩ := ih hi₁ hacc hps fun pre sample' post he => by
      have hmoved := hm (sample :: pre) sample' post (by rw [he, List.cons_append])
      rwa [List.append_assoc, List.singleton_append]
    exact ⟨σ', processSharedSamples_cons.2 ⟨σ₁, hprocessed, hrest⟩⟩

end Processing

def Evp.idle : Evp Ctx where
  decryptUpdate context memory _ _ inl := ⟨true, context, memory, inl⟩
  decryptInit context _ := (true, context)
  encryptInit context _ := (true, context)

theorem Evp.idle_neverFails : (Evp.idle : Evp Ctx).NeverFails where
  update _ _ _ _ _ := rfl
  init _ _ := rfl

/-- The ranges of a list of samples that was accepted are, when each sample is processed, as the
verification requires exactly where, behind the bytes that the samples before move its offsets by,
they still lie in their buffers and apart, for each sample that comes behind samples that can all be
processed. -/
theorem processSharedSamples_verified_exact {client : Client Ctx}
    {samples : List (Reading × SharedSample)}
    (hv : verifySharedSamples client buffers samples = .ok ()) :
    StaysVerified client buffers (samples.map Prod.snd) ↔
      ∀ earlier sample later, samples.map Prod.snd = earlier ++ sample :: later →
        (∀ e ∈ earlier, Processable client e) → MovedApart client buffers earlier sample := by
  have hacc := verifySharedSamples_ok hv
  have haccEarlier : ∀ {earlier sample later},
      samples.map Prod.snd = earlier ++ sample :: later →
      ∀ e ∈ earlier, ∃ cipher out inp outBytes inBytes,
        Accepted client buffers e cipher out inp outBytes inBytes :=
    fun hsplit e he => hacc e (hsplit ▸ List.mem_append_left _ he)
  have haccSample : ∀ {earlier sample later},
      samples.map Prod.snd = earlier ++ sample :: later →
      ∃ cipher out inp outBytes inBytes,
        Accepted client buffers sample cipher out inp outBytes inBytes :=
    fun hsplit => hacc _ (hsplit ▸ List.mem_append_right _ List.mem_cons_self)
  constructor
  · intro hstays earlier
    induction hn : earlier.length using Nat.strong_induction_on generalizing earlier with
    | h n ih =>
      subst hn
      intro sample later hsplit hp
      obtain ⟨cipher, out, inp, outBytes, inBytes, ha⟩ := haccSample hsplit
      have hmoved : ∀ pre e post, earlier = pre ++ e :: post →
          MovedApart client buffers ([] ++ pre) e := by
        rintro pre e post rfl
        refine ih pre.length ?_ pre rfl e (post ++ sample :: later) ?_ fun e' he' =>
          hp e' (List.mem_append_left _ he')
        · simp
        · rw [hsplit, List.append_assoc, List.cons_append]
      have hstart := buffersMoved_nil client buffers fun _ => 0
      obtain ⟨σ, hrun⟩ :=
        hstart.reaches Evp.idle_neverFails (haccEarlier hsplit) hp hmoved
      obtain ⟨hi, -⟩ := hstart.run (haccEarlier hsplit) hrun
      exact (hi.rangesVerified ha).1 (hstays _ _ _ _ _ _ hsplit hrun)
  · intro hmoved evp memory earlier sample later σ hsplit hrun
    obtain ⟨cipher, out, inp, outBytes, inBytes, ha⟩ := haccSample hsplit
    obtain ⟨hi, hp⟩ :=
      (buffersMoved_nil client buffers memory).run (haccEarlier hsplit) hrun
    exact (hi.rangesVerified ha).2 (hmoved earlier sample later hsplit hp)

/-- A sample of `ctrClient` of one block, between two shared buffers. -/
def sharedSample (inp out : Nat) : SharedSample where
  iv := some ⟨0, 7⟩
  ivLength := 16
  cryptByteBlock := 0
  skipByteBlock := 0
  subsampleLengths := some [⟨0, 16⟩]
  context := 0
  out := some out
  inp := some inp

/-- An input, an output away from it, and an output just behind its first block. -/
def sharedBuffers : Nat → SaBuffer
  | 0 => .clear 1000 500 0
  | 1 => .clear 2000 500 0
  | _ => .clear 1020 16 0

theorem processSharedSamples_verified_exact_two_blocks :
    StaysVerified ctrClient sharedBuffers
        ([(noOutputs, sharedSample 0 1), (noOutputs, sharedSample 0 1)].map Prod.snd) ↔
      ∀ earlier sample later,
        [(noOutputs, sharedSample 0 1), (noOutputs, sharedSample 0 1)].map Prod.snd =
          earlier ++ sample :: later →
        (∀ e ∈ earlier, Processable ctrClient e) →
        MovedApart ctrClient sharedBuffers earlier sample :=
  processSharedSamples_verified_exact (by decide)

/-- The second sample is accepted with its input before its output, and decrypted with the two
overlapping, once the first sample has moved their common input. -/
theorem processSharedSamples_overlap :
    verifySharedSamples ctrClient sharedBuffers
      [(noOutputs, sharedSample 0 1), (noOutputs, sharedSample 0 2)] = .ok () ∧
    (taSaProcessCommonEncryption (Evp.ctr fun _ _ => 0)
      (some [(noOutputs, sharedSample 0 1), (noOutputs, sharedSample 0 2)])
      ⟨ctrClient, sharedBuffers, fun _ => 0⟩).1 = .ok () ∧
    ¬ StaysVerified ctrClient sharedBuffers [sharedSample 0 1, sharedSample 0 2] := by
  refine ⟨by decide, by decide +kernel, fun hstays => ?_⟩
  have hok : (processSharedSamples (Evp.ctr fun _ _ => 0) [sharedSample 0 1]
      ⟨ctrClient, sharedBuffers, fun _ => 0⟩).1 = .ok () := by
    decide +kernel
  obtain ⟨out, inp, outBytes, inBytes, hout, hinp, houtBytes, hinBytes, hapart⟩ :=
    hstays (Evp.ctr fun _ _ => 0) (fun _ => 0) [sharedSample 0 1] (sharedSample 0 2) [] _ rfl
      (Prod.ext hok rfl)
  cases hout
  cases hinp
  have hout : outBytes = 1020 := by
    have hfound : Except.ok (ε := SaStatus) 1020 = .ok outBytes := houtBytes
    exact (Except.ok.inj hfound).symm
  have hin : inBytes = 1016 := by
    have hfound : Except.ok (ε := SaStatus) 1016 = .ok inBytes := hinBytes
    exact (Except.ok.inj hfound).symm
  subst hout hin
  exact hapart (by decide)

end TaSecureApi
