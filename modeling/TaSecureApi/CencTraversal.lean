import TaSecureApi.CencSteps

namespace TaSecureApi
set_option autoImplicit true
open Wp

variable {Ctx : Type} {ε : Type} {evp : Evp Ctx} {setup : CencSetup Ctx} {s s' : CencState Ctx}

/-- An invariant `I` of the bytes of the sample before an offset, where the code is to copy some
ranges and to decrypt others, and what holds wherever the code stops. Behind a decryption that fails
in a mode with a pattern, the bytes that are left are copied. -/
structure Keeps (evp : Evp Ctx) (setup : CencSetup Ctx) (length : Nat)
    (I : Nat → CencState Ctx → Prop) (stopped : CencState Ctx → Prop)
    (copies decrypts : Nat → Nat → Prop) : Prop where
  stop : ∀ k s, I k s → stopped s
  status : ∀ k s status, I k s → I k { s with status := status }
  copy : ∀ k n s, copies k n → I k s → wp (copyClear (ε := CencExit) setup n)
    (fun _ => I (k + n)) (fun _ => stopped) s
  decrypt : ∀ k n s, decrypts k n → I k s → wp (decryptProtected evp setup n)
    (fun _ => I (k + n))
    (fun _ s' => stopped s' ∧ (setup.cryptByteBlock ≠ 0 → ∀ m status, k + m ≤ length →
      wp (copyClear (ε := CencExit) setup m) (fun _ => I (k + m)) (fun _ => stopped)
        { s' with status := status })) s
  restart : ∀ k s, setup.cipherAlgorithm = .aesCbc → I k s → wp (contextSetIv evp)
    (fun _ => I k) (fun _ => stopped) { s with iv := setup.iv }

section Planned

variable (setup : CencSetup Ctx) (copies decrypts : Nat → Nat → Prop)

/-- The ranges that the loop over the stripes copies and decrypts are ones it is to. -/
def StripesPlanned : (fuel k bytesLeft : Nat) → Prop
  | 0, k, bytesLeft => bytesLeft < aesBlockSize → copies k bytesLeft
  | fuel + 1, k, bytesLeft =>
    if bytesLeft ≥ aesBlockSize then
      let block := stripe setup.cryptByteBlock bytesLeft
      let skipped := if setup.skipByteBlock > 0 then
        stripe setup.skipByteBlock (bytesLeft - block) else 0
      (block > 0 → decrypts k block) ∧ copies (k + block) skipped ∧
      StripesPlanned fuel (k + block + skipped) (bytesLeft - block - skipped)
    else copies k bytesLeft

def FullPlanned (k p : Nat) : Prop :=
  let remainder := if setup.cipherAlgorithm = .aesCbc then p % aesBlockSize else 0
  decrypts k (p - remainder) ∧ copies (k + (p - remainder)) remainder

def ProtectedPlanned (k p : Nat) : Prop :=
  if setup.cryptByteBlock = 0 then FullPlanned setup copies decrypts k p
  else StripesPlanned setup copies decrypts p k p

def SamplePlanned : (k : Nat) → List SaSubsampleLength → Prop
  | _, [] => True
  | k, subsample :: rest =>
    copies k subsample.bytesOfClearData ∧
    (subsample.bytesOfProtectedData > 0 → ProtectedPlanned setup copies decrypts
      (k + subsample.bytesOfClearData) subsample.bytesOfProtectedData) ∧
    SamplePlanned (k + subsample.bytesOfClearData + subsample.bytesOfProtectedData) rest

end Planned

theorem stripe_le (block left : Nat) : stripe block left ≤ left := by
  unfold stripe
  exact (Nat.min_le_right _ _).trans (Nat.div_mul_le_self _ _)

variable {I : Nat → CencState Ctx → Prop} {stopped : CencState Ctx → Prop}
  {copies decrypts : Nat → Nat → Prop} {length : Nat}

theorem Keeps.wp_processFull (hk : Keeps evp setup length I stopped copies decrypts)
    (hp : FullPlanned setup copies decrypts k p) (h : I k s) :
    wp (processFull evp setup p) (fun _ => I (k + p)) (fun _ => stopped) s := by
  have hle : (if setup.cipherAlgorithm = .aesCbc then p % aesBlockSize else 0) ≤ p := by
    split_ifs
    · exact Nat.mod_le _ _
    · exact Nat.zero_le _
  simp only [processFull, wp_bind]
  apply wp_orBreak
  apply (hk.decrypt _ _ _ hp.1 h).mono
  · intro _ s₁ h₁
    have hc := hk.copy _ _ _ hp.2 (hk.status _ _ .ok h₁)
    rwa [Nat.add_assoc, Nat.sub_add_cancel hle] at hc
  · rintro e s₁ ⟨h₁, -⟩
    exact h₁

theorem Keeps.wp_cryptStripe (hk : Keeps evp setup length I stopped copies decrypts)
    (hc : setup.cryptByteBlock ≠ 0) (hp : block > 0 → decrypts k block) (h : I k s) :
    wp (cryptStripe evp setup block)
      (fun going s' => if going then I (k + block) s'
        else ∀ m, k + m ≤ length →
          wp (copyClear (ε := CencExit) setup m) (fun _ => I (k + m)) (fun _ => stopped) s')
      (fun _ => stopped) s := by
  simp only [cryptStripe, wp_ite]
  constructor
  · intro hpos
    simp only [wp_bind, wp_outcome]
    apply (hk.decrypt _ _ _ (hp hpos) h).mono
    · intro _ s₁ h₁
      exact hk.status _ _ .ok h₁
    · rintro e s₁ ⟨-, h₁⟩ m hm
      exact h₁ hc m e hm
  · intro hzero
    obtain rfl : block = 0 := by omega
    exact h

/-- One stripe after the other, by induction on the fuel. -/
theorem Keeps.wp_patternLoop (hk : Keeps evp setup length I stopped copies decrypts)
    (hc : setup.cryptByteBlock ≠ 0) (hp : StripesPlanned setup copies decrypts fuel k left)
    (hle : k + left ≤ length) (h : I k s) :
    wp (patternLoop evp setup fuel left)
      (fun left' s' => wp (copyClear (ε := CencExit) setup left') (fun _ => I (k + left))
        (fun _ => stopped) s')
      (fun _ => stopped) s := by
  induction fuel generalizing k left s with
  | zero =>
    simp only [patternLoop, wp_ite, wp_throw, wp_pure]
    exact ⟨fun _ => hk.stop _ _ h, fun hlt => hk.copy _ _ _ (hp (by omega)) h⟩
  | succ fuel ih =>
    simp only [patternLoop, wp_ite, wp_bind, wp_pure]
    unfold StripesPlanned at hp
    constructor
    · intro hge
      rw [if_pos hge] at hp
      obtain ⟨hblock, hskip, hrest⟩ := hp
      apply (hk.wp_cryptStripe hc hblock h).mono
      · intro going s₁ h₁
        simp only [wp_ite, wp_bind, wp_pure]
        constructor
        · rintro rfl
          have hle₁ := stripe_le setup.cryptByteBlock left
          have hle₂ : (if setup.skipByteBlock > 0 then stripe setup.skipByteBlock
              (left - stripe setup.cryptByteBlock left) else 0) ≤
                left - stripe setup.cryptByteBlock left := by
            split_ifs
            · exact stripe_le _ _
            · exact Nat.zero_le _
          apply (hk.copy _ _ _ hskip h₁).mono
          · intro _ s₂ h₂
            have hleft := ih hrest (by omega) h₂
            have hsum : k + stripe setup.cryptByteBlock left + (if setup.skipByteBlock > 0 then
                stripe setup.skipByteBlock (left - stripe setup.cryptByteBlock left) else 0) +
                (left - stripe setup.cryptByteBlock left - if setup.skipByteBlock > 0 then
                stripe setup.skipByteBlock (left - stripe setup.cryptByteBlock left) else 0) =
                  k + left := by omega
            rwa [hsum] at hleft
          · exact fun _ _ h₂ => h₂
        · intro hgoing
          rw [if_neg hgoing] at h₁
          exact h₁ _ hle
      · exact fun _ _ h₁ => h₁
    · intro hlt
      rw [if_neg hlt] at hp
      exact hk.copy _ _ _ hp h

theorem Keeps.wp_processPattern (hk : Keeps evp setup length I stopped copies decrypts)
    (hc : setup.cryptByteBlock ≠ 0) (hp : StripesPlanned setup copies decrypts p k p)
    (hle : k + p ≤ length) (h : I k s) :
    wp (processPattern evp setup p) (fun _ => I (k + p)) (fun _ => stopped) s := by
  have hloop : ∀ s₁, I k s₁ → wp (patternLoop evp setup p p >>= copyClear setup)
      (fun _ => I (k + p)) (fun _ => stopped) s₁ := by
    intro s₁ h₁
    rw [wp_bind]
    exact hk.wp_patternLoop hc hp hle h₁
  simp only [processPattern, wp_ite, wp_bind, wp_modify]
  refine ⟨fun hcbc => ?_, fun _ => (wp_bind _ _).1 (hloop s h)⟩
  apply wp_orBreak
  apply (hk.restart _ _ hcbc h).mono
  · exact fun _ s₁ h₁ => hloop _ (hk.status _ _ .ok h₁)
  · exact fun _ _ h₁ => h₁

theorem Keeps.wp_processSubsample (hk : Keeps evp setup length I stopped copies decrypts)
    (hcopy : copies k subsample.bytesOfClearData)
    (hp : subsample.bytesOfProtectedData > 0 → ProtectedPlanned setup copies decrypts
      (k + subsample.bytesOfClearData) subsample.bytesOfProtectedData)
    (hle : k + subsample.bytesOfClearData + subsample.bytesOfProtectedData ≤ length)
    (h : I k s) : wp (processSubsample evp setup subsample)
      (fun _ => I (k + subsample.bytesOfClearData + subsample.bytesOfProtectedData))
      (fun _ => stopped) s := by
  simp only [processSubsample, wp_bind]
  apply (hk.copy _ _ _ hcopy h).mono
  · intro _ s₁ h₁
    simp only [wp_ite, wp_pure]
    refine ⟨fun hpos => ⟨fun hfull => ?_, fun hpattern => ?_⟩, fun hzero => ?_⟩
    · have hplan := hp hpos
      rw [ProtectedPlanned, if_pos hfull] at hplan
      exact hk.wp_processFull hplan h₁
    · have hplan := hp hpos
      rw [ProtectedPlanned, if_neg hpattern] at hplan
      exact hk.wp_processPattern hpattern hplan hle h₁
    · obtain hz : subsample.bytesOfProtectedData = 0 := by omega
      rwa [hz]
  · exact fun _ _ h₁ => h₁

def totalLength (subsamples : List SaSubsampleLength) : Nat :=
  (subsamples.map fun s => s.bytesOfClearData + s.bytesOfProtectedData).sum

/-- One subsample after the other, by induction on the list. -/
theorem Keeps.wp_processSubsamples (hk : Keeps evp setup length I stopped copies decrypts)
    (hp : SamplePlanned setup copies decrypts k subsamples)
    (hle : k + totalLength subsamples ≤ length) (h : I k s) :
    wp (processSubsamples evp setup subsamples)
      (fun _ => I (k + totalLength subsamples)) (fun _ => stopped) s := by
  induction subsamples generalizing k s with
  | nil => exact h
  | cons subsample rest ih =>
    obtain ⟨hcopy, hprotected, hrest⟩ := hp
    have htotal : totalLength (subsample :: rest) = subsample.bytesOfClearData +
        subsample.bytesOfProtectedData + totalLength rest := by simp [totalLength]
    simp only [processSubsamples, wp_bind]
    apply (hk.wp_processSubsample hcopy hprotected (by omega) h).mono
    · intro _ s₁ h₁
      have hr := ih hrest (by omega) h₁
      rwa [htotal, ← Nat.add_assoc, ← Nat.add_assoc]
    · exact fun _ _ h₁ => h₁

/-- The whole of the processing, from a restart that sets the invariant up. -/
theorem Keeps.wp_processBytes (hk : Keeps evp setup length I stopped copies decrypts)
    (hp : SamplePlanned setup copies decrypts 0 subsamples)
    (hle : totalLength subsamples ≤ length)
    (hstart : wp (contextSetIv evp) (fun _ => I 0) (fun _ => stopped) s) :
    wp (processBytes evp setup subsamples)
      (fun _ => I (totalLength subsamples)) (fun _ => stopped) s := by
  simp only [processBytes, wp_bind]
  apply wp_orBreak
  apply hstart.mono
  · intro _ s₁ h₁
    rw [wp_bind]
    apply (hk.wp_processSubsamples hp (by omega) (hk.status _ _ .ok h₁)).mono
    · intro _ s₂ h₂
      rw [Nat.zero_add] at h₂
      simp only [wp_bind, wp_get, wp_ite, wp_pure, wp_throw]
      exact ⟨fun _ => h₂, fun _ => hk.stop _ _ h₂⟩
    · exact fun _ _ h₂ => h₂
  · exact fun _ _ h₁ => h₁

theorem cencGetRequiredLength_eq (h : cencGetRequiredLength subsamples ≠ cencOverflow) :
    cencGetRequiredLength subsamples = totalLength subsamples ∧
      totalLength subsamples < 2 ^ 64 := by
  have hgo : ∀ r, r < 2 ^ 64 → cencGetRequiredLength.go r subsamples ≠ cencOverflow →
      cencGetRequiredLength.go r subsamples = r + totalLength subsamples ∧
        r + totalLength subsamples < 2 ^ 64 := by
    clear h
    induction subsamples with
    | nil => exact fun r hr _ => ⟨rfl, hr⟩
    | cons subsample rest ih =>
      intro r hr hne
      have htotal : totalLength (subsample :: rest) = subsample.bytesOfClearData +
          subsample.bytesOfProtectedData + totalLength rest := by simp [totalLength]
      rw [cencGetRequiredLength.go] at hne ⊢
      cases hlen : addOverflow subsample.bytesOfClearData subsample.bytesOfProtectedData with
      | none => rw [hlen] at hne; exact absurd rfl hne
      | some len =>
        cases hreq : addOverflow r len with
        | none => rw [hlen] at hne; dsimp only at hne; rw [hreq] at hne; exact absurd rfl hne
        | some req =>
          obtain ⟨rfl, -⟩ := addOverflow_eq_some.1 hlen
          obtain ⟨rfl, hlt⟩ := addOverflow_eq_some.1 hreq
          rw [hlen] at hne
          dsimp only at hne ⊢
          rw [hreq] at hne ⊢
          dsimp only at hne ⊢
          obtain ⟨he, hb⟩ := ih _ hlt hne
          exact ⟨by omega, by omega⟩
  have h₀ := hgo 0 (by decide) h
  rwa [Nat.zero_add] at h₀

/-- Behind the checks a sample is processed from the state that they set up. -/
theorem cencProcessSample_of_setup {client : Client Ctx} {sample : SaSample}
    (hs : cencSetup client sample = .ok (setup, subsamples)) (evp : Evp Ctx) (memory : Memory) :
    cencProcessSample evp client sample memory =
      let r := (processBytes evp setup subsamples).run.run (setup.start memory)
      { result := r.1.map fun offset => { sample with
          out := sample.out.map (SaBuffer.advance offset)
          inp := sample.inp.map (SaBuffer.advance offset) }
        memory := r.2.memory
        context := some r.2.context
        log := r.2.log } := by
  unfold cencProcessSample
  rw [hs]

theorem processBytes_of_ok {client : Client Ctx} {sample sample' : SaSample}
    (hs : cencSetup client sample = .ok (setup, subsamples))
    (hok : (cencProcessSample evp client sample memory).result = .ok sample') :
    ∃ offset,
      ((processBytes evp setup subsamples).run.run (setup.start memory)).1 = .ok offset := by
  rw [cencProcessSample_of_setup hs] at hok
  cases hr : ((processBytes evp setup subsamples).run.run (setup.start memory)).1 with
  | error e =>
    dsimp only at hok
    rw [hr] at hok
    cases hok
  | ok offset => exact ⟨offset, rfl⟩

end TaSecureApi
