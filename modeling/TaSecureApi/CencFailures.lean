import TaSecureApi.CencPattern
import TaSecureApi.CencTermination

namespace TaSecureApi
set_option autoImplicit true
open Wp

variable {Ctx : Type} {ε : Type} {evp : Evp Ctx} {setup : CencSetup Ctx} {s s' s'' : CencState Ctx}

/-- Contexts that keep, for each call that was made on them, if it succeeded. -/
structure Evp.Observed (evp : Evp Ctx) where
  outcomes : Ctx → List Bool
  init : ∀ context iv, outcomes (evp.decryptInit context iv).2 =
    (evp.decryptInit context iv).1 :: outcomes context
  update : ∀ context memory out inp inl,
    outcomes (evp.decryptUpdate context memory out inp inl).context =
      (evp.decryptUpdate context memory out inp inl).succeeded :: outcomes context

/-- The lengths of the calls of `decrypt` that came to their end, without those of no bytes. -/
def completedLengths : List CencEvent → List Nat
  | [] => []
  | .advanced n _ _ :: log => completedLengths log ++ if n > 0 then [n] else []
  | .call .. :: log => completedLengths log
  | .access .. :: log => completedLengths log
  | .subtract .. :: log => completedLengths log

/-- The length that a piece asks `decrypt` for. -/
def SamplePiece.decryptedLength : SamplePiece → List Nat
  | decrypted n => if n > 0 then [n] else []
  | copied _ => []
  | restarted => []

def decryptedLengths (pieces : List SamplePiece) : List Nat :=
  pieces.flatMap SamplePiece.decryptedLength

theorem decryptedLengths_append : decryptedLengths (pieces ++ pieces') =
    decryptedLengths pieces ++ decryptedLengths pieces' := List.flatMap_append

theorem decryptedLengths_copied : decryptedLengths [.copied n] = [] := rfl

theorem decryptedLengths_restart (c : Prop) [Decidable c] :
    decryptedLengths (if c then [.restarted] else []) = [] := by
  split_ifs <;> rfl

theorem completedLengths_append (h : ∀ event ∈ events, event.Silent) :
    completedLengths (events ++ log) = completedLengths log := by
  induction events with
  | nil => rfl
  | cons event events ih =>
    obtain ⟨hevent, hrest⟩ := List.forall_mem_cons.1 h
    cases event with
    | access | subtract => exact ih hrest
    | call | advanced => exact hevent.elim

/-- Steps in the middle of a call, after which no call of OpenSSL has failed that had not before. -/
structure Unfailed (t : evp.Observed) (s s' : CencState Ctx) : Prop where
  silent : Extends CencEvent.Silent s s'
  outcomes : (∀ b ∈ t.outcomes s.context.evpCipher, b = true) →
    ∀ b ∈ t.outcomes s'.context.evpCipher, b = true

/-- From a context that decrypts, a program ends without a failed call, or with a status that says
that it failed. -/
def Sure (t : evp.Observed) (x : Prog (CencState Ctx) SaStatus α) : Prop :=
  ∀ s, s.context.cipherMode = .decrypt → s.context.cipherAlgorithm.takesIv →
    wp x (fun _ s' => Unfailed t s s') (fun e _ => e ≠ .ok) s

section Sure

variable {t : evp.Observed}

theorem Unfailed.trans (h : Unfailed t s s') (h' : Unfailed t s' s'') : Unfailed t s s'' :=
  ⟨h.silent.trans h'.silent, fun hs => h'.outcomes (h.outcomes hs)⟩

theorem Sure.bind {x : Prog (CencState Ctx) SaStatus α} {f : α → Prog (CencState Ctx) SaStatus β}
    (hx : Sure t x) (hf : ∀ a, Sure t (f a)) : Sure t (x >>= f) := by
  intro s hm ha
  rw [wp_bind]
  apply (hx s hm ha).mono
  · intro a s₁ h₁
    apply (hf a s₁ (h₁.silent.mode.trans hm) (h₁.silent.algorithm ▸ ha)).mono
    · exact fun _ _ h₂ => h₁.trans h₂
    · exact fun _ _ h₂ => h₂
  · exact fun _ _ h => h

theorem Sure.ite {c : Prop} [Decidable c] {x y : Prog (CencState Ctx) SaStatus α}
    (hx : Sure t x) (hy : Sure t y) : Sure t (if c then x else y) := by
  split_ifs
  · exact hx
  · exact hy

theorem Sure.pure (a : α) : Sure t (pure a : Prog (CencState Ctx) SaStatus α) :=
  fun s _ _ => ⟨.refl s, id⟩

theorem Sure.modify {f : CencState Ctx → CencState Ctx}
    (hf : ∀ s, Extends CencEvent.Silent s (f s) ∧
      (f s).context.evpCipher = s.context.evpCipher) :
    Sure t (modify f : Prog (CencState Ctx) SaStatus Unit) := by
  intro s _ _
  obtain ⟨hsilent, hcontext⟩ := hf s
  exact ⟨hsilent, fun hs => by rwa [hcontext]⟩

theorem addCounter_sure (n : Nat) :
    Sure t (modify (CencState.addCounter n) : Prog (CencState Ctx) SaStatus Unit) :=
  .modify fun _ => ⟨⟨rfl, rfl, rfl, id, [], rfl, nofun⟩, rfl⟩

theorem addEncByteCount_sure (n : Nat) :
    Sure t (modify (CencState.addEncByteCount n) : Prog (CencState Ctx) SaStatus Unit) :=
  .modify fun _ => ⟨⟨rfl, rfl, rfl, fun _ => Nat.mod_lt _ (by decide), [], rfl, nofun⟩, rfl⟩

theorem subtract_sure (a b : Nat) :
    Sure t (subtract a b : Prog (CencState Ctx) SaStatus Nat) := by
  apply Sure.bind
  · exact .modify fun _ => ⟨⟨rfl, rfl, rfl, id, [.subtract a b], rfl, by simp [CencEvent.Silent]⟩,
      rfl⟩
  · exact fun _ => .pure _

theorem symmetricContextDecrypt_ne_ok (evp : Evp Ctx) (context : SymmetricContext Ctx)
    (memory : Memory) (out inp n : Nat) :
    (symmetricContextDecrypt evp context memory out inp n).1 ≠ .error .ok := by
  unfold symmetricContextDecrypt
  dsimp only
  split_ifs <;> nofun

theorem symmetricContextSetIv_ne_ok (evp : Evp Ctx) (context : SymmetricContext Ctx) (iv : Iv)
    (n : Nat) : (symmetricContextSetIv evp context iv n).1 ≠ .error .ok := by
  obtain ⟨alg, mode, evpCipher⟩ := context
  cases alg with
  | aesCbc | aesCbcPkcs7 | aesCtr =>
    cases mode with
    | decrypt | encrypt =>
      simp only [symmetricContextSetIv]
      split_ifs <;> simp
  | _ => simp [symmetricContextSetIv]

theorem contextDecrypt_sure (out inp n : Nat) : Sure t (contextDecrypt evp out inp n) := by
  intro s hm ha
  have hstatus : wp (contextDecrypt evp out inp n) (fun _ _ => True) (fun e _ => e ≠ .ok) s := by
    have hne := symmetricContextDecrypt_ne_ok evp s.context s.memory out inp n
    simp only [contextDecrypt, wp_bind, wp_emit, wp_get, wp_set]
    generalize symmetricContextDecrypt evp s.context s.memory out inp n = r at hne
    obtain ⟨r, context, memory⟩ := r
    cases r with
    | ok length => trivial
    | error e => exact fun he => hne (congrArg Except.error he)
  have hunfailed : wp (contextDecrypt evp out inp n) (fun _ s' => Unfailed t s s')
      (fun _ _ => True) s := by
    apply wp_contextDecrypt
    · intro _ hs
      refine ⟨⟨rfl, rfl, rfl, id, [.access inp out n], rfl, by simp [CencEvent.Silent]⟩, ?_⟩
      intro hall
      rw [t.update]
      exact List.forall_mem_cons.2 ⟨hs, hall⟩
    · exact fun _ _ _ _ => trivial
  exact (hunfailed.and hstatus).mono (fun _ _ h => h.1) fun _ _ h => h.2

theorem contextSetIv_sure : Sure t (contextSetIv evp) := by
  intro s hm ha
  have hstatus : wp (contextSetIv evp) (fun _ _ => True) (fun e _ => e ≠ .ok) s := by
    have hne := symmetricContextSetIv_ne_ok evp s.context s.iv aesBlockSize
    simp only [contextSetIv, wp_bind, wp_get, wp_set]
    generalize symmetricContextSetIv evp s.context s.iv aesBlockSize = r at hne
    obtain ⟨r, context⟩ := r
    cases r with
    | ok => trivial
    | error e => exact fun he => hne (congrArg Except.error he)
  have hunfailed : wp (contextSetIv evp) (fun _ s' => Unfailed t s s') (fun _ _ => True) s := by
    apply wp_contextSetIv hm ha
    · intro hs
      refine ⟨⟨rfl, rfl, rfl, id, [], rfl, List.forall_mem_nil _⟩, ?_⟩
      intro hall
      rw [t.init]
      exact List.forall_mem_cons.2 ⟨hs, hall⟩
    · exact fun _ _ _ => trivial
  exact (hunfailed.and hstatus).mono (fun _ _ h => h.1) fun _ _ h => h.2

theorem decryptBlocks_sure : Sure t (decryptBlocks evp out inp n blocks) := by
  apply (contextDecrypt_sure out inp n).bind
  intro length
  apply (addCounter_sure blocks).bind
  intro _
  apply contextSetIv_sure.bind
  intro _
  exact (addEncByteCount_sure length).bind fun _ => .pure length

theorem decryptRest_sure : Sure t (decryptRest evp out inp n a lead full) := by
  apply (subtract_sure n a).bind
  intro rest
  apply (contextDecrypt_sure _ _ rest).bind
  intro length
  exact (addCounter_sure _).bind fun _ => addEncByteCount_sure length

theorem decryptToRollover_sure :
    Sure t (decryptToRollover evp out inp lead full before) := by
  apply Sure.bind
  · exact .ite decryptBlocks_sure (.pure 0)
  · intro bytesEncrypted
    apply Sure.ite
    · apply decryptBlocks_sure.bind
      intro length
      exact (subtract_sure _ _).bind fun left => .pure _
    · exact .pure _

theorem decryptLoop_sure :
    Sure t (decryptLoop evp out inp n lead full before rollover) := by
  apply Sure.ite
  · apply Sure.ite
    · apply decryptToRollover_sure.bind
      intro r
      exact .ite decryptRest_sure (.pure _)
    · exact decryptRest_sure
  · exact .pure _

end Sure

/-- Some pieces that the code went past, without a failure. -/
structure Passed (t : evp.Observed) (n : Nat) (pieces : List SamplePiece)
    (s s' : CencState Ctx) : Prop where
  offset : s'.offset = s.offset + n
  algorithm : s'.context.cipherAlgorithm = s.context.cipherAlgorithm
  mode : s'.context.cipherMode = s.context.cipherMode
  outcomes : (∀ b ∈ t.outcomes s.context.evpCipher, b = true) →
    ∀ b ∈ t.outcomes s'.context.evpCipher, b = true
  ended : openCalls s'.log = openCalls s.log
  completed : completedLengths s'.log = completedLengths s.log ++ decryptedLengths pieces

section Passed

variable {t : evp.Observed}

theorem Passed.refl (s : CencState Ctx) : Passed t 0 [] s s :=
  ⟨rfl, rfl, rfl, id, rfl, (List.append_nil _).symm⟩

theorem Passed.append (h : Passed t a pieces s s') (h' : Passed t b pieces' s' s'') :
    Passed t (a + b) (pieces ++ pieces') s s'' where
  offset := by rw [h'.offset, h.offset, Nat.add_assoc]
  algorithm := h'.algorithm.trans h.algorithm
  mode := h'.mode.trans h.mode
  outcomes hs := h'.outcomes (h.outcomes hs)
  ended := h'.ended.trans h.ended
  completed := by
    rw [h'.completed, h.completed, List.append_assoc, decryptedLengths_append]

theorem Passed.status (h : Passed t n pieces s s') (status : SaStatus) :
    Passed t n pieces s { s' with status := status } :=
  ⟨h.offset, h.algorithm, h.mode, h.outcomes, h.ended, h.completed⟩

theorem Passed.congr (h : Passed t n pieces s s')
    (hp : decryptedLengths pieces' = decryptedLengths pieces) : Passed t n pieces' s s' :=
  ⟨h.offset, h.algorithm, h.mode, h.outcomes, h.ended, h.completed.trans (by rw [hp])⟩

theorem copyClear_passed (t : evp.Observed) : wp (copyClear (ε := ε) setup n)
    (fun _ s' => Passed t n [.copied n] s s' ∧ s'.status = s.status) (fun _ _ => False) s := by
  rw [wp_copyClear]
  constructor
  · intro _
    exact ⟨⟨rfl, rfl, rfl, id, rfl, (List.append_nil _).symm⟩, rfl⟩
  · intro hzero
    obtain rfl : n = 0 := by omega
    exact ⟨(Passed.refl s).congr rfl, rfl⟩

def CencState.Decrypting (s : CencState Ctx) : Prop :=
  s.context.cipherMode = .decrypt ∧ s.context.cipherAlgorithm.takesIv

theorem CencState.Decrypting.passed (hs : s.Decrypting) (h : Passed t n pieces s s') :
    s'.Decrypting :=
  ⟨h.mode.trans hs.1, by rw [h.algorithm]; exact hs.2⟩

theorem contextSetIv_passed (t : evp.Observed) (hs : s.Decrypting) :
    wp (contextSetIv evp) (fun _ s' => Passed t 0 [.restarted] s s') (fun e _ => e ≠ .ok) s := by
  apply (contextSetIv_sure (t := t) s hs.1 hs.2).mono
  · intro _ s₁ h₁
    refine ⟨h₁.silent.offset, h₁.silent.algorithm, h₁.silent.mode, h₁.outcomes,
      h₁.silent.openCalls_eq, ?_⟩
    obtain ⟨events, hlog, hsilent⟩ := h₁.silent.log
    rw [hlog, completedLengths_append hsilent]
    exact (List.append_nil _).symm
  · exact fun _ _ h => h

theorem decryptProtected_passed (t : evp.Observed) (hs : s.Decrypting) :
    wp (decryptProtected evp setup n) (fun _ s' => Passed t n [.decrypted n] s s')
      (fun e _ => e ≠ .ok) s := by
  rw [wp_decryptProtected, wp_decrypt]
  apply (decryptLoop_sure (t := t) (s.called n) hs.1 hs.2).mono
  · intro _ s₁ h₁
    obtain ⟨events, hlog, hsilent⟩ := h₁.silent.log
    refine ⟨congrArg (· + n) h₁.silent.offset, h₁.silent.algorithm, h₁.silent.mode, h₁.outcomes,
      ?_, ?_⟩
    · exact congrArg (· - 1) h₁.silent.openCalls_eq
    · have hcompleted : completedLengths s₁.log = completedLengths s.log := by
        rw [hlog, completedLengths_append hsilent]
        rfl
      have hpiece : decryptedLengths [.decrypted n] = if n > 0 then [n] else [] :=
        List.append_nil _
      rw [hpiece, ← hcompleted]
      rfl
  · exact fun _ _ h => h

/-- A status that says that a failure happened, where it can: at a stripe that has bytes. -/
def Dropped (setup : CencSetup Ctx) (bytesOfProtectedData : Nat) (s : CencState Ctx) : Prop :=
  s.status ≠ .ok ∧ aesBlockSize ≤ bytesOfProtectedData ∧ ¬ 2 ^ 60 ∣ setup.cryptByteBlock

theorem cryptStripe_passed (t : evp.Observed) (hs : s.Decrypting) (hok : s.status = .ok) :
    wp (cryptStripe evp setup n)
      (fun going s' => if going then s'.status = .ok ∧ Passed t n [.decrypted n] s s'
        else s'.status ≠ .ok ∧ 0 < n)
      (fun _ _ => True) s := by
  simp only [cryptStripe, wp_ite, wp_bind, wp_outcome, wp_pure]
  constructor
  · intro hpos
    apply (decryptProtected_passed t hs).mono
    · exact fun _ _ h => ⟨rfl, h.status .ok⟩
    · exact fun _ _ h => ⟨h, hpos⟩
  · intro hzero
    obtain rfl : n = 0 := by omega
    exact ⟨hok, (Passed.refl s).congr rfl⟩

/-- One stripe after the other, by induction on the fuel. -/
theorem patternLoop_passed (t : evp.Observed) (hs : s.Decrypting) (hok : s.status = .ok) :
    wp (patternLoop evp setup fuel left)
      (fun left' s' => (s'.status = .ok ∧ ∃ n, n + left' = left ∧
        Passed t n (planStripes setup fuel left) s s') ∨ Dropped setup left s')
      (fun _ _ => True) s := by
  induction fuel generalizing left s with
  | zero =>
    simp only [patternLoop, wp_ite, wp_throw, wp_pure]
    exact ⟨fun _ => trivial, fun _ => .inl ⟨hok, 0, Nat.zero_add _, .refl s⟩⟩
  | succ fuel ih =>
    simp only [patternLoop, wp_ite, wp_bind, wp_pure, planStripes]
    constructor
    · intro hge
      rw [if_pos hge]
      have hblock := stripe_le setup.cryptByteBlock left
      have hskipped : (if setup.skipByteBlock > 0 then stripe setup.skipByteBlock
          (left - stripe setup.cryptByteBlock left) else 0) ≤
            left - stripe setup.cryptByteBlock left := by
        split_ifs
        · exact stripe_le _ _
        · exact Nat.zero_le _
      apply (cryptStripe_passed t hs hok).mono
      · intro going s₁ h₁
        simp only [wp_ite, wp_bind, wp_pure]
        constructor
        · rintro rfl
          obtain ⟨hok₁, h₁⟩ := h₁
          apply (copyClear_passed t).mono
          · rintro - s₂ ⟨h₂, hstatus⟩
            have h₁₂ := h₁.append h₂
            apply (ih (hs.passed h₁₂) (hstatus.trans hok₁)).mono
            · rintro left' s₃ (⟨hok₃, n, hn, h₃⟩ | ⟨hne, hle, hcrypt⟩)
              · exact .inl ⟨hok₃, _, by omega, h₁₂.append h₃⟩
              · exact .inr ⟨hne, by omega, hcrypt⟩
            · exact fun _ _ _ => trivial
          · exact fun _ _ h => h.elim
        · intro hgoing
          rw [if_neg hgoing] at h₁
          exact .inr ⟨h₁.1, stripe_pos.1 h₁.2⟩
      · exact fun _ _ _ => trivial
    · intro hlt
      rw [if_neg hlt]
      exact .inl ⟨hok, 0, Nat.zero_add _, .refl s⟩

theorem processFull_passed (t : evp.Observed) (hs : s.Decrypting) :
    wp (processFull evp setup p)
      (fun _ s' => s'.status = .ok ∧ Passed t p (planFull setup p) s s') (fun _ _ => True) s := by
  have hrem : (if setup.cipherAlgorithm = .aesCbc then p % aesBlockSize else 0) ≤ p := by
    split_ifs
    · exact Nat.mod_le _ _
    · exact Nat.zero_le _
  simp only [processFull, planFull, wp_bind]
  apply wp_orBreak
  apply (decryptProtected_passed t hs).mono
  · intro _ s₁ h₁
    apply (copyClear_passed t).mono
    · rintro - s₂ ⟨h₂, hstatus⟩
      have h := (h₁.status .ok).append h₂
      rw [Nat.sub_add_cancel hrem] at h
      exact ⟨hstatus, h⟩
    · exact fun _ _ h => h.elim
  · exact fun _ _ _ => trivial

theorem processPattern_passed (t : evp.Observed) (hs : s.Decrypting) (hok : s.status = .ok) :
    wp (processPattern evp setup p)
      (fun _ s' => (s'.status = .ok ∧ Passed t p (planPattern setup p) s s') ∨ Dropped setup p s')
      (fun _ _ => True) s := by
  have hstripes : ∀ s₀ pieces, s₀.status = .ok → Passed t 0 pieces s s₀ →
      decryptedLengths pieces = [] →
      wp (patternLoop evp setup p p >>= copyClear setup)
        (fun _ s' => (s'.status = .ok ∧ Passed t p (planPattern setup p) s s') ∨
          Dropped setup p s') (fun _ _ => True) s₀ := by
    intro s₀ pieces hok₀ h₀ hnone
    rw [wp_bind]
    apply (patternLoop_passed t (hs.passed h₀) hok₀).mono
    · rintro left s₁ (⟨hok₁, n, hn, h₁⟩ | ⟨hne, hdropped⟩)
      · apply (copyClear_passed t).mono
        · rintro - s₂ ⟨h₂, hstatus⟩
          have h := h₀.append (h₁.append h₂)
          rw [hn, Nat.zero_add] at h
          refine .inl ⟨hstatus.trans hok₁, h.congr ?_⟩
          simp only [planPattern, decryptedLengths_append, hnone, decryptedLengths_restart,
            decryptedLengths_copied, List.nil_append]
        · exact fun _ _ h => h.elim
      · apply (copyClear_passed t).mono
        · rintro - s₂ ⟨h₂, hstatus⟩
          exact .inr ⟨hstatus ▸ hne, hdropped⟩
        · exact fun _ _ h => h.elim
    · exact fun _ _ _ => trivial
  simp only [processPattern, wp_ite, wp_bind, wp_modify]
  constructor
  · intro _
    apply wp_orBreak
    apply (contextSetIv_passed t (s := { s with iv := setup.iv }) hs).mono
    · intro _ s₁ h₁
      have h₁' : Passed t 0 [.restarted] s s₁ :=
        ⟨h₁.offset, h₁.algorithm, h₁.mode, h₁.outcomes, h₁.ended, h₁.completed⟩
      exact hstripes _ _ rfl (h₁'.status .ok) rfl
    · exact fun _ _ _ => trivial
  · intro _
    exact (wp_bind _ _).1 (hstripes s [] hok (.refl s) rfl)

/-- A subsample is gone past without a failure, or a failure in it stays in the status. -/
theorem processSubsample_passed (t : evp.Observed) (hs : s.Decrypting) (hok : s.status = .ok) :
    wp (processSubsample evp setup subsample)
      (fun _ s' => (s'.status = .ok ∧
          Passed t (subsample.bytesOfClearData + subsample.bytesOfProtectedData)
            (planSubsample setup subsample) s s') ∨
        Dropped setup subsample.bytesOfProtectedData s')
      (fun _ _ => True) s := by
  simp only [processSubsample, wp_bind]
  apply (copyClear_passed t).mono
  · rintro - s₁ ⟨h₁, hstatus⟩
    have hs₁ := hs.passed h₁
    have hok₁ := hstatus.trans hok
    simp only [wp_ite, wp_pure]
    refine ⟨fun hpos => ⟨fun hfull => ?_, fun hpattern => ?_⟩, fun hzero => ?_⟩
    · rw [planSubsample, if_pos hpos, if_pos hfull]
      exact (processFull_passed t hs₁).mono
        (fun _ _ h₂ => .inl ⟨h₂.1, h₁.append h₂.2⟩) fun _ _ _ => trivial
    · rw [planSubsample, if_pos hpos, if_neg hpattern]
      exact (processPattern_passed t hs₁ hok₁).mono
        (fun _ _ h₂ => h₂.imp_left fun h => ⟨h.1, h₁.append h.2⟩) fun _ _ _ => trivial
    · rw [planSubsample, if_neg hzero]
      obtain hz : subsample.bytesOfProtectedData = 0 := by omega
      exact .inl ⟨hok₁, by rwa [hz]⟩
  · exact fun _ _ h => h.elim

/-- A subsample whose protected data is shorter than a block, and in CBC empty, leaves a failure in
the status. -/
theorem processSubsample_keeps (evp : Evp Ctx) (hcrypt : setup.cryptByteBlock ≠ 0)
    (hne : s.status ≠ .ok) (hshort : subsample.bytesOfProtectedData < aesBlockSize)
    (hcbc : setup.cipherAlgorithm = .aesCbc → subsample.bytesOfProtectedData = 0) :
    wp (processSubsample evp setup subsample) (fun _ s' => s'.status ≠ .ok) (fun _ _ => True)
      s := by
  have hcopy : ∀ n (s : CencState Ctx), s.status ≠ .ok →
      wp (copyClear (ε := CencExit) setup n) (fun _ s' => s'.status ≠ .ok) (fun _ _ => True) s :=
    fun n s hs => wp_copyClear.2 ⟨fun _ => hs, fun _ => hs⟩
  simp only [processSubsample, wp_bind]
  apply (hcopy _ _ hne).mono
  · intro _ s₁ h₁
    simp only [wp_ite, wp_pure]
    refine ⟨fun hpos => ⟨fun hfull => absurd hfull hcrypt, fun _ => ?_⟩, fun _ => h₁⟩
    have hctr : setup.cipherAlgorithm ≠ .aesCbc := fun ha => by
      have hzero := hcbc ha
      omega
    have hloop : patternLoop evp setup subsample.bytesOfProtectedData
        subsample.bytesOfProtectedData = pure subsample.bytesOfProtectedData := by
      obtain ⟨n, hn⟩ := Nat.exists_eq_succ_of_ne_zero (Nat.ne_of_gt hpos)
      rw [hn, patternLoop_succ, if_neg (by omega)]
    simp only [processPattern, if_neg hctr, wp_bind, wp_pure, hloop]
    exact hcopy _ _ h₁
  · exact fun _ _ h => h

/-- Whether a subsample sets the status, where none of its decryptions fail: at its stripes, and in
CBC at its restart. -/
def SetsStatus (alg : SaCipherAlgorithm) (subsample : SaSubsampleLength) : Prop :=
  aesBlockSize ≤ subsample.bytesOfProtectedData ∨
    alg = .aesCbc ∧ 0 < subsample.bytesOfProtectedData

/-- Two subsamples, of which a failure in the first is covered up by what the second sets the status
to. -/
def CoversUp (alg : SaCipherAlgorithm) (first second : SaSubsampleLength) : Prop :=
  aesBlockSize ≤ first.bytesOfProtectedData ∧ SetsStatus alg second

instance : Decidable (CoversUp alg first second) := by
  unfold CoversUp SetsStatus
  infer_instance

theorem processSubsamples_keeps (evp : Evp Ctx) (hcrypt : setup.cryptByteBlock ≠ 0)
    (hne : s.status ≠ .ok) (hfirst : aesBlockSize ≤ first.bytesOfProtectedData)
    (hrest : ∀ second ∈ subsamples, ¬ CoversUp setup.cipherAlgorithm first second) :
    wp (processSubsamples evp setup subsamples) (fun _ s' => s'.status ≠ .ok) (fun _ _ => True)
      s := by
  induction subsamples generalizing s with
  | nil => exact hne
  | cons subsample rest ih =>
    obtain ⟨hsub, hrest⟩ := List.forall_mem_cons.1 hrest
    obtain ⟨hshort, hcbc⟩ := not_or.1 fun h => hsub ⟨hfirst, h⟩
    simp only [processSubsamples, wp_bind]
    apply (processSubsample_keeps evp hcrypt hne (not_le.1 hshort) fun ha => by
      by_contra hne
      exact hcbc ⟨ha, Nat.pos_of_ne_zero hne⟩).mono
    · exact fun _ _ h₁ => ih h₁ hrest
    · exact fun _ _ h => h

/-- One subsample after the other, by induction on the list. -/
theorem processSubsamples_passed (t : evp.Observed) (hs : s.Decrypting) (hok : s.status = .ok)
    (hcond : 2 ^ 60 ∣ setup.cryptByteBlock ∨
      subsamples.Pairwise fun a b => ¬ CoversUp setup.cipherAlgorithm a b) :
    wp (processSubsamples evp setup subsamples)
      (fun _ s' => s'.status = .ok →
        Passed t (totalLength subsamples) (planSample setup subsamples) s s')
      (fun _ _ => True) s := by
  induction subsamples generalizing s with
  | nil => exact fun _ => .refl s
  | cons subsample rest ih =>
    have htotal : totalLength (subsample :: rest) = subsample.bytesOfClearData +
        subsample.bytesOfProtectedData + totalLength rest := by simp [totalLength]
    simp only [processSubsamples, wp_bind]
    apply (processSubsample_passed t hs hok).mono
    · rintro - s₁ (⟨hok₁, h₁⟩ | ⟨hne, hge, hcrypt⟩)
      · apply (ih (hs.passed h₁) hok₁ (hcond.imp_right fun h => h.of_cons)).mono
        · intro _ s₂ h₂ hok₂
          have h := h₁.append (h₂ hok₂)
          rwa [← htotal] at h
        · exact fun _ _ _ => trivial
      · have hpairs := List.pairwise_cons.1 (hcond.resolve_left hcrypt)
        have hnonzero : setup.cryptByteBlock ≠ 0 := fun hz => hcrypt (hz ▸ dvd_zero _)
        apply (processSubsamples_keeps evp hnonzero hne hge hpairs.1).mono
        · exact fun _ _ hne₂ hok₂ => absurd hok₂ hne₂
        · exact fun _ _ _ => trivial
    · exact fun _ _ _ => trivial

theorem processBytes_passed (t : evp.Observed) {memory : Memory}
    (hs : (setup.start memory).Decrypting)
    (hcond : 2 ^ 60 ∣ setup.cryptByteBlock ∨
      subsamples.Pairwise fun a b => ¬ CoversUp setup.cipherAlgorithm a b) :
    wp (processBytes evp setup subsamples)
      (fun offset s' => offset = totalLength subsamples ∧
        Passed t (totalLength subsamples) (.restarted :: planSample setup subsamples)
          (setup.start memory) s')
      (fun _ _ => True) (setup.start memory) := by
  simp only [processBytes, wp_bind]
  apply wp_orBreak
  apply (contextSetIv_passed t hs).mono
  · intro _ s₁ h₁
    have h₁ := h₁.status .ok
    rw [wp_bind]
    apply (processSubsamples_passed t (hs.passed h₁) rfl hcond).mono
    · intro _ s₂ h₂
      simp only [wp_bind, wp_get, wp_ite, wp_pure, wp_throw]
      refine ⟨fun hok => ?_, fun _ => trivial⟩
      have h := h₁.append (h₂ hok)
      rw [Nat.zero_add] at h
      exact ⟨h.offset.trans (Nat.zero_add _), h⟩
    · exact fun _ _ _ => trivial
  · exact fun _ _ _ => trivial

end Passed

/-- OpenSSL with contexts that keep the outcomes. -/
def Evp.observed (evp : Evp Ctx) : Evp (Ctx × List Bool) where
  decryptUpdate context memory out inp inl :=
    let update := evp.decryptUpdate context.1 memory out inp inl
    { succeeded := update.succeeded
      context := (update.context, update.succeeded :: context.2)
      memory := update.memory
      outl := update.outl }
  decryptInit context iv :=
    let (succeeded, evpCipher) := evp.decryptInit context.1 iv
    (succeeded, evpCipher, succeeded :: context.2)
  encryptInit context iv :=
    let (succeeded, evpCipher) := evp.encryptInit context.1 iv
    (succeeded, evpCipher, succeeded :: context.2)

def Evp.observes (evp : Evp Ctx) : evp.observed.Observed where
  outcomes := Prod.snd
  init _ _ := rfl
  update _ _ _ _ _ := rfl

def SymmetricContext.observed (context : SymmetricContext Ctx) :
    SymmetricContext (Ctx × List Bool) where
  cipherAlgorithm := context.cipherAlgorithm
  cipherMode := context.cipherMode
  evpCipher := (context.evpCipher, [])

def Cipher.observed (cipher : Cipher Ctx) : Cipher (Ctx × List Bool) where
  cipherAlgorithm := cipher.cipherAlgorithm
  cipherMode := cipher.cipherMode
  keyRights := cipher.keyRights
  symmetricContext := cipher.symmetricContext.map SymmetricContext.observed
  agrees := by
    intro context hc
    obtain ⟨context', hc', rfl⟩ := Option.mem_map.1 hc
    exact cipher.agrees context' hc'

/-- The client, with contexts that no call was made on yet. -/
def Client.observed (client : Client Ctx) : Client (Ctx × List Bool) where
  ciphers handle := (client.ciphers handle).map Cipher.observed
  svps := client.svps

def CencSetup.observed (setup : CencSetup Ctx) : CencSetup (Ctx × List Bool) where
  cipherAlgorithm := setup.cipherAlgorithm
  context := setup.context.observed
  iv := setup.iv
  outBytes := setup.outBytes
  inBytes := setup.inBytes
  cryptByteBlock := setup.cryptByteBlock
  skipByteBlock := setup.skipByteBlock

theorem convertBuffer_observed (client : Client Ctx) (n : Nat) (buffer : SaBuffer) :
    convertBuffer client.observed n buffer = convertBuffer client n buffer := by
  cases buffer with
  | clear | svp | other => rfl

theorem Verified.observed {client : Client Ctx}
    (hv : Verified client reading sample cipher subsamples out inp outBytes inBytes)
    (hs : cencSetup client sample = .ok (setup, subsamples)) :
    cencSetup client.observed sample = .ok (setup.observed, subsamples) := by
  obtain ⟨iv, hiv⟩ := Option.isSome_iff_exists.1 hv.ivFound
  have hcipher : client.observed.ciphers sample.context = .ok cipher.observed :=
    congrArg (Except.map Cipher.observed) hv.cipherFound
  unfold cencSetup at hs ⊢
  rw [hcipher, hv.lengthsFound, hv.outFound, hv.inFound, hiv]
  rw [hv.cipherFound, hv.lengthsFound, hv.outFound, hv.inFound, hiv] at hs
  dsimp only at hs ⊢
  rw [convertBuffer_observed, convertBuffer_observed, if_neg hv.noOverflow, hv.outRange, hv.inRange]
  rw [if_neg hv.noOverflow, hv.outRange, hv.inRange] at hs
  dsimp only [Cipher.observed] at hs ⊢
  cases hc : cipher.symmetricContext with
  | none => rw [hc] at hs; cases hs
  | some context =>
    rw [hc] at hs
    cases hs
    rfl

/-- What a sample that is processed with success comes to: no call of OpenSSL and no call of
`decrypt` failed, every range was decrypted as the pattern has it, and the buffers move on by the
whole sample. -/
structure SampleCompleted (setup : CencSetup Ctx) (subsamples : List SaSubsampleLength)
    (sample sample' : SaSample) (r : CencResult (Ctx × List Bool)) : Prop where
  outcomes : ∀ context ∈ r.context, ∀ outcome ∈ context.evpCipher.2, outcome = true
  ended : openCalls r.log = 0
  decrypted : completedLengths r.log = decryptedLengths (planSample setup subsamples)
  offsets : sample' = { sample with
    out := sample.out.map (SaBuffer.advance (totalLength subsamples))
    inp := sample.inp.map (SaBuffer.advance (totalLength subsamples)) }

theorem planStripes_observed (fuel left : Nat) :
    planStripes setup.observed fuel left = planStripes setup fuel left := by
  induction fuel generalizing left with
  | zero => rfl
  | succ fuel ih =>
    simp only [planStripes, ih]
    rfl

theorem planSample_observed (subsamples : List SaSubsampleLength) :
    planSample setup.observed subsamples = planSample setup subsamples := by
  have hsubsample (subsample : SaSubsampleLength) :
      planSubsample setup.observed subsample = planSubsample setup subsample := by
    simp only [planSubsample, planPattern, planStripes_observed]
    rfl
  unfold planSample
  congr 1
  funext subsample
  exact hsubsample subsample

/-- OpenSSL with decryptions that fail exactly where they write to one address. -/
def Evp.failsAt (bad : Nat) : Evp Ctx where
  decryptUpdate context memory out _ inl := ⟨out != bad, context, memory, inl⟩
  decryptInit context _ := (true, context)
  encryptInit context _ := (true, context)

/-- A later state, whose count of bytes still is one of whole blocks, and in which a failure can
only have come to those before. -/
structure Later (s s' : CencState (Ctx × List Bool)) : Prop where
  algorithm : s'.context.cipherAlgorithm = s.context.cipherAlgorithm
  mode : s'.context.cipherMode = s.context.cipherMode
  aligned : 16 ∣ s.encByteCount → 16 ∣ s'.encByteCount
  outcomes : s.context.evpCipher.2 ⊆ s'.context.evpCipher.2

section FailsAt

variable {bad : Nat} {s s' s'' : CencState (Ctx × List Bool)}
  {setup : CencSetup (Ctx × List Bool)}

theorem Later.refl (s : CencState (Ctx × List Bool)) : Later s s :=
  ⟨rfl, rfl, id, List.Subset.refl _⟩

theorem Later.trans (h : Later s s') (h' : Later s' s'') : Later s s'' :=
  ⟨h'.algorithm.trans h.algorithm, h'.mode.trans h.mode, fun hs => h'.aligned (h.aligned hs),
    List.Subset.trans h.outcomes h'.outcomes⟩

theorem Able.later (h : Able s out inp) (hl : Later s s') : Able s' out inp :=
  ⟨hl.mode.trans h.mode, by rw [hl.algorithm]; exact h.takesIv, h.outNonNull, h.inNonNull⟩

theorem castSize_castInt_dvd (h : 16 ∣ n) : 16 ∣ castSize (castInt n) := by
  rw [castSize_castInt_eq]
  split_ifs <;> omega

theorem contextDecrypt_failsAt (ha : Able s out inp) (hn : 16 ∣ n) :
    wp (contextDecrypt (Evp.failsAt bad).observed (out + a) (inp + a) n)
      (fun length s' => out + a ≠ bad ∧ length = castSize (castInt n) ∧ s'.offset = s.offset ∧
        s'.encByteCount = s.encByteCount ∧ Later s s')
      (fun _ s' => out + a = bad ∧ s'.offset = s.offset ∧ Later s s' ∧
        false ∈ s'.context.evpCipher.2) s := by
  have hready := ha.ready (.inr (Nat.mod_eq_zero_of_dvd hn)) a
  have hlater : ∀ (outcome : Bool) (memory : Memory), Later s { s with
      context := { s.context with
        evpCipher := (s.context.evpCipher.1, outcome :: s.context.evpCipher.2) }
      memory := memory
      log := .access (inp + a) (out + a) n :: s.log } :=
    fun outcome _ => ⟨rfl, rfl, id, List.subset_cons_self _ _⟩
  simp only [contextDecrypt, wp_bind, wp_emit, wp_get, wp_set]
  rw [symmetricContextDecrypt_ready hready]
  split_ifs with hs
  · have hne : out + a ≠ bad := bne_iff_ne.1 hs
    exact ⟨hne, rfl, rfl, rfl, hlater _ _⟩
  · have heq : (out + a != bad) = false := Bool.not_eq_true _ ▸ hs
    refine ⟨of_not_not fun hne => hs (bne_iff_ne.2 hne), rfl, hlater _ _, ?_⟩
    exact List.mem_cons.2 (.inl heq.symm)

theorem contextSetIv_failsAt (ha : Able s out inp) :
    wp (contextSetIv (Evp.failsAt bad).observed)
      (fun _ s' => s'.offset = s.offset ∧ s'.encByteCount = s.encByteCount ∧ Later s s')
      (fun _ _ => False) s := by
  apply wp_contextSetIv ha.mode ha.takesIv
  · exact fun _ => ⟨rfl, rfl, rfl, rfl, id, List.subset_cons_self _ _⟩
  · exact fun _ _ hs => hs rfl

theorem addEncByteCount_later (h : Later s s') (hlength : 16 ∣ length) :
    Later s (s'.addEncByteCount length) where
  algorithm := h.algorithm
  mode := h.mode
  aligned hs := by
    have hs' := h.aligned hs
    simp only [CencState.addEncByteCount, sizeAdd]
    omega
  outcomes := h.outcomes

theorem decryptBlocks_failsAt (ha : Able s out inp) (hn : 16 ∣ n) :
    wp (decryptBlocks (Evp.failsAt bad).observed (out + a) (inp + a) n blocks)
      (fun length s' => out + a ≠ bad ∧ length = castSize (castInt n) ∧ s'.offset = s.offset ∧
        Later s s')
      (fun _ s' => out + a = bad ∧ s'.offset = s.offset ∧ Later s s' ∧
        false ∈ s'.context.evpCipher.2) s := by
  simp only [decryptBlocks, wp_bind]
  apply (contextDecrypt_failsAt ha hn).mono
  · rintro length s₁ ⟨hne, rfl, hoffset, -, h₁⟩
    simp only [wp_bind, wp_modify]
    have hcounter : Later s (s₁.addCounter blocks) :=
      h₁.trans ⟨rfl, rfl, id, List.Subset.refl _⟩
    apply (contextSetIv_failsAt (ha.later hcounter)).mono
    · rintro - s₂ ⟨hoffset₂, -, h₂⟩
      simp only [wp_bind, wp_modify, wp_pure]
      exact ⟨hne, trivial, hoffset₂.trans hoffset,
        addEncByteCount_later (hcounter.trans h₂) (castSize_castInt_dvd hn)⟩
    · exact fun _ _ h => h.elim
  · exact fun _ _ h => h

theorem decryptRest_failsAt (ha : Able s out inp) (hle : a ≤ n) (hlt : n < 2 ^ 64)
    (hn : 16 ∣ n - a) :
    wp (decryptRest (Evp.failsAt bad).observed out inp n a lead full)
      (fun _ s' => out + a ≠ bad ∧ s'.offset = s.offset ∧ Later s s')
      (fun _ s' => out + a = bad ∧ s'.offset = s.offset ∧ Later s s' ∧
        false ∈ s'.context.evpCipher.2) s := by
  simp only [decryptRest, wp_bind, wp_subtract]
  rw [sizeSub_of_le hle hlt]
  have hsubtract : Later s { s with log := .subtract n a :: s.log } :=
    ⟨rfl, rfl, id, List.Subset.refl _⟩
  apply (contextDecrypt_failsAt (ha.later hsubtract) hn).mono
  · rintro length s₁ ⟨hne, rfl, hoffset, -, h₁⟩
    simp only [wp_bind, wp_modify]
    have hcounter : Later s (s₁.addCounter (full + if lead > 0 then 1 else 0)) :=
      (hsubtract.trans h₁).trans ⟨rfl, rfl, id, List.Subset.refl _⟩
    exact ⟨hne, hoffset, addEncByteCount_later hcounter (castSize_castInt_dvd hn)⟩
  · rintro e s₁ ⟨heq, hoffset, h₁, hfailed⟩
    exact ⟨heq, hoffset, hsubtract.trans h₁, hfailed⟩

/-- Some whole blocks, behind whole blocks, fail where the one address is their first, and only
where it is one of theirs. -/
theorem decryptLoop_failsAt (ha : Able s out inp) (hpos : 0 < n) (hn : 16 ∣ n)
    (hlt : n < 2 ^ 63) :
    wp (decryptLoop (Evp.failsAt bad).observed out inp n 0 full before rollover)
      (fun _ s' => out ≠ bad ∧ s'.offset = s.offset ∧ Later s s')
      (fun _ s' => (out ≤ bad ∧ bad < out + n) ∧ s'.offset = s.offset ∧ Later s s' ∧
        false ∈ s'.context.evpCipher.2) s := by
  have hrest : ∀ {s₁ : CencState (Ctx × List Bool)} {full : Nat}, Able s₁ out inp →
      wp (decryptRest (Evp.failsAt bad).observed out inp n 0 0 full)
        (fun _ s' => out ≠ bad ∧ s'.offset = s₁.offset ∧ Later s₁ s')
        (fun _ s' => (out ≤ bad ∧ bad < out + n) ∧ s'.offset = s₁.offset ∧ Later s₁ s' ∧
          false ∈ s'.context.evpCipher.2) s₁ := by
    intro s₁ full ha₁
    apply (decryptRest_failsAt ha₁ (Nat.zero_le n) (by omega) hn).mono
    · exact fun _ _ h => h
    · rintro e s₂ ⟨heq, h⟩
      exact ⟨by omega, h⟩
  simp only [decryptLoop, decryptToRollover, decryptLeadingPartialBlock, wp_ite, wp_bind, wp_pure]
  refine ⟨fun _ => ⟨fun _ => ?_, fun _ => hrest ha⟩, fun hzero => absurd hpos hzero⟩
  refine ⟨fun hlead => absurd hlead (lt_irrefl 0), fun _ => ⟨fun _ => ?_, fun _ => ?_⟩⟩
  · have hblocks : 16 ∣ min before full * aesBlockSize := Nat.dvd_mul_left _ _
    apply wp.mono (decryptBlocks_failsAt (a := 0) ha hblocks)
    · rintro length s₁ ⟨hne, rfl, hoffset, h₁⟩
      simp only [wp_bind, wp_subtract, wp_ite, wp_pure]
      have hlength := castSize_castInt_dvd hblocks
      have hsubtract : Later s { s₁ with
          log := .subtract full (min before full) :: s₁.log } :=
        h₁.trans ⟨rfl, rfl, id, List.Subset.refl _⟩
      refine ⟨fun hmore => ?_, fun _ => ⟨hne, hoffset, hsubtract⟩⟩
      apply (decryptRest_failsAt (ha.later hsubtract) hmore.le (by omega) ?_).mono
      · rintro - s₂ ⟨-, hoffset₂, h₂⟩
        exact ⟨hne, hoffset₂.trans hoffset, hsubtract.trans h₂⟩
      · rintro e s₂ ⟨heq, hoffset₂, h₂, hfailed⟩
        exact ⟨by omega, hoffset₂.trans hoffset, hsubtract.trans h₂, hfailed⟩
      · unfold sizeAdd
        omega
    · rintro e s₁ ⟨heq, h⟩
      exact ⟨by omega, h⟩
  · exact ⟨fun _ => hrest ha, fun hge => absurd hpos hge⟩

/-- A state of the processing of a sample with the context of the sample, behind whole blocks. -/
structure Underway (setup : CencSetup (Ctx × List Bool)) (s : CencState (Ctx × List Bool)) :
    Prop where
  able : Able s setup.outBytes setup.inBytes
  aligned : 16 ∣ s.encByteCount

theorem Underway.later (h : Underway setup s) (hl : Later s s') : Underway setup s' :=
  ⟨h.able.later hl, hl.aligned h.aligned⟩

def Apart (setup : CencSetup (Ctx × List Bool)) (bad k n : Nat) : Prop :=
  bad < setup.outBytes + k ∨ setup.outBytes + k + n ≤ bad

theorem decryptProtected_failsAt (hu : Underway setup s) (hpos : 0 < n) (hn : 16 ∣ n)
    (hlt : n < 2 ^ 63) :
    wp (decryptProtected (Evp.failsAt bad).observed setup n)
      (fun _ s' => setup.outBytes + s.offset ≠ bad ∧ s'.offset = s.offset + n ∧ Later s s')
      (fun _ s' => ¬ Apart setup bad s.offset n ∧ s'.offset = s.offset ∧ Later s s' ∧
        false ∈ s'.context.evpCipher.2) s := by
  rw [wp_decryptProtected, wp_decrypt]
  have hlead : leadingPartialBlockSize s.encByteCount = 0 :=
    if_pos (Nat.mod_eq_zero_of_dvd hu.aligned)
  have hcalled : Later s (s.called n) := ⟨rfl, rfl, id, List.Subset.refl _⟩
  have hable : Able (s.called n) (setup.outBytes + s.offset) (setup.inBytes + s.offset) := by
    obtain ⟨hm, ha, hout, hin⟩ := hu.able
    exact ⟨hm, ha, by omega, by omega⟩
  rw [hlead]
  apply (decryptLoop_failsAt hable hpos hn hlt).mono
  · rintro - s₁ ⟨hne, hoffset, h₁⟩
    have h := hcalled.trans h₁
    exact ⟨hne, congrArg (· + n) hoffset, h.algorithm, h.mode, h.aligned, h.outcomes⟩
  · rintro e s₁ ⟨hbad, hoffset, h₁, hfailed⟩
    refine ⟨fun hapart => ?_, hoffset, hcalled.trans h₁, hfailed⟩
    rcases hapart with hbefore | hbehind
    · omega
    · omega

theorem copyClear_failsAt : wp (copyClear (ε := ε) setup n)
    (fun _ s' => s'.offset = s.offset + n ∧ s'.status = s.status ∧ Later s s')
    (fun _ _ => False) s := by
  rw [wp_copyClear]
  constructor
  · exact fun _ => ⟨rfl, rfl, rfl, rfl, id, List.Subset.refl _⟩
  · intro hzero
    exact ⟨by omega, rfl, .refl s⟩

theorem cryptStripe_failsAt (hu : Underway setup s) (hpos : 0 < n) (hn : 16 ∣ n)
    (hlt : n < 2 ^ 63) :
    wp (cryptStripe (Evp.failsAt bad).observed setup n)
      (fun going s' => Later s s' ∧ if going then
          setup.outBytes + s.offset ≠ bad ∧ s'.offset = s.offset + n ∧ s'.status = .ok
        else ¬ Apart setup bad s.offset n ∧ s'.offset = s.offset ∧ false ∈ s'.context.evpCipher.2)
      (fun _ _ => False) s := by
  simp only [cryptStripe, wp_ite, wp_bind, wp_outcome, wp_pure]
  refine ⟨fun _ => ?_, fun hzero => absurd hpos hzero⟩
  apply (decryptProtected_failsAt hu hpos hn hlt).mono
  · rintro - s₁ ⟨hne, hoffset, h₁⟩
    exact ⟨⟨h₁.algorithm, h₁.mode, h₁.aligned, h₁.outcomes⟩, hne, hoffset, rfl⟩
  · rintro e s₁ ⟨hbad, hoffset, h₁, hfailed⟩
    exact ⟨⟨h₁.algorithm, h₁.mode, h₁.aligned, h₁.outcomes⟩, hbad, hoffset, hfailed⟩

/-- What comes of `w` bytes of a sample, of which the code has gone past `n`, where decryptions
fail at one address: the status of a success where the address is none of theirs and a status is
set, and a failure where a stripe begins there. -/
structure GoesPast (setup : CencSetup (Ctx × List Bool)) (bad w n : Nat) (sets hits : Prop)
    (s s' : CencState (Ctx × List Bool)) : Prop where
  later : Later s s'
  offset : s'.offset = s.offset + n
  sets : sets → Apart setup bad s.offset w → s'.status = .ok
  keeps : s.status = .ok → Apart setup bad s.offset w → s'.status = .ok
  hits : hits → false ∈ s'.context.evpCipher.2

theorem stripe_dvd (block left : Nat) : 16 ∣ stripe block left := by
  unfold stripe aesBlockSize
  omega

/-- One stripe after the other, by induction on the fuel. -/
theorem patternLoop_failsAt (hu : Underway setup s) (hcrypt : ¬ 2 ^ 60 ∣ setup.cryptByteBlock)
    (hfuel : left ≤ fuel) (hlt : left < 2 ^ 63) :
    wp (patternLoop (Evp.failsAt bad).observed setup fuel left)
      (fun left' s' => ∃ n, n + left' = left ∧ GoesPast setup bad left n (aesBlockSize ≤ left)
        (aesBlockSize ≤ left ∧ setup.outBytes + s.offset = bad) s s')
      (fun _ _ => False) s := by
  induction fuel generalizing left s with
  | zero =>
    obtain rfl : left = 0 := by omega
    simp only [patternLoop, wp_ite, wp_throw, wp_pure]
    refine ⟨fun hge => absurd hge (by decide), fun _ => ⟨0, rfl, .refl s, rfl, fun hge => ?_,
      fun hok _ => hok, fun hge => ?_⟩⟩
    · exact absurd hge (by decide)
    · exact absurd hge.1 (by decide)
  | succ fuel ih =>
    simp only [patternLoop, wp_ite, wp_bind, wp_pure]
    constructor
    · intro hge
      have hpos : 0 < stripe setup.cryptByteBlock left := stripe_pos.2 ⟨hge, hcrypt⟩
      have hblock := stripe_le setup.cryptByteBlock left
      have hskipped : (if setup.skipByteBlock > 0 then stripe setup.skipByteBlock
          (left - stripe setup.cryptByteBlock left) else 0) ≤
            left - stripe setup.cryptByteBlock left := by
        split_ifs
        · exact stripe_le _ _
        · exact Nat.zero_le _
      apply (cryptStripe_failsAt hu hpos (stripe_dvd _ _) (by omega)).mono
      · rintro going s₁ ⟨h₁, hgoing⟩
        simp only [wp_ite, wp_bind, wp_pure]
        constructor
        · rintro rfl
          obtain ⟨hne, hoffset, hok⟩ := hgoing
          apply copyClear_failsAt.mono
          · rintro - s₂ ⟨hoffset₂, hstatus₂, h₂⟩
            have hl := h₁.trans h₂
            apply (ih (hu.later hl) (by omega) (by omega)).mono
            · rintro left' s₃ ⟨n, hn, h₃⟩
              have hwindow : Apart setup bad s.offset left → Apart setup bad s₂.offset
                  (left - stripe setup.cryptByteBlock left - if setup.skipByteBlock > 0 then
                    stripe setup.skipByteBlock (left - stripe setup.cryptByteBlock left)
                    else 0) := by
                unfold Apart
                omega
              have hok₃ (hapart : Apart setup bad s.offset left) : s₃.status = .ok :=
                h₃.keeps (hstatus₂.trans hok) (hwindow hapart)
              refine ⟨stripe setup.cryptByteBlock left + (if setup.skipByteBlock > 0 then
                  stripe setup.skipByteBlock (left - stripe setup.cryptByteBlock left) else 0) + n,
                by omega, hl.trans h₃.later, ?_, fun _ => hok₃, fun _ => hok₃,
                fun hits => absurd hits.2 hne⟩
              rw [h₃.offset, hoffset₂, hoffset]
              omega
            · exact fun _ _ h => h
          · exact fun _ _ h => h.elim
        · intro hstop
          rw [if_neg hstop] at hgoing
          obtain ⟨hbad, hoffset, hfailed⟩ := hgoing
          have hnot : ¬ Apart setup bad s.offset left := by
            unfold Apart at hbad ⊢
            omega
          exact ⟨0, Nat.zero_add _, h₁, hoffset, fun _ ha => absurd ha hnot,
            fun _ ha => absurd ha hnot, fun _ => hfailed⟩
      · exact fun _ _ h => h.elim
    · intro hlt
      exact ⟨0, Nat.zero_add _, .refl s, rfl, fun hge => absurd hge hlt, fun hok _ => hok,
        fun hits => absurd hits.1 hlt⟩

theorem processPattern_failsAt (hu : Underway setup s) (hcrypt : ¬ 2 ^ 60 ∣ setup.cryptByteBlock)
    (hlt : p < 2 ^ 63) :
    wp (processPattern (Evp.failsAt bad).observed setup p)
      (fun _ s' => GoesPast setup bad p p (aesBlockSize ≤ p ∨ setup.cipherAlgorithm = .aesCbc)
        (aesBlockSize ≤ p ∧ setup.outBytes + s.offset = bad) s s')
      (fun _ _ => False) s := by
  have hstripes : ∀ {s₀ : CencState (Ctx × List Bool)}, Later s s₀ → s₀.offset = s.offset →
      (s.status = .ok ∨ setup.cipherAlgorithm = .aesCbc → s₀.status = .ok) →
      wp (patternLoop (Evp.failsAt bad).observed setup p p >>= copyClear setup)
        (fun _ s' => GoesPast setup bad p p (aesBlockSize ≤ p ∨ setup.cipherAlgorithm = .aesCbc)
          (aesBlockSize ≤ p ∧ setup.outBytes + s.offset = bad) s s')
        (fun _ _ => False) s₀ := by
    intro s₀ h₀ hoffset₀ hok₀
    rw [wp_bind]
    apply (patternLoop_failsAt (hu.later h₀) hcrypt le_rfl hlt).mono
    · rintro left s₁ ⟨n, hn, h₁⟩
      rw [hoffset₀] at h₁
      apply copyClear_failsAt.mono
      · rintro - s₂ ⟨hoffset₂, hstatus₂, h₂⟩
        have hkeeps (hok : s₀.status = .ok) (ha : Apart setup bad s.offset p) : s₂.status = .ok :=
          hstatus₂.trans (h₁.keeps hok (hoffset₀ ▸ ha))
        refine ⟨h₀.trans (h₁.later.trans h₂), ?_, fun hsets ha => ?_,
          fun hok => hkeeps (hok₀ (.inl hok)), fun hits => h₂.outcomes (h₁.hits hits)⟩
        · rw [hoffset₂, h₁.offset, hoffset₀]
          omega
        · rcases hsets with hge | hcbc
          · exact hstatus₂.trans (h₁.sets hge (hoffset₀ ▸ ha))
          · exact hkeeps (hok₀ (.inr hcbc)) ha
      · exact fun _ _ h => h.elim
    · exact fun _ _ h => h
  simp only [processPattern, wp_ite, wp_bind, wp_modify]
  constructor
  · intro hcbc
    apply wp_orBreak
    have hiv : Later s { s with iv := setup.iv } := ⟨rfl, rfl, id, List.Subset.refl _⟩
    apply (contextSetIv_failsAt (hu.later hiv).able).mono
    · rintro - s₁ ⟨hoffset₁, -, h₁⟩
      have hl : Later s { s₁ with status := .ok } :=
        (hiv.trans h₁).trans ⟨rfl, rfl, id, List.Subset.refl _⟩
      exact hstripes hl hoffset₁ fun _ => rfl
    · exact fun _ _ h => h.elim
  · intro hctr
    exact (wp_bind _ _).1 (hstripes (.refl s) rfl fun h => h.resolve_right hctr)

theorem processSubsample_failsAt (hu : Underway setup s)
    (hcrypt : ¬ 2 ^ 60 ∣ setup.cryptByteBlock) (hlt : subsample.bytesOfProtectedData < 2 ^ 63) :
    wp (processSubsample (Evp.failsAt bad).observed setup subsample)
      (fun _ s' => GoesPast setup bad
        (subsample.bytesOfClearData + subsample.bytesOfProtectedData)
        (subsample.bytesOfClearData + subsample.bytesOfProtectedData)
        (SetsStatus setup.cipherAlgorithm subsample)
        (aesBlockSize ≤ subsample.bytesOfProtectedData ∧
          setup.outBytes + s.offset + subsample.bytesOfClearData = bad) s s')
      (fun _ _ => False) s := by
  have hnonzero : setup.cryptByteBlock ≠ 0 := fun hz => hcrypt (hz ▸ dvd_zero _)
  simp only [processSubsample, wp_bind]
  apply copyClear_failsAt.mono
  · rintro - s₁ ⟨hoffset₁, hstatus₁, h₁⟩
    simp only [wp_ite, wp_pure]
    have hwindow : Apart setup bad s.offset
        (subsample.bytesOfClearData + subsample.bytesOfProtectedData) →
          Apart setup bad s₁.offset subsample.bytesOfProtectedData := by
      unfold Apart
      omega
    refine ⟨fun hpos => ⟨fun hfull => absurd hfull hnonzero, fun _ => ?_⟩, fun hzero => ?_⟩
    · apply (processPattern_failsAt (hu.later h₁) hcrypt hlt).mono
      · intro _ s₂ h₂
        refine ⟨h₁.trans h₂.later, ?_, fun hsets ha => ?_,
          fun hok ha => h₂.keeps (hstatus₁.trans hok) (hwindow ha), fun hits => ?_⟩
        · rw [h₂.offset, hoffset₁, Nat.add_assoc]
        · exact h₂.sets (hsets.imp_right And.left) (hwindow ha)
        · exact h₂.hits ⟨hits.1, by rw [hoffset₁, ← Nat.add_assoc, hits.2]⟩
      · exact fun _ _ h => h
    · refine ⟨h₁, by omega, fun hsets => ?_, fun hok _ => hstatus₁.trans hok, fun hits => ?_⟩
      · unfold SetsStatus aesBlockSize at hsets
        omega
      · unfold aesBlockSize at hits
        omega
  · exact fun _ _ h => h.elim

/-- One subsample after the other, by induction on the list. -/
theorem processSubsamples_failsAt (hu : Underway setup s)
    (hcrypt : ¬ 2 ^ 60 ∣ setup.cryptByteBlock) (hlt : totalLength subsamples < 2 ^ 63) :
    wp (processSubsamples (Evp.failsAt bad).observed setup subsamples)
      (fun _ s' => GoesPast setup bad (totalLength subsamples) (totalLength subsamples)
        (∃ subsample ∈ subsamples, SetsStatus setup.cipherAlgorithm subsample) False s s')
      (fun _ _ => False) s := by
  induction subsamples generalizing s with
  | nil => exact ⟨.refl s, rfl, nofun, fun hok _ => hok, False.elim⟩
  | cons subsample rest ih =>
    have htotal : totalLength (subsample :: rest) = subsample.bytesOfClearData +
        subsample.bytesOfProtectedData + totalLength rest := by simp [totalLength]
    simp only [processSubsamples, wp_bind]
    apply (processSubsample_failsAt hu hcrypt (by omega)).mono
    · intro _ s₁ h₁
      have hoffset₁ := h₁.offset
      apply (ih (hu.later h₁.later) (by omega)).mono
      · intro _ s₂ h₂
        have hfirst : Apart setup bad s.offset (totalLength (subsample :: rest)) →
            Apart setup bad s.offset
              (subsample.bytesOfClearData + subsample.bytesOfProtectedData) := by
          unfold Apart
          omega
        have hrest : Apart setup bad s.offset (totalLength (subsample :: rest)) →
            Apart setup bad s₁.offset (totalLength rest) := by
          unfold Apart
          omega
        refine ⟨h₁.later.trans h₂.later, ?_, fun hsets ha => ?_,
          fun hok ha => h₂.keeps (h₁.keeps hok (hfirst ha)) (hrest ha), False.elim⟩
        · rw [h₂.offset, hoffset₁, htotal, Nat.add_assoc]
        · obtain ⟨sub, hmem, hsub⟩ := hsets
          rcases List.mem_cons.1 hmem with rfl | hmem
          · exact h₂.keeps (h₁.sets hsub (hfirst ha)) (hrest ha)
          · exact h₂.sets ⟨sub, hmem, hsub⟩ (hrest ha)
      · exact fun _ _ h => h
    · exact fun _ _ h => h

theorem processSubsamples_append {evp : Evp Ctx} {setup : CencSetup Ctx} :
    processSubsamples evp setup (subsamples ++ subsamples') =
      processSubsamples evp setup subsamples >>= fun _ =>
        processSubsamples evp setup subsamples' := by
  induction subsamples with
  | nil => rw [List.nil_append, processSubsamples, pure_bind]
  | cons subsample rest ih => simp only [List.cons_append, processSubsamples, ih, bind_assoc]

theorem exists_coversUp
    (h : ¬ subsamples.Pairwise fun first second => ¬ CoversUp alg first second) :
    ∃ before first rest, subsamples = before ++ first :: rest ∧
      aesBlockSize ≤ first.bytesOfProtectedData ∧ ∃ second ∈ rest, SetsStatus alg second := by
  induction subsamples with
  | nil => exact absurd .nil h
  | cons first rest ih =>
    by_cases hrest : rest.Pairwise fun first second => ¬ CoversUp alg first second
    · have hfirst : ¬ ∀ second ∈ rest, ¬ CoversUp alg first second :=
        fun hall => h (List.pairwise_cons.2 ⟨hall, hrest⟩)
      push Not at hfirst
      obtain ⟨second, hmem, hge, hsets⟩ := hfirst
      exact ⟨[], first, rest, rfl, hge, second, hmem, hsets⟩
    · obtain ⟨before, first', rest', rfl, h'⟩ := ih hrest
      exact ⟨first :: before, first', rest', rfl, h'⟩

/-- A failure at the first protected byte of a subsample does not come out of the sample where a
later subsample sets the status. -/
theorem processBytes_failsAt {memory : Memory}
    (hable : Able (setup.start memory) setup.outBytes setup.inBytes)
    (hcrypt : ¬ 2 ^ 60 ∣ setup.cryptByteBlock)
    (hlt : totalLength (before ++ first :: rest) < 2 ^ 63)
    (hge : aesBlockSize ≤ first.bytesOfProtectedData) (hsecond : second ∈ rest)
    (hsets : SetsStatus setup.cipherAlgorithm second) :
    wp (processBytes (Evp.failsAt
        (setup.outBytes + totalLength before + first.bytesOfClearData)).observed setup
        (before ++ first :: rest))
      (fun _ s' => false ∈ s'.context.evpCipher.2) (fun _ _ => False) (setup.start memory) := by
  have htotal : totalLength (before ++ first :: rest) = totalLength before +
      (first.bytesOfClearData + first.bytesOfProtectedData + totalLength rest) := by
    simp [totalLength]
  unfold aesBlockSize at hge
  have hstart : Underway setup (setup.start memory) := ⟨hable, dvd_zero _⟩
  simp only [processBytes, wp_bind]
  apply wp_orBreak
  apply (contextSetIv_failsAt hable).mono
  · rintro - s₁ ⟨hoffset₁, -, h₁⟩
    have hl₁ : Later (setup.start memory) { s₁ with status := .ok } :=
      h₁.trans ⟨rfl, rfl, id, List.Subset.refl _⟩
    have hoffset₁ : s₁.offset = 0 := hoffset₁
    simp only [processSubsamples_append, processSubsamples, bind_assoc, wp_bind]
    apply (processSubsamples_failsAt (hstart.later hl₁) hcrypt (by omega)).mono
    · intro _ s₂ h₂
      have hu₂ := (hstart.later hl₁).later h₂.later
      have hoffset₂ : s₂.offset = totalLength before := by
        rw [h₂.offset]
        exact (congrArg (· + _) hoffset₁).trans (Nat.zero_add _)
      have hfirst : first.bytesOfProtectedData < 2 ^ 63 := by omega
      rw [wp_bind]
      apply (processSubsample_failsAt hu₂ hcrypt hfirst).mono
      · intro _ s₃ h₃
        have hfailed : false ∈ s₃.context.evpCipher.2 := by
          refine h₃.hits ⟨hge, ?_⟩
          rw [hoffset₂]
        have hoffset₃ := h₃.offset
        rw [wp_bind]
        apply (processSubsamples_failsAt (hu₂.later h₃.later) hcrypt (by omega)).mono
        · intro _ s₄ h₄
          simp only [wp_bind, wp_get, wp_ite, wp_pure, wp_throw]
          refine ⟨fun _ => h₄.later.outcomes hfailed, fun hne => hne ?_⟩
          refine h₄.sets ⟨second, hsecond, hsets⟩ (.inl ?_)
          omega
        · exact fun _ _ h => h
      · exact fun _ _ h => h
    · exact fun _ _ h => h
  · exact fun _ _ h => h.elim

end FailsAt

/-- Wherever a sample that was accepted is processed with success, no call has failed and every
range was decrypted, exactly where the pattern has no bytes to decrypt or no subsample with a stripe
comes before one that sets the status again. -/
theorem cencProcessSample_failures_exact {client : Client Ctx}
    (hv : verifySample client reading sample = .ok ())
    (hs : cencSetup client sample = .ok (setup, subsamples)) :
    (∀ (evp : Evp Ctx) (memory : Memory) (sample' : SaSample),
      (cencProcessSample evp.observed client.observed sample memory).result = .ok sample' →
      SampleCompleted setup subsamples sample sample'
        (cencProcessSample evp.observed client.observed sample memory)) ↔
    2 ^ 60 ∣ sample.cryptByteBlock ∨ subsamples.Pairwise fun first second =>
      ¬ CoversUp setup.cipherAlgorithm first second := by
  obtain ⟨cipher, subsamples', out, inp, outBytes, inBytes, hver⟩ := verifySample_ok hv
  obtain ⟨rfl, -, -, -, -, -, -, hc, -⟩ := hver.of_setup hs
  have hfits := hver.fits hs
  obtain ⟨hlen, -⟩ := cencGetRequiredLength_eq hver.noOverflow
  have hlt := hfits.length_lt
  have hrun (evp : Evp Ctx) (memory : Memory) :=
    cencProcessSample_of_setup (hver.observed hs) evp.observed memory
  have htakes : setup.context.cipherAlgorithm.takesIv := by
    rw [hfits.contextAlgorithm]
    rcases hfits.algorithm with halg | halg
    · rw [halg]
      rfl
    · rw [halg]
      rfl
  rw [← hc]
  constructor
  · intro hall
    by_contra hn
    obtain ⟨hcrypt, hpairs⟩ := not_or.1 hn
    obtain ⟨before, first, rest, rfl, hge, second, hsecond, hsets⟩ := exists_coversUp hpairs
    have hable : Able (setup.observed.start fun _ => 0) setup.observed.outBytes
        setup.observed.inBytes := ⟨hfits.contextMode, htakes, hfits.outNonNull, hfits.inNonNull⟩
    have hshort : totalLength (before ++ first :: rest) < 2 ^ 63 := hlen ▸ hlt
    obtain ⟨offset, hoffset, hfailed⟩ :=
      (processBytes_failsAt hable hcrypt hshort hge hsecond hsets).exists_ok
    have hcompleted := hall (Evp.failsAt _) (fun _ => 0) _ (by
      rw [hrun]
      dsimp only
      rw [hoffset]
      rfl)
    rw [hrun] at hcompleted
    exact Bool.false_ne_true (hcompleted.outcomes _ rfl false hfailed)
  · intro hcond evp memory sample' hok
    rw [hrun] at hok ⊢
    dsimp only at hok ⊢
    obtain ⟨offset, hoffset⟩ : ∃ offset, ((processBytes evp.observed setup.observed
        subsamples).run.run (setup.observed.start memory)).1 = .ok offset := by
      cases hr : ((processBytes evp.observed setup.observed subsamples).run.run
          (setup.observed.start memory)).1 with
      | error e => rw [hr] at hok; cases hok
      | ok offset => exact ⟨offset, rfl⟩
    have hstart : (setup.observed.start memory).Decrypting := ⟨hfits.contextMode, htakes⟩
    obtain ⟨rfl, hpassed⟩ :=
      (processBytes_passed evp.observes hstart hcond).of_ok (Prod.ext hoffset rfl)
    rw [hoffset] at hok
    refine ⟨?_, hpassed.ended, ?_, (Except.ok.inj hok).symm⟩
    · rintro context ⟨⟩
      exact hpassed.outcomes nofun
    · rw [← planSample_observed]
      exact hpassed.completed

theorem cencProcessSample_failures_exact_one_stripe :
    (∀ (evp : Evp (BitVec (64 + 64) × Nat)) (memory : Memory) (sample' : SaSample),
      (cencProcessSample evp.observed ctrClient.observed (stripedSample 1 9 [⟨3, 160⟩, ⟨5, 8⟩])
        memory).result = .ok sample' →
      SampleCompleted (stripedSetup 1 9) [⟨3, 160⟩, ⟨5, 8⟩] (stripedSample 1 9 [⟨3, 160⟩, ⟨5, 8⟩])
        sample' (cencProcessSample evp.observed ctrClient.observed
          (stripedSample 1 9 [⟨3, 160⟩, ⟨5, 8⟩]) memory)) ↔
    2 ^ 60 ∣ (stripedSample 1 9 [⟨3, 160⟩, ⟨5, 8⟩]).cryptByteBlock ∨
      [⟨3, 160⟩, ⟨5, 8⟩].Pairwise fun first second =>
        ¬ CoversUp (stripedSetup 1 9).cipherAlgorithm first second :=
  cencProcessSample_failures_exact
    (by decide : verifySample ctrClient noOutputs (stripedSample 1 9 [⟨3, 160⟩, ⟨5, 8⟩]) = .ok ())
    rfl

/-- The first of two blocks is not decrypted, its bytes are copied as they are, and the sample
succeeds. -/
theorem cencProcessSample_failure_lost :
    verifySample ctrClient noOutputs (stripedSample 1 0 [⟨0, 16⟩, ⟨0, 16⟩]) = .ok () ∧
    cencSetup ctrClient (stripedSample 1 0 [⟨0, 16⟩, ⟨0, 16⟩]) =
      .ok (stripedSetup 1 0, [⟨0, 16⟩, ⟨0, 16⟩]) ∧
    let r := cencProcessSample (Evp.failsAt 2000).observed ctrClient.observed
      (stripedSample 1 0 [⟨0, 16⟩, ⟨0, 16⟩]) fun a => UInt8.ofNat a
    r.result = .ok { stripedSample 1 0 [⟨0, 16⟩, ⟨0, 16⟩] with
      out := some (.clear 2000 500 32)
      inp := some (.clear 1000 500 32) } ∧
    r.memory 2000 = UInt8.ofNat 1000 ∧
    ∀ sample', ¬ SampleCompleted (stripedSetup 1 0) [⟨0, 16⟩, ⟨0, 16⟩]
      (stripedSample 1 0 [⟨0, 16⟩, ⟨0, 16⟩]) sample' r := by
  refine ⟨by decide, rfl, by decide +kernel, by decide +kernel, fun sample' hcompleted => ?_⟩
  have hlengths : completedLengths (cencProcessSample (Evp.failsAt 2000).observed
      ctrClient.observed (stripedSample 1 0 [⟨0, 16⟩, ⟨0, 16⟩]) fun a => UInt8.ofNat a).log =
      [16] := by
    decide +kernel
  have hplan : decryptedLengths (planSample (stripedSetup 1 0) [⟨0, 16⟩, ⟨0, 16⟩]) = [16, 16] := by
    decide +kernel
  have hdecrypted := hcompleted.decrypted
  rw [hlengths, hplan] at hdecrypted
  cases hdecrypted

end TaSecureApi
