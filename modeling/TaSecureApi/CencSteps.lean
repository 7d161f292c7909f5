import TaSecureApi.ProcessCommonEncryption

namespace TaSecureApi
set_option autoImplicit true
open Wp

variable {Ctx : Type} {ε : Type} {evp : Evp Ctx} {setup : CencSetup Ctx} {s s' s'' : CencState Ctx}

@[simp] theorem wp_emit {Q : Unit → CencState Ctx → Prop} {F : ε → CencState Ctx → Prop} :
    wp (emit event) Q F s ↔ Q () { s with log := event :: s.log } := Iff.rfl

@[simp] theorem wp_subtract {Q : Nat → CencState Ctx → Prop} {F : ε → CencState Ctx → Prop} :
    wp (subtract a b) Q F s ↔ Q (sizeSub a b) { s with log := .subtract a b :: s.log } := Iff.rfl

/-- Where `symmetric_context_decrypt` comes to call OpenSSL. -/
structure SymmetricContext.Ready (context : SymmetricContext Ctx) (out inp n : Nat) : Prop where
  mode : context.cipherMode = .decrypt
  out : out ≠ 0
  inp : inp ≠ 0
  length : context.cipherAlgorithm.isStream ∨ n % aesBlockSize = 0

theorem symmetricContextDecrypt_ready {context : SymmetricContext Ctx}
    (h : context.Ready out inp n) : symmetricContextDecrypt evp context memory out inp n =
      (if (evp.decryptUpdate context.evpCipher memory out inp (castInt n)).succeeded then
          .ok (castSize (evp.decryptUpdate context.evpCipher memory out inp (castInt n)).outl)
        else .error .internalError,
        { context with
          evpCipher := (evp.decryptUpdate context.evpCipher memory out inp (castInt n)).context },
        (evp.decryptUpdate context.evpCipher memory out inp (castInt n)).memory) := by
  have hlength : ¬ (¬ context.cipherAlgorithm.isStream ∧ n % aesBlockSize ≠ 0) := fun hn =>
    h.length.elim hn.1 hn.2
  rw [symmetricContextDecrypt, if_neg (not_not.2 h.mode), if_neg h.out, if_neg h.inp,
    if_neg hlength]
  dsimp only
  split_ifs with hs
  · rfl
  · rfl

theorem symmetricContextDecrypt_not_ready {context : SymmetricContext Ctx} (evp : Evp Ctx)
    (memory : Memory) (h : ¬ context.Ready out inp n) :
    ∃ e, symmetricContextDecrypt evp context memory out inp n = (.error e, context, memory) := by
  unfold symmetricContextDecrypt
  split_ifs with h₁ h₂ h₃ h₄
  · exact ⟨_, rfl⟩
  · exact ⟨_, rfl⟩
  · exact ⟨_, rfl⟩
  · exact ⟨_, rfl⟩
  · refine absurd ⟨not_not.1 h₁, h₂, h₃, ?_⟩ h
    by_contra hn
    exact h₄ (not_or.1 hn)

theorem wp_contextDecrypt {Q : Nat → CencState Ctx → Prop} {F : SaStatus → CencState Ctx → Prop}
    (hok : s.context.Ready out inp n →
      (evp.decryptUpdate s.context.evpCipher s.memory out inp (castInt n)).succeeded →
      Q (castSize (evp.decryptUpdate s.context.evpCipher s.memory out inp (castInt n)).outl)
        { s with
        context := { s.context with evpCipher :=
          (evp.decryptUpdate s.context.evpCipher s.memory out inp (castInt n)).context }
        memory := (evp.decryptUpdate s.context.evpCipher s.memory out inp (castInt n)).memory
        log := .access inp out n :: s.log })
    (herror : ∀ e evpCipher memory, (s.context.Ready out inp n →
        ¬ (evp.decryptUpdate s.context.evpCipher s.memory out inp (castInt n)).succeeded) →
      F e { s with
        context := { s.context with evpCipher := evpCipher }
        memory := memory
        log := .access inp out n :: s.log }) :
    wp (contextDecrypt evp out inp n) Q F s := by
  simp only [contextDecrypt, wp_bind, wp_emit, wp_get, wp_set]
  by_cases hr : s.context.Ready out inp n
  · rw [symmetricContextDecrypt_ready hr]
    split_ifs with hs
    · exact hok hr hs
    · exact herror _ _ _ fun _ => hs
  · obtain ⟨e, he⟩ := symmetricContextDecrypt_not_ready evp s.memory hr
    rw [he]
    exact herror e _ _ fun h => absurd h hr

/-- The algorithms that `symmetric_context_set_iv` takes. -/
def SaCipherAlgorithm.takesIv : SaCipherAlgorithm → Bool
  | aesCbc | aesCbcPkcs7 | aesCtr => true
  | _ => false

theorem symmetricContextSetIv_decrypt {context : SymmetricContext Ctx}
    (hm : context.cipherMode = .decrypt) (ha : context.cipherAlgorithm.takesIv) :
    symmetricContextSetIv evp context iv aesBlockSize =
      (if (evp.decryptInit context.evpCipher iv).1 then .ok () else .error .internalError,
        { context with evpCipher := (evp.decryptInit context.evpCipher iv).2 }) := by
  obtain ⟨alg, mode, ctx⟩ := context
  cases hm
  cases alg with
  | aesCbc | aesCbcPkcs7 | aesCtr =>
    simp only [symmetricContextSetIv, ne_eq, not_true_eq_false, if_false]
    split_ifs with h
    · rfl
    · rfl
  | _ => cases ha

theorem wp_contextSetIv {Q : Unit → CencState Ctx → Prop} {F : SaStatus → CencState Ctx → Prop}
    (hm : s.context.cipherMode = .decrypt) (ha : s.context.cipherAlgorithm.takesIv)
    (hok : (evp.decryptInit s.context.evpCipher s.iv).1 → Q () { s with
      context := { s.context with
        evpCipher := (evp.decryptInit s.context.evpCipher s.iv).2 } })
    (herror : ∀ e evpCipher, ¬ (evp.decryptInit s.context.evpCipher s.iv).1 → F e { s with
      context := { s.context with evpCipher := evpCipher } }) :
    wp (contextSetIv evp) Q F s := by
  simp only [contextSetIv, wp_bind, wp_get, wp_set, symmetricContextSetIv_decrypt hm ha]
  split_ifs with hs
  · exact hok hs
  · exact herror _ _ hs

theorem wp_orBreak {x : Prog (CencState Ctx) SaStatus Unit} {Q : Unit → CencState Ctx → Prop}
    {F : CencExit → CencState Ctx → Prop}
    (h : wp x (fun _ s' => Q () { s' with status := .ok }) (fun e s' => F (.status e) s') s) :
    wp (orBreak x) Q F s := by
  simp only [orBreak, wp_bind, wp_outcome]
  exact h

theorem wp_copyClear {Q : Unit → CencState Ctx → Prop} {F : ε → CencState Ctx → Prop} :
    wp (copyClear setup n) Q F s ↔ (n > 0 → Q () { s with
        memory := memcpy s.memory (setup.outBytes + s.offset) (setup.inBytes + s.offset) n
        offset := s.offset + n
        log := .access (setup.inBytes + s.offset) (setup.outBytes + s.offset) n :: s.log }) ∧
      (¬ n > 0 → Q () s) := by
  simp only [copyClear, wp_ite, wp_bind, wp_get, wp_pure]
  rfl

theorem wp_decryptProtected {Q : Unit → CencState Ctx → Prop}
    {F : SaStatus → CencState Ctx → Prop} : wp (decryptProtected evp setup n) Q F s ↔
      wp (decrypt evp setup.cipherAlgorithm (setup.outBytes + s.offset)
        (setup.inBytes + s.offset) n) (fun _ s' => Q () (s'.addOffset n)) F s := by
  simp only [decryptProtected, wp_bind, wp_get]
  rfl

/-- The number of full blocks that `decrypt` counts on. -/
def fullBlocks (encByteCount bytesToProcess : Nat) : Nat :=
  sizeSub bytesToProcess (leadingPartialBlockSize encByteCount) / aesBlockSize

def blocksBeforeRollover (counter : BitVec 64) : Nat :=
  sizeAdd (sizeSub (2 ^ 64 - 1) counter.toNat) 1

/-- Whether `decrypt` takes the branch for a counter that rolls over. -/
def rollsOver (cipherAlgorithm : SaCipherAlgorithm) (encByteCount : Nat) (counter : BitVec 64)
    (bytesToProcess : Nat) : Bool :=
  counterRollover (blocksBeforeRollover counter) (fullBlocks encByteCount bytesToProcess)
    (leadingPartialBlockSize encByteCount) && cipherAlgorithm = .aesCtr

/-- The state in which a call of `decrypt` comes to its loop. -/
def CencState.called (n : Nat) (s : CencState Ctx) : CencState Ctx :=
  { s with log := .subtract (2 ^ 64 - 1) s.iv.counter.toNat ::
      .subtract n (leadingPartialBlockSize s.encByteCount) ::
      .call s.encByteCount s.iv.counter n :: s.log }

theorem wp_decrypt {Q : Unit → CencState Ctx → Prop} {F : SaStatus → CencState Ctx → Prop} :
    wp (decrypt evp alg out inp n) Q F s ↔
      wp (decryptLoop evp out inp n (leadingPartialBlockSize s.encByteCount)
          (fullBlocks s.encByteCount n) (blocksBeforeRollover s.iv.counter)
          (rollsOver alg s.encByteCount s.iv.counter n))
        (fun _ s' => Q () { s' with
          log := .advanced n s.encByteCount s'.encByteCount :: s'.log }) F (s.called n) := by
  simp only [decrypt, wp_bind, wp_get, wp_emit, wp_subtract]
  rfl

theorem leadingPartialBlockSize_lt : leadingPartialBlockSize k < 16 := by
  unfold leadingPartialBlockSize aesBlockSize
  split_ifs <;> omega

theorem sizeSub_of_le (h : b ≤ a) (ha : a < 2 ^ 64) : sizeSub a b = a - b := by
  unfold sizeSub
  omega

theorem sizeAdd_of_lt (h : a + b < 2 ^ 64) : sizeAdd a b = a + b := Nat.mod_eq_of_lt h

theorem sizeAdd_assoc : sizeAdd (sizeAdd a b) c = sizeAdd a (b + c) := by
  unfold sizeAdd
  omega

end TaSecureApi
