import TaSecureApi.SuppliedBytes

namespace TaSecureApi
set_option autoImplicit true
open Layout

/-- A request that passes the checks of `ta_invoke_process_common_encryption`, the last of which
compares the size of the supplied memory with a product modulo `2 ^ 64`. -/
structure AcceptsSubsamples (params : Fin 4 → TaParam α) (s : SaProcessCommonEncryptionS) :
    Prop where
  types : wrongProcessCommonEncryptionParams params = false
  refs : ((params 1).memRef.isNone || (params 2).memRef.isNone || (params 3).memRef.isNone) = false
  sizes : ((params 1).memRefSize == 0 || (params 2).memRefSize == 0 ||
    (params 3).memRefSize == 0) = false
  version : s.apiVersion = apiVersion
  lengths : (params 1).memRefSize = s.subsampleCount * Struct.size SaSubsampleLength % 2 ^ 64

/-- The entry of the array that a pass of a loop over the subsamples uses is within a size. -/
def EntriesWithin (count size : Nat) : Prop :=
  ∀ j < count, (j + 1) * Struct.size SaSubsampleLength ≤ size

/-- The size of the supplied memory is the one of as many entries as the request says, all of which
are read there and are in the copy that the call gets. -/
def SubsamplesAgree (params : Fin 4 → TaParam α) (memory : TaMemory)
    (s : SaProcessCommonEncryptionS) : Prop :=
  (params 1).memRefSize = s.subsampleCount * Struct.size SaSubsampleLength ∧
    EntriesWithin s.subsampleCount (params 1).memRefSize ∧
    EntriesWithin s.subsampleCount (s.subsampleCount * Struct.size SaSubsampleLength % 2 ^ 64) ∧
    ∃ sample, taInvokeProcessCommonEncryption params memory s =
        .ok (.processCommonEncryption sample) ∧
      sample.subsampleLengths = memory.readArray SaSubsampleLength 1 s.subsampleCount ∧
      sample.subsampleLengths.length = s.subsampleCount

section Proofs

variable {params : Fin 4 → TaParam α} {memory : TaMemory} {s : SaProcessCommonEncryptionS}

theorem size_saSubsampleLength : Struct.size SaSubsampleLength = 16 := by decide

theorem entriesWithin_of_le (h : count * Struct.size SaSubsampleLength ≤ size) :
    EntriesWithin count size := by
  intro j hj
  exact (Nat.mul_le_mul_right _ hj).trans h

/-- An accepted request whose product does not wrap around makes the call with all subsamples. -/
theorem AcceptsSubsamples.call (memory : TaMemory) (h : AcceptsSubsamples params s)
    (hcount : s.subsampleCount * Struct.size SaSubsampleLength < 2 ^ 64) :
    ∃ sample, taInvokeProcessCommonEncryption params memory s =
        .ok (.processCommonEncryption sample) ∧
      sample.subsampleLengths = memory.readArray SaSubsampleLength 1 s.subsampleCount := by
  have hrefs := h.refs
  simp only [Bool.or_eq_false_iff, Option.isNone_eq_false_iff] at hrefs
  have hout : taBuffer params memory 2 s.outBufferType s.outOffset = _ :=
    taBuffer_eq fun _ => hrefs.1.2
  have hinp : taBuffer params memory 3 s.inBufferType s.inOffset = _ :=
    taBuffer_eq fun _ => hrefs.2
  have hfits : (0 + s.subsampleCount) * Struct.size SaSubsampleLength ≤
      s.subsampleCount * Struct.size SaSubsampleLength := by rw [Nat.zero_add]
  have hcopy := copySubsampleLengths_eq memory hfits
  have hlengths := h.lengths
  have hversion := h.version
  have hsizes := h.sizes
  rw [Nat.mod_eq_of_lt hcount] at hlengths
  rw [hlengths] at hsizes
  simp only [taInvokeProcessCommonEncryption, h.types, h.refs, hsizes, hversion, hlengths,
    Nat.mod_eq_of_lt hcount, hcopy, hout, hinp, refuse_false, ok_bind, bne_self_eq_false]
  refine ⟨_, rfl, ?_⟩
  simp only [Nat.zero_add]
  rfl

end Proofs

/-- A request for `2 ^ 60 + 1` subsamples with the memory of one. -/
def wrappedCount : SaProcessCommonEncryptionS :=
  ⟨apiVersion, List.replicate 16 0, 0, 0, 2 ^ 60 + 1, 0, saBufferTypeClear, 0, saBufferTypeClear, 0⟩

theorem block_lt : 16 < 2 ^ 64 := by decide

def wrappedCountParams : Fin 4 → TaParam Unit
  | 0 => inoutParam (Struct.size SaProcessCommonEncryptionS) (by decide)
  | _ => inputParam 16 block_lt

theorem wrappedCount_not_agrees : ¬ ∀ (params : Fin 4 → TaParam Unit) (memory : TaMemory)
    (s : SaProcessCommonEncryptionS), AcceptsSubsamples params s →
      SubsamplesAgree params memory s := by
  intro h
  have haccepts : AcceptsSubsamples wrappedCountParams wrappedCount :=
    ⟨by decide, by decide, by decide, rfl, by decide⟩
  have hagrees := (h wrappedCountParams ⟨fun _ _ => 0, fun _ => 0⟩ wrappedCount haccepts).1
  exact absurd hagrees (by decide)

/-- The subsamples of an accepted request agree with the memory that was supplied for them, if and
only if there are less than `2 ^ 60`. -/
theorem subsamplesAgree_iff (params : Fin 4 → TaParam α) (memory : TaMemory)
    (s : SaProcessCommonEncryptionS) :
    (AcceptsSubsamples params s → SubsamplesAgree params memory s) ↔
      (AcceptsSubsamples params s → s.subsampleCount < 2 ^ 60) := by
  refine forall_congr' fun haccepts => ?_
  constructor
  · intro hagree
    have hsize := hagree.1
    have hbounded := (params 1).bounded
    rw [size_saSubsampleLength] at hsize
    omega
  · intro hcount
    have hproduct : s.subsampleCount * Struct.size SaSubsampleLength < 2 ^ 64 := by
      rw [size_saSubsampleLength]
      omega
    have hlengths := haccepts.lengths
    rw [Nat.mod_eq_of_lt hproduct] at hlengths
    obtain ⟨sample, hcall, hsample⟩ := haccepts.call memory hproduct
    refine ⟨hlengths, entriesWithin_of_le hlengths.ge, ?_, sample, hcall, hsample, ?_⟩
    · rw [Nat.mod_eq_of_lt hproduct]
      exact entriesWithin_of_le (Nat.le_refl _)
    · rw [hsample, TaMemory.readArray, List.length_map, List.length_range]

end TaSecureApi
