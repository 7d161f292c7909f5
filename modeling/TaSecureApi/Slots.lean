import Mathlib.Logic.Function.Basic
import Mathlib.Data.BitVec

namespace TaSecureApi
set_option autoImplicit true

/-- `SLOT_INVALID`, which is `ULONG_MAX`; a `slot_t` is a `uint64_t`. -/
def slotInvalid : Nat := 2 ^ 64 - 1

/-- `struct slots_s`: one bit for each slot, the most significant bit of a block first. -/
structure Slots where
  bitfield : Nat → BitVec 32
  slotCount : Nat
  blockCount : Nat
  slotCount_eq : slotCount = 32 * blockCount
  slotCount_lt : slotCount < 2 ^ 64

def blockIdx (slot : Nat) : Nat := slot / 32

def blockBit (slot : Nat) : Nat := slot % 32

def blockBitmask (slot : Nat) : BitVec 32 := 1#32 <<< (32 - blockBit slot - 1)

/-- One plus the index of the least significant set bit, and 0 when no bit is set. -/
def ffs (x : BitVec 32) : Nat :=
  match (List.range 32).find? (fun i => x.getLsbD i) with
  | some i => i + 1
  | none => 0

def slotsInit (count : UInt64) : Option Slots :=
  if h : count.toNat % 32 = 0 then
    some {
      bitfield := fun _ => 0#32
      slotCount := count.toNat
      blockCount := count.toNat / 32
      slotCount_eq := by omega
      slotCount_lt := count.toNat_lt }
  else none

/-- The first block with a clear bit gives its least significant clear bit away. -/
def slotsAllocate (slots : Slots) : Nat × Slots :=
  match (List.range slots.blockCount).find? (fun i => ffs (~~~slots.bitfield i) != 0) with
  | none => (slotInvalid, slots)
  | some i =>
    let leastSignificantAvailable := ffs (~~~slots.bitfield i)
    let bitmask := 1#32 <<< (leastSignificantAvailable - 1)
    ((i + 1) * 32 - leastSignificantAvailable,
      { slots with bitfield := Function.update slots.bitfield i (slots.bitfield i ||| bitmask) })

/-- The test that `slots_free` and `slots_shutdown` make. -/
def Slots.isAllocated (slots : Slots) (slot : Nat) : Bool :=
  slots.bitfield (blockIdx slot) &&& blockBitmask slot != 0#32

def slotsFree (slots : Slots) (slot : Nat) : Slots :=
  if slot = slotInvalid then slots
  else if slot ≥ slots.slotCount then slots
  else if !slots.isAllocated slot then slots
  else
    { slots with
      bitfield := Function.update slots.bitfield (blockIdx slot)
        (slots.bitfield (blockIdx slot) &&& ~~~blockBitmask slot) }

theorem ffs_eq_zero : ffs x = 0 ↔ x = 0#32 := by
  unfold ffs
  split
  · rename_i i hi
    simp only [Nat.add_eq_zero_iff, one_ne_zero, and_false, false_iff]
    rintro rfl
    simpa using List.find?_some hi
  · rename_i hi
    simp only [List.find?_eq_none, List.mem_range] at hi
    simp only [true_iff]
    apply BitVec.eq_of_getLsbD_eq
    intro i hi'
    simpa using hi i hi'

theorem ffs_spec (h : x ≠ 0#32) : 0 < ffs x ∧ ffs x ≤ 32 ∧ x.getLsbD (ffs x - 1) = true := by
  cases hf : (List.range 32).find? (fun i => x.getLsbD i) with
  | none => exact absurd (ffs_eq_zero.1 (by simp only [ffs, hf])) h
  | some i =>
    have hm := List.mem_range.1 (List.mem_of_find?_eq_some hf)
    have hb := List.find?_some hf
    simp only [ffs, hf]
    exact ⟨by omega, by omega, by simpa using hb⟩

theorem blockBitmask_getLsbD (hi : i < 32) :
    (blockBitmask slot).getLsbD i = decide (i = 31 - slot % 32) := by
  have hs : slot % 32 < 32 := Nat.mod_lt _ (by omega)
  rw [Bool.eq_iff_iff]
  simp only [blockBitmask, blockBit, BitVec.getLsbD_shiftLeft, BitVec.getLsbD_one,
    Bool.and_eq_true, decide_eq_true_eq, Bool.not_eq_true', decide_eq_false_iff_not]
  omega

theorem Slots.isAllocated_eq (slots : Slots) (slot : Nat) :
    slots.isAllocated slot = (slots.bitfield (slot / 32)).getLsbD (31 - slot % 32) := by
  have hi : 31 - slot % 32 < 32 := by omega
  rw [Bool.eq_iff_iff]
  simp only [Slots.isAllocated, blockIdx, bne_iff_ne, ne_eq]
  constructor
  · intro h
    by_contra hb
    apply h
    apply BitVec.eq_of_getLsbD_eq
    intro i hi'
    rw [BitVec.getLsbD_and, blockBitmask_getLsbD hi']
    by_cases he : i = 31 - slot % 32
    · subst he
      simpa using hb
    · simp [he]
  · intro hb h
    have hz := congrArg (fun b => BitVec.getLsbD b (31 - slot % 32)) h
    simp only [BitVec.getLsbD_and, hb, blockBitmask_getLsbD hi] at hz
    simp at hz

theorem Slots.slotCount_le (slots : Slots) : slots.slotCount < slotInvalid := by
  have h₁ := slots.slotCount_eq
  have h₂ := slots.slotCount_lt
  simp only [slotInvalid]
  omega

theorem slotsAllocate_spec (slots : Slots) :
    (slotsAllocate slots = (slotInvalid, slots) ∧
      ∀ s < slots.slotCount, slots.isAllocated s = true) ∨
    ((slotsAllocate slots).1 < slots.slotCount ∧
      slots.isAllocated (slotsAllocate slots).1 = false ∧
      (slotsAllocate slots).2.slotCount = slots.slotCount ∧
      ∀ s, (slotsAllocate slots).2.isAllocated s =
        (decide (s = (slotsAllocate slots).1) || slots.isAllocated s)) := by
  cases hf : (List.range slots.blockCount).find? (fun i => ffs (~~~slots.bitfield i) != 0) with
  | none =>
    refine .inl ⟨by simp only [slotsAllocate, hf], fun s hs => ?_⟩
    have hc := slots.slotCount_eq
    have hz := List.find?_eq_none.1 hf (s / 32) (List.mem_range.2 (by omega))
    simp only [bne_iff_ne, ne_eq, not_not, ffs_eq_zero] at hz
    rw [Slots.isAllocated_eq]
    have hb := congrArg (fun b => BitVec.getLsbD b (31 - s % 32)) hz
    simp only [BitVec.getLsbD_not, BitVec.getLsbD_zero, Bool.and_eq_false_iff] at hb
    rcases hb with hb | hb
    · simp only [decide_eq_false_iff_not] at hb
      omega
    · simpa using hb
  | some i =>
    have hm := List.mem_range.1 (List.mem_of_find?_eq_some hf)
    have hne : ~~~slots.bitfield i ≠ 0#32 := by
      have := List.find?_some hf
      simpa [ffs_eq_zero] using this
    obtain ⟨hpos, hle, hbit⟩ := ffs_spec hne
    generalize hn : ffs (~~~slots.bitfield i) = n at hpos hle hbit
    have hslot : (slotsAllocate slots).1 = (i + 1) * 32 - n := by
      simp only [slotsAllocate, hf, hn]
    have hdiv : ((i + 1) * 32 - n) / 32 = i := by omega
    have hmod : 31 - ((i + 1) * 32 - n) % 32 = n - 1 := by omega
    have hc := slots.slotCount_eq
    right
    rw [hslot]
    refine ⟨by omega, ?_, by simp only [slotsAllocate, hf], fun s => ?_⟩
    · rw [BitVec.getLsbD_not, Bool.and_eq_true, Bool.not_eq_true'] at hbit
      rw [Slots.isAllocated_eq, hdiv, hmod]
      exact hbit.2
    · simp only [Slots.isAllocated_eq, slotsAllocate, hf, hn, Function.update_apply]
      by_cases hs : s / 32 = i
      · have he : s = (i + 1) * 32 - n ↔ 31 - s % 32 = n - 1 := by omega
        rw [if_pos hs, BitVec.getLsbD_or, hs, Bool.or_comm]
        congr 1
        rw [Bool.eq_iff_iff]
        simp only [BitVec.getLsbD_shiftLeft, BitVec.getLsbD_one, Bool.and_eq_true,
          decide_eq_true_eq, Bool.not_eq_true', decide_eq_false_iff_not, he]
        omega
      · have he : s ≠ (i + 1) * 32 - n := by omega
        rw [if_neg hs]
        simp [he]

theorem slotsFree_slotCount (slots : Slots) (slot : Nat) :
    (slotsFree slots slot).slotCount = slots.slotCount := by
  unfold slotsFree
  split_ifs <;> rfl

theorem slotsFree_isAllocated (h : slot < slots.slotCount) (s : Nat) :
    (slotsFree slots slot).isAllocated s = (!decide (s = slot) && slots.isAllocated s) := by
  have hv := slots.slotCount_le
  have h₁ : slot ≠ slotInvalid := by omega
  unfold slotsFree
  rw [if_neg h₁, if_neg (by omega)]
  split_ifs with ha
  · simp only [Bool.not_eq_true'] at ha
    by_cases hs : s = slot
    · subst hs
      simp [ha]
    · simp [hs]
  · simp only [Slots.isAllocated_eq, Function.update_apply, blockIdx]
    by_cases hs : s / 32 = slot / 32
    · have he : s = slot ↔ 31 - s % 32 = 31 - slot % 32 := by omega
      rw [if_pos hs, BitVec.getLsbD_and, BitVec.getLsbD_not,
        blockBitmask_getLsbD (by omega), hs, Bool.and_comm]
      congr 1
      rw [Bool.eq_iff_iff]
      simp only [Bool.and_eq_true, decide_eq_true_eq, Bool.not_eq_true', decide_eq_false_iff_not,
        he]
      omega
    · have he : s ≠ slot := by
        rintro rfl
        exact hs rfl
      rw [if_neg hs]
      simp [he]

end TaSecureApi
