import Mathlib.Data.Finset.Card
import TaSecureApi.Slots

namespace TaSecureApi
set_option autoImplicit true

/-- The calls of `slots_allocate` and `slots_free`. -/
inductive SlotsOp
  | allocate
  | free (slot : Nat)

def slotsStep (slots : Slots) : SlotsOp → Option Nat × Slots
  | .allocate => (some (slotsAllocate slots).1, (slotsAllocate slots).2)
  | .free slot => (none, slotsFree slots slot)

def slotsRun (slots : Slots) : List SlotsOp → List (Option Nat) × Slots
  | [] => ([], slots)
  | op :: ops =>
    let r := slotsStep slots op
    ((r.1 :: (slotsRun r.2 ops).1), (slotsRun r.2 ops).2)

/-- A call on a set of numbers below a count: any number that is not in the set can be allocated. -/
inductive SetStep (count : Nat) (S : Finset Nat) : SlotsOp → Option Nat → Finset Nat → Prop
  | allocate (slot : Nat) (lt : slot < count) (free : slot ∉ S) :
    SetStep count S .allocate (some slot) (insert slot S)
  | full (all : S = Finset.range count) : SetStep count S .allocate (some slotInvalid) S
  | free (slot : Nat) : SetStep count S (.free slot) none (S.erase slot)

inductive SetRun (count : Nat) : Finset Nat → List SlotsOp → List (Option Nat) → Finset Nat → Prop
  | nil (S : Finset Nat) : SetRun count S [] [] S
  | cons {S S' S'' : Finset Nat} {op : SlotsOp} {r : Option Nat} {ops : List SlotsOp}
    {rs : List (Option Nat)} (step : SetStep count S op r S') (run : SetRun count S' ops rs S'') :
    SetRun count S (op :: ops) (r :: rs) S''

def Slots.allocated (slots : Slots) : Finset Nat :=
  (Finset.range slots.slotCount).filter fun slot => slots.isAllocated slot

section Steps

variable {slots : Slots} {slot : Nat}

theorem Slots.mem_allocated : slot ∈ slots.allocated ↔
    slot < slots.slotCount ∧ slots.isAllocated slot = true := by
  simp [Slots.allocated]

theorem slotsAllocate_set :
    SetStep slots.slotCount slots.allocated .allocate (some (slotsAllocate slots).1)
      (slotsAllocate slots).2.allocated := by
  rcases slotsAllocate_spec slots with ⟨h, hall⟩ | ⟨hlt, hfree, hcount, hbits⟩
  · rw [h]
    apply SetStep.full
    ext slot
    rw [Slots.mem_allocated, Finset.mem_range]
    exact ⟨fun h => h.1, fun h => ⟨h, hall slot h⟩⟩
  · have hset : (slotsAllocate slots).2.allocated =
        insert (slotsAllocate slots).1 slots.allocated := by
      ext slot
      rw [Slots.mem_allocated, Finset.mem_insert, Slots.mem_allocated, hcount, hbits]
      by_cases hslot : slot = (slotsAllocate slots).1
      · simp [hslot, hlt]
      · simp [hslot]
    rw [hset]
    apply SetStep.allocate _ hlt
    rw [Slots.mem_allocated]
    intro h
    rw [hfree] at h
    cases h.2

theorem slotsFree_set :
    SetStep slots.slotCount slots.allocated (.free slot) none (slotsFree slots slot).allocated := by
  have hset : (slotsFree slots slot).allocated = slots.allocated.erase slot := by
    by_cases hlt : slot < slots.slotCount
    · ext s
      rw [Slots.mem_allocated, Finset.mem_erase, Slots.mem_allocated, slotsFree_slotCount,
        slotsFree_isAllocated hlt]
      by_cases hs : s = slot
      · simp [hs]
      · simp [hs]
    · have hsame : slotsFree slots slot = slots := by
        unfold slotsFree
        by_cases hinvalid : slot = slotInvalid
        · rw [if_pos hinvalid]
        · rw [if_neg hinvalid, if_pos (Nat.le_of_not_lt hlt)]
      rw [hsame, Finset.erase_eq_of_notMem]
      rw [Slots.mem_allocated]
      exact fun h => hlt h.1
  rw [hset]
  exact .free slot

theorem slotsStep_set (op : SlotsOp) :
    SetStep slots.slotCount slots.allocated op (slotsStep slots op).1
      (slotsStep slots op).2.allocated := by
  cases op with
  | allocate => exact slotsAllocate_set
  | free slot => exact slotsFree_set

theorem slotsStep_slotCount (op : SlotsOp) :
    (slotsStep slots op).2.slotCount = slots.slotCount := by
  cases op with
  | allocate =>
    rcases slotsAllocate_spec slots with ⟨h, -⟩ | ⟨-, -, h, -⟩
    · simp only [slotsStep, h]
    · exact h
  | free slot => exact slotsFree_slotCount slots slot

theorem slotsRun_set (slots : Slots) (ops : List SlotsOp) :
    SetRun slots.slotCount slots.allocated ops (slotsRun slots ops).1
      (slotsRun slots ops).2.allocated := by
  induction ops generalizing slots with
  | nil => exact .nil _
  | cons op ops ih =>
    have hrun := ih (slotsStep slots op).2
    rw [slotsStep_slotCount] at hrun
    exact .cons (slotsStep_set op) hrun

/-- What `ffs` and the block number make of a block is the slot whose word and bit they are. -/
theorem slotsAllocate_numbering (h : (slotsAllocate slots).1 ≠ slotInvalid) :
    (slotsAllocate slots).2.bitfield = Function.update slots.bitfield
      (blockIdx (slotsAllocate slots).1) (slots.bitfield (blockIdx (slotsAllocate slots).1) |||
        blockBitmask (slotsAllocate slots).1) := by
  cases hf : (List.range slots.blockCount).find? (fun i => ffs (~~~slots.bitfield i) != 0) with
  | none =>
    simp only [slotsAllocate, hf] at h
    exact absurd rfl h
  | some i =>
    have hne : ~~~slots.bitfield i ≠ 0#32 := by
      have hfound := List.find?_some hf
      simpa [ffs_eq_zero] using hfound
    obtain ⟨hpos, hle, -⟩ := ffs_spec hne
    have hidx : blockIdx ((i + 1) * 32 - ffs (~~~slots.bitfield i)) = i := by
      unfold blockIdx
      omega
    have hmask : blockBitmask ((i + 1) * 32 - ffs (~~~slots.bitfield i)) =
        1#32 <<< (ffs (~~~slots.bitfield i) - 1) := by
      unfold blockBitmask blockBit
      congr 1
      omega
    simp only [slotsAllocate, hf, hidx, hmask]

end Steps

/-- The slots of a table of any size are a finite set in every run, and every slot that is given
away is the word and the bit that a free of it will clear. -/
theorem slots_refine_set (count : UInt64) (h : count.toNat % 32 = 0) :
    ∃ slots, slotsInit count = some slots ∧ slots.allocated = ∅ ∧ ∀ ops,
      SetRun count.toNat ∅ ops (slotsRun slots ops).1 (slotsRun slots ops).2.allocated ∧
      ∀ slot slots', slotsAllocate (slotsRun slots ops).2 = (slot, slots') → slot ≠ slotInvalid →
        slots'.bitfield = Function.update (slotsRun slots ops).2.bitfield (blockIdx slot)
          ((slotsRun slots ops).2.bitfield (blockIdx slot) ||| blockBitmask slot) := by
  obtain ⟨slots, hslots, hcount, hzero⟩ : ∃ slots, slotsInit count = some slots ∧
      slots.slotCount = count.toNat ∧ ∀ i, slots.bitfield i = 0#32 := by
    unfold slotsInit
    rw [dif_pos h]
    exact ⟨_, rfl, rfl, fun _ => rfl⟩
  have hempty : slots.allocated = ∅ := by
    apply Finset.eq_empty_of_forall_notMem
    intro slot hslot
    have hbit := (Slots.mem_allocated.1 hslot).2
    rw [Slots.isAllocated_eq, hzero] at hbit
    simp at hbit
  refine ⟨slots, hslots, hempty, fun ops => ⟨?_, fun slot slots' ha hs => ?_⟩⟩
  · rw [← hempty, ← hcount]
    exact slotsRun_set slots ops
  · have hne : (slotsAllocate (slotsRun slots ops).2).1 ≠ slotInvalid := by rwa [ha]
    have hnumbering := slotsAllocate_numbering hne
    rwa [ha] at hnumbering

theorem slots_refine_set_sixtyFour : ∃ slots, slotsInit 64 = some slots ∧
    slots.allocated = ∅ ∧ ∀ ops,
      SetRun (64 : UInt64).toNat ∅ ops (slotsRun slots ops).1 (slotsRun slots ops).2.allocated ∧
      ∀ slot slots', slotsAllocate (slotsRun slots ops).2 = (slot, slots') → slot ≠ slotInvalid →
        slots'.bitfield = Function.update (slotsRun slots ops).2.bitfield (blockIdx slot)
          ((slotsRun slots ops).2.bitfield (blockIdx slot) ||| blockBitmask slot) :=
  slots_refine_set 64 (by decide)

end TaSecureApi
