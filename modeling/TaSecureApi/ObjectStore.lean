import TaSecureApi.Slots
import TaSecureApi.Status

namespace TaSecureApi
set_option autoImplicit true

/-- `store_object_t`; a `NULL` object is `none`. -/
structure StoreObject (Obj : Type) where
  object : Option Obj
  referenceCount : Nat
  ownerUuid : SaUuid

/-- `struct object_store_s`: `objects` is the table that `object_store_init` allocates,
of which the entries below `slotCount` exist. -/
structure ObjectStore (Obj : Type) where
  slots : Slots
  objects : Nat → StoreObject Obj
  slotCount : Nat
  isShuttingDown : Bool
  releaseCount : Nat
  slots_slotCount : slots.slotCount = slotCount

variable {Obj : Type}

def StoreObject.zero : StoreObject Obj := ⟨none, 0, ⟨Vector.replicate 16 0⟩⟩

def objectStoreInit (count : UInt64) : Option (ObjectStore Obj) :=
  match h : slotsInit count with
  | none => none
  | some slots =>
    some {
      slots := slots
      objects := fun _ => .zero
      slotCount := count.toNat
      isShuttingDown := false
      releaseCount := 0
      slots_slotCount := by
        unfold slotsInit at h
        split at h
        · cases h; rfl
        · cases h }

theorem objectStoreInit_isSome : (objectStoreInit 32 : Option (ObjectStore Obj)).isSome := rfl

/-- `increment_release_count`: fails once the store is shutting down. -/
def incrementReleaseCount (store : ObjectStore Obj) : Bool × ObjectStore Obj :=
  if store.isShuttingDown then (false, store)
  else (true, { store with releaseCount := store.releaseCount + 1 })

def decrementReleaseCount (store : ObjectStore Obj) : ObjectStore Obj :=
  { store with releaseCount := store.releaseCount - 1 }

/-- How one pass of the loop of `store_remove` ends: it leaves the loop with a status and the
object to free, or unlocks and tries again. -/
inductive RemoveOutcome (Obj : Type)
  | leave (status : SaStatus) (objectToFree : Option Obj)
  | wait
  deriving DecidableEq

/-- The locked part of the loop of `store_remove`; shutdown passes no UUID. -/
def storeRemoveLocked (store : ObjectStore Obj) (slot : Nat) (callerUuid : Option SaUuid) :
    RemoveOutcome Obj × ObjectStore Obj :=
  let storeObject := store.objects slot
  match storeObject.object with
  | none => (.leave .invalidParameter none, store)
  | some object =>
    if callerUuid.any (· != storeObject.ownerUuid) then
      (.leave .operationNotAllowed none, store)
    else if storeObject.referenceCount = 0 then
      (.leave .ok (some object),
        { store with
          slots := slotsFree store.slots slot
          objects := Function.update store.objects slot { storeObject with object := none }
          slots_slotCount := (slotsFree_slotCount _ _).trans store.slots_slotCount })
    else (.wait, store)

theorem slotsAllocate_slotCount (slots : Slots) :
    (slotsAllocate slots).2.slotCount = slots.slotCount := by
  rcases slotsAllocate_spec slots with ⟨h, -⟩ | ⟨-, -, h, -⟩
  · rw [h]
  · exact h

def objectStoreAdd (store : ObjectStore Obj) (object : Option Obj) (callerUuid : Option SaUuid) :
    SaStatus × Nat × ObjectStore Obj :=
  match object, callerUuid with
  | none, _ => (.nullParameter, slotInvalid, store)
  | some _, none => (.nullParameter, slotInvalid, store)
  | some object, some callerUuid =>
    if store.isShuttingDown then (.internalError, slotInvalid, store)
    else
      let slot := (slotsAllocate store.slots).1
      let store' := { store with
        slots := (slotsAllocate store.slots).2
        slots_slotCount := (slotsAllocate_slotCount _).trans store.slots_slotCount }
      if slot = slotInvalid then (.noAvailableResourceSlot, slot, store')
      else
        -- the reference count is left as the previous object of the slot left it
        (.ok, slot, { store' with
          objects := Function.update store.objects slot
            { store.objects slot with object := some object, ownerUuid := callerUuid } })

def objectStoreAcquire (store : ObjectStore Obj) (slot : Nat) (callerUuid : Option SaUuid) :
    SaStatus × Option Obj × ObjectStore Obj :=
  match callerUuid with
  | none => (.nullParameter, none, store)
  | some callerUuid =>
    if slot ≥ store.slotCount then (.invalidParameter, none, store)
    else
      let storeObject := store.objects slot
      if store.isShuttingDown then (.internalError, none, store)
      else
        match storeObject.object with
        | none => (.invalidParameter, none, store)
        | some object =>
          if storeObject.ownerUuid ≠ callerUuid then (.operationNotAllowed, none, store)
          else
            (.ok, some object, { store with
              objects := Function.update store.objects slot
                { storeObject with referenceCount := storeObject.referenceCount + 1 } })

def objectStoreRelease [DecidableEq Obj] (store : ObjectStore Obj) (slot : Nat)
    (object : Option Obj) (callerUuid : Option SaUuid) : SaStatus × ObjectStore Obj :=
  match callerUuid with
  | none => (.nullParameter, store)
  | some callerUuid =>
    if slot ≥ store.slotCount then (.invalidParameter, store)
    else if object = none then (.nullParameter, store)
    else
      let storeObject := store.objects slot
      if storeObject.ownerUuid ≠ callerUuid then (.operationNotAllowed, store)
      else if storeObject.object ≠ object then (.internalError, store)
      else if storeObject.referenceCount = 0 then (.internalError, store)
      else
        (.ok, { store with
          objects := Function.update store.objects slot
            { storeObject with referenceCount := storeObject.referenceCount - 1 } })

section Specifications

variable {store : ObjectStore Obj} {slot : Nat}

theorem ObjectStore.slotCount_le (store : ObjectStore Obj) : store.slotCount < slotInvalid :=
  store.slots_slotCount ▸ store.slots.slotCount_le

/-- Everything but the slots and the table is as before. -/
structure SameFrame (store store' : ObjectStore Obj) : Prop where
  slotCount : store'.slotCount = store.slotCount
  isShuttingDown : store'.isShuttingDown = store.isShuttingDown
  releaseCount : store'.releaseCount = store.releaseCount

/-- `store'` is `store` with an object put into a free slot. -/
structure Fills (store : ObjectStore Obj) (slot : Nat) (object : Obj) (owner : SaUuid)
    (store' : ObjectStore Obj) : Prop where
  lt : slot < store.slotCount
  free : store.slots.isAllocated slot = false
  allocated : ∀ s, store'.slots.isAllocated s = (decide (s = slot) || store.slots.isAllocated s)
  objects : store'.objects = Function.update store.objects slot
    ⟨some object, (store.objects slot).referenceCount, owner⟩
  frame : SameFrame store store'

/-- `store'` is `store` with an unreferenced object taken out of a slot. -/
structure Deletes (store : ObjectStore Obj) (slot : Nat) (object : Obj)
    (store' : ObjectStore Obj) : Prop where
  object : (store.objects slot).object = some object
  unreferenced : (store.objects slot).referenceCount = 0
  slots : store'.slots = slotsFree store.slots slot
  objects : store'.objects = Function.update store.objects slot
    ⟨none, 0, (store.objects slot).ownerUuid⟩
  frame : SameFrame store store'

theorem objectStoreAdd_cases (store : ObjectStore Obj) (object : Option Obj)
    (callerUuid : Option SaUuid) :
    (∃ status slot, objectStoreAdd store object callerUuid = (status, slot, store) ∧
      status ≠ .ok) ∨
    ∃ o u slot store', object = some o ∧ callerUuid = some u ∧
      objectStoreAdd store object callerUuid = (.ok, slot, store') ∧
      store.isShuttingDown = false ∧ slot = (slotsAllocate store.slots).1 ∧
      Fills store slot o u store' := by
  cases object with
  | none => exact .inl ⟨_, _, rfl, by simp⟩
  | some o =>
    cases callerUuid with
    | none => exact .inl ⟨_, _, rfl, by simp⟩
    | some u =>
      simp only [objectStoreAdd]
      by_cases hsd : store.isShuttingDown = true
      · rw [if_pos hsd]
        exact .inl ⟨_, _, rfl, by simp⟩
      · rw [if_neg hsd]
        have hv := store.slots.slotCount_le
        rcases slotsAllocate_spec store.slots with ⟨ha, -⟩ | ⟨hlt, hfree, -, hall⟩
        · have h₁ : (slotsAllocate store.slots).1 = slotInvalid := by rw [ha]
          have h₂ : (slotsAllocate store.slots).2 = store.slots := by rw [ha]
          rw [if_pos h₁]
          exact .inl ⟨.noAvailableResourceSlot, slotInvalid, by simp only [h₁, h₂], by simp⟩
        · have hne : (slotsAllocate store.slots).1 ≠ slotInvalid := by omega
          rw [if_neg hne]
          rw [store.slots_slotCount] at hlt
          exact .inr ⟨o, u, _, _, rfl, rfl, rfl, by simpa using hsd, rfl, hlt, hfree, hall,
            rfl, rfl, rfl, rfl⟩

theorem objectStoreAdd_slot {store store' : ObjectStore Obj} {object : Option Obj}
    (h : objectStoreAdd store object callerUuid = (status, slot, store')) (hne : status ≠ .ok) :
    slot = slotInvalid ∧ store' = store := by
  have hstore : store' = store := by
    rcases objectStoreAdd_cases store object callerUuid with ⟨e, n, ha, -⟩ |
      ⟨o, u, n, s, -, -, ha, -⟩
    · rw [ha] at h
      exact (Prod.mk.inj (Prod.mk.inj h).2).2.symm
    · rw [ha] at h
      exact absurd (Prod.mk.inj h).1.symm hne
  refine ⟨?_, hstore⟩
  unfold objectStoreAdd at h
  split at h
  · exact (Prod.mk.inj (Prod.mk.inj h).2).1.symm
  · exact (Prod.mk.inj (Prod.mk.inj h).2).1.symm
  · simp only at h
    split_ifs at h with hshutting hslot
    · exact (Prod.mk.inj (Prod.mk.inj h).2).1.symm
    · rw [← (Prod.mk.inj (Prod.mk.inj h).2).1]
      exact hslot
    · exact absurd (Prod.mk.inj h).1.symm hne

/-- An acquire either changes nothing and fails, or counts one more reference of the caller's
object. -/
theorem objectStoreAcquire_cases (store : ObjectStore Obj) (slot : Nat)
    (callerUuid : Option SaUuid) :
    (∃ status, objectStoreAcquire store slot callerUuid = (status, none, store) ∧
      status ≠ .ok) ∨
    ∃ o u, callerUuid = some u ∧ slot < store.slotCount ∧ store.isShuttingDown = false ∧
      (store.objects slot).object = some o ∧ (store.objects slot).ownerUuid = u ∧
      objectStoreAcquire store slot callerUuid = (.ok, some o, { store with
        objects := Function.update store.objects slot { store.objects slot with
          referenceCount := (store.objects slot).referenceCount + 1 } }) := by
  unfold objectStoreAcquire
  cases callerUuid with
  | none => exact .inl ⟨_, rfl, by simp⟩
  | some u =>
    simp only
    by_cases h₁ : slot ≥ store.slotCount
    · rw [if_pos h₁]
      exact .inl ⟨_, rfl, by simp⟩
    rw [if_neg h₁]
    by_cases h₂ : store.isShuttingDown = true
    · rw [if_pos h₂]
      exact .inl ⟨_, rfl, by simp⟩
    rw [if_neg h₂]
    cases ho : (store.objects slot).object with
    | none => exact .inl ⟨_, rfl, by simp⟩
    | some o =>
      simp only
      by_cases h₃ : (store.objects slot).ownerUuid = u
      · rw [if_neg (not_not.2 h₃)]
        exact .inr ⟨o, u, rfl, by omega, by simpa using h₂, rfl, h₃, rfl⟩
      · rw [if_pos h₃]
        exact .inl ⟨_, rfl, by simp⟩

/-- A release either changes nothing and fails, or gives back one reference of the caller's
object. -/
theorem objectStoreRelease_cases [DecidableEq Obj] (store : ObjectStore Obj) (slot : Nat)
    (object : Option Obj) (callerUuid : Option SaUuid) :
    (∃ status, objectStoreRelease store slot object callerUuid = (status, store) ∧
      status ≠ .ok) ∨
    ∃ o u, object = some o ∧ callerUuid = some u ∧ slot < store.slotCount ∧
      (store.objects slot).object = some o ∧ (store.objects slot).ownerUuid = u ∧
      (store.objects slot).referenceCount ≠ 0 ∧
      objectStoreRelease store slot object callerUuid = (.ok, { store with
        objects := Function.update store.objects slot { store.objects slot with
          referenceCount := (store.objects slot).referenceCount - 1 } }) := by
  unfold objectStoreRelease
  cases callerUuid with
  | none => exact .inl ⟨_, rfl, by simp⟩
  | some u =>
    simp only
    split_ifs with h₁ h₂ h₃ h₄ h₅
    · exact .inl ⟨_, rfl, by simp⟩
    · exact .inl ⟨_, rfl, by simp⟩
    · exact .inl ⟨_, rfl, by simp⟩
    · exact .inl ⟨_, rfl, by simp⟩
    · exact .inl ⟨_, rfl, by simp⟩
    · obtain ⟨o, ho⟩ := Option.ne_none_iff_exists'.1 h₂
      simp only [not_not] at h₃ h₄
      exact .inr ⟨o, u, ho, rfl, by omega, h₄.trans ho, h₃, h₅, rfl⟩

/-- A section that acquires an object and releases it again leaves the store as it was. -/
theorem objectStoreRelease_acquire [DecidableEq Obj] {o : Obj} {u : SaUuid}
    {store' : ObjectStore Obj}
    (h : objectStoreAcquire store slot (some u) = (.ok, some o, store')) :
    objectStoreRelease store' slot (some o) (some u) = (.ok, store) := by
  rcases objectStoreAcquire_cases store slot (some u) with
    ⟨status, ha, hne⟩ | ⟨o', u', hu, hlt, hsd, ho, howner, ha⟩
  · rw [ha] at h
    cases h
  · cases hu
    rw [ha] at h
    cases h
    have hslot : ¬ slot ≥ store.slotCount := by omega
    simp only [objectStoreRelease, Function.update_self, if_neg hslot]
    simp only [ho, howner, Function.update_idem]
    have hself : Function.update store.objects slot ⟨some o, (store.objects slot).referenceCount,
        u⟩ = store.objects := by
      rw [Function.update_eq_self_iff, ← ho, ← howner]
    simp [hself]

/-- One pass of the loop of `store_remove` changes nothing, or deletes an object that is not
referenced and that the caller may delete. -/
theorem storeRemoveLocked_cases (store : ObjectStore Obj) (slot : Nat)
    (callerUuid : Option SaUuid) :
    (∃ status, storeRemoveLocked store slot callerUuid = (.leave status none, store) ∧
      status ≠ .ok ∧ ((store.objects slot).object = none ∨
        ∃ u, callerUuid = some u ∧ (store.objects slot).ownerUuid ≠ u)) ∨
    (∃ o, storeRemoveLocked store slot callerUuid = (.wait, store) ∧
      (store.objects slot).object = some o ∧
      (∀ u, callerUuid = some u → (store.objects slot).ownerUuid = u) ∧
      (store.objects slot).referenceCount ≠ 0) ∨
    ∃ o store', storeRemoveLocked store slot callerUuid = (.leave .ok (some o), store') ∧
      (∀ u, callerUuid = some u → (store.objects slot).ownerUuid = u) ∧
      Deletes store slot o store' := by
  unfold storeRemoveLocked
  simp only
  split
  · rename_i ho
    exact .inl ⟨_, rfl, by simp, .inl ho⟩
  · rename_i o ho
    split_ifs with h₁ h₂
    · obtain ⟨u, rfl, hu⟩ := Option.any_eq_true .. |>.1 h₁
      exact .inl ⟨_, rfl, by simp, .inr ⟨u, rfl, fun he => by simp [he] at hu⟩⟩
    · refine .inr (.inr ⟨o, _, rfl, ?_, ho, h₂, rfl, by simp only [h₂], rfl, rfl, rfl⟩)
      rintro u rfl
      simp only [Option.any_some, bne_iff_ne, ne_eq, not_not] at h₁
      exact h₁.symm
    · refine .inr (.inl ⟨o, rfl, ho, ?_, h₂⟩)
      rintro u rfl
      simp only [Option.any_some, bne_iff_ne, ne_eq, not_not] at h₁
      exact h₁.symm

end Specifications

end TaSecureApi
