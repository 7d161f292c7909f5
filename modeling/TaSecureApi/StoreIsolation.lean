import TaSecureApi.StoreOwners

namespace TaSecureApi
set_option autoImplicit true
open Transition

variable {Obj : Type}

/-- A `slots_allocate` that is told which free slot to give, or fails. -/
def slotsAllocateAt (slots : Slots) (pick : Nat) : Nat × Slots :=
  if pick < slots.slotCount ∧ slots.isAllocated pick = false then
    (pick, { slots with
      bitfield := Function.update slots.bitfield (blockIdx pick)
        (slots.bitfield (blockIdx pick) ||| blockBitmask pick) })
  else (slotInvalid, slots)

theorem slotsAllocateAt_slotCount (slots : Slots) (pick : Nat) :
    (slotsAllocateAt slots pick).2.slotCount = slots.slotCount := by
  unfold slotsAllocateAt
  split_ifs <;> rfl

theorem slotsAllocateAt_free {slots : Slots} (hlt : pick < slots.slotCount)
    (hfree : slots.isAllocated pick = false) :
    (slotsAllocateAt slots pick).1 = pick ∧
    ∀ s, (slotsAllocateAt slots pick).2.isAllocated s =
      (decide (s = pick) || slots.isAllocated s) := by
  rw [slotsAllocateAt, if_pos ⟨hlt, hfree⟩]
  refine ⟨rfl, fun s => ?_⟩
  simp only [Slots.isAllocated_eq, Function.update_apply, blockIdx]
  by_cases hs : s / 32 = pick / 32
  · have he : s = pick ↔ 31 - s % 32 = 31 - pick % 32 := by omega
    rw [if_pos hs, BitVec.getLsbD_or, blockBitmask_getLsbD (by omega), hs, Bool.or_comm]
    simp only [he]
  · have he : s ≠ pick := by
      rintro rfl
      exact hs rfl
    rw [if_neg hs]
    simp [he]

/-- `object_store_add` with the allocator that is told the slot. -/
def objectStoreAddAt (store : ObjectStore Obj) (pick : Nat) (object : Option Obj)
    (callerUuid : Option SaUuid) : SaStatus × Nat × ObjectStore Obj :=
  match object, callerUuid with
  | none, _ => (.nullParameter, slotInvalid, store)
  | some _, none => (.nullParameter, slotInvalid, store)
  | some object, some callerUuid =>
    if store.isShuttingDown then (.internalError, slotInvalid, store)
    else
      let slot := (slotsAllocateAt store.slots pick).1
      let store' := { store with
        slots := (slotsAllocateAt store.slots pick).2
        slots_slotCount := (slotsAllocateAt_slotCount _ _).trans store.slots_slotCount }
      if slot = slotInvalid then (.noAvailableResourceSlot, slot, store')
      else
        (.ok, slot, { store' with
          objects := Function.update store.objects slot
            { store.objects slot with object := some object, ownerUuid := callerUuid } })

theorem objectStoreAddAt_free {store : ObjectStore Obj} (hsd : store.isShuttingDown = false)
    (hlt : pick < store.slotCount) (hfree : store.slots.isAllocated pick = false) (o : Obj)
    (u : SaUuid) : ∃ store', objectStoreAddAt store pick (some o) (some u) = (.ok, pick, store') ∧
      Fills store pick o u store' := by
  obtain ⟨h₁, h₂⟩ := slotsAllocateAt_free (store.slots_slotCount ▸ hlt) hfree
  have hne : pick ≠ slotInvalid := by
    have := store.slotCount_le
    omega
  refine ⟨{ store with
    slots := (slotsAllocateAt store.slots pick).2
    objects := Function.update store.objects pick
      { store.objects pick with object := some o, ownerUuid := u }
    slots_slotCount := (slotsAllocateAt_slotCount _ _).trans store.slots_slotCount }, ?_, hlt,
    hfree, h₂, rfl, rfl, rfl, rfl⟩
  simp only [objectStoreAddAt]
  rw [if_neg (by simp [hsd])]
  simp only [h₁, hne, if_false]

theorem objectStoreAddAt_none {store : ObjectStore Obj} (hsd : store.isShuttingDown = false)
    (o : Obj) (u : SaUuid) : objectStoreAddAt store slotInvalid (some o) (some u) =
      (.noAvailableResourceSlot, slotInvalid, store) := by
  have hno : slotsAllocateAt store.slots slotInvalid = (slotInvalid, store.slots) := by
    rw [slotsAllocateAt, if_neg]
    rintro ⟨h, -⟩
    have := store.slots.slotCount_le
    omega
  simp only [objectStoreAddAt]
  rw [if_neg (by simp [hsd])]
  simp only [hno, if_true]

namespace StoreState

def addAt (σ : StoreState Obj) (pick : Nat) (caller : Caller) (object : Option Obj) :
    StoreState Obj × Result Obj :=
  match object, objectStoreAddAt σ.store pick object (some caller.uuid) with
  | some object, (.ok, slot, store) =>
    ({ σ with
        store := store
        serials := σ.serials + 1
        occupant := Function.update σ.occupant slot σ.serials
        log := .added caller.uuid slot object σ.serials :: σ.log }, .added .ok slot)
  | _, (status, slot, store) => ({ σ with store := store }, .added status slot)

/-- The store when any slot that is free may be the one that an add gets. -/
def stepAt [DecidableEq Obj] (σ : StoreState Obj) :
    Nat × Action Obj → Option (StoreState Obj × Result Obj)
  | (pick, .add caller object) => if σ.destroyed then none else some (σ.addAt pick caller object)
  | (_, a) => σ.step a

end StoreState

def Result.failed : Result Obj → Prop
  | .added status _ | .acquired status _ | .released status | .removed status => status ≠ .ok
  | .pending => False

def Shown (uuid : SaUuid) (e : StoreObject Obj) : Prop := e.object ≠ none ∧ e.ownerUuid ≠ uuid

/-- Two entries of a slot, the second in the run without the UUID. -/
structure SameEntry (uuid : SaUuid) (e₁ e₂ : StoreObject Obj) : Prop where
  shown : Shown uuid e₁ → e₂ = e₁
  hidden : ¬ Shown uuid e₁ → e₂.object = none
  zero₁ : e₁.object = none → e₁.referenceCount = 0
  zero₂ : e₂.object = none → e₂.referenceCount = 0

/-- Two stores, the second in the run without the UUID. -/
structure SameStore (uuid : SaUuid) (store₁ store₂ : ObjectStore Obj) : Prop where
  slotCount : store₂.slotCount = store₁.slotCount
  isShuttingDown : store₂.isShuttingDown = store₁.isShuttingDown
  bits : BitsMatch store₂
  entry : ∀ s < store₁.slotCount, SameEntry uuid (store₁.objects s) (store₂.objects s)

def SameOutcome (status₁ : SaStatus) (o₁ : Option (Obj × Nat)) (status₂ : SaStatus)
    (o₂ : Option (Obj × Nat)) : Prop :=
  o₂.map Prod.fst = o₁.map Prod.fst ∧ (status₂ = status₁ ∨ status₁ ≠ .ok ∧ status₂ ≠ .ok)

/-- Two removes stand at the same place, whatever their adds are numbered. -/
inductive SamePc : RemovePc Obj → RemovePc Obj → Prop
  | idle : SamePc .idle .idle
  | polling {slot seen₁ seen₂} : SamePc (.polling slot seen₁) (.polling slot seen₂)
  | counted {status₁ o₁ status₂ o₂} (h : SameOutcome status₁ o₁ status₂ o₂) :
    SamePc (.counted status₁ o₁) (.counted status₂ o₂)
  | freeing {status₁ o₁ status₂ o₂} (h : SameOutcome status₁ o₁ status₂ o₂) :
    SamePc (.freeing status₁ o₁) (.freeing status₂ o₂)

/-- Two shutdowns; the second has no object of the UUID to free. -/
inductive SameShutdown : ShutdownPc Obj → ShutdownPc Obj → Prop
  | idle : SameShutdown .idle .idle
  | draining : SameShutdown .draining .draining
  | removing {i} : SameShutdown (.removing i) (.removing i)
  | freeing {i object n m} : SameShutdown (.freeing i (object, n)) (.freeing i (object, m))
  | foreign {i o} : SameShutdown (.freeing i o) (.removing (i + 1))
  | done : SameShutdown .done .done

section Entries

variable {uuid : SaUuid} {e₁ e₂ : StoreObject Obj} {store₁ store₂ : ObjectStore Obj}

theorem SameEntry.zero : SameEntry uuid (StoreObject.zero : StoreObject Obj) .zero :=
  ⟨fun _ => rfl, fun _ => rfl, fun _ => rfl, fun _ => rfl⟩

theorem SameEntry.own (h : SameEntry uuid e₁ e₂) (hobject : e₁.object = some o)
    (howner : e₁.ownerUuid = u) (hne : u ≠ uuid) : e₂ = e₁ :=
  h.shown ⟨by simp [hobject], howner ▸ hne⟩

theorem SameEntry.not_own (h : SameEntry uuid e₁ e₂)
    (hno : ¬ (e₁.object ≠ none ∧ e₁.ownerUuid = u)) :
    ¬ (e₂.object ≠ none ∧ e₂.ownerUuid = u) := by
  by_cases hs : Shown uuid e₁
  · rw [h.shown hs]
    exact hno
  · simp [h.hidden hs]

theorem SameEntry.refl (hz : e₁.object = none → e₁.referenceCount = 0) (hs : Shown uuid e₁) :
    SameEntry uuid e₁ e₁ := ⟨fun _ => rfl, fun h => (h hs).elim, hz, hz⟩

theorem SameStore.update (h : SameStore uuid store₁ store₂) {store₁' store₂' : ObjectStore Obj}
    (hf₁ : SameFrame store₁ store₁') (hf₂ : SameFrame store₂ store₂') (hb : BitsMatch store₂')
    (ho₁ : store₁'.objects = Function.update store₁.objects slot e₁)
    (ho₂ : store₂'.objects = Function.update store₂.objects slot e₂)
    (he : SameEntry uuid e₁ e₂) : SameStore uuid store₁' store₂' where
  slotCount := by rw [hf₁.slotCount, hf₂.slotCount, h.slotCount]
  isShuttingDown := by rw [hf₁.isShuttingDown, hf₂.isShuttingDown, h.isShuttingDown]
  bits := hb
  entry s hs := by
    rw [hf₁.slotCount] at hs
    rw [ho₁, ho₂, Function.update_apply, Function.update_apply]
    split_ifs
    · exact he
    · exact h.entry s hs

/-- A change of an entry that the second run does not have is seen only by the first. -/
theorem SameStore.hide (h : SameStore uuid store₁ store₂) {store₁' : ObjectStore Obj}
    (hf₁ : SameFrame store₁ store₁')
    (ho₁ : store₁'.objects = Function.update store₁.objects slot e₁)
    (hbefore : ¬ Shown uuid (store₁.objects slot)) (hafter : ¬ Shown uuid e₁)
    (hz : e₁.object = none → e₁.referenceCount = 0) : SameStore uuid store₁' store₂ where
  slotCount := by rw [hf₁.slotCount, h.slotCount]
  isShuttingDown := by rw [hf₁.isShuttingDown, h.isShuttingDown]
  bits := h.bits
  entry s hs := by
    rw [hf₁.slotCount] at hs
    rw [ho₁, Function.update_apply]
    split_ifs with he
    · subst he
      exact ⟨fun h' => (hafter h').elim, fun _ => (h.entry s hs).hidden hbefore, hz,
        (h.entry s hs).zero₂⟩
    · exact h.entry s hs

theorem SameStore.deletes {store₁' store₂' : ObjectStore Obj}
    (h : SameStore uuid store₁ store₂) (hlt : slot < store₁.slotCount)
    (hdel₁ : Deletes store₁ slot o₁ store₁') (hdel₂ : Deletes store₂ slot o₂ store₂') :
    SameStore uuid store₁' store₂' := by
  refine h.update hdel₁.frame hdel₂.frame ?_ hdel₁.objects hdel₂.objects ?_
  · exact hdel₂.bitsMatch (h.slotCount ▸ hlt) h.bits
  · exact ⟨fun hs => (hs.1 rfl).elim, fun _ => rfl, fun _ => rfl, fun _ => rfl⟩

end Entries

section Outcomes

variable {store₁ store₂ : ObjectStore Obj} {slot : Nat}

theorem objectStoreAcquire_congr (hcount : store₂.slotCount = store₁.slotCount)
    (hsd : store₂.isShuttingDown = store₁.isShuttingDown)
    (he : store₂.objects slot = store₁.objects slot) (u : SaUuid) :
    (objectStoreAcquire store₂ slot (some u)).1 = (objectStoreAcquire store₁ slot (some u)).1 ∧
    (objectStoreAcquire store₂ slot (some u)).2.1 =
      (objectStoreAcquire store₁ slot (some u)).2.1 := by
  cases ho : (store₁.objects slot).object with
  | none =>
    simp only [objectStoreAcquire, hcount, hsd, he, ho]
    split_ifs <;> exact ⟨rfl, rfl⟩
  | some o =>
    simp only [objectStoreAcquire, hcount, hsd, he, ho]
    split_ifs <;> exact ⟨rfl, rfl⟩

theorem objectStoreRelease_congr [DecidableEq Obj] (hcount : store₂.slotCount = store₁.slotCount)
    (he : store₂.objects slot = store₁.objects slot) (object : Option Obj) (u : SaUuid) :
    (objectStoreRelease store₂ slot object (some u)).1 =
      (objectStoreRelease store₁ slot object (some u)).1 := by
  simp only [objectStoreRelease, hcount, he]
  split_ifs <;> rfl

theorem storeRemoveLocked_congr (he : store₂.objects slot = store₁.objects slot)
    (u : Option SaUuid) :
    (storeRemoveLocked store₂ slot u).1 = (storeRemoveLocked store₁ slot u).1 := by
  cases ho : (store₁.objects slot).object with
  | none => simp only [storeRemoveLocked, he, ho]
  | some o =>
    simp only [storeRemoveLocked, he, ho]
    split_ifs <;> rfl

end Outcomes

namespace StoreState

/-- The state of a run and that of the run in which nobody calls with the UUID. -/
structure Erases (uuid : SaUuid) (σ₁ σ₂ : StoreState Obj) : Prop where
  store : SameStore uuid σ₁.store σ₂.store
  destroyed : σ₂.destroyed = σ₁.destroyed
  others : ∀ c, c.uuid ≠ uuid → SamePc (σ₁.removes c) (σ₂.removes c)
  erased : ∀ c, c.uuid = uuid → σ₂.removes c = .idle
  counts : Counts σ₂.removes σ₂.store.releaseCount
  shutdown : SameShutdown σ₁.shutdown σ₂.shutdown

/-- The actions that the run without the UUID leaves out: the calls with the UUID, and what
shutdown does while it waits for them and frees their objects. -/
def Hidden (uuid : SaUuid) (a : Action Obj) : Prop :=
  (∃ c, a.caller = some c ∧ c.uuid = uuid) ∨ a = .shutdownPoll ∨ a = .shutdownRemove ∨
    a = .shutdownFree

def owns (σ : StoreState Obj) : Action Obj → Prop
  | .acquire caller slot | .release caller slot _ => slot < σ.store.slotCount ∧
      (σ.store.objects slot).object ≠ none ∧ (σ.store.objects slot).ownerUuid = caller.uuid
  | _ => False

/-- The two runs do the same, not with the UUID, and see the same, but for the error of an
operation that fails in both as its slot has no object of the caller. -/
def Agree (uuid : SaUuid) (σ : StoreState Obj) (a : Action Obj) (r : Result Obj)
    (b : Nat × Action Obj) (r' : Result Obj) : Prop :=
  b.2 = a ∧ (∀ c, a.caller = some c → c.uuid ≠ uuid) ∧
    (r' = r ∨ r.failed ∧ r'.failed ∧ ¬ σ.owns a)

section Relation

variable {uuid : SaUuid} {σ₁ σ₂ : StoreState Obj} {caller : Caller}

theorem Erases.others_update (h : Erases uuid σ₁ σ₂) (hpc : SamePc pc₁ pc₂) :
    ∀ c, c.uuid ≠ uuid → SamePc (Function.update σ₁.removes caller pc₁ c)
      (Function.update σ₂.removes caller pc₂ c) := by
  intro c hc
  rw [Function.update_apply, Function.update_apply]
  split_ifs
  · exact hpc
  · exact h.others c hc

theorem Erases.erased_update (h : Erases uuid σ₁ σ₂) (hne : caller.uuid ≠ uuid) :
    ∀ c, c.uuid = uuid → Function.update σ₂.removes caller pc₂ c = .idle := by
  intro c hc
  rw [Function.update_of_ne (by rintro rfl; exact hne hc)]
  exact h.erased c hc

theorem Erases.others_hide (h : Erases uuid σ₁ σ₂) (he : caller.uuid = uuid) :
    ∀ c, c.uuid ≠ uuid → SamePc (Function.update σ₁.removes caller pc₁ c) (σ₂.removes c) := by
  intro c hc
  rw [Function.update_of_ne (by rintro rfl; exact hc he)]
  exact h.others c hc

theorem not_shown_owner {e : StoreObject Obj} (h : e.ownerUuid = uuid) : ¬ Shown uuid e :=
  fun hs => hs.2 h

theorem not_shown_none {e : StoreObject Obj} (h : e.object = none) : ¬ Shown uuid e :=
  fun hs => hs.1 h

theorem Erases.hide [DecidableEq Obj] {σ₁' : StoreState Obj} {a : Action Obj}
    (hs : StoreInv σ₁) (h : Erases uuid σ₁ σ₂) (hc : Change σ₁ a σ₁')
    (ha : a.caller = some caller) (hu : caller.uuid = uuid) : Erases uuid σ₁' σ₂ := by
  cases hc with
  | same => exact h
  | @added c object slot store' hd hsd hslot hfills =>
    cases ha
    refine ⟨?_, h.destroyed, h.others, h.erased, h.counts, h.shutdown⟩
    exact h.store.hide hfills.frame hfills.objects (not_shown_none (hfills.empty hs.table.bits))
      (not_shown_owner hu) (by simp)
  | @acquired c slot object hd hsd hlt hobject howner =>
    cases ha
    refine ⟨?_, h.destroyed, h.others, h.erased, h.counts, h.shutdown⟩
    exact h.store.hide ⟨rfl, rfl, rfl⟩ rfl (not_shown_owner (howner.trans hu))
      (not_shown_owner (howner.trans hu)) (by simp [hobject])
  | @released c slot object hd hlt hobject howner =>
    cases ha
    refine ⟨?_, h.destroyed, h.others, h.erased, h.counts, h.shutdown⟩
    exact h.store.hide ⟨rfl, rfl, rfl⟩ rfl (not_shown_owner (howner.trans hu))
      (not_shown_owner (howner.trans hu)) (by simp [hobject])
  | removing =>
    cases ha
    exact ⟨⟨h.store.slotCount, h.store.isShuttingDown, h.store.bits, h.store.entry⟩, h.destroyed,
      h.others_hide hu, h.erased, h.counts, h.shutdown⟩
  | waits | gaveUp =>
    cases ha
    exact ⟨h.store, h.destroyed, h.others_hide hu, h.erased, h.counts, h.shutdown⟩
  | @deleted c slot seen object store' hd hpc howner hdel =>
    cases ha
    refine ⟨?_, h.destroyed, h.others_hide hu, h.erased, h.counts, h.shutdown⟩
    exact h.store.hide hdel.frame hdel.objects (not_shown_owner (howner.trans hu))
      (not_shown_none rfl) fun _ => rfl
  | decremented =>
    cases ha
    exact ⟨⟨h.store.slotCount, h.store.isShuttingDown, h.store.bits, h.store.entry⟩, h.destroyed,
      h.others_hide hu, h.erased, h.counts, h.shutdown⟩
  | returned | freed =>
    cases ha
    exact ⟨h.store, h.destroyed, h.others_hide hu, h.erased, h.counts, h.shutdown⟩
  | usedAfterDestroy ha' =>
    cases ha.symm.trans ha'
    exact ⟨h.store, h.destroyed, h.others_hide hu, h.erased, h.counts, h.shutdown⟩
  | shutdown | drained | skipped | discarded | shutdownFreed | closed => cases ha

/-- The two runs after the same call, for a caller with another UUID. -/
def Follows (uuid : SaUuid) (σ₁ : StoreState Obj) (a : Action Obj)
    (p₁ p₂ : StoreState Obj × Result Obj) : Prop :=
  (p₂.2 = p₁.2 ∨ p₁.2.failed ∧ p₂.2.failed ∧ ¬ σ₁.owns a) ∧ Erases uuid p₁.1 p₂.1

theorem add_full {σ : StoreState Obj} (hsd : σ.store.isShuttingDown = false)
    (h : objectStoreAdd σ.store (some o) (some caller.uuid) = (status, slot, σ.store))
    (hne : status ≠ .ok) :
    σ.add caller (some o) = (σ, .added .noAvailableResourceSlot slotInvalid) := by
  have hfull := h
  simp only [objectStoreAdd] at hfull
  rw [if_neg (by simp [hsd])] at hfull
  split_ifs at hfull with hslot
  · simp only [Prod.mk.injEq] at hfull
    obtain ⟨rfl, rfl, -⟩ := hfull
    simp only [StoreState.add, h, hslot]
  · simp only [Prod.mk.injEq] at hfull
    exact (hne hfull.1.symm).elim

theorem Erases.add (hs : StoreInv σ₁) (h : Erases uuid σ₁ σ₂) (object : Option Obj)
    (hne : caller.uuid ≠ uuid) : ∃ pick, Follows uuid σ₁ (.add caller object)
      (σ₁.add caller object) (σ₂.addAt pick caller object) := by
  cases object with
  | none => exact ⟨0, .inl rfl, h⟩
  | some o =>
    by_cases hsd : σ₁.store.isShuttingDown = true
    · have hsd₂ : σ₂.store.isShuttingDown = true := h.store.isShuttingDown.trans hsd
      refine ⟨0, ?_⟩
      simp only [StoreState.add, StoreState.addAt, objectStoreAdd, objectStoreAddAt, hsd, hsd₂,
        if_true]
      exact ⟨.inl rfl, h⟩
    have hsd₁ : σ₁.store.isShuttingDown = false := by simpa using hsd
    have hsd₂ : σ₂.store.isShuttingDown = false := h.store.isShuttingDown.trans hsd₁
    rcases objectStoreAdd_cases σ₁.store (some o) (some caller.uuid) with
      ⟨status, slot, he, hstatus⟩ | ⟨_, _, slot, store₁', ho, hu, he, -, -, hfills⟩
    · refine ⟨slotInvalid, ?_⟩
      rw [add_full hsd₁ he hstatus]
      simp only [StoreState.addAt, objectStoreAddAt_none hsd₂]
      exact ⟨.inl rfl, h⟩
    · cases ho
      cases hu
      have hempty := hfills.empty hs.table.bits
      have hentry := h.store.entry slot hfills.lt
      have hlt : slot < σ₂.store.slotCount := h.store.slotCount ▸ hfills.lt
      have hfree : σ₂.store.slots.isAllocated slot = false := by
        rw [h.store.bits slot hlt, hentry.hidden (not_shown_none hempty)]
        rfl
      obtain ⟨store₂', he₂, hfills₂⟩ := objectStoreAddAt_free hsd₂ hlt hfree o caller.uuid
      refine ⟨slot, ?_⟩
      simp only [StoreState.add, StoreState.addAt, he, he₂]
      refine ⟨.inl rfl, ?_, h.destroyed, h.others, h.erased, ?_, h.shutdown⟩
      · refine h.store.update hfills.frame hfills₂.frame (hfills₂.bitsMatch h.store.bits)
          hfills.objects hfills₂.objects ?_
        -- a slot without an object has no reference left, in either run
        rw [hentry.zero₁ hempty, hentry.zero₂ (hentry.hidden (not_shown_none hempty))]
        exact .refl (by simp) ⟨by simp, hne⟩
      · simp only [hfills₂.frame.releaseCount]
        exact h.counts

theorem Erases.own_cases (h : Erases uuid σ₁ σ₂) (slot : Nat) (hne : caller.uuid ≠ uuid) :
    (slot < σ₁.store.slotCount ∧ (σ₁.store.objects slot).object ≠ none ∧
      (σ₁.store.objects slot).ownerUuid = caller.uuid ∧
      σ₂.store.objects slot = σ₁.store.objects slot) ∨
    (¬ (slot < σ₁.store.slotCount ∧ (σ₁.store.objects slot).object ≠ none ∧
      (σ₁.store.objects slot).ownerUuid = caller.uuid) ∧
     ¬ (slot < σ₂.store.slotCount ∧ (σ₂.store.objects slot).object ≠ none ∧
      (σ₂.store.objects slot).ownerUuid = caller.uuid)) := by
  by_cases hown : slot < σ₁.store.slotCount ∧ (σ₁.store.objects slot).object ≠ none ∧
      (σ₁.store.objects slot).ownerUuid = caller.uuid
  · obtain ⟨hlt, hobject, howner⟩ := hown
    exact .inl ⟨hlt, hobject, howner,
      (h.store.entry slot hlt).shown ⟨hobject, howner ▸ hne⟩⟩
  · refine .inr ⟨hown, ?_⟩
    rintro ⟨hlt, hobject, howner⟩
    rw [h.store.slotCount] at hlt
    refine (h.store.entry slot hlt).not_own ?_ ⟨hobject, howner⟩
    exact fun ho => hown ⟨hlt, ho⟩

theorem acquire_fail {σ : StoreState Obj}
    (h : objectStoreAcquire σ.store slot (some caller.uuid) = (status, none, σ.store)) :
    σ.acquire caller slot = (σ, .acquired status none) := by
  simp only [StoreState.acquire, h]

theorem Erases.acquire (h : Erases uuid σ₁ σ₂) (slot : Nat) (hne : caller.uuid ≠ uuid) :
    Follows uuid σ₁ (.acquire caller slot) (σ₁.acquire caller slot) (σ₂.acquire caller slot) := by
  have c₁ := objectStoreAcquire_cases σ₁.store slot (some caller.uuid)
  have c₂ := objectStoreAcquire_cases σ₂.store slot (some caller.uuid)
  rcases h.own_cases slot hne with ⟨hlt, -, -, he⟩ | ⟨hno₁, hno₂⟩
  · obtain ⟨hst, ho⟩ := objectStoreAcquire_congr h.store.slotCount h.store.isShuttingDown he
      caller.uuid
    rcases c₁ with ⟨st₁, h₁, hst₁⟩ | ⟨o₁, u₁, hu₁, -, -, hobject, howner, h₁⟩
    · rcases c₂ with ⟨st₂, h₂, -⟩ | ⟨o₂, u₂, -, -, -, -, -, h₂⟩
      · rw [acquire_fail h₁, acquire_fail h₂]
        rw [h₁, h₂] at hst
        exact ⟨.inl (by rw [show st₂ = st₁ from hst]), h⟩
      · rw [h₁, h₂] at hst
        exact (hst₁ hst.symm).elim
    · rcases c₂ with ⟨st₂, h₂, hst₂⟩ | ⟨o₂, u₂, -, -, -, -, -, h₂⟩
      · rw [h₁, h₂] at hst
        exact (hst₂ hst).elim
      · cases hu₁
        rw [h₁, h₂] at ho
        cases ho
        simp only [StoreState.acquire, h₁, h₂]
        refine ⟨.inl rfl, ?_, h.destroyed, h.others, h.erased, h.counts, h.shutdown⟩
        refine h.store.update ⟨rfl, rfl, rfl⟩ ⟨rfl, rfl, rfl⟩ (h.store.bits.setCount _ _) rfl rfl ?_
        rw [he]
        exact .refl (by simp [hobject]) ⟨by simp [hobject], by simpa [howner] using hne⟩
  · rcases c₁ with ⟨st₁, h₁, hst₁⟩ | ⟨o₁, u₁, hu₁, hlt, -, hobject, howner, -⟩
    · rcases c₂ with ⟨st₂, h₂, hst₂⟩ | ⟨o₂, u₂, hu₂, hlt, -, hobject, howner, -⟩
      · rw [acquire_fail h₁, acquire_fail h₂]
        exact ⟨.inr ⟨hst₁, hst₂, hno₁⟩, h⟩
      · cases hu₂
        exact (hno₂ ⟨hlt, by simp [hobject], howner⟩).elim
    · cases hu₁
      exact (hno₁ ⟨hlt, by simp [hobject], howner⟩).elim

theorem release_fail [DecidableEq Obj] {σ : StoreState Obj} {object : Obj}
    (h : objectStoreRelease σ.store slot (some object) (some caller.uuid) = (status, σ.store))
    (hne : status ≠ .ok) : σ.release caller slot object = (σ, .released status) := by
  unfold StoreState.release
  rw [h]
  cases status with
  | ok => exact (hne rfl).elim
  | _ => rfl

theorem Erases.release [DecidableEq Obj] (h : Erases uuid σ₁ σ₂) (slot : Nat) (object : Obj)
    (hne : caller.uuid ≠ uuid) : Follows uuid σ₁ (.release caller slot object)
      (σ₁.release caller slot object) (σ₂.release caller slot object) := by
  have c₁ := objectStoreRelease_cases σ₁.store slot (some object) (some caller.uuid)
  have c₂ := objectStoreRelease_cases σ₂.store slot (some object) (some caller.uuid)
  rcases h.own_cases slot hne with ⟨hlt, -, -, he⟩ | ⟨hno₁, hno₂⟩
  · have hst := objectStoreRelease_congr h.store.slotCount he (some object) caller.uuid
    rcases c₁ with ⟨st₁, h₁, hst₁⟩ | ⟨o₁, u₁, ho₁, hu₁, -, hobject, howner, -, h₁⟩
    · rcases c₂ with ⟨st₂, h₂, hst₂⟩ | ⟨o₂, u₂, -, -, -, -, -, -, h₂⟩
      · rw [release_fail h₁ hst₁, release_fail h₂ hst₂]
        rw [h₁, h₂] at hst
        exact ⟨.inl (by rw [show st₂ = st₁ from hst]), h⟩
      · rw [h₁, h₂] at hst
        exact (hst₁ hst.symm).elim
    · rcases c₂ with ⟨st₂, h₂, hst₂⟩ | ⟨o₂, u₂, -, -, -, -, -, -, h₂⟩
      · rw [h₁, h₂] at hst
        exact (hst₂ hst).elim
      · cases hu₁
        simp only [StoreState.release, h₁, h₂]
        refine ⟨.inl rfl, ?_, h.destroyed, h.others, h.erased, h.counts, h.shutdown⟩
        refine h.store.update ⟨rfl, rfl, rfl⟩ ⟨rfl, rfl, rfl⟩ (h.store.bits.setCount _ _) rfl rfl ?_
        rw [he]
        exact .refl (by simp [hobject]) ⟨by simp [hobject], by simpa [howner] using hne⟩
  · rcases c₁ with ⟨st₁, h₁, hst₁⟩ | ⟨o₁, u₁, -, hu₁, hlt, hobject, howner, -⟩
    · rcases c₂ with ⟨st₂, h₂, hst₂⟩ | ⟨o₂, u₂, -, hu₂, hlt, hobject, howner, -⟩
      · rw [release_fail h₁ hst₁, release_fail h₂ hst₂]
        exact ⟨.inr ⟨hst₁, hst₂, hno₁⟩, h⟩
      · cases hu₂
        exact (hno₂ ⟨hlt, by simp [hobject], howner⟩).elim
    · cases hu₁
      exact (hno₁ ⟨hlt, by simp [hobject], howner⟩).elim

theorem remove_running {σ : StoreState Obj} (hlt : slot < σ.store.slotCount)
    (hsd : σ.store.isShuttingDown = false) : σ.remove caller slot = ({ σ with
      store := { σ.store with releaseCount := σ.store.releaseCount + 1 } }.setRemove caller
        (.polling slot none), .pending) := by
  have hinc : incrementReleaseCount σ.store =
      (true, { σ.store with releaseCount := σ.store.releaseCount + 1 }) := by
    rw [incrementReleaseCount, if_neg (by simp [hsd])]
  simp only [StoreState.remove, hinc]
  rw [if_neg (by omega)]

theorem Erases.remove (h : Erases uuid σ₁ σ₂) (slot : Nat) (hne : caller.uuid ≠ uuid)
    (hpc : σ₁.removes caller = .idle) : Follows uuid σ₁ (.remove caller slot)
      (σ₁.remove caller slot) (σ₂.remove caller slot) := by
  have hpc₂ : σ₂.removes caller = .idle := by
    have hsame := h.others caller hne
    rw [hpc] at hsame
    generalize σ₂.removes caller = pc at hsame
    cases hsame
    rfl
  by_cases hslot : slot ≥ σ₁.store.slotCount
  · have hslot₂ : slot ≥ σ₂.store.slotCount := h.store.slotCount ▸ hslot
    simp only [StoreState.remove, hslot, hslot₂, if_true]
    exact ⟨.inl rfl, h⟩
  have hslot₂ : ¬ slot ≥ σ₂.store.slotCount := h.store.slotCount ▸ hslot
  by_cases hsd : σ₁.store.isShuttingDown = true
  · have hsd₂ := h.store.isShuttingDown.trans hsd
    simp only [StoreState.remove, incrementReleaseCount, hslot, hslot₂, hsd, hsd₂, if_true,
      if_false]
    exact ⟨.inl rfl, h⟩
  · have hsd₁ : σ₁.store.isShuttingDown = false := by simpa using hsd
    rw [remove_running (by omega) hsd₁,
      remove_running (by omega) (h.store.isShuttingDown.trans hsd₁)]
    refine ⟨.inl rfl, ⟨h.store.slotCount, h.store.isShuttingDown, h.store.bits, h.store.entry⟩,
      h.destroyed, h.others_update .polling, h.erased_update hne, ?_, h.shutdown⟩
    exact h.counts.enter (by rw [hpc₂]; rfl) rfl

theorem Erases.setRemove (h : Erases uuid σ₁ σ₂) (hne : caller.uuid ≠ uuid)
    (hpc : SamePc pc₁ pc₂) (hcount : pc₂.isCounted = (σ₂.removes caller).isCounted) :
    Erases uuid (σ₁.setRemove caller pc₁) (σ₂.setRemove caller pc₂) :=
  ⟨h.store, h.destroyed, h.others_update hpc, h.erased_update hne, h.counts.stay hcount,
    h.shutdown⟩

theorem Erases.setStore (h : Erases uuid σ₁ σ₂) {store₁ store₂ : ObjectStore Obj}
    (hs : SameStore uuid store₁ store₂) (hcount : store₂.releaseCount = σ₂.store.releaseCount) :
    Erases uuid { σ₁ with store := store₁ } { σ₂ with store := store₂ } :=
  ⟨hs, h.destroyed, h.others, h.erased, hcount ▸ h.counts, h.shutdown⟩

theorem Erases.record (h : Erases uuid σ₁ σ₂) (es₁ es₂ : List (StoreEvent Obj)) :
    Erases uuid (σ₁.record es₁) (σ₂.record es₂) :=
  ⟨h.store, h.destroyed, h.others, h.erased, h.counts, h.shutdown⟩

theorem Erases.poll (h : Erases uuid σ₁ σ₂) (hne : caller.uuid ≠ uuid)
    (hlt : slot < σ₁.store.slotCount) (hpc : σ₂.removes caller = .polling slot seen₂) :
    Erases uuid (σ₁.poll caller slot seen₁) (σ₂.poll caller slot seen₂) := by
  have c₁ := storeRemoveLocked_cases σ₁.store slot (some caller.uuid)
  have c₂ := storeRemoveLocked_cases σ₂.store slot (some caller.uuid)
  have hgive : ∀ {st₁ st₂ : SaStatus}, st₁ ≠ .ok → st₂ ≠ .ok → Erases uuid
      (σ₁.setRemove caller (.counted st₁ none)) (σ₂.setRemove caller (.counted st₂ none)) :=
    fun h₁ h₂ => h.setRemove hne (.counted ⟨rfl, .inr ⟨h₁, h₂⟩⟩) (by rw [hpc]; rfl)
  rcases h.own_cases slot hne with ⟨-, -, -, he⟩ | ⟨hno₁, hno₂⟩
  · have hout := storeRemoveLocked_congr he (some caller.uuid)
    rcases c₁ with ⟨st₁, h₁, hst₁, -⟩ | ⟨o₁, h₁, -⟩ | ⟨o₁, store₁', h₁, howner₁, hdel₁⟩
    · rcases c₂ with ⟨st₂, h₂, hst₂, -⟩ | ⟨o₂, h₂, -⟩ | ⟨o₂, store₂', h₂, howner₂, hdel₂⟩
      · simp only [StoreState.poll, h₁, h₂]
        exact hgive hst₁ hst₂
      · simp [h₁, h₂] at hout
      · simp [h₁, h₂] at hout
    · rcases c₂ with ⟨st₂, h₂, hst₂, -⟩ | ⟨o₂, h₂, -⟩ | ⟨o₂, store₂', h₂, howner₂, hdel₂⟩
      · simp [h₁, h₂] at hout
      · simp only [StoreState.poll, h₁, h₂]
        exact h.setRemove hne .polling (by rw [hpc]; rfl)
      · simp [h₁, h₂] at hout
    · rcases c₂ with ⟨st₂, h₂, hst₂, -⟩ | ⟨o₂, h₂, -⟩ | ⟨o₂, store₂', h₂, howner₂, hdel₂⟩
      · simp [h₁, h₂] at hout
      · simp [h₁, h₂] at hout
      · simp only [h₁, h₂, RemoveOutcome.leave.injEq, Option.some.injEq, true_and] at hout
        simp only [StoreState.poll, h₁, h₂]
        refine ((h.setStore (h.store.deletes hlt hdel₁ hdel₂)
          hdel₂.frame.releaseCount).setRemove hne (.counted ⟨?_, .inl rfl⟩) ?_).record _ _
        · simp [hout]
        · simp only [hpc]
          rfl
  · rcases c₁ with ⟨st₁, h₁, hst₁, -⟩ | ⟨o₁, -, hobject, howner, -⟩ | ⟨o₁, _, -, howner, hdel⟩
    · rcases c₂ with ⟨st₂, h₂, hst₂, -⟩ | ⟨o₂, -, hobject, howner, -⟩ | ⟨o₂, _, -, howner, hdel⟩
      · simp only [StoreState.poll, h₁, h₂]
        exact hgive hst₁ hst₂
      · exact (hno₂ ⟨h.store.slotCount ▸ hlt, by simp [hobject], howner _ rfl⟩).elim
      · exact (hno₂ ⟨h.store.slotCount ▸ hlt, by simp [hdel.object], howner _ rfl⟩).elim
    · exact (hno₁ ⟨hlt, by simp [hobject], howner _ rfl⟩).elim
    · exact (hno₁ ⟨hlt, by simp [hdel.object], howner _ rfl⟩).elim

theorem SamePc.isCounted {pc₁ pc₂ : RemovePc Obj} (h : SamePc pc₁ pc₂) :
    pc₂.isCounted = pc₁.isCounted := by
  cases h <;> rfl

theorem Erases.drained (h : Erases uuid σ₁ σ₂) (hc : Counts σ₁.removes 0) :
    σ₂.store.releaseCount = 0 := by
  obtain ⟨callers, hmem, hcard⟩ := h.counts
  rw [← hcard, Finset.card_eq_zero, Finset.eq_empty_iff_forall_notMem]
  intro c hcaller
  rw [hmem] at hcaller
  by_cases hu : c.uuid = uuid
  · rw [h.erased c hu] at hcaller
    cases hcaller
  · rw [SamePc.isCounted (h.others c hu), hc.eq_zero c] at hcaller
    cases hcaller

theorem Erases.finish (h : Erases uuid σ₁ σ₂) (hne : caller.uuid ≠ uuid)
    (hout : SameOutcome status₁ o₁ status₂ o₂) (hpc : σ₂.removes caller = .freeing status₂ o₂) :
    Follows uuid σ₁ (.finish caller) (σ₁.finish caller status₁ o₁)
      (σ₂.finish caller status₂ o₂) := by
  have hidle : Erases uuid (σ₁.setRemove caller .idle) (σ₂.setRemove caller .idle) :=
    h.setRemove hne .idle (by rw [hpc]; rfl)
  have hresult : (.removed status₂ : Result Obj) = .removed status₁ ∨
      (.removed status₁ : Result Obj).failed ∧ (.removed status₂ : Result Obj).failed ∧
        ¬ σ₁.owns (.finish caller) :=
    hout.2.imp (congrArg Result.removed) fun hst => ⟨hst.1, hst.2, not_false⟩
  cases o₁ with
  | none =>
    cases o₂ with
    | none => exact ⟨hresult, hidle⟩
    | some e₂ => cases hout.1
  | some e₁ =>
    cases o₂ with
    | none => cases hout.1
    | some e₂ =>
      by_cases hd : σ₁.destroyed = true
      · have hd₂ := h.destroyed.trans hd
        simp only [StoreState.finish, hd, hd₂, if_true]
        exact ⟨.inl rfl, hidle.record _ _⟩
      · have hd₂ : ¬ σ₂.destroyed = true := h.destroyed ▸ hd
        simp only [StoreState.finish, hd, hd₂]
        exact ⟨hresult, hidle.record _ _⟩

theorem Erases.setShutdown (h : Erases uuid σ₁ σ₂) {pc₁ pc₂ : ShutdownPc Obj}
    (hpc : SameShutdown pc₁ pc₂) :
    Erases uuid { σ₁ with shutdown := pc₁ } { σ₂ with shutdown := pc₂ } :=
  ⟨h.store, h.destroyed, h.others, h.erased, h.counts, hpc⟩

/-- Shutdown takes an object out of a slot in both runs, or only in the first: it is an object of
the UUID, or it is waited for. -/
theorem Erases.shutdownRemove (h : Erases uuid σ₁ σ₂) (hlt : i < σ₁.store.slotCount) :
    Erases uuid (σ₁.shutdownRemove i) σ₂ ∨
      Erases uuid (σ₁.shutdownRemove i) (σ₂.shutdownRemove i) := by
  have c₁ := storeRemoveLocked_cases σ₁.store i none
  have c₂ := storeRemoveLocked_cases σ₂.store i none
  have hentry := h.store.entry i hlt
  have hskip : (σ₂.store.objects i).object = none →
      σ₂.shutdownRemove i = { σ₂ with shutdown := .removing (i + 1) } := by
    intro hnone
    rcases c₂ with ⟨st, h₂, -⟩ | ⟨o, -, hobject, -⟩ | ⟨o, _, -, -, hdel⟩
    · simp only [StoreState.shutdownRemove, h₂]
    · simp [hobject] at hnone
    · simp [hdel.object] at hnone
  rcases c₁ with ⟨st₁, h₁, -, hnone⟩ | ⟨o₁, h₁, -⟩ | ⟨o₁, store₁', h₁, -, hdel₁⟩
  · have hnone₁ : (σ₁.store.objects i).object = none := by simpa using hnone
    right
    rw [hskip (hentry.hidden (not_shown_none hnone₁))]
    simp only [StoreState.shutdownRemove, h₁]
    exact h.setShutdown .removing
  · left
    simp only [StoreState.shutdownRemove, h₁]
    exact h
  · right
    by_cases hs : Shown uuid (σ₁.store.objects i)
    · have hout := storeRemoveLocked_congr (hentry.shown hs) none
      rcases c₂ with ⟨st₂, h₂, -⟩ | ⟨o₂, h₂, -⟩ | ⟨o₂, store₂', h₂, -, hdel₂⟩
      · simp [h₁, h₂] at hout
      · simp [h₁, h₂] at hout
      · simp only [h₁, h₂, RemoveOutcome.leave.injEq, Option.some.injEq, true_and] at hout
        subst hout
        simp only [StoreState.shutdownRemove, h₁, h₂]
        exact ((h.setStore (h.store.deletes hlt hdel₁ hdel₂)
          hdel₂.frame.releaseCount).setShutdown .freeing).record _ _
    · rw [hskip (hentry.hidden hs)]
      simp only [StoreState.shutdownRemove, h₁]
      have hstore := h.store.hide hdel₁.frame hdel₁.objects hs (not_shown_none rfl) fun _ => rfl
      exact ((h.setStore hstore rfl).setShutdown .foreign).record _ []

theorem Erases.init {store : ObjectStore Obj} (h : objectStoreInit count = some store) :
    Erases uuid (StoreState.init store) (StoreState.init store) := by
  obtain ⟨hb, hz, -, -, hr⟩ := objectStoreInit_spec h
  refine ⟨⟨rfl, rfl, hb, fun s _ => ?_⟩, rfl, fun _ _ => .idle, fun _ _ => rfl, ?_, .idle⟩
  · simp only [StoreState.init, hz]
    exact .zero
  · simp only [StoreState.init, hr]
    exact .idle

end Relation

section Step

variable [DecidableEq Obj] {uuid : SaUuid} {σ₁ σ₁' σ₂ : StoreState Obj} {a : Action Obj}
  {r : Result Obj}

/-- The second run does nothing, or does the same and sees the same. -/
def Continues (uuid : SaUuid) (σ₁ : StoreState Obj) (a : Action Obj) (σ₁' : StoreState Obj)
    (r : Result Obj) (σ₂ : StoreState Obj) : Prop :=
  (Hidden uuid a ∧ Erases uuid σ₁' σ₂) ∨
    ∃ b σ₂' r', σ₂.stepAt b = some (σ₂', r') ∧ Agree uuid σ₁ a r b r' ∧ Erases uuid σ₁' σ₂'

theorem Continues.of_follows (pick : Nat) {p : StoreState Obj × Result Obj}
    (hp : σ₂.stepAt (pick, a) = some p) (hc : ∀ c, a.caller = some c → c.uuid ≠ uuid)
    (h : Follows uuid σ₁ a (σ₁', r) p) : Continues uuid σ₁ a σ₁' r σ₂ :=
  .inr ⟨(pick, a), p.1, p.2, hp, ⟨rfl, hc, h.1⟩, h.2⟩

theorem Erases.step_other {caller : Caller} (hs : StoreInv σ₁) (hsh : ShutdownInv σ₁)
    (h : Erases uuid σ₁ σ₂) (ha : a.caller = some caller) (hne : caller.uuid ≠ uuid)
    (hstep : σ₁.step a = some (σ₁', r)) : Continues uuid σ₁ a σ₁' r σ₂ := by
  have hsame := h.others caller hne
  have hc : ∀ c, a.caller = some c → c.uuid ≠ uuid := by
    intro c hc
    cases ha.symm.trans hc
    exact hne
  cases a with
  | add c object =>
    cases ha
    simp only [step, Option.ite_none_left_eq_some, Option.some.injEq] at hstep
    obtain ⟨hd, he⟩ := hstep
    obtain ⟨pick, hf⟩ := h.add hs object hne
    refine .of_follows pick ?_ hc (he ▸ hf)
    simp only [stepAt, h.destroyed]
    rw [if_neg hd]
  | acquire c slot =>
    cases ha
    simp only [step, Option.ite_none_left_eq_some, Option.some.injEq] at hstep
    obtain ⟨hd, he⟩ := hstep
    refine .of_follows 0 ?_ hc (he ▸ h.acquire slot hne)
    simp only [stepAt, step, h.destroyed]
    rw [if_neg hd]
  | release c slot object =>
    cases ha
    simp only [step, Option.ite_none_left_eq_some, Option.some.injEq] at hstep
    obtain ⟨hd, he⟩ := hstep
    refine .of_follows 0 ?_ hc (he ▸ h.release slot object hne)
    simp only [stepAt, step, h.destroyed]
    rw [if_neg hd]
  | remove c slot =>
    cases ha
    simp only [step, Option.ite_none_left_eq_some] at hstep
    obtain ⟨hd, he⟩ := hstep
    split at he
    · rename_i hpc
      rw [hpc] at hsame
      have hf := h.remove slot hne hpc
      refine .of_follows 0 ?_ hc (Option.some.inj he ▸ hf)
      simp only [stepAt, step, h.destroyed]
      rw [if_neg hd]
      generalize hpc₂ : σ₂.removes caller = pc at hsame
      cases hsame
      rfl
    · cases he
  | poll c =>
    cases ha
    simp only [step] at hstep
    split at hstep
    · rename_i slot seen hpc
      rw [hpc] at hsame
      generalize hpc₂ : σ₂.removes caller = pc at hsame
      cases hsame with
      | @polling _ _ seen₂ =>
        have hlt := hs.table.polling caller slot seen hpc
        split_ifs at hstep with hd
        · have hcount := hsh.not_counted hd caller
          rw [hpc] at hcount
          cases hcount
        · have hd₂ : ¬ σ₂.destroyed = true := h.destroyed ▸ hd
          cases hstep
          refine .inr ⟨(0, .poll caller), _, _, ?_, ⟨rfl, hc, .inl rfl⟩, h.poll hne hlt hpc₂⟩
          simp only [stepAt, step, hpc₂]
          rw [if_neg hd₂]
    · cases hstep
  | decrement c =>
    cases ha
    simp only [step] at hstep
    split at hstep
    · rename_i status o hpc
      rw [hpc] at hsame
      generalize hpc₂ : σ₂.removes caller = pc at hsame
      cases hsame with
      | @counted _ _ status₂ o₂ hout =>
        split_ifs at hstep with hd
        · have hcount := hsh.not_counted hd caller
          rw [hpc] at hcount
          cases hcount
        · have hd₂ : ¬ σ₂.destroyed = true := h.destroyed ▸ hd
          cases hstep
          have hstep₂ : σ₂.step (.decrement caller) = some ({ σ₂ with
              store := decrementReleaseCount σ₂.store }.setRemove caller (.freeing status₂ o₂),
                .pending) := by
            simp only [step, hpc₂]
            rw [if_neg hd₂]
          refine .inr ⟨(0, .decrement caller), _, _, hstep₂, ⟨rfl, hc, .inl rfl⟩, ?_⟩
          exact ⟨⟨h.store.slotCount, h.store.isShuttingDown, h.store.bits, h.store.entry⟩,
            h.destroyed, h.others_update (.freeing hout), h.erased_update hne,
            h.counts.leave (by rw [hpc₂]; rfl) rfl, h.shutdown⟩
    · cases hstep
  | finish c =>
    cases ha
    simp only [step] at hstep
    split at hstep
    · rename_i status o hpc
      rw [hpc] at hsame
      generalize hpc₂ : σ₂.removes caller = pc at hsame
      cases hsame with
      | @freeing _ _ status₂ o₂ hout =>
        refine .of_follows 0 ?_ hc (Option.some.inj hstep ▸ h.finish hne hout hpc₂)
        simp only [stepAt, step, hpc₂]
    · cases hstep
  | shutdown | shutdownPoll | shutdownRemove | shutdownFree | shutdownClose => cases ha

theorem Erases.step_shutdown (hsh : ShutdownInv σ₁) (h : Erases uuid σ₁ σ₂)
    (ha : a.caller = none) (hstep : σ₁.step a = some (σ₁', r)) :
    Continues uuid σ₁ a σ₁' r σ₂ := by
  have hsame := h.shutdown
  have hc : ∀ c, a.caller = some c → c.uuid ≠ uuid := by simp [ha]
  cases a with
  | add | acquire | release | remove | poll | decrement | finish => cases ha
  | shutdown =>
    simp only [step] at hstep
    split at hstep
    · rename_i hpc
      rw [hpc] at hsame
      generalize hpc₂ : σ₂.shutdown = pc at hsame
      cases hsame
      cases hstep
      have hstep₂ : σ₂.step .shutdown = some ({ σ₂ with
          store := { σ₂.store with isShuttingDown := true }
          shutdown := .draining }, .pending) := by
        simp only [step, hpc₂]
      refine .inr ⟨(0, .shutdown), _, _, hstep₂, ⟨rfl, hc, .inl rfl⟩, ?_⟩
      exact ⟨⟨h.store.slotCount, rfl, h.store.bits, h.store.entry⟩, h.destroyed, h.others,
        h.erased, h.counts, .draining⟩
    · cases hstep
  | shutdownPoll =>
    simp only [step] at hstep
    split at hstep
    · rename_i hpc
      rw [hpc] at hsame
      generalize hpc₂ : σ₂.shutdown = pc at hsame
      cases hsame
      split_ifs at hstep with hzero
      · cases hstep
        have hzero₂ := h.drained (hzero ▸ hsh.counts)
        refine .inr ⟨(0, .shutdownPoll), _, _, ?_, ⟨rfl, hc, .inl rfl⟩, h.setShutdown .removing⟩
        simp only [stepAt, step, hpc₂, hzero₂, if_true]
      · cases hstep
        exact .inl ⟨.inr (.inl rfl), h⟩
    · cases hstep
  | shutdownRemove =>
    simp only [step] at hstep
    split at hstep
    · rename_i i hpc
      rw [hpc] at hsame
      generalize hpc₂ : σ₂.shutdown = pc at hsame
      cases hsame
      split_ifs at hstep with hlt
      cases hstep
      rcases h.shutdownRemove hlt with hr | hr
      · exact .inl ⟨.inr (.inr (.inl rfl)), hr⟩
      · refine .inr ⟨(0, .shutdownRemove), _, _, ?_, ⟨rfl, hc, .inl rfl⟩, hr⟩
        simp only [stepAt, step, hpc₂, h.store.slotCount, hlt, if_true]
    · cases hstep
  | shutdownFree =>
    simp only [step] at hstep
    split at hstep
    · rename_i i object n hpc
      rw [hpc] at hsame
      generalize hpc₂ : σ₂.shutdown = pc at hsame
      cases hstep
      cases hsame with
      | @freeing _ _ _ m =>
        have hstep₂ : σ₂.step .shutdownFree = some ({ σ₂ with
            shutdown := .removing (i + 1) }.record [.objectFree object m], .pending) := by
          simp only [step, hpc₂]
        exact .inr ⟨(0, .shutdownFree), _, _, hstep₂, ⟨rfl, hc, .inl rfl⟩,
          (h.setShutdown .removing).record _ _⟩
      | foreign =>
        refine .inl ⟨.inr (.inr (.inr rfl)), h.store, h.destroyed, h.others, h.erased, h.counts, ?_⟩
        rw [hpc₂]
        exact .removing
    · cases hstep
  | shutdownClose =>
    simp only [step] at hstep
    split at hstep
    · rename_i i hpc
      rw [hpc] at hsame
      generalize hpc₂ : σ₂.shutdown = pc at hsame
      cases hsame
      split_ifs at hstep with hlt
      cases hstep
      have hlt₂ : ¬ i < σ₂.store.slotCount := h.store.slotCount ▸ hlt
      have hstep₂ : σ₂.step .shutdownClose = some ({ σ₂ with
          destroyed := true
          shutdown := .done }, .pending) := by
        simp only [step, hpc₂]
        rw [if_neg hlt₂]
      exact .inr ⟨(0, .shutdownClose), _, _, hstep₂, ⟨rfl, hc, .inl rfl⟩, h.store, rfl, h.others,
        h.erased, h.counts, .done⟩
    · cases hstep

theorem Erases.step (hs : StoreInv σ₁) (hsh : ShutdownInv σ₁) (h : Erases uuid σ₁ σ₂)
    (hstep : σ₁.step a = some (σ₁', r)) : Continues uuid σ₁ a σ₁' r σ₂ := by
  cases ha : a.caller with
  | none => exact h.step_shutdown hsh ha hstep
  | some caller =>
    by_cases hu : caller.uuid = uuid
    · exact .inl ⟨.inl ⟨caller, ha, hu⟩, h.hide hs (step_change hstep) ha hu⟩
    · exact h.step_other hs hsh ha hu hstep

/-- What a section of a call with one UUID does to the objects added with another: nothing. -/
structure Untouched (σ σ' : StoreState Obj) (a : Action Obj) (r : Result Obj) (u : SaUuid) :
    Prop where
  table : ∀ s < σ.store.slotCount, (σ.store.objects s).object ≠ none →
    σ.addedBy u (σ.occupant s) →
    σ'.store.objects s = σ.store.objects s ∧ σ'.occupant s = σ.occupant s
  returned : ∀ caller slot o, a = .acquire caller slot → r = .acquired .ok (some o) →
    ¬ σ.addedBy u (σ.occupant slot)
  freed : ∀ o n, .objectFree o n ∈ σ'.log → .objectFree o n ∉ σ.log → ¬ σ.addedBy u n

theorem OwnerInv.untouched {c : Caller} {u : SaUuid} (hs : StoreInv σ₁) (hi : OwnerInv σ₁)
    (hstep : σ₁.step a = some (σ₁', r)) (ha : a.caller = some c) (hne : c.uuid ≠ u) :
    Untouched σ₁ σ₁' a r u where
  table s hlt hobject hu := (step_change hstep).foreign_table hi hs ha hlt hobject hu hne
  returned caller slot o := by
    rintro rfl rfl hu
    cases ha
    simp only [step, Option.ite_none_left_eq_some, Option.some.injEq] at hstep
    rcases objectStoreAcquire_cases σ₁.store slot (some c.uuid) with
      ⟨status, he, -⟩ | ⟨o', u', hu', hlt, -, hobject, howner, -⟩
    · rw [acquire_fail he] at hstep
      simp at hstep
    · cases hu'
      exact hne (howner.symm.trans (hi.table slot hlt (by simp [hobject]) u hu).symm)
  freed o n hfree hnew := (step_change hstep).foreign_freed hi ha hfree hnew hne

/-- In every run, calls with one UUID leave the objects added with another alone; and the store
without the calls with a UUID has a run with the same slots in which all other calls see the same,
but for the error where a call finds no object of its caller. -/
theorem owner_isolation {count : UInt64} {store : ObjectStore Obj} {as : List (Action Obj)}
    (h₀ : objectStoreInit count = some store)
    (h : Transition.exec StoreState.next (StoreState.init store) as = some σ₁) (v : SaUuid) :
    (∀ a σ' r c u, σ₁.step a = some (σ', r) → a.caller = some c → c.uuid = v → u ≠ v →
      Untouched σ₁ σ' a r u) ∧
    ∃ bs σ₂, Paired StoreState.step StoreState.stepAt (Hidden v) (Agree v)
      (StoreState.init store) (StoreState.init store) as bs σ₁ σ₂ := by
  constructor
  · intro a σ' r c u hstep ha hc hne
    have hall := exec_invariant_of_step
      (I := fun σ : StoreState Obj => (StoreInv σ ∧ LedgerInv σ) ∧ OwnerInv σ)
      (fun σ a σ' hI hn => ⟨⟨hI.1.1.change (next_change hn),
        hI.1.2.change hI.1.1.table hI.1.1.log (next_change hn)⟩,
        hI.2.change hI.1.1 hI.1.2 (next_change hn)⟩)
      ⟨⟨.init h₀, .init h₀⟩, .init⟩ h
    exact hall.2.untouched hall.1.1 hstep ha (hc ▸ hne.symm)
  · have hstep : ∀ (σ₁ σ₂ : StoreState Obj) a σ₁' r,
        ((StoreInv σ₁ ∧ ShutdownInv σ₁) ∧ Erases v σ₁ σ₂) → σ₁.step a = some (σ₁', r) →
        (Hidden v a ∧ (StoreInv σ₁' ∧ ShutdownInv σ₁') ∧ Erases v σ₁' σ₂) ∨
        ∃ b σ₂' r', σ₂.stepAt b = some (σ₂', r') ∧ Agree v σ₁ a r b r' ∧
          (StoreInv σ₁' ∧ ShutdownInv σ₁') ∧ Erases v σ₁' σ₂' := by
      rintro σ₁ σ₂ a σ₁' r ⟨⟨hs, hsh⟩, hR⟩ hstep
      have hc := step_change hstep
      have hI := And.intro (hs.change hc) (hsh.change hc)
      rcases hR.step hs hsh hstep with ⟨hh, he⟩ | ⟨b, σ₂', r', hb, hagree, he⟩
      · exact .inl ⟨hh, hI, he⟩
      · exact .inr ⟨b, σ₂', r', hb, hagree, hI, he⟩
    obtain ⟨bs, σ₂, hp, -⟩ := exec_paired hstep ⟨⟨.init h₀, .init h₀⟩, .init h₀⟩ h
    exact ⟨bs, σ₂, hp⟩

/-- A slot goes from one UUID to the other while the first waits to get a handle back. -/
theorem owner_isolation_shared :
    ∃ σ : StoreState Nat, Transition.exec StoreState.next
        (StoreState.init ((objectStoreInit 32).get objectStoreInit_isSome))
        [.add ⟨.ofByte 1, 0⟩ (some 7), .add ⟨.ofByte 2, 0⟩ (some 8), .acquire ⟨.ofByte 2, 0⟩ 31,
          .acquire ⟨.ofByte 1, 0⟩ 31, .remove ⟨.ofByte 2, 1⟩ 30, .poll ⟨.ofByte 2, 1⟩] =
        some σ ∧
      ((∀ a σ' r c u, σ.step a = some (σ', r) → a.caller = some c → c.uuid = .ofByte 2 →
        u ≠ .ofByte 2 → Untouched σ σ' a r u) ∧
      ∃ bs σ₂, Paired StoreState.step StoreState.stepAt (Hidden (.ofByte 2))
        (Agree (.ofByte 2))
        (StoreState.init ((objectStoreInit 32).get objectStoreInit_isSome))
        (StoreState.init ((objectStoreInit 32).get objectStoreInit_isSome))
        [.add ⟨.ofByte 1, 0⟩ (some 7), .add ⟨.ofByte 2, 0⟩ (some 8), .acquire ⟨.ofByte 2, 0⟩ 31,
          .acquire ⟨.ofByte 1, 0⟩ 31, .remove ⟨.ofByte 2, 1⟩ 30, .poll ⟨.ofByte 2, 1⟩] bs σ σ₂) :=
  ⟨_, (Option.some_get (by decide +kernel)).symm,
    owner_isolation (Option.some_get (by decide +kernel)).symm
      (Option.some_get (by decide +kernel)).symm _⟩

/-- A release with a handle that is no longer valid sees whether another UUID had the slot since:
the table keeps the owner of the last object. -/
theorem stale_release_differs :
    ((Transition.exec StoreState.next
        (StoreState.init ((objectStoreInit 32).get objectStoreInit_isSome))
        ([.add ⟨.ofByte 1, 0⟩ (some 7), .remove ⟨.ofByte 1, 0⟩ 31, .poll ⟨.ofByte 1, 0⟩] ++
        [.add ⟨.ofByte 2, 0⟩ (some 8), .remove ⟨.ofByte 2, 0⟩ 31, .poll ⟨.ofByte 2, 0⟩])).bind
      fun σ : StoreState Nat => (σ.step (.release ⟨.ofByte 1, 0⟩ 31 7)).map Prod.snd) =
        some (.released .operationNotAllowed) ∧
    ((Transition.exec StoreState.next
        (StoreState.init ((objectStoreInit 32).get objectStoreInit_isSome))
        [.add ⟨.ofByte 1, 0⟩ (some 7), .remove ⟨.ofByte 1, 0⟩ 31, .poll ⟨.ofByte 1, 0⟩]).bind
      fun σ : StoreState Nat => (σ.step (.release ⟨.ofByte 1, 0⟩ 31 7)).map Prod.snd) =
        some (.released .internalError) := by
  constructor <;> decide +kernel

end Step

end StoreState

end TaSecureApi
