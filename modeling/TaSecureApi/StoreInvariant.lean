import Mathlib.Data.List.Count
import TaSecureApi.StoreRuns

namespace TaSecureApi
set_option autoImplicit true
open Transition

variable {Obj : Type}

/-- A bit of the slot map is set exactly when the table has an object there. -/
def BitsMatch (store : ObjectStore Obj) : Prop :=
  ∀ s < store.slotCount, store.slots.isAllocated s = (store.objects s).object.isSome

theorem objectStoreInit_spec {store : ObjectStore Obj} (h : objectStoreInit count = some store) :
    BitsMatch store ∧ (∀ s, store.objects s = .zero) ∧ store.slotCount = count.toNat ∧
      store.isShuttingDown = false ∧ store.releaseCount = 0 := by
  unfold objectStoreInit at h
  split at h
  · cases h
  · rename_i slots hs
    cases h
    refine ⟨?_, fun _ => rfl, rfl, rfl, rfl⟩
    unfold slotsInit at hs
    split at hs
    · cases hs
      intro s _
      simp [Slots.isAllocated, StoreObject.zero]
    · cases hs

section Tables

variable {store store' : ObjectStore Obj} {slot : Nat}

theorem Fills.bitsMatch (h : Fills store slot o owner store') (hb : BitsMatch store) :
    BitsMatch store' := by
  intro s hs
  rw [h.frame.slotCount] at hs
  rw [h.allocated, h.objects, Function.update_apply]
  by_cases he : s = slot
  · simp [he]
  · simp [he, hb s hs]

theorem Fills.empty (h : Fills store slot o owner store') (hb : BitsMatch store) :
    (store.objects slot).object = none := by
  have he := hb slot h.lt
  rw [h.free] at he
  simpa using he.symm

theorem Deletes.bitsMatch (h : Deletes store slot o store') (hlt : slot < store.slotCount)
    (hb : BitsMatch store) : BitsMatch store' := by
  intro s hs
  rw [h.frame.slotCount] at hs
  rw [h.slots, slotsFree_isAllocated (store.slots_slotCount ▸ hlt), h.objects,
    Function.update_apply]
  by_cases he : s = slot
  · simp [he]
  · simp [he, hb s hs]

theorem BitsMatch.setCount (hb : BitsMatch store) (slot n : Nat) :
    BitsMatch { store with
      objects := Function.update store.objects slot
        { store.objects slot with referenceCount := n } } := by
  intro s hs
  simp only [Function.update_apply]
  by_cases he : s = slot
  · simp only [he, if_true]
    exact hb slot (he ▸ hs)
  · simp only [he, if_false]
    exact hb s hs

end Tables

/-- Erasing one element of a list that satisfies `p`, and hence `q`, takes one from the count
of `q`. -/
theorem countP_eraseP {p q : α → Bool} {l : List α} (hpq : ∀ a, p a = true → q a = true)
    (h : ∃ a ∈ l, p a = true) : (l.eraseP p).countP q + 1 = l.countP q := by
  induction l with
  | nil => simp at h
  | cons a l ih =>
    by_cases hp : p a = true
    · rw [List.eraseP_cons_of_pos hp, List.countP_cons_of_pos (hpq a hp)]
    · have hl : ∃ b ∈ l, p b = true := by simpa [hp] using h
      have he := ih hl
      rw [List.eraseP_cons_of_neg hp, List.countP_cons, List.countP_cons]
      omega

theorem countP_eraseP_of_disjoint {p q : α → Bool} {l : List α}
    (hpq : ∀ a, p a = true → q a = false) : (l.eraseP p).countP q = l.countP q := by
  induction l with
  | nil => rfl
  | cons a l ih =>
    by_cases hp : p a = true
    · simp [hp, hpq a hp]
    · rw [List.eraseP_cons_of_neg hp, List.countP_cons, List.countP_cons, ih]

namespace StoreState

/-- The slot map and the table agree, and no remove waits on a slot outside of them. -/
structure TableInv (σ : StoreState Obj) : Prop where
  bits : BitsMatch σ.store
  polling : ∀ caller slot seen, σ.removes caller = .polling slot seen → slot < σ.store.slotCount

theorem TableInv.setRemove {σ : StoreState Obj} (hi : TableInv σ) (caller : Caller)
    (pc : RemovePc Obj) (hpc : ∀ slot seen, pc = .polling slot seen → slot < σ.store.slotCount) :
    ∀ c slot seen, (σ.setRemove caller pc).removes c = .polling slot seen →
      slot < σ.store.slotCount := by
  intro c slot seen h
  simp only [setRemove_removes, Function.update_apply] at h
  split at h
  · exact hpc slot seen h
  · exact hi.polling c slot seen h

/-- Reference counts count the holds, and a held object stays where it was acquired. -/
structure HoldInv (σ : StoreState Obj) : Prop where
  refs : ∀ s < σ.store.slotCount,
    (σ.store.objects s).referenceCount = σ.holds.countP (·.slot == s)
  held : ∀ h ∈ σ.holds, h.slot < σ.store.slotCount ∧
    (σ.store.objects h.slot).object = some h.object ∧
    (σ.store.objects h.slot).ownerUuid = h.callerUuid ∧ σ.occupant h.slot = h.serial

theorem HoldInv.notHeld {σ : StoreState Obj} (hi : HoldInv σ) (hlt : s < σ.store.slotCount) :
    (σ.store.objects s).referenceCount = 0 ↔ ∀ h ∈ σ.holds, h.slot ≠ s := by
  rw [hi.refs s hlt, List.countP_eq_zero]
  simp

theorem HoldInv.deletes {σ : StoreState Obj} (hi : HoldInv σ)
    (hdel : Deletes σ.store slot o store') (hlt : slot < σ.store.slotCount) :
    (∀ s < store'.slotCount, (store'.objects s).referenceCount = σ.holds.countP (·.slot == s)) ∧
    ∀ h ∈ σ.holds, h.slot < store'.slotCount ∧ (store'.objects h.slot).object = some h.object ∧
      (store'.objects h.slot).ownerUuid = h.callerUuid ∧ σ.occupant h.slot = h.serial := by
  rw [hdel.frame.slotCount, hdel.objects]
  constructor
  · intro s hs
    rw [Function.update_apply]
    split_ifs with he
    · rw [he, ← hi.refs slot hlt]
      exact hdel.unreferenced.symm
    · exact hi.refs s hs
  · intro h hh
    have hne := (hi.notHeld hlt).1 hdel.unreferenced h hh
    rw [Function.update_of_ne hne]
    exact hi.held h hh

/-- An add that the log does not show deleted still has its object in the slot it returned. -/
structure LogInv (σ : StoreState Obj) : Prop where
  bound : ∀ u slot o n, .added u slot o n ∈ σ.log → n < σ.serials
  live : ∀ u slot o n, .added u slot o n ∈ σ.log → .deleted n ∈ σ.log ∨
    (slot < σ.store.slotCount ∧ (σ.store.objects slot).object.isSome = true ∧
      σ.occupant slot = n)

theorem LogInv.deletes {σ : StoreState Obj} (hi : LogInv σ) (es : List (StoreEvent Obj))
    (hdel : Deletes σ.store slot o store') (hes : ∀ u s o n, .added u s o n ∉ es)
    (hmem : .deleted (σ.occupant slot) ∈ es) :
    (∀ u s o n, .added u s o n ∈ es ++ σ.log → n < σ.serials) ∧
    ∀ u s o n, .added u s o n ∈ es ++ σ.log → .deleted n ∈ es ++ σ.log ∨
      (s < store'.slotCount ∧ (store'.objects s).object.isSome = true ∧ σ.occupant s = n) := by
  constructor
  · intro u s o n h
    exact hi.bound u s o n ((List.mem_append.1 h).resolve_left (hes u s o n))
  · intro u s o n h
    rcases hi.live u s o n ((List.mem_append.1 h).resolve_left (hes u s o n)) with hd |
      ⟨hlt, hs, ho⟩
    · exact .inl (List.mem_append_right _ hd)
    · by_cases he : s = slot
      · subst he ho
        exact .inl (List.mem_append_left _ hmem)
      · refine .inr ⟨hdel.frame.slotCount ▸ hlt, ?_, ho⟩
        rw [hdel.objects, Function.update_of_ne he]
        exact hs

theorem LogInv.append {σ : StoreState Obj} (hi : LogInv σ) (es : List (StoreEvent Obj))
    (hes : ∀ u s o n, .added u s o n ∉ es) :
    LogInv (σ.record es) where
  bound u s o n h := hi.bound u s o n ((List.mem_append.1 h).resolve_left (hes u s o n))
  live u s o n h := (hi.live u s o n ((List.mem_append.1 h).resolve_left (hes u s o n))).imp_left
    (List.mem_append_right _)

theorem setCount_object (store : ObjectStore Obj) (slot n s : Nat) :
    (Function.update store.objects slot { store.objects slot with referenceCount := n } s).object =
      (store.objects s).object := by
  rw [Function.update_apply]
  split_ifs with he
  · rw [he]
  · rfl

/-- The acquires of the object now in a slot that have not been released. -/
def outstanding (σ : StoreState Obj) (slot : Nat) : Nat :=
  σ.holds.countP fun h => h.slot == slot && h.serial == σ.occupant slot

theorem HoldInv.outstanding {σ : StoreState Obj} (hi : HoldInv σ) (slot : Nat) :
    σ.outstanding slot = σ.holds.countP (·.slot == slot) := by
  apply List.countP_congr
  intro h hh
  have ho := (hi.held h hh).2.2.2
  by_cases he : h.slot = slot
  · subst he
    simp [ho]
  · simp [he]

/-- What the store keeps true of its slot map, table and reference counts. -/
structure StoreInv (σ : StoreState Obj) : Prop where
  table : TableInv σ
  hold : HoldInv σ
  log : LogInv σ

theorem StoreInv.init {store : ObjectStore Obj} (h : objectStoreInit count = some store) :
    StoreInv (StoreState.init store) := by
  obtain ⟨hb, hz, -, -, -⟩ := objectStoreInit_spec h
  refine ⟨⟨hb, by rintro _ _ _ ⟨⟩⟩, ⟨fun s _ => ?_, by simp [StoreState.init]⟩,
    ⟨by simp [StoreState.init], by simp [StoreState.init]⟩⟩
  simp [StoreState.init, hz, StoreObject.zero]

variable [DecidableEq Obj] {σ σ' : StoreState Obj} {a : Action Obj}

theorem TableInv.change (hi : TableInv σ) (h : Change σ a σ') : TableInv σ' := by
  cases h with
  | same => exact hi
  | added hd hsd hslot hfills =>
    exact ⟨hfills.bitsMatch hi.bits, by simpa only [hfills.frame.slotCount] using hi.polling⟩
  | acquired => exact ⟨hi.bits.setCount _ _, hi.polling⟩
  | released => exact ⟨hi.bits.setCount _ _, hi.polling⟩
  | removing hd hsd hpc hlt =>
    exact ⟨hi.bits, hi.setRemove _ _ (by rintro _ _ ⟨⟩; exact hlt)⟩
  | waits hd hpc =>
    exact ⟨hi.bits, hi.setRemove _ _ (by rintro _ _ ⟨⟩; exact hi.polling _ _ _ hpc)⟩
  | gaveUp => exact ⟨hi.bits, hi.setRemove _ _ (by rintro _ _ ⟨⟩)⟩
  | @deleted caller slot seen o store' hd hpc howner hdel =>
    refine ⟨hdel.bitsMatch (hi.polling _ _ _ hpc) hi.bits, fun c s seen' hc => ?_⟩
    simp only [record_store, setRemove_store, hdel.frame.slotCount]
    exact hi.setRemove caller (.counted .ok (some (o, σ.occupant slot))) (by rintro _ _ ⟨⟩) c s
      seen' hc
  | decremented => exact ⟨hi.bits, hi.setRemove _ _ (by rintro _ _ ⟨⟩)⟩
  | returned => exact ⟨hi.bits, hi.setRemove _ _ (by rintro _ _ ⟨⟩)⟩
  | freed => exact ⟨hi.bits, hi.setRemove _ _ (by rintro _ _ ⟨⟩)⟩
  | usedAfterDestroy => exact ⟨hi.bits, hi.setRemove _ _ (by rintro _ _ ⟨⟩)⟩
  | shutdown => exact ⟨hi.bits, hi.polling⟩
  | drained => exact ⟨hi.bits, hi.polling⟩
  | skipped => exact ⟨hi.bits, hi.polling⟩
  | discarded hpc hlt hdel =>
    exact ⟨hdel.bitsMatch hlt hi.bits, by
      simpa only [record_store, record_removes, hdel.frame.slotCount] using hi.polling⟩
  | shutdownFreed => exact ⟨hi.bits, hi.polling⟩
  | closed => exact ⟨hi.bits, hi.polling⟩

theorem Hold.isFor_iff {h : Hold Obj} : h.isFor slot object callerUuid = true ↔
    h.slot = slot ∧ h.object = object ∧ h.callerUuid = callerUuid := by
  simp [Hold.isFor]

theorem HoldInv.matched (hi : HoldInv σ) (hlt : slot < σ.store.slotCount)
    (hobject : (σ.store.objects slot).object = some object)
    (howner : (σ.store.objects slot).ownerUuid = callerUuid)
    (href : (σ.store.objects slot).referenceCount ≠ 0) :
    ∃ h ∈ σ.holds, h.isFor slot object callerUuid = true := by
  have hheld : ¬ ∀ h ∈ σ.holds, h.slot ≠ slot := fun hn => href ((hi.notHeld hlt).2 hn)
  push Not at hheld
  obtain ⟨h, hh, rfl⟩ := hheld
  obtain ⟨-, ho, hu, -⟩ := hi.held h hh
  refine ⟨h, hh, Hold.isFor_iff.2 ⟨rfl, ?_, hu.symm.trans howner⟩⟩
  exact Option.some.inj (ho.symm.trans hobject)

theorem HoldInv.change (ht : TableInv σ) (hi : HoldInv σ) (h : Change σ a σ') : HoldInv σ' := by
  cases h with
  | same => exact hi
  | @added caller object slot store' hd hsd hslot hfills =>
    have hempty := hfills.empty ht.bits
    have hne : ∀ h ∈ σ.holds, h.slot ≠ slot := by
      intro h hh he
      have hobject := (hi.held h hh).2.1
      rw [he, hempty] at hobject
      cases hobject
    constructor
    · intro s hs
      simp only [hfills.frame.slotCount] at hs
      simp only [hfills.objects, Function.update_apply]
      split_ifs with he
      · rw [he]
        exact hi.refs slot hfills.lt
      · exact hi.refs s hs
    · intro h hh
      simp only [hfills.frame.slotCount, hfills.objects, Function.update_of_ne (hne h hh)]
      exact hi.held h hh
  | @acquired caller slot object hd hsd hlt hobject howner =>
    constructor
    · intro s hs
      simp only [Function.update_apply, List.countP_cons]
      by_cases he : s = slot
      · simp [he, hi.refs slot hlt]
      · simp [he, Ne.symm he, hi.refs s hs]
    · intro h hh
      rcases List.mem_cons.1 hh with rfl | hh
      · simp [hlt, hobject, howner]
      · obtain ⟨h₁, h₂, h₃, h₄⟩ := hi.held h hh
        refine ⟨h₁, ?_, ?_, h₄⟩
        · simp only [Function.update_apply]
          split_ifs with he
          · exact he ▸ h₂
          · exact h₂
        · simp only [Function.update_apply]
          split_ifs with he
          · exact he ▸ h₃
          · exact h₃
  | @released caller slot object hd hlt hobject howner href =>
    have hm := hi.matched hlt hobject howner href
    constructor
    · intro s hs
      simp only [Function.update_apply]
      by_cases he : s = slot
      · have hc := countP_eraseP (p := Hold.isFor slot object caller.uuid)
          (q := fun h => h.slot == slot) (fun h hf => by simp [(Hold.isFor_iff.1 hf).1]) hm
        have hr := hi.refs slot hlt
        subst he
        simp only [if_true]
        omega
      · have hc := countP_eraseP_of_disjoint (p := Hold.isFor slot object caller.uuid)
          (q := fun h => h.slot == s) (l := σ.holds)
          (fun h hf => by simp [(Hold.isFor_iff.1 hf).1, Ne.symm he])
        simp only [he, if_false]
        rw [hc]
        exact hi.refs s hs
    · intro h hh
      obtain ⟨h₁, h₂, h₃, h₄⟩ := hi.held h (List.mem_of_mem_eraseP hh)
      refine ⟨h₁, ?_, ?_, h₄⟩
      · simp only [Function.update_apply]
        split_ifs with he
        · exact he ▸ h₂
        · exact h₂
      · simp only [Function.update_apply]
        split_ifs with he
        · exact he ▸ h₃
        · exact h₃
  | removing => exact ⟨hi.refs, hi.held⟩
  | waits => exact ⟨hi.refs, hi.held⟩
  | gaveUp => exact ⟨hi.refs, hi.held⟩
  | deleted hd hpc howner hdel =>
    obtain ⟨hr, hh⟩ := hi.deletes hdel (ht.polling _ _ _ hpc)
    exact ⟨hr, hh⟩
  | decremented => exact ⟨hi.refs, hi.held⟩
  | returned => exact ⟨hi.refs, hi.held⟩
  | freed => exact ⟨hi.refs, hi.held⟩
  | usedAfterDestroy => exact ⟨hi.refs, hi.held⟩
  | shutdown => exact ⟨hi.refs, hi.held⟩
  | drained => exact ⟨hi.refs, hi.held⟩
  | skipped => exact ⟨hi.refs, hi.held⟩
  | discarded hpc hlt hdel =>
    obtain ⟨hr, hh⟩ := hi.deletes hdel hlt
    exact ⟨hr, hh⟩
  | shutdownFreed => exact ⟨hi.refs, hi.held⟩
  | closed => exact ⟨hi.refs, hi.held⟩

theorem LogInv.change (ht : TableInv σ) (hi : LogInv σ) (h : Change σ a σ') : LogInv σ' := by
  cases h with
  | same => exact hi
  | @added caller object slot store' hd hsd hslot hfills =>
    have hempty := hfills.empty ht.bits
    constructor
    · intro u s o n h
      rcases List.mem_cons.1 h with h | h
      · cases h
        exact Nat.lt_succ_self _
      · exact Nat.lt_succ_of_lt (hi.bound u s o n h)
    · intro u s o n h
      simp only [hfills.frame.slotCount, hfills.objects, Function.update_apply]
      rcases List.mem_cons.1 h with h | h
      · cases h
        exact .inr ⟨hfills.lt, by simp, by simp⟩
      · rcases hi.live u s o n h with hdel | ⟨hlt, hs, ho⟩
        · exact .inl (List.mem_cons_of_mem _ hdel)
        · have he : s ≠ slot := by
            rintro rfl
            simp [hempty] at hs
          simp only [he, if_false]
          exact .inr ⟨hlt, hs, ho⟩
  | acquired =>
    refine ⟨hi.bound, fun u s o n h => ?_⟩
    simp only [setCount_object]
    exact hi.live u s o n h
  | released =>
    refine ⟨hi.bound, fun u s o n h => ?_⟩
    simp only [setCount_object]
    exact hi.live u s o n h
  | removing => exact ⟨hi.bound, hi.live⟩
  | waits => exact ⟨hi.bound, hi.live⟩
  | gaveUp => exact ⟨hi.bound, hi.live⟩
  | @deleted caller slot seen o store' hd hpc howner hdel =>
    obtain ⟨hb, hl⟩ := hi.deletes [.removed caller (seen.getD (σ.occupant slot))
      (σ.occupant slot), .deleted (σ.occupant slot)] hdel (by simp) (by simp)
    exact ⟨hb, hl⟩
  | decremented => exact ⟨hi.bound, hi.live⟩
  | returned => exact ⟨hi.bound, hi.live⟩
  | @freed caller status object serial =>
    have hr := hi.append [.objectFree object serial] (by simp)
    exact ⟨hr.bound, hr.live⟩
  | @usedAfterDestroy a caller o =>
    have hr := hi.append [.useAfterDestroy caller o] (by simp)
    exact ⟨hr.bound, hr.live⟩
  | shutdown => exact ⟨hi.bound, hi.live⟩
  | drained => exact ⟨hi.bound, hi.live⟩
  | skipped => exact ⟨hi.bound, hi.live⟩
  | @discarded i o store' hpc hlt hdel =>
    obtain ⟨hb, hl⟩ := hi.deletes [.deleted (σ.occupant i)] hdel (by simp) (by simp)
    exact ⟨hb, hl⟩
  | @shutdownFreed i object serial =>
    have hr := hi.append [.objectFree object serial] (by simp)
    exact ⟨hr.bound, hr.live⟩
  | closed => exact ⟨hi.bound, hi.live⟩

theorem StoreInv.change (hi : StoreInv σ) (h : Change σ a σ') : StoreInv σ' :=
  ⟨hi.table.change h, hi.hold.change hi.table h, hi.log.change hi.table h⟩

theorem StoreInv.exec {as : List (Action Obj)} (hi : StoreInv σ)
    (h : Transition.exec StoreState.next σ as = some σ') : StoreInv σ' :=
  exec_invariant_of_step (fun _ _ _ hI hs => hI.change (next_change hs)) hi h

/-- In every run the slot map and the table agree, reference counts are the outstanding acquires,
and live objects are in different slots. -/
theorem object_store_invariant {count : UInt64} {store : ObjectStore Obj}
    {as : List (Action Obj)} (h₀ : objectStoreInit count = some store)
    (h : Transition.exec StoreState.next (init store) as = some σ) :
    (∀ s < σ.store.slotCount,
      (σ.store.slots.isAllocated s = true ↔ (σ.store.objects s).object ≠ none) ∧
      (σ.store.objects s).referenceCount = σ.outstanding s ∧
      ((σ.store.objects s).object = none → (σ.store.objects s).referenceCount = 0)) ∧
    ∀ u u' s s' o o' n n', .added u s o n ∈ σ.log → .added u' s' o' n' ∈ σ.log → n ≠ n' →
      .deleted n ∉ σ.log → .deleted n' ∉ σ.log → s ≠ s' := by
  have hi := (StoreInv.init h₀).exec h
  constructor
  · intro s hs
    refine ⟨?_, ?_, fun hnone => ?_⟩
    · rw [hi.table.bits s hs, Option.isSome_iff_ne_none]
    · rw [hi.hold.refs s hs, hi.hold.outstanding]
    · rw [hi.hold.notHeld hs]
      rintro h hh rfl
      have ho := (hi.hold.held h hh).2.1
      rw [hnone] at ho
      cases ho
  · rintro u u' s s' o o' n n' ha ha' hne hd hd' rfl
    have h₁ := (hi.log.live u s o n ha).resolve_left hd
    have h₂ := (hi.log.live u' s o' n' ha').resolve_left hd'
    exact hne (h₁.2.2.symm.trans h₂.2.2)

/-- One slot taken twice: a remove that waits for a reference, and an add after it. -/
theorem object_store_invariant_reused :
    ∃ σ : StoreState Nat, Transition.exec StoreState.next
        (init ((objectStoreInit 32).get objectStoreInit_isSome))
        [.add ⟨.ofByte 1, 0⟩ (some 7), .acquire ⟨.ofByte 1, 0⟩ 31, .remove ⟨.ofByte 1, 1⟩ 31,
          .poll ⟨.ofByte 1, 1⟩, .release ⟨.ofByte 1, 0⟩ 31 7, .poll ⟨.ofByte 1, 1⟩,
          .add ⟨.ofByte 2, 0⟩ (some 8), .acquire ⟨.ofByte 2, 0⟩ 31] = some σ ∧
      (σ.store.objects 31).object = some 8 ∧ (σ.store.objects 31).referenceCount = 1 ∧
      ((∀ s < σ.store.slotCount,
        (σ.store.slots.isAllocated s = true ↔ (σ.store.objects s).object ≠ none) ∧
        (σ.store.objects s).referenceCount = σ.outstanding s ∧
        ((σ.store.objects s).object = none → (σ.store.objects s).referenceCount = 0)) ∧
      ∀ u u' s s' o o' n n', .added u s o n ∈ σ.log → .added u' s' o' n' ∈ σ.log → n ≠ n' →
        .deleted n ∉ σ.log → .deleted n' ∉ σ.log → s ≠ s') :=
  ⟨_, (Option.some_get (by decide +kernel)).symm, by decide +kernel, by decide +kernel,
    object_store_invariant (Option.some_get (by decide +kernel)).symm
      (Option.some_get (by decide +kernel)).symm⟩

end StoreState

end TaSecureApi
