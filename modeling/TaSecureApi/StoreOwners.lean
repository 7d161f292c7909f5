import TaSecureApi.StoreLedger

namespace TaSecureApi
set_option autoImplicit true
open Transition

variable {Obj : Type}

namespace StoreState

/-- The object of add `n` was added with the UUID. -/
def addedBy (σ : StoreState Obj) (uuid : SaUuid) (n : Nat) : Prop :=
  ∃ slot object, .added uuid slot object n ∈ σ.log

/-- The table has the UUID of the add with every object, and what a remove took out of the table
was added with the UUID of the remove. -/
structure OwnerInv (σ : StoreState Obj) : Prop where
  table : ∀ s < σ.store.slotCount, (σ.store.objects s).object ≠ none →
    ∀ u, σ.addedBy u (σ.occupant s) → u = (σ.store.objects s).ownerUuid
  remover : ∀ c o n, (σ.removes c).objectToFree = some (o, n) → ∀ u, σ.addedBy u n → u = c.uuid

theorem OwnerInv.init {store : ObjectStore Obj} : OwnerInv (StoreState.init store) where
  table := by simp [addedBy, StoreState.init]
  remover := by simp [addedBy, StoreState.init]

theorem LedgerInv.lt_serials {σ : StoreState Obj} (hl : LogInv σ) (hi : LedgerInv σ)
    (hp : σ.inPlace p e) : e.2 < σ.serials := by
  obtain ⟨u, s, h⟩ := hi.exact.issued p e hp
  exact hl.bound u s _ _ h

theorem OwnerInv.setRemove {σ : StoreState Obj} (hi : OwnerInv σ) (caller : Caller)
    {pc : RemovePc Obj} (hpc : ∀ o n, pc.objectToFree = some (o, n) → ∀ u, σ.addedBy u n →
      u = caller.uuid) : OwnerInv (σ.setRemove caller pc) where
  table := hi.table
  remover c o n h := by
    simp only [setRemove_removes, Function.update_apply] at h
    split_ifs at h with he
    · exact he ▸ hpc o n h
    · exact hi.remover c o n h

theorem addedBy_append {σ : StoreState Obj} {es : List (StoreEvent Obj)}
    (hes : ∀ u s o n, .added u s o n ∉ es) (u : SaUuid) (n : Nat) :
    (σ.record es).addedBy u n ↔ σ.addedBy u n := by
  simp [addedBy, hes]

theorem OwnerInv.append {σ : StoreState Obj} (hi : OwnerInv σ) (es : List (StoreEvent Obj))
    (hes : ∀ u s o n, .added u s o n ∉ es) : OwnerInv (σ.record es) where
  table s hs hobject u h := hi.table s hs hobject u ((addedBy_append hes u _).1 h)
  remover c o n h u hu := hi.remover c o n h u ((addedBy_append hes u n).1 hu)

theorem OwnerInv.deletes {σ : StoreState Obj} (hi : OwnerInv σ)
    (hdel : Deletes σ.store slot o store') : OwnerInv { σ with store := store' } where
  table s hs := by
    simp only [hdel.frame.slotCount] at hs
    simp only [hdel.objects, Function.update_apply]
    split_ifs with he
    · simp
    · exact hi.table s hs
  remover := hi.remover

theorem OwnerInv.setCount {σ : StoreState Obj} (hi : OwnerInv σ) (slot n : Nat)
    (holds : List (Hold Obj)) : OwnerInv { σ with
      store := { σ.store with
        objects := Function.update σ.store.objects slot
          { σ.store.objects slot with referenceCount := n } }
      holds := holds } where
  table s hs := by
    simp only [Function.update_apply]
    split_ifs with he
    · exact he ▸ hi.table s hs
    · exact hi.table s hs
  remover := hi.remover

theorem OwnerInv.setReleaseCount {σ : StoreState Obj} (hi : OwnerInv σ) (n : Nat) :
    OwnerInv { σ with store := { σ.store with releaseCount := n } } := ⟨hi.table, hi.remover⟩

theorem OwnerInv.added {σ : StoreState Obj} (hl : LogInv σ) (hg : LedgerInv σ) (hi : OwnerInv σ)
    (hfills : Fills σ.store slot object owner store') :
    OwnerInv { σ with
      store := store'
      serials := σ.serials + 1
      occupant := Function.update σ.occupant slot σ.serials
      log := .added owner slot object σ.serials :: σ.log } where
  table s hs := by
    simp only [hfills.frame.slotCount] at hs
    simp only [hfills.objects, Function.update_apply]
    split_ifs with he
    · rintro - u ⟨s', o, h⟩
      rcases List.mem_cons.1 h with h | h
      · cases h
        rfl
      · exact absurd (hl.bound u s' o _ h) (Nat.lt_irrefl _)
    · rintro hobject u ⟨s', o, h⟩
      rcases List.mem_cons.1 h with h | h
      · obtain ⟨o', ho⟩ := Option.ne_none_iff_exists'.1 hobject
        have hlt := hg.lt_serials hl (p := .table s) (e := (o', σ.occupant s)) ⟨hs, ho, rfl⟩
        simp only [StoreEvent.added.injEq] at h
        exact absurd h.2.2.2 hlt.ne
      · exact hi.table s hs hobject u ⟨s', o, h⟩
  remover c o n hc u hu := by
    obtain ⟨s', o', h⟩ := hu
    rcases List.mem_cons.1 h with h | h
    · have hlt := hg.lt_serials hl (p := .remover c) (e := (o, n)) hc
      simp only [StoreEvent.added.injEq] at h
      exact absurd h.2.2.2 hlt.ne
    · exact hi.remover c o n hc u ⟨s', o', h⟩

variable [DecidableEq Obj] {σ σ' : StoreState Obj} {a : Action Obj}

theorem OwnerInv.change (hs : StoreInv σ) (hg : LedgerInv σ) (hi : OwnerInv σ)
    (h : Change σ a σ') : OwnerInv σ' := by
  cases h with
  | same => exact hi
  | added hd hsd hslot hfills => exact hi.added hs.log hg hfills
  | acquired => exact hi.setCount _ _ _
  | released => exact hi.setCount _ _ _
  | removing => exact (hi.setReleaseCount _).setRemove _ (by rintro _ _ ⟨⟩)
  | waits => exact hi.setRemove _ (by rintro _ _ ⟨⟩)
  | gaveUp => exact hi.setRemove _ (by rintro _ _ ⟨⟩)
  | @deleted caller slot seen object store' hd hpc howner hdel =>
    refine ((hi.deletes hdel).setRemove caller ?_).append _ (by simp)
    rintro _ _ ⟨⟩ u hu
    exact (hi.table slot (hs.table.polling _ _ _ hpc) (by simp [hdel.object]) u hu).trans howner
  | decremented hd hpc =>
    refine (hi.setReleaseCount _).setRemove _ fun o n ho => ?_
    exact hi.remover _ o n (by rw [hpc]; exact ho)
  | returned => exact hi.setRemove _ (by rintro _ _ ⟨⟩)
  | freed => exact (hi.setRemove _ (by rintro _ _ ⟨⟩)).append _ (by simp)
  | usedAfterDestroy => exact (hi.setRemove _ (by rintro _ _ ⟨⟩)).append _ (by simp)
  | shutdown => exact ⟨hi.table, hi.remover⟩
  | drained => exact ⟨hi.table, hi.remover⟩
  | skipped => exact ⟨hi.table, hi.remover⟩
  | @discarded i object store' hpc hlt hdel =>
    have hr := (hi.deletes hdel).append [.deleted (σ.occupant i)] (by simp)
    exact ⟨hr.table, hr.remover⟩
  | @shutdownFreed i object serial =>
    have hr := hi.append [.objectFree object serial] (by simp)
    exact ⟨hr.table, hr.remover⟩
  | closed => exact ⟨hi.table, hi.remover⟩

/-- A section of a call with one UUID leaves the objects added with another as they are. -/
theorem Change.foreign_table (hi : OwnerInv σ) (hs : StoreInv σ) (h : Change σ a σ')
    (ha : a.caller = some c) (hlt : s < σ.store.slotCount)
    (hobject : (σ.store.objects s).object ≠ none) (hu : σ.addedBy u (σ.occupant s))
    (hne : c.uuid ≠ u) :
    σ'.store.objects s = σ.store.objects s ∧ σ'.occupant s = σ.occupant s := by
  have howner := hi.table s hlt hobject u hu
  cases h with
  | @added caller object slot store' hd hsd hslot hfills =>
    have he : s ≠ slot := by
      rintro rfl
      exact hobject (hfills.empty hs.table.bits)
    simp [hfills.objects, he]
  | @acquired caller slot object hd hsd hlt' hobject' howner' =>
    cases ha
    have he : s ≠ slot := by
      rintro rfl
      exact hne (howner'.symm.trans howner.symm)
    simp [he]
  | @released caller slot object hd hlt' hobject' howner' =>
    cases ha
    have he : s ≠ slot := by
      rintro rfl
      exact hne (howner'.symm.trans howner.symm)
    simp [he]
  | @deleted caller slot seen object store' hd hpc howner' hdel =>
    cases ha
    have he : s ≠ slot := by
      rintro rfl
      exact hne (howner'.symm.trans howner.symm)
    simp [hdel.objects, he]
  | discarded => cases ha
  | _ => exact ⟨rfl, rfl⟩

/-- A call with one UUID passes no object added with another to `object_free`. -/
theorem Change.foreign_freed (hi : OwnerInv σ) (h : Change σ a σ') (ha : a.caller = some c)
    (hfree : .objectFree o n ∈ σ'.log) (hnew : .objectFree o n ∉ σ.log) (hne : c.uuid ≠ u) :
    ¬ σ.addedBy u n := by
  intro hu
  cases h with
  | @freed caller status object serial hd hpc =>
    cases ha
    rcases List.mem_cons.1 hfree with hfree | hfree
    · cases hfree
      exact hne (hi.remover _ _ _ (by rw [hpc]; rfl) u hu).symm
    · exact hnew hfree
  | added | deleted | usedAfterDestroy | discarded =>
    simp only [record_log, List.cons_append, List.nil_append, List.mem_cons, reduceCtorEq,
      false_or] at hfree
    exact hnew hfree
  | shutdownFreed => cases ha
  | _ => exact hnew hfree

end StoreState

end TaSecureApi
