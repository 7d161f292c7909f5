import TaSecureApi.StoreInvariant

namespace TaSecureApi
set_option autoImplicit true
open Transition

variable {Obj : Type}

namespace StoreState

/-- The condition under which a slot is not filled again behind a waiting remove: an add does not
get a slot where a remove with the UUID of the add waits for an earlier object. -/
def NoRefill (σ : StoreState Obj) : Action Obj → Prop
  | .add caller _ => ∀ c slot n, σ.removes c = .polling slot (some n) → c.uuid = caller.uuid →
      (slotsAllocate σ.store.slots).1 ≠ slot
  | _ => True

/-- A waiting remove that may delete what is in its slot waits for that object, and every object
that a remove took was the one it first saw. -/
structure SeenInv (σ : StoreState Obj) : Prop where
  seen : ∀ c slot n, σ.removes c = .polling slot (some n) →
    (σ.store.objects slot).object ≠ none → (σ.store.objects slot).ownerUuid = c.uuid →
    σ.occupant slot = n
  log : ∀ c n m, .removed c n m ∈ σ.log → n = m

theorem SeenInv.init {store : ObjectStore Obj} : SeenInv (StoreState.init store) :=
  ⟨by rintro _ _ _ ⟨⟩, by simp [StoreState.init]⟩

theorem SeenInv.setRemove {σ : StoreState Obj} (hi : SeenInv σ) (caller : Caller)
    {pc : RemovePc Obj} (hpc : ∀ slot n, pc = .polling slot (some n) →
      (σ.store.objects slot).object ≠ none → (σ.store.objects slot).ownerUuid = caller.uuid →
      σ.occupant slot = n) : SeenInv (σ.setRemove caller pc) where
  seen c slot n h := by
    simp only [setRemove_removes, Function.update_apply] at h
    split_ifs at h with he
    · exact he ▸ hpc slot n h
    · exact hi.seen c slot n h
  log := hi.log

theorem SeenInv.deletes {σ : StoreState Obj} (hi : SeenInv σ)
    (hdel : Deletes σ.store slot o store') : SeenInv { σ with store := store' } where
  seen c s n h := by
    simp only [hdel.objects, Function.update_apply]
    split_ifs
    · simp
    · exact hi.seen c s n h
  log := hi.log

theorem SeenInv.append {σ : StoreState Obj} (hi : SeenInv σ) (es : List (StoreEvent Obj))
    (hes : ∀ c n m, .removed c n m ∈ es → n = m) : SeenInv (σ.record es) where
  seen := hi.seen
  log c n m h := (List.mem_append.1 h).elim (hes c n m) (hi.log c n m)

theorem SeenInv.setCount {σ : StoreState Obj} (hi : SeenInv σ) (slot n : Nat)
    (holds : List (Hold Obj)) : SeenInv { σ with
      store := { σ.store with
        objects := Function.update σ.store.objects slot
          { σ.store.objects slot with referenceCount := n } }
      holds := holds } where
  seen c s m h := by
    simp only [Function.update_apply]
    split_ifs with he
    · exact he ▸ hi.seen c s m h
    · exact hi.seen c s m h
  log := hi.log

theorem SeenInv.setReleaseCount {σ : StoreState Obj} (hi : SeenInv σ) (n : Nat) :
    SeenInv { σ with store := { σ.store with releaseCount := n } } := ⟨hi.seen, hi.log⟩

variable [DecidableEq Obj] {σ σ' : StoreState Obj} {a : Action Obj}

theorem SeenInv.change (hi : SeenInv σ) (hc : NoRefill σ a) (h : Change σ a σ') :
    SeenInv σ' := by
  cases h with
  | same => exact hi
  | @added caller object slot store' hd hsd hslot hfills =>
    refine ⟨fun c s n h => ?_, by simpa using hi.log⟩
    have hne : c.uuid = caller.uuid → slot ≠ s := fun hu => hslot ▸ hc c s n h hu
    simp only [hfills.objects, Function.update_apply]
    by_cases he : s = slot
    · simp only [he, if_true]
      exact fun _ hu => absurd he.symm (hne hu.symm)
    · simp only [he, if_false]
      exact hi.seen c s n h
  | acquired => exact hi.setCount _ _ _
  | released => exact hi.setCount _ _ _
  | removing => exact (hi.setReleaseCount _).setRemove _ (by rintro _ _ ⟨⟩)
  | @waits caller slot seen object hd hpc hobject howner href =>
    refine hi.setRemove _ fun s n hs hsome hu => ?_
    cases hs
    cases seen with
    | none => rfl
    | some n => exact hi.seen _ _ _ hpc hsome hu
  | gaveUp => exact hi.setRemove _ (by rintro _ _ ⟨⟩)
  | @deleted caller slot seen object store' hd hpc howner hdel =>
    have hs : seen.getD (σ.occupant slot) = σ.occupant slot := by
      cases seen with
      | none => rfl
      | some n =>
        exact (hi.seen _ _ _ hpc (by simp [hdel.object]) howner).symm
    refine ((hi.deletes hdel).setRemove caller ?_).append _ ?_
    · rintro _ _ ⟨⟩
    · rw [hs]
      simp only [List.mem_cons, StoreEvent.removed.injEq, reduceCtorEq, List.not_mem_nil, or_false]
      rintro c n m ⟨-, rfl, rfl⟩
      rfl
  | decremented => exact (hi.setReleaseCount _).setRemove _ (by rintro _ _ ⟨⟩)
  | returned => exact hi.setRemove _ (by rintro _ _ ⟨⟩)
  | freed => exact (hi.setRemove _ (by rintro _ _ ⟨⟩)).append _ (by simp)
  | usedAfterDestroy => exact (hi.setRemove _ (by rintro _ _ ⟨⟩)).append _ (by simp)
  | shutdown => exact ⟨hi.seen, hi.log⟩
  | drained => exact ⟨hi.seen, hi.log⟩
  | skipped => exact ⟨hi.seen, hi.log⟩
  | @discarded i object store' hpc hlt hdel =>
    have hr := (hi.deletes hdel).append [.deleted (σ.occupant i)] (by simp)
    exact ⟨hr.seen, hr.log⟩
  | shutdownFreed => exact ⟨hi.seen, by simpa using hi.log⟩
  | closed => exact ⟨hi.seen, hi.log⟩

/-- Where no slot is filled again behind a waiting remove of the same UUID, a remove only deletes
the object that it first saw in the slot. -/
theorem removed_is_seen {store : ObjectStore Obj} {as : List (Action Obj)}
    (hm : Meets StoreState.next NoRefill (StoreState.init store) as)
    (h : Transition.exec StoreState.next (StoreState.init store) as = some σ) :
    ∀ caller seen serial, .removed caller seen serial ∈ σ.log → seen = serial :=
  (exec_invariant (fun _ _ _ hI hC hn => SeenInv.change hI hC (next_change hn))
    SeenInv.init hm h).log

/-- Two removes wait for one object; the second finds the slot empty, as nothing came after. -/
theorem removed_is_seen_twice :
    ∃ σ : StoreState Nat, Transition.exec StoreState.next
        (StoreState.init ((objectStoreInit 32).get objectStoreInit_isSome))
        [.add ⟨.ofByte 1, 0⟩ (some 7), .acquire ⟨.ofByte 1, 0⟩ 31, .remove ⟨.ofByte 1, 1⟩ 31,
          .poll ⟨.ofByte 1, 1⟩, .remove ⟨.ofByte 1, 2⟩ 31, .poll ⟨.ofByte 1, 2⟩,
          .release ⟨.ofByte 1, 0⟩ 31 7, .poll ⟨.ofByte 1, 1⟩, .poll ⟨.ofByte 1, 2⟩] =
        some σ ∧
      .removed ⟨.ofByte 1, 1⟩ 0 0 ∈ σ.log ∧
      ∀ caller seen serial, .removed caller seen serial ∈ σ.log → seen = serial :=
  ⟨_, (Option.some_get (by decide +kernel)).symm, by decide +kernel,
    removed_is_seen (Meets.append
      (show Meets _ _ _ [_] from ⟨by rintro _ _ _ ⟨⟩, fun _ _ => trivial⟩)
      fun _ _ => .of_labels (by simp [NoRefill])) (Option.some_get (by decide +kernel)).symm⟩

/-- The second remove waits for object 7 and deletes object 8, which came into the slot after the
first remove had deleted 7. -/
theorem removed_not_seen :
    ∃ σ : StoreState Nat, Transition.exec StoreState.next
        (StoreState.init ((objectStoreInit 32).get objectStoreInit_isSome))
        [.add ⟨.ofByte 1, 0⟩ (some 7), .acquire ⟨.ofByte 1, 0⟩ 31, .remove ⟨.ofByte 1, 1⟩ 31,
          .poll ⟨.ofByte 1, 1⟩, .remove ⟨.ofByte 1, 2⟩ 31, .poll ⟨.ofByte 1, 2⟩,
          .release ⟨.ofByte 1, 0⟩ 31 7, .poll ⟨.ofByte 1, 1⟩, .add ⟨.ofByte 1, 0⟩ (some 8),
          .poll ⟨.ofByte 1, 2⟩, .decrement ⟨.ofByte 1, 2⟩, .finish ⟨.ofByte 1, 2⟩] = some σ ∧
      .removed ⟨.ofByte 1, 2⟩ 0 1 ∈ σ.log ∧ .objectFree 8 1 ∈ σ.log :=
  ⟨_, (Option.some_get (by decide +kernel)).symm, by decide +kernel, by decide +kernel⟩

end StoreState

end TaSecureApi
