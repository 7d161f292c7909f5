import Mathlib.Data.Finset.Card
import TaSecureApi.StoreInvariant

namespace TaSecureApi
set_option autoImplicit true
open Transition

variable {Obj : Type}

/-- Whether `release_count` counts the call. -/
def RemovePc.isCounted : RemovePc Obj → Bool
  | .polling .. | .counted .. => true
  | _ => false

/-- Whether shutdown has seen `release_count` at zero. -/
def ShutdownPc.hasDrained : ShutdownPc Obj → Bool
  | .idle | .draining => false
  | _ => true

def ShutdownPc.emptied (slotCount : Nat) : ShutdownPc Obj → Nat
  | .idle | .draining => 0
  | .removing i => i
  | .freeing i _ => i + 1
  | .done => slotCount

def ShutdownPc.objectToFree : ShutdownPc Obj → Option (Obj × Nat)
  | .freeing _ objectToFree => some objectToFree
  | _ => none

/-- Exactly `n` calls are counted. -/
def Counts (removes : Caller → RemovePc Obj) (n : Nat) : Prop :=
  ∃ callers : Finset Caller, (∀ c, c ∈ callers ↔ (removes c).isCounted = true) ∧ callers.card = n

section Counting

variable {removes : Caller → RemovePc Obj} {caller : Caller} {pc : RemovePc Obj} {n : Nat}

theorem Counts.idle : Counts (fun _ => (.idle : RemovePc Obj)) 0 :=
  ⟨∅, by simp [RemovePc.isCounted], rfl⟩

theorem Counts.eq_zero (h : Counts removes 0) (c : Caller) : (removes c).isCounted = false := by
  obtain ⟨callers, hmem, hcard⟩ := h
  rw [← Bool.not_eq_true, ← hmem, Finset.card_eq_zero.1 hcard]
  simp

theorem Counts.stay (h : Counts removes n) (hpc : pc.isCounted = (removes caller).isCounted) :
    Counts (Function.update removes caller pc) n := by
  obtain ⟨callers, hmem, hcard⟩ := h
  refine ⟨callers, fun c => ?_, hcard⟩
  rw [hmem, Function.update_apply]
  split_ifs with he
  · rw [hpc, he]
  · rfl

theorem Counts.enter (h : Counts removes n) (hout : (removes caller).isCounted = false)
    (hpc : pc.isCounted = true) : Counts (Function.update removes caller pc) (n + 1) := by
  obtain ⟨callers, hmem, rfl⟩ := h
  have hnot : caller ∉ callers := by simp [hmem, hout]
  refine ⟨insert caller callers, fun c => ?_, Finset.card_insert_of_notMem hnot⟩
  rw [Finset.mem_insert, hmem, Function.update_apply]
  by_cases he : c = caller
  · simp [he, hpc]
  · simp [he]

theorem Counts.leave (h : Counts removes n) (hin : (removes caller).isCounted = true)
    (hpc : pc.isCounted = false) : Counts (Function.update removes caller pc) (n - 1) := by
  obtain ⟨callers, hmem, rfl⟩ := h
  refine ⟨callers.erase caller, fun c => ?_, Finset.card_erase_of_mem ((hmem _).2 hin)⟩
  rw [Finset.mem_erase, hmem, Function.update_apply]
  by_cases he : c = caller
  · simp [he, hpc]
  · simp [he]

end Counting

namespace StoreState

/-- What shutdown relies on: the release count counts the running removes, and adds and removes
stop coming once the store is shutting down. -/
structure ShutdownInv (σ : StoreState Obj) : Prop where
  counts : Counts σ.removes σ.store.releaseCount
  shuttingDown : σ.shutdown ≠ .idle → σ.store.isShuttingDown = true
  drained : σ.shutdown.hasDrained = true → σ.store.releaseCount = 0
  destroyed : σ.destroyed = true → σ.shutdown = .done
  emptied : ∀ s < σ.store.slotCount, s < σ.shutdown.emptied σ.store.slotCount →
    (σ.store.objects s).object = none

theorem ShutdownInv.idle {σ : StoreState Obj} (hi : ShutdownInv σ)
    (h : σ.store.isShuttingDown = false) : σ.shutdown = .idle := by
  by_contra hne
  simp [hi.shuttingDown hne] at h

theorem ShutdownInv.not_counted {σ : StoreState Obj} (hi : ShutdownInv σ)
    (hd : σ.destroyed = true) (c : Caller) : (σ.removes c).isCounted = false := by
  have hzero : σ.store.releaseCount = 0 := hi.drained (by rw [hi.destroyed hd]; rfl)
  exact (hzero ▸ hi.counts).eq_zero c

theorem ShutdownInv.init {store : ObjectStore Obj} (h : objectStoreInit count = some store) :
    ShutdownInv (StoreState.init store) := by
  obtain ⟨-, hz, -, -, hr⟩ := objectStoreInit_spec h
  refine ⟨?_, by simp [StoreState.init], by simp [StoreState.init, ShutdownPc.hasDrained],
    by simp [StoreState.init], ?_⟩
  · simp only [StoreState.init, hr]
    exact .idle
  · intro s _ _
    simp [StoreState.init, hz, StoreObject.zero]

/-- The condition under which shutdown waits for every remove: when it frees the store, no remove
still has to read `object_free`. -/
def NoLateFree (σ : StoreState Obj) : Action Obj → Prop
  | .shutdownClose => ∀ caller status o, σ.removes caller ≠ .freeing status (some o)
  | _ => True

/-- No remove has used the freed store, and none will. -/
structure NoUse (σ : StoreState Obj) : Prop where
  quiet : σ.destroyed = true → ∀ c, (σ.removes c).usesStore = false
  log : ∀ c o, .useAfterDestroy c o ∉ σ.log

theorem NoUse.init {store : ObjectStore Obj} : NoUse (StoreState.init store) :=
  ⟨fun _ _ => rfl, by simp [StoreState.init]⟩

theorem NoUse.setRemove {σ : StoreState Obj} (hi : NoUse σ) (caller : Caller) {pc : RemovePc Obj}
    (hpc : σ.destroyed = true → pc.usesStore = false) :
    σ.destroyed = true → ∀ c, ((σ.setRemove caller pc).removes c).usesStore = false := by
  intro hd c
  simp only [setRemove_removes, Function.update_apply]
  split_ifs
  · exact hpc hd
  · exact hi.quiet hd c

theorem usesStore_cases {pc : RemovePc Obj} (h : pc.usesStore = true) :
    pc.isCounted = true ∨ ∃ status o, pc = .freeing status (some o) := by
  cases pc with
  | idle => cases h
  | polling => exact .inl rfl
  | counted => exact .inl rfl
  | freeing status o =>
    cases o with
    | none => cases h
    | some o => exact .inr ⟨status, o, rfl⟩

variable [DecidableEq Obj] {σ σ' : StoreState Obj} {a : Action Obj}

theorem ShutdownInv.change (hi : ShutdownInv σ) (h : Change σ a σ') : ShutdownInv σ' := by
  cases h with
  | same => exact hi
  | added hd hsd hslot hfills =>
    have hidle := hi.idle hsd
    refine ⟨?_, fun hne => (hne hidle).elim, fun hdr => ?_, hi.destroyed, fun s _ hs => ?_⟩
    · simpa only [hfills.frame.releaseCount] using hi.counts
    · simp [hidle, ShutdownPc.hasDrained] at hdr
    · simp [hidle, ShutdownPc.emptied] at hs
  | acquired =>
    refine ⟨hi.counts, hi.shuttingDown, hi.drained, hi.destroyed, fun s hlt hs => ?_⟩
    simpa only [setCount_object] using hi.emptied s hlt hs
  | released =>
    refine ⟨hi.counts, hi.shuttingDown, hi.drained, hi.destroyed, fun s hlt hs => ?_⟩
    simpa only [setCount_object] using hi.emptied s hlt hs
  | removing hd hsd hpc hlt =>
    have hidle := hi.idle hsd
    refine ⟨hi.counts.enter (by rw [hpc]; rfl) rfl, hi.shuttingDown, fun hdr => ?_,
      hi.destroyed, hi.emptied⟩
    simp [hidle, ShutdownPc.hasDrained] at hdr
  | waits hd hpc =>
    exact ⟨hi.counts.stay (by rw [hpc]; rfl), hi.shuttingDown, hi.drained, hi.destroyed,
      hi.emptied⟩
  | gaveUp hd hpc =>
    exact ⟨hi.counts.stay (by rw [hpc]; rfl), hi.shuttingDown, hi.drained, hi.destroyed,
      hi.emptied⟩
  | deleted hd hpc howner hdel =>
    obtain ⟨hcount, hsd, hrelease⟩ := hdel.frame
    refine ⟨?_, ?_, ?_, hi.destroyed, fun s hlt hs => ?_⟩
    · simp only [record_store, setRemove_store, hrelease]
      exact hi.counts.stay (by rw [hpc]; rfl)
    · simp only [record_store, setRemove_store, hsd]
      exact hi.shuttingDown
    · simp only [record_store, setRemove_store, hrelease]
      exact hi.drained
    · simp only [record_store, setRemove_store, record_shutdown, setRemove_shutdown, hcount]
        at hlt hs
      simp only [record_store, setRemove_store, hdel.objects, Function.update_apply]
      split_ifs
      · rfl
      · exact hi.emptied s hlt hs
  | decremented hd hpc =>
    refine ⟨hi.counts.leave (by rw [hpc]; rfl) rfl, hi.shuttingDown, fun hdr => ?_,
      hi.destroyed, hi.emptied⟩
    simp only [setRemove_store, decrementReleaseCount]
    rw [hi.drained hdr]
  | returned hpc =>
    exact ⟨hi.counts.stay (by rw [hpc]; rfl), hi.shuttingDown, hi.drained, hi.destroyed,
      hi.emptied⟩
  | freed hd hpc =>
    exact ⟨hi.counts.stay (by rw [hpc]; rfl), hi.shuttingDown, hi.drained, hi.destroyed,
      hi.emptied⟩
  | usedAfterDestroy ha hd =>
    exact ⟨hi.counts.stay (hi.not_counted hd _).symm, hi.shuttingDown, hi.drained, hi.destroyed,
      hi.emptied⟩
  | shutdown hpc =>
    refine ⟨hi.counts, fun _ => rfl, by rintro ⟨⟩, fun hd => ?_, fun s _ hs => ?_⟩
    · rw [hi.destroyed hd] at hpc
      cases hpc
    · simp [ShutdownPc.emptied] at hs
  | drained hpc hcount =>
    refine ⟨hi.counts, fun _ => hi.shuttingDown (by simp [hpc]), fun _ => hcount, fun hd => ?_,
      fun s _ hs => ?_⟩
    · rw [hi.destroyed hd] at hpc
      cases hpc
    · simp [ShutdownPc.emptied] at hs
  | @skipped i hpc hlt hobject =>
    refine ⟨hi.counts, fun _ => hi.shuttingDown (by simp [hpc]),
      fun _ => hi.drained (by rw [hpc]; rfl), fun hd => ?_, fun s hs hsi => ?_⟩
    · rw [hi.destroyed hd] at hpc
      cases hpc
    · rcases Nat.lt_succ_iff_lt_or_eq.1 hsi with hsi | rfl
      · exact hi.emptied s hs (by rw [hpc]; exact hsi)
      · exact hobject
  | @discarded i object store' hpc hlt hdel =>
    obtain ⟨hcount, hsd, hrelease⟩ := hdel.frame
    refine ⟨?_, fun _ => ?_, fun _ => ?_, fun hd => ?_, fun s hs hsi => ?_⟩
    · simpa only [record_store, record_removes, hrelease] using hi.counts
    · simpa only [record_store, hsd] using hi.shuttingDown (by simp [hpc])
    · simpa only [record_store, hrelease] using hi.drained (by rw [hpc]; rfl)
    · rw [hi.destroyed hd] at hpc
      cases hpc
    · simp only [record_store, hcount] at hs
      simp only [record_store, hdel.objects, Function.update_apply]
      split_ifs with he
      · rfl
      · have hsi' : s < i := lt_of_le_of_ne (Nat.lt_succ_iff.1 hsi) he
        exact hi.emptied s hs (by rw [hpc]; exact hsi')
  | shutdownFreed hpc =>
    refine ⟨hi.counts, fun _ => hi.shuttingDown (by simp [hpc]),
      fun _ => hi.drained (by rw [hpc]; rfl), fun hd => ?_, fun s hs hsi => ?_⟩
    · rw [hi.destroyed hd] at hpc
      cases hpc
    · exact hi.emptied s hs (by rw [hpc]; exact hsi)
  | closed hpc hlt =>
    refine ⟨hi.counts, fun _ => hi.shuttingDown (by simp [hpc]),
      fun _ => hi.drained (by rw [hpc]; rfl), fun _ => rfl, fun s hs hsi => ?_⟩
    refine hi.emptied s hs ?_
    rw [hpc]
    exact hs.trans_le hlt

theorem NoUse.change (hs : ShutdownInv σ) (hi : NoUse σ) (hc : NoLateFree σ a)
    (h : Change σ a σ') : NoUse σ' := by
  cases h with
  | same => exact hi
  | added hd => exact ⟨hi.quiet, by simpa using hi.log⟩
  | acquired => exact ⟨hi.quiet, hi.log⟩
  | released => exact ⟨hi.quiet, hi.log⟩
  | removing hd => exact ⟨hi.setRemove _ (by simp [hd]), hi.log⟩
  | waits hd => exact ⟨hi.setRemove _ (by simp [hd]), hi.log⟩
  | gaveUp hd => exact ⟨hi.setRemove _ (by simp [hd]), hi.log⟩
  | deleted hd => exact ⟨by simp [hd], by simpa using hi.log⟩
  | decremented hd => exact ⟨hi.setRemove _ (by simp [hd]), hi.log⟩
  | returned => exact ⟨hi.setRemove _ (fun _ => rfl), hi.log⟩
  | freed => exact ⟨hi.setRemove _ (fun _ => rfl), by simpa using hi.log⟩
  | usedAfterDestroy ha hd hpc =>
    rw [hi.quiet hd] at hpc
    cases hpc
  | shutdown => exact ⟨hi.quiet, hi.log⟩
  | drained => exact ⟨hi.quiet, hi.log⟩
  | skipped => exact ⟨hi.quiet, hi.log⟩
  | discarded => exact ⟨hi.quiet, by simpa using hi.log⟩
  | shutdownFreed => exact ⟨hi.quiet, by simpa using hi.log⟩
  | closed hpc =>
    have hzero : Counts σ.removes 0 := (hs.drained (by rw [hpc]; rfl)) ▸ hs.counts
    refine ⟨fun _ c => ?_, hi.log⟩
    -- counted removes have been waited for, and the condition excludes the others
    by_contra hu
    rcases usesStore_cases (eq_true_of_ne_false hu) with hcount | ⟨status, o, ho⟩
    · rw [hzero.eq_zero] at hcount
      cases hcount
    · exact hc c status o ho

theorem NoUse.exec {as : List (Action Obj)} (hs : ShutdownInv σ) (hi : NoUse σ)
    (hm : Meets StoreState.next NoLateFree σ as)
    (h : Transition.exec StoreState.next σ as = some σ') : ShutdownInv σ' ∧ NoUse σ' :=
  exec_invariant (I := fun σ => ShutdownInv σ ∧ NoUse σ)
    (fun _ _ _ hI hC hn => ⟨hI.1.change (next_change hn), hI.2.change hI.1 hC (next_change hn)⟩)
    ⟨hs, hi⟩ hm h

/-- Where shutdown never frees the store before the last remove has read `object_free`, no remove
touches the store after shutdown has freed it. -/
theorem no_use_after_destroy {count : UInt64} {store : ObjectStore Obj}
    {as : List (Action Obj)} (h₀ : objectStoreInit count = some store)
    (hm : Meets StoreState.next NoLateFree (StoreState.init store) as)
    (h : Transition.exec StoreState.next (StoreState.init store) as = some σ) :
    (∀ caller o, .useAfterDestroy caller o ∉ σ.log) ∧
    (σ.destroyed = true → ∀ caller, (σ.removes caller).usesStore = false) := by
  obtain ⟨-, hn⟩ := NoUse.exec (.init h₀) .init hm h
  exact ⟨hn.log, hn.quiet⟩

/-- Shutdown that waits for a remove, and then empties the table and frees the store. -/
theorem no_use_after_destroy_waits :
    ∃ σ : StoreState Nat, Transition.exec StoreState.next
        (StoreState.init ((objectStoreInit 32).get objectStoreInit_isSome))
        ([.add ⟨.ofByte 1, 0⟩ (some 7), .remove ⟨.ofByte 1, 0⟩ 31, .shutdown,
          .poll ⟨.ofByte 1, 0⟩, .decrement ⟨.ofByte 1, 0⟩, .shutdownPoll,
          .finish ⟨.ofByte 1, 0⟩] ++ List.replicate 32 .shutdownRemove ++ [.shutdownClose]) =
        some σ ∧
      σ.destroyed = true ∧
      (∀ caller o, .useAfterDestroy caller o ∉ σ.log) ∧
      (σ.destroyed = true → ∀ caller, (σ.removes caller).usesStore = false) := by
  refine ⟨_, (Option.some_get (by decide +kernel)).symm, by decide +kernel,
    no_use_after_destroy (Option.some_get (by decide +kernel)).symm ?_
      (Option.some_get (by decide +kernel)).symm⟩
  refine (Meets.of_labels (by simp [NoLateFree])).append fun σ h => ⟨?_, fun _ _ => trivial⟩
  intro caller status o
  by_cases hc : caller = ⟨.ofByte 1, 0⟩
  · subst hc
    obtain rfl := Option.some.inj (h.symm.trans (Option.some_get (by decide +kernel)).symm)
    rw [show StoreState.removes _ _ = .idle by decide +kernel]
    rintro ⟨⟩
  · rw [exec_removes_idle rfl (by simp [hc]) h]
    rintro ⟨⟩

/-- The release count falls before `object_free` is read, and shutdown goes by the count. -/
theorem use_after_destroy :
    ∃ σ : StoreState Nat, Transition.exec StoreState.next
        (StoreState.init ((objectStoreInit 32).get objectStoreInit_isSome))
        ([.add ⟨.ofByte 1, 0⟩ (some 7), .remove ⟨.ofByte 1, 0⟩ 31, .shutdown,
          .poll ⟨.ofByte 1, 0⟩, .decrement ⟨.ofByte 1, 0⟩, .shutdownPoll] ++
        List.replicate 32 .shutdownRemove ++ [.shutdownClose, .finish ⟨.ofByte 1, 0⟩]) =
        some σ ∧
      .useAfterDestroy ⟨.ofByte 1, 0⟩ (some (7, 0)) ∈ σ.log :=
  ⟨_, (Option.some_get (by decide +kernel)).symm, by decide +kernel⟩

end StoreState

end TaSecureApi
