import TaSecureApi.Lib.Ledger
import TaSecureApi.StoreLifetime

namespace TaSecureApi
set_option autoImplicit true
open Transition Ledger

variable {Obj : Type}

/-- Where an object is that was added: `lost` is where a remove leaves it that finds the store
freed when it goes to read `object_free`. -/
inductive Place
  | table (slot : Nat)
  | remover (caller : Caller)
  | shutdown
  | freed
  | lost

@[simp] theorem objectToFree_idle : (.idle : RemovePc Obj).objectToFree = none := rfl

@[simp] theorem objectToFree_counted (status : SaStatus) (o : Option (Obj × Nat)) :
    (RemovePc.counted status o).objectToFree = o := rfl

namespace StoreState

def inPlace (σ : StoreState Obj) : Place → Obj × Nat → Prop
  | .table s, e => s < σ.store.slotCount ∧ (σ.store.objects s).object = some e.1 ∧
      σ.occupant s = e.2
  | .remover c, e => (σ.removes c).objectToFree = some e
  | .shutdown, e => σ.shutdown.objectToFree = some e
  | .freed, e => .objectFree e.1 e.2 ∈ σ.log
  | .lost, e => ∃ c, .useAfterDestroy c (some e) ∈ σ.log

def issued (σ : StoreState Obj) (e : Obj × Nat) : Prop := ∃ u s, .added u s e.1 e.2 ∈ σ.log

/-- How often the object of an add was passed to `object_free`. -/
def frees (σ : StoreState Obj) (n : Nat) : Nat :=
  σ.log.countP fun
    | .objectFree _ serial => serial == n
    | _ => false

/-- Every added object is in one place, and freed at most once. -/
structure LedgerInv (σ : StoreState Obj) : Prop where
  exact : Exact σ.inPlace σ.issued Prod.snd
  once : ∀ n, σ.frees n ≤ 1

theorem LedgerInv.init {store : ObjectStore Obj} (h : objectStoreInit count = some store) :
    LedgerInv (StoreState.init store) := by
  obtain ⟨-, hz, -, -, -⟩ := objectStoreInit_spec h
  have hempty : ∀ p e, ¬ (StoreState.init store).inPlace p e := by
    intro p e
    cases p with
    | table s => simp [inPlace, StoreState.init, hz, StoreObject.zero]
    | remover c => simp [inPlace, StoreState.init, RemovePc.objectToFree]
    | shutdown => simp [inPlace, StoreState.init, ShutdownPc.objectToFree]
    | freed => simp [inPlace, StoreState.init]
    | lost => simp [inPlace, StoreState.init]
  refine ⟨⟨fun e he => ?_, fun p e h => (hempty p e h).elim,
    fun p q e e' h => (hempty p e h).elim⟩, fun n => Nat.zero_le 1⟩
  obtain ⟨u, s, hs⟩ := he
  cases hs

theorem frees_eq_zero {σ : StoreState Obj} (hi : LedgerInv σ) {p : Place} (hp : σ.inPlace p e)
    (hne : p ≠ .freed) : σ.frees e.2 = 0 := by
  rw [frees, List.countP_eq_zero]
  intro ev hev
  cases ev with
  | objectFree o n =>
    simp only [beq_iff_eq]
    rintro rfl
    exact hne (hi.exact.unique p .freed e (o, e.2) hp hev rfl).1
  | _ => simp

theorem frees_objectFree {σ : StoreState Obj} (o : Obj) (m n : Nat) :
    (σ.record [.objectFree o m]).frees n = σ.frees n + if m = n then 1 else 0 := by
  simp [frees, List.countP_cons]

theorem LedgerInv.free {σ σ₁ : StoreState Obj} {p : Place} (hi : LedgerInv σ)
    (hp : ∀ e, σ.inPlace p e ↔ e = (o, n)) (hne : p ≠ .freed) (hlog : σ₁.log = σ.log)
    (hmove : ∀ r e, (σ₁.record [.objectFree o n]).inPlace r e ↔
      (r = .freed ∧ e = (o, n)) ∨ (r ≠ p ∧ σ.inPlace r e)) :
    LedgerInv (σ₁.record [.objectFree o n]) where
  exact := (hi.exact.move hp hmove).congr (fun e => by simp [issued, hlog]) fun _ _ => Iff.rfl
  once m := by
    have hzero := frees_eq_zero hi ((hp _).2 rfl) hne
    have hframe : σ₁.frees m = σ.frees m := by rw [frees, frees, hlog]
    rw [frees_objectFree, hframe]
    split_ifs with he
    · subst he
      rw [hzero]
    · exact hi.once m

theorem frees_append {σ : StoreState Obj} {es : List (StoreEvent Obj)}
    (hes : ∀ o m, .objectFree o m ∉ es) (n : Nat) : (σ.record es).frees n = σ.frees n := by
  have hzero : es.countP (fun | .objectFree _ serial => serial == n | _ => false) = 0 := by
    rw [List.countP_eq_zero]
    intro ev hev
    cases ev with
    | objectFree o m => exact (hes o m hev).elim
    | _ => simp
  rw [frees, frees, record_log, List.countP_append, hzero, Nat.zero_add]

theorem LedgerInv.move {σ σ₁ : StoreState Obj} {es : List (StoreEvent Obj)} {p q : Place}
    (hi : LedgerInv σ) (hp : ∀ e, σ.inPlace p e ↔ e = x) (hlog : σ₁.log = σ.log)
    (hadd : ∀ u s o n, .added u s o n ∉ es) (hfree : ∀ o n, .objectFree o n ∉ es)
    (hmove : ∀ r e, (σ₁.record es).inPlace r e ↔
      (r = q ∧ e = x) ∨ (r ≠ p ∧ σ.inPlace r e)) : LedgerInv (σ₁.record es) where
  exact := by
    refine (hi.exact.move hp hmove).congr (fun e => ?_) fun _ _ => Iff.rfl
    simp [issued, hlog, hadd]
  once n := by
    have hframe : σ₁.frees n = σ.frees n := by rw [frees, frees, hlog]
    rw [frees_append hfree, hframe]
    exact hi.once n

theorem inPlace_setRemove {σ : StoreState Obj} {caller : Caller} {pc : RemovePc Obj}
    (hpc : pc.objectToFree = (σ.removes caller).objectToFree) (p : Place) (e : Obj × Nat) :
    (σ.setRemove caller pc).inPlace p e ↔ σ.inPlace p e := by
  cases p with
  | remover c =>
    simp only [inPlace, setRemove_removes, Function.update_apply]
    split_ifs with he
    · rw [hpc, he]
    · rfl
  | _ => rfl

theorem LedgerInv.congr {σ σ' : StoreState Obj} (hi : LedgerInv σ)
    (hplace : ∀ p e, σ'.inPlace p e ↔ σ.inPlace p e) (hlog : σ'.log = σ.log) : LedgerInv σ' where
  exact := hi.exact.congr (fun e => by simp [issued, hlog]) hplace
  once n := by
    have hframe : σ'.frees n = σ.frees n := by rw [frees, frees, hlog]
    exact hframe ▸ hi.once n

theorem LedgerInv.append {σ : StoreState Obj} {caller : Caller} (hi : LedgerInv σ) :
    LedgerInv (σ.record [.useAfterDestroy caller none]) where
  exact := by
    refine hi.exact.congr (fun e => by simp [issued]) fun p e => ?_
    cases p with
    | _ => simp [inPlace]
  once n := by
    rw [frees_append (by simp)]
    exact hi.once n

theorem inPlace_deletes {σ σ' : StoreState Obj} (hdel : Deletes σ.store slot o store')
    (hstore : σ'.store = store') (hoccupant : σ'.occupant = σ.occupant) (s : Nat)
    (e : Obj × Nat) : σ'.inPlace (.table s) e ↔ s ≠ slot ∧ σ.inPlace (.table s) e := by
  simp only [inPlace, hstore, hdel.frame.slotCount, hdel.objects, hoccupant, Function.update_apply]
  by_cases he : s = slot
  · simp [he]
  · simp [he]

theorem inPlace_table {σ : StoreState Obj} (hlt : slot < σ.store.slotCount)
    (hobject : (σ.store.objects slot).object = some o) (e : Obj × Nat) :
    σ.inPlace (.table slot) e ↔ e = (o, σ.occupant slot) := by
  simp only [inPlace, hobject, hlt, Option.some.injEq, true_and, Prod.ext_iff]
  exact ⟨fun h => ⟨h.1.symm, h.2.symm⟩, fun h => ⟨h.1.symm, h.2.symm⟩⟩

theorem LedgerInv.added {σ : StoreState Obj} (ht : TableInv σ) (hl : LogInv σ) (hi : LedgerInv σ)
    (hfills : Fills σ.store slot object owner store') :
    LedgerInv { σ with
      store := store'
      serials := σ.serials + 1
      occupant := Function.update σ.occupant slot σ.serials
      log := .added owner slot object σ.serials :: σ.log } where
  exact := by
    refine hi.exact.issue (x := (object, σ.serials)) (q := .table slot) ?_ ?_ ?_
    · rintro e ⟨u, s, hs⟩
      exact (hl.bound u s _ _ hs).ne
    · intro e
      simp [issued, exists_or, Prod.ext_iff]
    · intro r e
      cases r with
      | table s =>
        simp only [inPlace, hfills.frame.slotCount, hfills.objects, Function.update_apply]
        by_cases he : s = slot
        · subst he
          simp [hfills.lt, hfills.empty ht.bits, Prod.ext_iff, eq_comm]
        · simp [he]
      | _ => simp [inPlace]
  once n := by
    refine (Eq.le ?_).trans (hi.once n)
    simp [frees]

theorem LedgerInv.not_freed {σ : StoreState Obj} (hs : StoreInv σ) (hi : LedgerInv σ) {h : Hold Obj}
    (hh : h ∈ σ.holds) (o : Obj) : .objectFree o h.serial ∉ σ.log := by
  intro hfree
  obtain ⟨hlt, hobject, -, hserial⟩ := hs.hold.held h hh
  have hp : σ.inPlace (.table h.slot) (h.object, h.serial) := ⟨hlt, hobject, hserial⟩
  have hq : σ.inPlace .freed (o, h.serial) := hfree
  cases (hi.exact.unique _ _ _ _ hp hq rfl).1

theorem LedgerInv.freed_or_lost {σ : StoreState Obj} (hs : ShutdownInv σ) (hi : LedgerInv σ)
    (hd : σ.destroyed = true) (hidle : ∀ c, σ.removes c = .idle)
    (hadded : .added u s o n ∈ σ.log) :
    .objectFree o n ∈ σ.log ∨ ∃ c, .useAfterDestroy c (some (o, n)) ∈ σ.log := by
  obtain ⟨p, hp⟩ := hi.exact.total (o, n) ⟨u, s, hadded⟩
  have hdone := hs.destroyed hd
  cases p with
  | table s =>
    obtain ⟨hlt, hobject, -⟩ := hp
    rw [hs.emptied s hlt (by rw [hdone]; exact hlt)] at hobject
    cases hobject
  | remover c => simp [inPlace, hidle c] at hp
  | shutdown => simp [inPlace, hdone, ShutdownPc.objectToFree] at hp
  | freed => exact .inl hp
  | lost => exact .inr hp

variable [DecidableEq Obj] {σ σ' : StoreState Obj} {a : Action Obj}

theorem LedgerInv.change (ht : TableInv σ) (hl : LogInv σ) (hi : LedgerInv σ)
    (h : Change σ a σ') : LedgerInv σ' := by
  cases h with
  | same => exact hi
  | added hd hsd hslot hfills => exact hi.added ht hl hfills
  | acquired =>
    refine hi.congr (fun p e => ?_) rfl
    cases p with
    | table s => simp only [inPlace, setCount_object]
    | _ => rfl
  | released =>
    refine hi.congr (fun p e => ?_) rfl
    cases p with
    | table s => simp only [inPlace, setCount_object]
    | _ => rfl
  | removing hd hsd hpc => exact hi.congr (inPlace_setRemove (by rw [hpc]; rfl)) rfl
  | waits hd hpc => exact hi.congr (inPlace_setRemove (by rw [hpc]; rfl)) rfl
  | gaveUp hd hpc => exact hi.congr (inPlace_setRemove (by rw [hpc]; rfl)) rfl
  | @deleted caller slot seen o store' hd hpc howner hdel =>
    have hlt := ht.polling _ _ _ hpc
    have hcaller : (σ.removes caller).objectToFree = none := by rw [hpc]; rfl
    refine hi.move (q := .remover caller) (inPlace_table hlt hdel.object) rfl (by simp) (by simp)
      fun r e => ?_
    cases r with
    | table s =>
      simp only [reduceCtorEq, false_and, false_or, ne_eq, Place.table.injEq]
      exact inPlace_deletes hdel (by rfl) (by rfl) s e
    | remover c =>
      simp only [inPlace, record_removes, setRemove_removes, Function.update_apply]
      by_cases he : c = caller
      · subst he
        simp [hcaller, objectToFree_counted, eq_comm]
      · simp [he]
    | _ => simp [inPlace]
  | decremented hd hpc => exact hi.congr (inPlace_setRemove (by rw [hpc]; rfl)) rfl
  | returned hpc => exact hi.congr (inPlace_setRemove (by rw [hpc]; rfl)) rfl
  | @freed caller status object serial hd hpc =>
    have hcaller : (σ.removes caller).objectToFree = some (object, serial) := by rw [hpc]; rfl
    refine hi.free (p := .remover caller) ?_ (by rintro ⟨⟩) rfl ?_
    · intro e
      simp [inPlace, hcaller, eq_comm]
    · intro r e
      cases r with
      | remover c =>
        simp only [inPlace, record_removes, setRemove_removes, Function.update_apply]
        by_cases he : c = caller
        · simp [he, objectToFree_idle]
        · simp [he]
      | freed => simp [inPlace, Prod.ext_iff]
      | _ => simp [inPlace]
  | @usedAfterDestroy a caller o ha hd hpc ho =>
    cases o with
    | none =>
      exact (hi.congr (inPlace_setRemove (show RemovePc.objectToFree .idle = _ from ho.symm))
        rfl).append
    | some e₀ =>
      refine hi.move (p := .remover caller) (q := .lost) (x := e₀) ?_ rfl (by simp) (by simp)
        fun r e => ?_
      · intro e
        simp [inPlace, ho, eq_comm]
      · cases r with
        | remover c =>
          simp only [inPlace, record_removes, setRemove_removes, Function.update_apply]
          by_cases he : c = caller
          · simp [he]
          · simp [he]
        | lost => simp [inPlace, exists_or, eq_comm]
        | _ => simp [inPlace]
  | shutdown hpc =>
    refine hi.congr (fun p e => ?_) rfl
    cases p with
    | shutdown => simp [inPlace, hpc, ShutdownPc.objectToFree]
    | _ => rfl
  | drained hpc =>
    refine hi.congr (fun p e => ?_) rfl
    cases p with
    | shutdown => simp [inPlace, hpc, ShutdownPc.objectToFree]
    | _ => rfl
  | skipped hpc =>
    refine hi.congr (fun p e => ?_) rfl
    cases p with
    | shutdown => simp [inPlace, hpc, ShutdownPc.objectToFree]
    | _ => rfl
  | discarded hpc hlt hdel =>
    refine hi.move (q := .shutdown) (inPlace_table hlt hdel.object) rfl (by simp) (by simp)
      fun r e => ?_
    cases r with
    | table s =>
      simp only [reduceCtorEq, false_and, false_or, ne_eq, Place.table.injEq]
      exact inPlace_deletes hdel (by rfl) (by rfl) s e
    | shutdown => simp [inPlace, hpc, ShutdownPc.objectToFree, eq_comm]
    | _ => simp [inPlace]
  | shutdownFreed hpc =>
    refine hi.free (p := .shutdown) ?_ (by rintro ⟨⟩) rfl fun r e => ?_
    · intro e
      simp [inPlace, hpc, ShutdownPc.objectToFree, eq_comm]
    · cases r with
      | shutdown => simp [inPlace, ShutdownPc.objectToFree]
      | freed => simp [inPlace, Prod.ext_iff]
      | _ => simp [inPlace]
  | closed hpc =>
    refine hi.congr (fun p e => ?_) rfl
    cases p with
    | shutdown => simp [inPlace, hpc, ShutdownPc.objectToFree]
    | _ => rfl

theorem LedgerInv.exec {as : List (Action Obj)} (hs : StoreInv σ) (hi : LedgerInv σ)
    (h : Transition.exec StoreState.next σ as = some σ') : StoreInv σ' ∧ LedgerInv σ' :=
  exec_invariant_of_step (I := fun σ => StoreInv σ ∧ LedgerInv σ)
    (fun _ _ _ hI hn => ⟨hI.1.change (next_change hn),
      hI.2.change hI.1.table hI.1.log (next_change hn)⟩) ⟨hs, hi⟩ h

/-- Where shutdown never frees the store before the last remove has read `object_free`: an acquired
object is not freed before its release, no object is freed twice, and once shutdown and the
removes have returned every added object has been freed. -/
theorem object_freed_once {count : UInt64} {store : ObjectStore Obj}
    {as : List (Action Obj)} (h₀ : objectStoreInit count = some store)
    (hm : Meets StoreState.next NoLateFree (StoreState.init store) as)
    (h : Transition.exec StoreState.next (StoreState.init store) as = some σ) :
    (∀ held ∈ σ.holds, ∀ o, .objectFree o held.serial ∉ σ.log) ∧
    (∀ n, σ.frees n ≤ 1) ∧
    (σ.destroyed = true → (∀ c, σ.removes c = .idle) → ∀ u s o n, .added u s o n ∈ σ.log →
      .objectFree o n ∈ σ.log ∧ σ.frees n = 1) := by
  obtain ⟨hs, hi⟩ := (LedgerInv.init h₀).exec (.init h₀) h
  obtain ⟨hsd, hn⟩ := NoUse.exec (.init h₀) .init hm h
  refine ⟨fun held hh => hi.not_freed hs hh, hi.once, fun hd hidle u s o n hadded => ?_⟩
  have hfree := (hi.freed_or_lost hsd hd hidle hadded).resolve_right fun ⟨c, hc⟩ => hn.log c _ hc
  refine ⟨hfree, le_antisymm (hi.once n) ?_⟩
  exact List.countP_pos_iff.2 ⟨_, hfree, by simp⟩

/-- Two adds: one object freed by a remove that waits for a reference, and one by shutdown. -/
theorem object_freed_once_each :
    ∃ σ : StoreState Nat, Transition.exec StoreState.next
        (StoreState.init ((objectStoreInit 32).get objectStoreInit_isSome))
        ([.add ⟨.ofByte 1, 0⟩ (some 7), .add ⟨.ofByte 2, 0⟩ (some 8), .acquire ⟨.ofByte 1, 0⟩ 31,
          .remove ⟨.ofByte 1, 1⟩ 31, .poll ⟨.ofByte 1, 1⟩, .shutdown,
          .release ⟨.ofByte 1, 0⟩ 31 7, .shutdownPoll, .poll ⟨.ofByte 1, 1⟩,
          .decrement ⟨.ofByte 1, 1⟩, .finish ⟨.ofByte 1, 1⟩, .shutdownPoll] ++
        List.replicate 31 .shutdownRemove ++ [.shutdownFree, .shutdownRemove] ++
        [.shutdownClose]) = some σ ∧
      σ.destroyed = true ∧ .added (.ofByte 1) 31 7 0 ∈ σ.log ∧ .added (.ofByte 2) 30 8 1 ∈ σ.log ∧
      (∀ held ∈ σ.holds, ∀ o, .objectFree o held.serial ∉ σ.log) ∧
      (∀ n, σ.frees n ≤ 1) ∧
      (σ.destroyed = true → (∀ c, σ.removes c = .idle) → ∀ u s o n, .added u s o n ∈ σ.log →
        .objectFree o n ∈ σ.log ∧ σ.frees n = 1) := by
  refine ⟨_, (Option.some_get (by decide +kernel)).symm, by decide +kernel, by decide +kernel,
    by decide +kernel,
    object_freed_once (Option.some_get (by decide +kernel)).symm ?_
      (Option.some_get (by decide +kernel)).symm⟩
  refine (Meets.of_labels (by simp [NoLateFree])).append fun σ h => ⟨?_, fun _ _ => trivial⟩
  intro caller status o
  by_cases hc : caller = ⟨.ofByte 1, 1⟩
  · subst hc
    obtain rfl := Option.some.inj (h.symm.trans (Option.some_get (by decide +kernel)).symm)
    rw [show StoreState.removes _ _ = .idle by decide +kernel]
    rintro ⟨⟩
  · rw [exec_removes_idle rfl (by simp [hc]) h]
    rintro ⟨⟩

/-- The store is gone when the remove reads `object_free`: every call has returned and the object
was not freed. -/
theorem object_never_freed :
    ∃ σ : StoreState Nat, Transition.exec StoreState.next
        (StoreState.init ((objectStoreInit 32).get objectStoreInit_isSome))
        ([.add ⟨.ofByte 1, 0⟩ (some 7), .remove ⟨.ofByte 1, 0⟩ 31, .shutdown,
          .poll ⟨.ofByte 1, 0⟩, .decrement ⟨.ofByte 1, 0⟩, .shutdownPoll] ++
        List.replicate 32 .shutdownRemove ++ [.shutdownClose, .finish ⟨.ofByte 1, 0⟩]) =
        some σ ∧
      σ.destroyed = true ∧ (∀ c, σ.removes c = .idle) ∧ .added (.ofByte 1) 31 7 0 ∈ σ.log ∧
      σ.frees 0 = 0 := by
  refine ⟨_, (Option.some_get (by decide +kernel)).symm, by decide +kernel, fun c => ?_,
    by decide +kernel, by decide +kernel⟩
  by_cases hc : c = ⟨.ofByte 1, 0⟩
  · subst hc
    decide +kernel
  · exact exec_removes_idle rfl (by simp [hc]) (Option.some_get (by decide +kernel)).symm

end StoreState

end TaSecureApi
