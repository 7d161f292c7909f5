import TaSecureApi.TaCommands

namespace TaSecureApi
set_option autoImplicit true
open Programs StoreCalls

/-- An object is in a slot, for the callers of a UUID. -/
def Stands (store : ObjectStore Nat) (slot object : Nat) (uuid : SaUuid) : Prop :=
  slot < store.slotCount ∧ (store.objects slot).object = some object ∧
    (store.objects slot).ownerUuid = uuid

def ObjectStore.setCount (store : ObjectStore Obj) (slot n : Nat) : ObjectStore Obj :=
  { store with
    objects := Function.update store.objects slot { store.objects slot with referenceCount := n } }

/-- The section of a call of a thread: what is left of the store, and the answer when there is
one. -/
inductive Section (st : StoreState Nat) (c : Caller) (store : StoreId) :
    (call : StoreCall) → StoreState Nat → Option call.Answer → Prop
  | acquireFails {slot} : Section st c store (.acquire store slot) st (some none)
  | acquires {slot object holds} (hstands : Stands st.store slot object c.uuid) :
      Section st c store (.acquire store slot) { st with
        store := st.store.setCount slot ((st.store.objects slot).referenceCount + 1)
        holds := holds } (some (some object))
  | releaseFails {slot object} (h : Stands st.store slot object c.uuid →
        (st.store.objects slot).referenceCount = 0) :
      Section st c store (.release store slot object) st (some ())
  | releases {slot object holds} (hcount : (st.store.objects slot).referenceCount ≠ 0) :
      Section st c store (.release store slot object) { st with
        store := st.store.setCount slot ((st.store.objects slot).referenceCount - 1)
        holds := holds } (some ())
  | addFails {object} : Section st c store (.add store object) st (some none)
  | adds {object slot store' serials occupant event}
      (hfills : Fills st.store slot object c.uuid store')
      (hevent : ∀ caller o, event ≠ .useAfterDestroy caller o) :
      Section st c store (.add store object) { st with
        store := store'
        serials := serials
        occupant := occupant
        log := event :: st.log } (some (some slot))
  | removeFails {slot} (hpc : st.removes c = .idle) :
      Section st c store (.remove store slot) st (some none)
  | removeGoesOn {slot store' p} (hslots : store'.slotCount = st.store.slotCount)
      (hobjects : store'.objects = st.store.objects)
      (hshutting : store'.isShuttingDown = st.store.isShuttingDown)
      (hfree : p.objectToFree = (st.removes c).objectToFree) :
      Section st c store (.remove store slot) ({ st with store := store' }.setRemove c p) none
  | removeDeletes {slot slot' object store' serial e}
      (hfree : (st.removes c).objectToFree = none) (hdel : Deletes st.store slot' object store')
      (he : ∀ caller o, .useAfterDestroy caller o ∉ e) :
      Section st c store (.remove store slot)
        (({ st with store := store' }.setRemove c (.counted .ok (some (object, serial)))).record e)
        none
  | removeEnds {slot e} (he : ∀ caller o, .useAfterDestroy caller o ∉ e) :
      Section st c store (.remove store slot) ((st.setRemove c .idle).record e)
        (some ((st.removes c).objectToFree.map Prod.fst))
  | shutdownGoesOn {store' p e} (hslots : store'.slotCount = st.store.slotCount)
      (hobjects : store'.objects = st.store.objects) (hpc : p ≠ .done)
      (he : ∀ caller o, .useAfterDestroy caller o ∉ e) :
      Section st c store (.shutdown store) ({ st with store := store', shutdown := p }.record e)
        none
  | shutdownDeletes {slot object store' p e} (hdel : Deletes st.store slot object store')
      (hpc : p ≠ .done) (he : ∀ caller o, .useAfterDestroy caller o ∉ e) :
      Section st c store (.shutdown store) ({ st with store := store', shutdown := p }.record e)
        none
  | shutdownCloses :
      Section st c store (.shutdown store) { st with destroyed := true, shutdown := .done }
        (some ())

def RunsSection (σ : TaEnv) (c : Caller) (store : StoreId) (call : StoreCall) (σ' : TaEnv)
    (answer : Option call.Answer) : Prop :=
  ∃ a st', (σ.stores store).next a = some st' ∧ σ' = σ.setStore store st' ∧
    Section (σ.stores store) c store call st' answer

section Inversion

variable {σ σ' : TaEnv} {c : Caller} {store : StoreId}

theorem runsSection_answer {call : StoreCall} {a : Action Nat} {result : Result Nat → call.Answer}
    {answer : Option call.Answer} (h : σ.answer store a result = some (σ', answer))
    (hsec : ∀ st' r, (σ.stores store).step a = some (st', r) →
      Section (σ.stores store) c store call st' (some (result r))) :
    RunsSection σ c store call σ' answer := by
  obtain ⟨⟨st', r⟩, hstep, he⟩ := Option.map_eq_some_iff.1 h
  cases he
  refine ⟨a, st', ?_, rfl, hsec st' r hstep⟩
  rw [StoreState.next, hstep]
  rfl

theorem runsSection_wait {call : StoreCall} {a : Action Nat} {answer : Option call.Answer}
    (h : σ.wait store a = some (σ', answer))
    (hsec : ∀ st' r, (σ.stores store).step a = some (st', r) →
      Section (σ.stores store) c store call st' none) :
    RunsSection σ c store call σ' answer := by
  obtain ⟨⟨st', r⟩, hstep, he⟩ := Option.map_eq_some_iff.1 h
  cases he
  refine ⟨a, st', ?_, rfl, hsec st' r hstep⟩
  rw [StoreState.next, hstep]
  rfl

theorem acquire_section {answer : Option (StoreCall.acquire store slot).Answer}
    (hd : (σ.stores store).destroyed = false)
    (h : σ.perform c (.acquire store slot) choice = some (σ', answer)) :
    RunsSection σ c store (.acquire store slot) σ' answer := by
  apply runsSection_answer h
  intro st' r hstep
  simp only [StoreState.step, hd, Bool.false_eq_true, if_false, Option.some.injEq] at hstep
  rcases objectStoreAcquire_cases (σ.stores store).store slot (some c.uuid) with
    ⟨status, ha, -⟩ | ⟨o, u, hu, hlt, -, hobject, howner, ha⟩
  · simp only [StoreState.acquire, ha] at hstep
    cases hstep
    exact .acquireFails
  · simp only [StoreState.acquire, ha] at hstep
    cases hstep
    cases hu
    exact .acquires ⟨hlt, hobject, howner⟩

theorem release_section {answer : Option (StoreCall.release store slot object).Answer}
    (hd : (σ.stores store).destroyed = false)
    (h : σ.perform c (.release store slot object) choice = some (σ', answer)) :
    RunsSection σ c store (.release store slot object) σ' answer := by
  have hanswer : σ.answer store (.release c slot object) (fun _ => ()) = some (σ', answer) := h
  apply runsSection_answer hanswer
  intro st' r hstep
  simp only [StoreState.step, hd, Bool.false_eq_true, if_false, Option.some.injEq] at hstep
  rcases objectStoreRelease_cases (σ.stores store).store slot (some object) (some c.uuid) with
    ⟨status, ha, hne⟩ | ⟨o, u, ho, hu, hlt, hobject, howner, hcount, ha⟩
  · have hst : st' = σ.stores store := by
      simp only [StoreState.release, ha] at hstep
      cases status with
      | ok => exact absurd rfl hne
      | _ => exact (Prod.mk.inj hstep).1.symm
    rw [hst]
    apply Section.releaseFails
    rintro ⟨hlt, hobject, howner⟩
    by_contra hcount
    simp [objectStoreRelease, hobject, howner, hcount, Nat.not_le.2 hlt] at ha
    exact hne ha.1.symm
  · simp only [StoreState.release, ha] at hstep
    cases hstep
    exact .releases hcount

theorem add_section {answer : Option (StoreCall.add store object).Answer}
    (hd : (σ.stores store).destroyed = false)
    (h : σ.perform c (.add store object) choice = some (σ', answer)) :
    RunsSection σ c store (.add store object) σ' answer := by
  apply runsSection_answer h
  intro st' r hstep
  simp only [StoreState.step, hd, Bool.false_eq_true, if_false, Option.some.injEq] at hstep
  rcases objectStoreAdd_cases (σ.stores store).store (some object) (some c.uuid) with
    ⟨status, slot, ha, hne⟩ | ⟨o, u, slot, store', ho, hu, ha, -, -, hfills⟩
  · have hst : (st', r) = (σ.stores store, .added status slot) := by
      simp only [StoreState.add, ha] at hstep
      cases status with
      | ok => exact absurd rfl hne
      | _ => exact hstep.symm
    cases hst
    have hadded : TaEnv.added (.added status slot) = none := by
      cases status with
      | ok => exact absurd rfl hne
      | _ => rfl
    rw [hadded]
    exact .addFails
  · simp only [StoreState.add, ha] at hstep
    cases hstep
    cases ho
    cases hu
    exact .adds hfills (by simp)

theorem remove_section {answer : Option (StoreCall.remove store slot).Answer}
    (hd : (σ.stores store).destroyed = false)
    (h : σ.perform c (.remove store slot) choice = some (σ', answer)) :
    RunsSection σ c store (.remove store slot) σ' answer := by
  simp only [TaEnv.perform, TaEnv.remove] at h
  split at h
  · next hpc =>
    obtain ⟨⟨st', r⟩, hstep, he⟩ := Option.map_eq_some_iff.1 h
    cases he
    refine ⟨.remove c slot, st', by rw [StoreState.next, hstep]; rfl, rfl, ?_⟩
    simp only [StoreState.step, hd, Bool.false_eq_true, if_false, hpc, Option.some.injEq] at hstep
    unfold StoreState.remove incrementReleaseCount at hstep
    split_ifs at hstep
    · cases hstep
      exact .removeFails hpc
    · cases hstep
      exact .removeFails hpc
    · cases hstep
      exact .removeGoesOn rfl rfl rfl (by rw [hpc]; rfl)
  · next slot' seen hpc =>
    have hfree : ((σ.stores store).removes c).objectToFree = none := by rw [hpc]; rfl
    apply runsSection_wait h
    intro st' r hstep
    simp only [StoreState.step, hpc, hd, Bool.false_eq_true, if_false, Option.some.injEq,
      Prod.mk.injEq] at hstep
    rcases storeRemoveLocked_cases (σ.stores store).store slot' (some c.uuid) with
      ⟨status, hl, -, -⟩ | ⟨o, hl, -⟩ | ⟨o, store', hl, -, hdel⟩
    · simp only [StoreState.poll, hl] at hstep
      rw [← hstep.1]
      exact .removeGoesOn rfl rfl rfl hfree.symm
    · simp only [StoreState.poll, hl] at hstep
      rw [← hstep.1]
      exact .removeGoesOn rfl rfl rfl hfree.symm
    · simp only [StoreState.poll, hl] at hstep
      rw [← hstep.1]
      exact .removeDeletes hfree hdel (by simp)
  · next status objectToFree hpc =>
    apply runsSection_wait h
    intro st' r hstep
    have hfree : ((σ.stores store).removes c).objectToFree = objectToFree := by rw [hpc]; rfl
    simp only [StoreState.step, hpc] at hstep
    rw [if_neg (by simp [hd])] at hstep
    cases hstep
    exact Section.removeGoesOn (p := .freeing status objectToFree) rfl rfl rfl hfree.symm
  · next status objectToFree hpc =>
    apply runsSection_answer h
    intro st' r hstep
    simp only [StoreState.step, hpc, Option.some.injEq] at hstep
    have hfree : ((σ.stores store).removes c).objectToFree = objectToFree := by rw [hpc]; rfl
    rw [← hfree]
    cases objectToFree with
    | none =>
      simp only [StoreState.finish, Prod.mk.injEq] at hstep
      rw [← hstep.1]
      exact Section.removeEnds (e := []) (by simp)
    | some o =>
      simp only [StoreState.finish, hd, Bool.false_eq_true, if_false, Prod.mk.injEq] at hstep
      rw [← hstep.1]
      exact .removeEnds (by simp)

theorem shutdown_section {answer : Option (StoreCall.shutdown store).Answer}
    (h : σ.perform c (.shutdown store) choice = some (σ', answer)) :
    RunsSection σ c store (.shutdown store) σ' answer := by
  simp only [TaEnv.perform, TaEnv.shutdown] at h
  split at h
  · next hpc =>
    apply runsSection_wait h
    intro st' r hstep
    simp only [StoreState.step, hpc, Option.some.injEq, Prod.mk.injEq] at hstep
    rw [← hstep.1]
    exact Section.shutdownGoesOn (e := []) rfl rfl (by simp) (by simp)
  · next hpc =>
    apply runsSection_wait h
    intro st' r hstep
    simp only [StoreState.step, hpc] at hstep
    have hdone : (σ.stores store).shutdown ≠ .done := by rw [hpc]; simp
    split_ifs at hstep
    · cases hstep
      exact Section.shutdownGoesOn (p := .removing 0) (e := []) rfl rfl (by simp) (by simp)
    · cases hstep
      exact Section.shutdownGoesOn (e := []) rfl rfl hdone (by simp)
  · next i hpc =>
    split_ifs at h with hlt
    · apply runsSection_wait h
      intro st' r hstep
      simp only [StoreState.step, hpc, hlt, if_true, Option.some.injEq, Prod.mk.injEq] at hstep
      have hdone : (σ.stores store).shutdown ≠ .done := by rw [hpc]; simp
      rw [← hstep.1]
      rcases storeRemoveLocked_cases (σ.stores store).store i none with
        ⟨status, hl, -, -⟩ | ⟨o, hl, -⟩ | ⟨o, store', hl, -, hdel⟩
      · simp only [StoreState.shutdownRemove, hl]
        exact Section.shutdownGoesOn (p := .removing (i + 1)) (e := []) rfl rfl (by simp) (by simp)
      · simp only [StoreState.shutdownRemove, hl]
        exact Section.shutdownGoesOn (e := []) rfl rfl hdone (by simp)
      · simp only [StoreState.shutdownRemove, hl]
        exact .shutdownDeletes hdel (by simp) (by simp)
    · apply runsSection_answer h
      intro st' r hstep
      simp only [StoreState.step, hpc, hlt, if_false, Option.some.injEq, Prod.mk.injEq] at hstep
      rw [← hstep.1]
      exact .shutdownCloses
  · next i objectToFree hpc =>
    apply runsSection_wait h
    intro st' r hstep
    simp only [StoreState.step, hpc, Option.some.injEq, Prod.mk.injEq] at hstep
    rw [← hstep.1]
    exact .shutdownGoesOn rfl rfl (by simp) (by simp)
  · cases h

end Inversion

end TaSecureApi
