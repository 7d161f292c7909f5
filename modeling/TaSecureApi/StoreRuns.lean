import TaSecureApi.Lib.Transition
import TaSecureApi.ObjectStore

namespace TaSecureApi
set_option autoImplicit true

variable {Obj : Type}

/-- A thread that calls the store, and the UUID that it calls with. -/
structure Caller where
  uuid : SaUuid
  thread : Nat
  deriving DecidableEq, Repr

/-- What a caller has after a successful acquire and before the release. Adds are numbered, and
`serial` is the add that put the object into the slot. -/
structure Hold (Obj : Type) where
  slot : Nat
  object : Obj
  callerUuid : SaUuid
  serial : Nat
  deriving DecidableEq

/-- Where a call of `store_remove` stands between its critical sections: in its loop (with the
object that it first saw there), counted by `release_count`, or about to run `object_free`. -/
inductive RemovePc (Obj : Type)
  | idle
  | polling (slot : Nat) (seen : Option Nat)
  | counted (status : SaStatus) (objectToFree : Option (Obj × Nat))
  | freeing (status : SaStatus) (objectToFree : Option (Obj × Nat))
  deriving DecidableEq

/-- What `store_remove` took out of the table and has not yet freed, with its add. -/
def RemovePc.objectToFree : RemovePc Obj → Option (Obj × Nat)
  | .counted _ objectToFree | .freeing _ objectToFree => objectToFree
  | _ => none

/-- Whether the rest of the call reads or writes the store. -/
def RemovePc.usesStore : RemovePc Obj → Bool
  | .polling .. | .counted .. | .freeing _ (some _) => true
  | _ => false

/-- Where `object_store_shutdown` stands; `removing i` is the loop over the slots. -/
inductive ShutdownPc (Obj : Type)
  | idle
  | draining
  | removing (i : Nat)
  | freeing (i : Nat) (objectToFree : Obj × Nat)
  | done
  deriving DecidableEq

/-- What the log keeps. `deleted` is an object taken out of the table, `removed` the same by a
remove that first saw the object `seen`; after the store is freed, a remove that still has an
object for `object_free` loses it. -/
inductive StoreEvent (Obj : Type)
  | added (owner : SaUuid) (slot : Nat) (object : Obj) (serial : Nat)
  | deleted (serial : Nat)
  | removed (caller : Caller) (seen serial : Nat)
  | objectFree (object : Obj) (serial : Nat)
  | useAfterDestroy (caller : Caller) (objectToFree : Option (Obj × Nat))
  deriving DecidableEq

/-- A store with the calls that are running on it. The log has the newest event first. -/
structure StoreState (Obj : Type) where
  store : ObjectStore Obj
  destroyed : Bool
  removes : Caller → RemovePc Obj
  shutdown : ShutdownPc Obj
  holds : List (Hold Obj)
  serials : Nat
  occupant : Nat → Nat
  log : List (StoreEvent Obj)

/-- The critical sections of the store's operations and the statements between them. -/
inductive Action (Obj : Type)
  | add (caller : Caller) (object : Option Obj)
  | acquire (caller : Caller) (slot : Nat)
  | release (caller : Caller) (slot : Nat) (object : Obj)
  | remove (caller : Caller) (slot : Nat)
  | poll (caller : Caller)
  | decrement (caller : Caller)
  | finish (caller : Caller)
  | shutdown
  | shutdownPoll
  | shutdownRemove
  | shutdownFree
  | shutdownClose
  deriving DecidableEq

/-- The caller that a section is part of a call of; shutdown has none. -/
def Action.caller : Action Obj → Option Caller
  | .add caller _ | .acquire caller _ | .release caller _ _ | .remove caller _ | .poll caller
  | .decrement caller | .finish caller => some caller
  | _ => none

/-- What a section returns to its caller; `pending` is a call that has not returned. -/
inductive Result (Obj : Type)
  | added (status : SaStatus) (slot : Nat)
  | acquired (status : SaStatus) (object : Option Obj)
  | released (status : SaStatus)
  | removed (status : SaStatus)
  | pending
  deriving DecidableEq

def Hold.isFor [DecidableEq Obj] (slot : Nat) (object : Obj) (callerUuid : SaUuid)
    (h : Hold Obj) : Bool :=
  h.slot = slot ∧ h.object = object ∧ h.callerUuid = callerUuid

def StoreState.init (store : ObjectStore Obj) : StoreState Obj where
  store := store
  destroyed := false
  removes := fun _ => .idle
  shutdown := .idle
  holds := []
  serials := 0
  occupant := fun _ => 0
  log := []

namespace StoreState

def setRemove (σ : StoreState Obj) (caller : Caller) (pc : RemovePc Obj) : StoreState Obj :=
  { σ with removes := Function.update σ.removes caller pc }

def record (σ : StoreState Obj) (es : List (StoreEvent Obj)) : StoreState Obj :=
  { σ with log := es ++ σ.log }

@[simp] theorem setRemove_store (σ : StoreState Obj) (caller : Caller) (pc : RemovePc Obj) :
    (σ.setRemove caller pc).store = σ.store := rfl

@[simp] theorem setRemove_destroyed (σ : StoreState Obj) (caller : Caller) (pc : RemovePc Obj) :
    (σ.setRemove caller pc).destroyed = σ.destroyed := rfl

@[simp] theorem setRemove_shutdown (σ : StoreState Obj) (caller : Caller) (pc : RemovePc Obj) :
    (σ.setRemove caller pc).shutdown = σ.shutdown := rfl

@[simp] theorem setRemove_holds (σ : StoreState Obj) (caller : Caller) (pc : RemovePc Obj) :
    (σ.setRemove caller pc).holds = σ.holds := rfl

@[simp] theorem setRemove_serials (σ : StoreState Obj) (caller : Caller) (pc : RemovePc Obj) :
    (σ.setRemove caller pc).serials = σ.serials := rfl

@[simp] theorem setRemove_occupant (σ : StoreState Obj) (caller : Caller) (pc : RemovePc Obj) :
    (σ.setRemove caller pc).occupant = σ.occupant := rfl

@[simp] theorem setRemove_log (σ : StoreState Obj) (caller : Caller) (pc : RemovePc Obj) :
    (σ.setRemove caller pc).log = σ.log := rfl

@[simp] theorem setRemove_removes (σ : StoreState Obj) (caller : Caller) (pc : RemovePc Obj) :
    (σ.setRemove caller pc).removes = Function.update σ.removes caller pc := rfl

@[simp] theorem record_store (σ : StoreState Obj) (es : List (StoreEvent Obj)) :
    (σ.record es).store = σ.store := rfl

@[simp] theorem record_destroyed (σ : StoreState Obj) (es : List (StoreEvent Obj)) :
    (σ.record es).destroyed = σ.destroyed := rfl

@[simp] theorem record_removes (σ : StoreState Obj) (es : List (StoreEvent Obj)) :
    (σ.record es).removes = σ.removes := rfl

@[simp] theorem record_shutdown (σ : StoreState Obj) (es : List (StoreEvent Obj)) :
    (σ.record es).shutdown = σ.shutdown := rfl

@[simp] theorem record_holds (σ : StoreState Obj) (es : List (StoreEvent Obj)) :
    (σ.record es).holds = σ.holds := rfl

@[simp] theorem record_serials (σ : StoreState Obj) (es : List (StoreEvent Obj)) :
    (σ.record es).serials = σ.serials := rfl

@[simp] theorem record_occupant (σ : StoreState Obj) (es : List (StoreEvent Obj)) :
    (σ.record es).occupant = σ.occupant := rfl

@[simp] theorem record_log (σ : StoreState Obj) (es : List (StoreEvent Obj)) :
    (σ.record es).log = es ++ σ.log := rfl

def add (σ : StoreState Obj) (caller : Caller) (object : Option Obj) :
    StoreState Obj × Result Obj :=
  match object, objectStoreAdd σ.store object (some caller.uuid) with
  | some object, (.ok, slot, store) =>
    ({ σ with
        store := store
        serials := σ.serials + 1
        occupant := Function.update σ.occupant slot σ.serials
        log := .added caller.uuid slot object σ.serials :: σ.log }, .added .ok slot)
  | _, (status, slot, store) => ({ σ with store := store }, .added status slot)

def acquire (σ : StoreState Obj) (caller : Caller) (slot : Nat) :
    StoreState Obj × Result Obj :=
  match objectStoreAcquire σ.store slot (some caller.uuid) with
  | (status, some object, store) =>
    ({ σ with
        store := store
        holds := ⟨slot, object, caller.uuid, σ.occupant slot⟩ :: σ.holds },
      .acquired status (some object))
  | (status, none, store) => ({ σ with store := store }, .acquired status none)

def release [DecidableEq Obj] (σ : StoreState Obj) (caller : Caller) (slot : Nat)
    (object : Obj) : StoreState Obj × Result Obj :=
  match objectStoreRelease σ.store slot (some object) (some caller.uuid) with
  | (.ok, store) =>
    ({ σ with
        store := store
        holds := σ.holds.eraseP (Hold.isFor slot object caller.uuid) }, .released .ok)
  | (status, store) => ({ σ with store := store }, .released status)

/-- `store_remove` up to the end of `increment_release_count`. -/
def remove (σ : StoreState Obj) (caller : Caller) (slot : Nat) :
    StoreState Obj × Result Obj :=
  if slot ≥ σ.store.slotCount then (σ, .removed .invalidParameter)
  else
    match incrementReleaseCount σ.store with
    | (false, _) => (σ, .removed .ok)
    | (true, store) => ({ σ with store := store }.setRemove caller (.polling slot none), .pending)

/-- One pass of the loop of `store_remove`. -/
def poll (σ : StoreState Obj) (caller : Caller) (slot : Nat) (seen : Option Nat) :
    StoreState Obj :=
  let serial := σ.occupant slot
  match storeRemoveLocked σ.store slot (some caller.uuid) with
  | (.wait, store) =>
    { σ with store := store }.setRemove caller (.polling slot (some (seen.getD serial)))
  | (.leave status none, store) =>
    { σ with store := store }.setRemove caller (.counted status none)
  | (.leave status (some object), store) =>
    ({ σ with store := store }.setRemove caller (.counted status (some (object, serial)))).record
      [.removed caller (seen.getD serial) serial, .deleted serial]

/-- The end of `store_remove`: it reads `object_free` from the store and calls it. When the store
has been freed by then, nothing is known about what is called. -/
def finish (σ : StoreState Obj) (caller : Caller) (status : SaStatus)
    (objectToFree : Option (Obj × Nat)) : StoreState Obj × Result Obj :=
  match objectToFree with
  | none => (σ.setRemove caller .idle, .removed status)
  | some (object, serial) =>
    if σ.destroyed then
      ((σ.setRemove caller .idle).record [.useAfterDestroy caller objectToFree], .pending)
    else ((σ.setRemove caller .idle).record [.objectFree object serial], .removed status)

/-- `store_remove` on slot `i` for shutdown, up to `object_free`. -/
def shutdownRemove (σ : StoreState Obj) (i : Nat) : StoreState Obj :=
  match storeRemoveLocked σ.store i none with
  | (.wait, store) => { σ with store := store }
  | (.leave _ none, store) => { σ with store := store, shutdown := .removing (i + 1) }
  | (.leave _ (some object), store) =>
    { σ with store := store, shutdown := .freeing i (object, σ.occupant i) }.record
      [.deleted (σ.occupant i)]

/-- One section or statement. A section of a remove that finds the store freed is an access to
freed memory. -/
def step [DecidableEq Obj] (σ : StoreState Obj) :
    Action Obj → Option (StoreState Obj × Result Obj)
  | .add caller object => if σ.destroyed then none else some (σ.add caller object)
  | .acquire caller slot => if σ.destroyed then none else some (σ.acquire caller slot)
  | .release caller slot object =>
    if σ.destroyed then none else some (σ.release caller slot object)
  | .remove caller slot =>
    if σ.destroyed then none
    else
      match σ.removes caller with
      | .idle => some (σ.remove caller slot)
      | _ => none
  | .poll caller =>
    match σ.removes caller with
    | .polling slot seen =>
      if σ.destroyed then
        some ((σ.setRemove caller .idle).record [.useAfterDestroy caller none], .pending)
      else some (σ.poll caller slot seen, .pending)
    | _ => none
  | .decrement caller =>
    match σ.removes caller with
    | .counted status objectToFree =>
      if σ.destroyed then
        some ((σ.setRemove caller .idle).record [.useAfterDestroy caller objectToFree], .pending)
      else
        some ({ σ with store := decrementReleaseCount σ.store }.setRemove caller
          (.freeing status objectToFree), .pending)
    | _ => none
  | .finish caller =>
    match σ.removes caller with
    | .freeing status objectToFree => some (σ.finish caller status objectToFree)
    | _ => none
  | .shutdown =>
    match σ.shutdown with
    | .idle =>
      some ({ σ with
        store := { σ.store with isShuttingDown := true }
        shutdown := .draining }, .pending)
    | _ => none
  | .shutdownPoll =>
    match σ.shutdown with
    | .draining =>
      if σ.store.releaseCount = 0 then some ({ σ with shutdown := .removing 0 }, .pending)
      else some (σ, .pending)
    | _ => none
  | .shutdownRemove =>
    match σ.shutdown with
    | .removing i => if i < σ.store.slotCount then some (σ.shutdownRemove i, .pending) else none
    | _ => none
  | .shutdownFree =>
    match σ.shutdown with
    | .freeing i (object, serial) =>
      some ({ σ with shutdown := .removing (i + 1) }.record [.objectFree object serial], .pending)
    | _ => none
  | .shutdownClose =>
    match σ.shutdown with
    | .removing i =>
      if i < σ.store.slotCount then none
      else some ({ σ with destroyed := true, shutdown := .done }, .pending)
    | _ => none

def next [DecidableEq Obj] (σ : StoreState Obj) (a : Action Obj) : Option (StoreState Obj) :=
  (σ.step a).map Prod.fst

/-- Everything that a section can do to the state. -/
inductive Change [DecidableEq Obj] (σ : StoreState Obj) : Action Obj → StoreState Obj → Prop
  | same {a} : Change σ a σ
  | added {caller object slot store'} (hd : σ.destroyed = false)
      (hsd : σ.store.isShuttingDown = false) (hslot : slot = (slotsAllocate σ.store.slots).1)
      (hfills : Fills σ.store slot object caller.uuid store') :
      Change σ (.add caller (some object)) { σ with
        store := store'
        serials := σ.serials + 1
        occupant := Function.update σ.occupant slot σ.serials
        log := .added caller.uuid slot object σ.serials :: σ.log }
  | acquired {caller slot object} (hd : σ.destroyed = false)
      (hsd : σ.store.isShuttingDown = false) (hlt : slot < σ.store.slotCount)
      (hobject : (σ.store.objects slot).object = some object)
      (howner : (σ.store.objects slot).ownerUuid = caller.uuid) :
      Change σ (.acquire caller slot) { σ with
        store := { σ.store with
          objects := Function.update σ.store.objects slot { σ.store.objects slot with
            referenceCount := (σ.store.objects slot).referenceCount + 1 } }
        holds := ⟨slot, object, caller.uuid, σ.occupant slot⟩ :: σ.holds }
  | released {caller slot object} (hd : σ.destroyed = false)
      (hlt : slot < σ.store.slotCount)
      (hobject : (σ.store.objects slot).object = some object)
      (howner : (σ.store.objects slot).ownerUuid = caller.uuid)
      (href : (σ.store.objects slot).referenceCount ≠ 0) :
      Change σ (.release caller slot object) { σ with
        store := { σ.store with
          objects := Function.update σ.store.objects slot { σ.store.objects slot with
            referenceCount := (σ.store.objects slot).referenceCount - 1 } }
        holds := σ.holds.eraseP (Hold.isFor slot object caller.uuid) }
  | removing {caller slot} (hd : σ.destroyed = false) (hsd : σ.store.isShuttingDown = false)
      (hpc : σ.removes caller = .idle) (hlt : slot < σ.store.slotCount) :
      Change σ (.remove caller slot) ({ σ with
        store := { σ.store with releaseCount := σ.store.releaseCount + 1 } }.setRemove caller
          (.polling slot none))
  | waits {caller slot seen object} (hd : σ.destroyed = false)
      (hpc : σ.removes caller = .polling slot seen)
      (hobject : (σ.store.objects slot).object = some object)
      (howner : (σ.store.objects slot).ownerUuid = caller.uuid)
      (href : (σ.store.objects slot).referenceCount ≠ 0) :
      Change σ (.poll caller) (σ.setRemove caller
        (.polling slot (some (seen.getD (σ.occupant slot)))))
  | gaveUp {caller slot seen status} (hd : σ.destroyed = false)
      (hpc : σ.removes caller = .polling slot seen) (hstatus : status ≠ .ok) :
      Change σ (.poll caller) (σ.setRemove caller (.counted status none))
  | deleted {caller slot seen object store'} (hd : σ.destroyed = false)
      (hpc : σ.removes caller = .polling slot seen)
      (howner : (σ.store.objects slot).ownerUuid = caller.uuid)
      (hdel : Deletes σ.store slot object store') :
      Change σ (.poll caller) (({ σ with store := store' }.setRemove caller
        (.counted .ok (some (object, σ.occupant slot)))).record
          [.removed caller (seen.getD (σ.occupant slot)) (σ.occupant slot),
            .deleted (σ.occupant slot)])
  | decremented {caller status objectToFree} (hd : σ.destroyed = false)
      (hpc : σ.removes caller = .counted status objectToFree) :
      Change σ (.decrement caller) ({ σ with
        store := decrementReleaseCount σ.store }.setRemove caller (.freeing status objectToFree))
  | returned {caller status} (hpc : σ.removes caller = .freeing status none) :
      Change σ (.finish caller) (σ.setRemove caller .idle)
  | freed {caller status object serial} (hd : σ.destroyed = false)
      (hpc : σ.removes caller = .freeing status (some (object, serial))) :
      Change σ (.finish caller) ((σ.setRemove caller .idle).record [.objectFree object serial])
  | usedAfterDestroy {a caller o} (ha : a.caller = some caller) (hd : σ.destroyed = true)
      (hpc : (σ.removes caller).usesStore = true) (ho : (σ.removes caller).objectToFree = o) :
      Change σ a ((σ.setRemove caller .idle).record [.useAfterDestroy caller o])
  | shutdown (hpc : σ.shutdown = .idle) :
      Change σ .shutdown { σ with
        store := { σ.store with isShuttingDown := true }
        shutdown := .draining }
  | drained (hpc : σ.shutdown = .draining) (hcount : σ.store.releaseCount = 0) :
      Change σ .shutdownPoll { σ with shutdown := .removing 0 }
  | skipped {i} (hpc : σ.shutdown = .removing i) (hlt : i < σ.store.slotCount)
      (hobject : (σ.store.objects i).object = none) :
      Change σ .shutdownRemove { σ with shutdown := .removing (i + 1) }
  | discarded {i object store'} (hpc : σ.shutdown = .removing i) (hlt : i < σ.store.slotCount)
      (hdel : Deletes σ.store i object store') :
      Change σ .shutdownRemove ({ σ with
        store := store'
        shutdown := .freeing i (object, σ.occupant i) }.record [.deleted (σ.occupant i)])
  | shutdownFreed {i object serial} (hpc : σ.shutdown = .freeing i (object, serial)) :
      Change σ .shutdownFree ({ σ with shutdown := .removing (i + 1) }.record
        [.objectFree object serial])
  | closed {i} (hpc : σ.shutdown = .removing i) (hlt : σ.store.slotCount ≤ i) :
      Change σ .shutdownClose { σ with destroyed := true, shutdown := .done }

section Inversion

variable [DecidableEq Obj] {σ σ' : StoreState Obj} {a : Action Obj}

theorem add_change (hd : σ.destroyed = false) (caller : Caller) (object : Option Obj) :
    Change σ (.add caller object) (σ.add caller object).1 := by
  rcases objectStoreAdd_cases σ.store object (some caller.uuid) with
    ⟨status, slot, h, hne⟩ | ⟨o, u, slot, store', rfl, hu, h, hsd, hslot, hfills⟩
  · have he : (σ.add caller object).1 = σ := by
      unfold add
      rw [h]
      cases status with
      | ok => exact (hne rfl).elim
      | _ => cases object <;> rfl
    rw [he]
    exact .same
  · cases hu
    have he : (σ.add caller (some o)).1 = { σ with
        store := store'
        serials := σ.serials + 1
        occupant := Function.update σ.occupant slot σ.serials
        log := .added caller.uuid slot o σ.serials :: σ.log } := by
      unfold add
      rw [h]
    rw [he]
    exact .added hd hsd hslot hfills

theorem acquire_change (hd : σ.destroyed = false) (caller : Caller) (slot : Nat) :
    Change σ (.acquire caller slot) (σ.acquire caller slot).1 := by
  rcases objectStoreAcquire_cases σ.store slot (some caller.uuid) with
    ⟨status, h, -⟩ | ⟨o, u, hu, hlt, hsd, hobject, howner, h⟩
  · have he : (σ.acquire caller slot).1 = σ := by
      unfold acquire
      rw [h]
    rw [he]
    exact .same
  · cases hu
    unfold acquire
    rw [h]
    exact .acquired hd hsd hlt hobject howner

theorem release_change (hd : σ.destroyed = false) (caller : Caller) (slot : Nat)
    (object : Obj) : Change σ (.release caller slot object) (σ.release caller slot object).1 := by
  rcases objectStoreRelease_cases σ.store slot (some object) (some caller.uuid) with
    ⟨status, h, hne⟩ | ⟨o, u, ho, hu, hlt, hobject, howner, href, h⟩
  · have he : (σ.release caller slot object).1 = σ := by
      unfold release
      rw [h]
      cases status with
      | ok => exact (hne rfl).elim
      | _ => rfl
    rw [he]
    exact .same
  · cases ho
    cases hu
    unfold release
    rw [h]
    exact .released hd hlt hobject howner href

theorem remove_change (hd : σ.destroyed = false) {caller : Caller}
    (hpc : σ.removes caller = .idle) (slot : Nat) :
    Change σ (.remove caller slot) (σ.remove caller slot).1 := by
  unfold remove incrementReleaseCount
  split_ifs with h₁ h₂
  · exact .same
  · exact .same
  · exact .removing hd (by simpa using h₂) hpc (by omega)

theorem poll_change (hd : σ.destroyed = false) {caller : Caller}
    (hpc : σ.removes caller = .polling slot seen) :
    Change σ (.poll caller) (σ.poll caller slot seen) := by
  rcases storeRemoveLocked_cases σ.store slot (some caller.uuid) with
    ⟨status, h, hne, -⟩ | ⟨o, h, hobject, howner, href⟩ | ⟨o, store', h, howner, hdel⟩
  · simp only [poll, h]
    exact .gaveUp hd hpc hne
  · simp only [poll, h]
    exact .waits hd hpc hobject (howner _ rfl) href
  · simp only [poll, h]
    exact .deleted hd hpc (howner _ rfl) hdel

theorem finish_change {caller : Caller} (hpc : σ.removes caller = .freeing status o) :
    Change σ (.finish caller) (σ.finish caller status o).1 := by
  unfold finish
  split
  · exact .returned hpc
  · split_ifs with hd
    · exact .usedAfterDestroy rfl hd (by rw [hpc]; rfl) (by rw [hpc]; rfl)
    · exact .freed (by simpa using hd) hpc

theorem shutdownRemove_change (hpc : σ.shutdown = .removing i) (hlt : i < σ.store.slotCount) :
    Change σ .shutdownRemove (σ.shutdownRemove i) := by
  rcases storeRemoveLocked_cases σ.store i none with
    ⟨status, h, -, hobject⟩ | ⟨o, h, -⟩ | ⟨o, store', h, -, hdel⟩
  · simp only [shutdownRemove, h]
    refine .skipped hpc hlt (hobject.resolve_right ?_)
    rintro ⟨u, hu, -⟩
    cases hu
  · simp only [shutdownRemove, h]
    exact .same
  · simp only [shutdownRemove, h]
    exact .discarded hpc hlt hdel

theorem step_change {r : Result Obj} (h : σ.step a = some (σ', r)) : Change σ a σ' := by
  cases a with
  | add caller object =>
    simp only [step, Option.ite_none_left_eq_some, Bool.not_eq_true, Option.some.injEq] at h
    obtain ⟨hd, he⟩ := h
    have hσ : (σ.add caller object).1 = σ' := congrArg Prod.fst he
    exact hσ ▸ add_change hd caller object
  | acquire caller slot =>
    simp only [step, Option.ite_none_left_eq_some, Bool.not_eq_true, Option.some.injEq] at h
    obtain ⟨hd, he⟩ := h
    have hσ : (σ.acquire caller slot).1 = σ' := congrArg Prod.fst he
    exact hσ ▸ acquire_change hd caller slot
  | release caller slot object =>
    simp only [step, Option.ite_none_left_eq_some, Bool.not_eq_true, Option.some.injEq] at h
    obtain ⟨hd, he⟩ := h
    have hσ : (σ.release caller slot object).1 = σ' := congrArg Prod.fst he
    exact hσ ▸ release_change hd caller slot object
  | remove caller slot =>
    simp only [step, Option.ite_none_left_eq_some, Bool.not_eq_true] at h
    obtain ⟨hd, he⟩ := h
    split at he
    · rename_i hpc
      have hσ : (σ.remove caller slot).1 = σ' := congrArg Prod.fst (Option.some.inj he)
      exact hσ ▸ remove_change hd hpc slot
    · cases he
  | poll caller =>
    simp only [step] at h
    split at h
    · rename_i hpc
      split_ifs at h with hd
      · cases h
        exact .usedAfterDestroy rfl hd (by rw [hpc]; rfl) (by rw [hpc]; rfl)
      · cases h
        exact poll_change (by simpa using hd) hpc
    · cases h
  | decrement caller =>
    simp only [step] at h
    split at h
    · rename_i hpc
      split_ifs at h with hd
      · cases h
        exact .usedAfterDestroy rfl hd (by rw [hpc]; rfl) (by rw [hpc]; rfl)
      · cases h
        exact .decremented (by simpa using hd) hpc
    · cases h
  | finish caller =>
    simp only [step] at h
    split at h
    · rename_i status o hpc
      have hσ : (σ.finish caller status o).1 = σ' := congrArg Prod.fst (Option.some.inj h)
      exact hσ ▸ finish_change hpc
    · cases h
  | shutdown =>
    simp only [step] at h
    split at h
    · rename_i hpc
      cases h
      exact .shutdown hpc
    · cases h
  | shutdownPoll =>
    simp only [step] at h
    split at h
    · rename_i hpc
      split_ifs at h with hc
      · cases h
        exact .drained hpc hc
      · cases h
        exact .same
    · cases h
  | shutdownRemove =>
    simp only [step] at h
    split at h
    · rename_i i hpc
      split_ifs at h with hlt
      cases h
      exact shutdownRemove_change hpc hlt
    · cases h
  | shutdownFree =>
    simp only [step] at h
    split at h
    · rename_i hpc
      cases h
      exact .shutdownFreed hpc
    · cases h
  | shutdownClose =>
    simp only [step] at h
    split at h
    · rename_i hpc
      split_ifs at h with hlt
      cases h
      exact .closed hpc (by omega)
    · cases h

theorem next_change (h : σ.next a = some σ') : Change σ a σ' := by
  obtain ⟨⟨σ'', r⟩, hs, rfl⟩ := Option.map_eq_some_iff.1 h
  exact step_change hs

theorem Change.removes_idle (h : Change σ a σ') (hidle : σ.removes c = .idle)
    (ha : ∀ slot, a ≠ .remove c slot) : σ'.removes c = .idle := by
  cases h with
  | removing =>
    refine (Function.update_of_ne ?_ _ _).trans hidle
    rintro rfl
    exact ha _ rfl
  | waits _ hpc | gaveUp _ hpc | deleted _ hpc | decremented _ hpc =>
    refine (Function.update_of_ne ?_ _ _).trans hidle
    rintro rfl
    rw [hidle] at hpc
    cases hpc
  | returned | freed | usedAfterDestroy =>
    simp only [record_removes, setRemove_removes, Function.update_apply]
    split_ifs
    · rfl
    · exact hidle
  | _ => exact hidle

theorem exec_removes_idle {as : List (Action Obj)} (hidle : σ.removes c = .idle)
    (has : ∀ slot, .remove c slot ∉ as) (h : Transition.exec next σ as = some σ') :
    σ'.removes c = .idle := by
  induction as generalizing σ with
  | nil => cases h; exact hidle
  | cons a as ih =>
    obtain ⟨σ₁, ha, hrun⟩ := Transition.exec_cons.1 h
    refine ih ((next_change ha).removes_idle hidle fun slot he => ?_) (fun slot hmem => ?_) hrun
    · exact has slot (he ▸ List.mem_cons_self)
    · exact has slot (List.mem_cons_of_mem _ hmem)

end Inversion

end StoreState

end TaSecureApi
