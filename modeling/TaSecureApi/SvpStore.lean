import TaSecureApi.Client
import TaSecureApi.StoreInvariant

namespace TaSecureApi
set_option autoImplicit true

/-- `struct svp_s`. Its mutex is recursive: the thread that has it, and how often more than once. -/
structure Svp where
  buffer : Option SvpBuffer
  mutex : Option (Caller × Nat)

/-- `svp_create_buffer`. For memory that is not valid it returns an error status as its `bool`: it
succeeds without a buffer. -/
def svpCreateBuffer (svpMemory size : Nat) : Option SvpBuffer :=
  if h : memoryIsValid svpMemory size = true then some ⟨svpMemory, size, h⟩ else none

def svpCreate (svpMemory size : Nat) : Svp := ⟨svpCreateBuffer svpMemory size, none⟩

/-- What `svp_release_buffer` hands out: memory and size, unless the buffer is `NULL`. -/
def svpReleaseBuffer (buffer : Option SvpBuffer) : Option (Nat × Nat) :=
  buffer.map fun b => (b.svpMemory, b.size)

/-- `svp_lock`; it waits, as `none`, while another thread has the mutex. -/
def svpLock (caller : Caller) (svp : Svp) : Option Svp :=
  match svp.mutex with
  | none => some { svp with mutex := some (caller, 0) }
  | some (owner, n) =>
    if owner = caller then some { svp with mutex := some (owner, n + 1) } else none

def svpUnlock (caller : Caller) (svp : Svp) : Svp :=
  match svp.mutex with
  | none => svp
  | some (owner, n) =>
    if owner = caller then
      { svp with mutex := if n = 0 then none else some (owner, n - 1) }
    else svp

/-- Where `svp_store_release` stands after `object_store_acquire`. From `unlocking` on it has
written its outputs; the last three are in `store_remove`. -/
inductive ReleasePc
  | locking
  | detaching
  | unlocking (outputs : Nat × Nat)
  | unreferencing (outputs : Nat × Nat)
  | removing (outputs : Nat × Nat)
  | polling (outputs : Nat × Nat)
  | uncounting (outputs : Nat × Nat) (status : SaStatus)
  deriving DecidableEq

/-- Where a command stands that uses SVP buffers: between two of them, or in
`svp_store_acquire_exclusive` or `svp_store_release_exclusive` for one. -/
inductive SvpCommandPc
  | between
  | locking (slot svp : Nat)
  | unreferencing (slot svp : Nat)
  deriving DecidableEq

/-- The call that a caller makes. A command has the buffers that it acquired, with their slots, the
last one first. -/
inductive SvpCall
  | idle
  | release (slot svp : Nat) (pc : ReleasePc)
  | command (buffers : List (Nat × Nat)) (pc : SvpCommandPc)
  deriving DecidableEq

/-- A call of `svp_store_release` that has returned: the object that it acquired, its status and,
where it wrote them, its outputs. -/
structure SvpReturn where
  caller : Caller
  slot : Nat
  svp : Option Nat
  status : SaStatus
  outputs : Option (Nat × Nat)
  deriving DecidableEq

/-- An SVP store with the calls that are running on it. The objects are numbered in the order of
their creation, and `created` has the memory and the size of each; `returns` has the newest first.
-/
structure SvpState where
  store : ObjectStore Nat
  svps : Nat → Svp
  created : List (Nat × Nat)
  calls : Caller → SvpCall
  returns : List SvpReturn

/-- The start of a call and its steps from one critical section to the next. A command may acquire
buffers, use them and give them back, the last one first, as long as it has all back before it
returns. -/
inductive SvpAction
  | create (caller : Caller) (svpMemory size : Nat)
  | release (caller : Caller) (slot : Nat)
  | command (caller : Caller)
  | acquire (caller : Caller) (slot : Nat)
  | giveBack (caller : Caller)
  | leave (caller : Caller)
  | proceed (caller : Caller)
  deriving DecidableEq

def SvpState.init (store : ObjectStore Nat) : SvpState where
  store := store
  svps := fun _ => ⟨none, none⟩
  created := []
  calls := fun _ => .idle
  returns := []

namespace SvpState

def setCall (σ : SvpState) (caller : Caller) (call : SvpCall) : SvpState :=
  { σ with calls := Function.update σ.calls caller call }

def setSvp (σ : SvpState) (i : Nat) (svp : Svp) : SvpState :=
  { σ with svps := Function.update σ.svps i svp }

/-- A call of `svp_store_release` returns. -/
def returned (σ : SvpState) (r : SvpReturn) : SvpState :=
  { σ.setCall r.caller .idle with returns := r :: σ.returns }

/-- `svp_store_create`. -/
def create (σ : SvpState) (caller : Caller) (svpMemory size : Nat) : SvpState :=
  if svpMemory = 0 then σ
  else
    match objectStoreAdd σ.store (some σ.created.length) (some caller.uuid) with
    | (.ok, _, store) =>
      { σ with
        store := store
        svps := Function.update σ.svps σ.created.length (svpCreate svpMemory size)
        created := σ.created ++ [(svpMemory, size)] }
    | (_, _, store) => { σ with store := store }

/-- `svp_store_release` up to the end of `object_store_acquire`. -/
def release (σ : SvpState) (caller : Caller) (slot : Nat) : SvpState :=
  match objectStoreAcquire σ.store slot (some caller.uuid) with
  | (_, some svp, store) => { σ with store := store }.setCall caller (.release slot svp .locking)
  | (status, none, store) =>
    { σ with store := store }.returned ⟨caller, slot, none, status, none⟩

/-- `object_store_acquire` for a command. -/
def acquire (σ : SvpState) (caller : Caller) (slot : Nat) (buffers : List (Nat × Nat)) :
    SvpState :=
  match objectStoreAcquire σ.store slot (some caller.uuid) with
  | (_, some svp, store) =>
    { σ with store := store }.setCall caller (.command buffers (.locking slot svp))
  | (_, none, store) => { σ with store := store }

/-- `svp_release_buffer`. When it fails, the status that is returned is that of the acquire. -/
def detach (σ : SvpState) (caller : Caller) (slot svp : Nat) : SvpState :=
  match svpReleaseBuffer (σ.svps svp).buffer with
  | none => σ.returned ⟨caller, slot, some svp, .ok, none⟩
  | some outputs =>
    (σ.setSvp svp { σ.svps svp with buffer := none }).setCall caller
      (.release slot svp (.unlocking outputs))

/-- `object_store_release` for `svp_store_release`. -/
def unreference (σ : SvpState) (caller : Caller) (slot svp : Nat) (outputs : Nat × Nat) :
    SvpState :=
  match objectStoreRelease σ.store slot (some svp) (some caller.uuid) with
  | (.ok, store) =>
    { σ with store := store }.setCall caller (.release slot svp (.removing outputs))
  | (status, store) =>
    { σ with store := store }.returned ⟨caller, slot, some svp, status, some outputs⟩

/-- `store_remove` up to the end of `increment_release_count`. -/
def remove (σ : SvpState) (caller : Caller) (slot svp : Nat) (outputs : Nat × Nat) : SvpState :=
  if slot ≥ σ.store.slotCount then
    σ.returned ⟨caller, slot, some svp, .invalidParameter, some outputs⟩
  else
    match incrementReleaseCount σ.store with
    | (false, _) => σ.returned ⟨caller, slot, some svp, .ok, some outputs⟩
    | (true, store) =>
      { σ with store := store }.setCall caller (.release slot svp (.polling outputs))

/-- One pass of the loop of `store_remove`. -/
def poll (σ : SvpState) (caller : Caller) (slot svp : Nat) (outputs : Nat × Nat) : SvpState :=
  match storeRemoveLocked σ.store slot (some caller.uuid) with
  | (.wait, store) => { σ with store := store }
  | (.leave status _, store) =>
    { σ with store := store }.setCall caller (.release slot svp (.uncounting outputs status))

/-- `decrement_release_count`, after which the object is freed and the call returns. -/
def uncount (σ : SvpState) (caller : Caller) (slot svp : Nat) (outputs : Nat × Nat)
    (status : SaStatus) : SvpState :=
  { σ with store := decrementReleaseCount σ.store }.returned
    ⟨caller, slot, some svp, status, some outputs⟩

/-- The next section of a call of `svp_store_release`. -/
def proceedRelease (σ : SvpState) (caller : Caller) (slot svp : Nat) : ReleasePc → Option SvpState
  | .locking =>
    (svpLock caller (σ.svps svp)).map fun s =>
      (σ.setSvp svp s).setCall caller (.release slot svp .detaching)
  | .detaching => some (σ.detach caller slot svp)
  | .unlocking outputs =>
    some ((σ.setSvp svp (svpUnlock caller (σ.svps svp))).setCall caller
      (.release slot svp (.unreferencing outputs)))
  | .unreferencing outputs => some (σ.unreference caller slot svp outputs)
  | .removing outputs => some (σ.remove caller slot svp outputs)
  | .polling outputs => some (σ.poll caller slot svp outputs)
  | .uncounting outputs status => some (σ.uncount caller slot svp outputs status)

/-- The next section of a command, where it is in one of its exclusive operations. -/
def proceedCommand (σ : SvpState) (caller : Caller) (buffers : List (Nat × Nat)) :
    SvpCommandPc → Option SvpState
  | .between => none
  | .locking slot svp =>
    (svpLock caller (σ.svps svp)).map fun s =>
      (σ.setSvp svp s).setCall caller (.command ((slot, svp) :: buffers) .between)
  | .unreferencing slot svp =>
    some ({ σ with
      store := (objectStoreRelease σ.store slot (some svp) (some caller.uuid)).2 }.setCall caller
        (.command buffers .between))

/-- One step. A step that waits for a mutex, or that does not come next for its caller, is not
enabled. -/
def step (σ : SvpState) : SvpAction → Option SvpState
  | .create caller svpMemory size =>
    if σ.calls caller = .idle then some (σ.create caller svpMemory size) else none
  | .release caller slot => if σ.calls caller = .idle then some (σ.release caller slot) else none
  | .command caller =>
    if σ.calls caller = .idle then some (σ.setCall caller (.command [] .between)) else none
  | .acquire caller slot =>
    match σ.calls caller with
    | .command buffers .between => some (σ.acquire caller slot buffers)
    | _ => none
  | .giveBack caller =>
    match σ.calls caller with
    | .command ((slot, svp) :: buffers) .between =>
      some ((σ.setSvp svp (svpUnlock caller (σ.svps svp))).setCall caller
        (.command buffers (.unreferencing slot svp)))
    | _ => none
  | .leave caller =>
    if σ.calls caller = .command [] .between then some (σ.setCall caller .idle) else none
  | .proceed caller =>
    match σ.calls caller with
    | .idle => none
    | .release slot svp pc => σ.proceedRelease caller slot svp pc
    | .command buffers pc => σ.proceedCommand caller buffers pc

end SvpState

end TaSecureApi
