import TaSecureApi.StoreCalls
import TaSecureApi.StoreInvariant

namespace TaSecureApi
set_option autoImplicit true
open Programs StoreCalls Function

def StoreId.client : StoreId → Option Nat
  | .clients => none
  | .keys client | .ciphers client | .macs client | .svps client => some client

/-- The stores with the calls that are running on them, the mutexes of what is stored, with the
caller that has locked each and how often it has locked it once more, and the number of objects made
so far. -/
structure TaEnv where
  stores : StoreId → StoreState Nat
  mutexes : StoreId → Nat → Option (Caller × Nat)
  objects : Nat

/-- `NUM_CLIENT_SLOTS`, and as many slots in each store of a client. -/
def numSlots : UInt64 := 256

theorem objectStoreInit_numSlots :
    (objectStoreInit numSlots : Option (ObjectStore Nat)).isSome := rfl

def newStore : StoreState Nat := .init ((objectStoreInit numSlots).get objectStoreInit_numSlots)

namespace TaEnv

/-- The stores of a client that has not been made are not there. -/
def init : TaEnv where
  stores
    | .clients => newStore
    | _ => { newStore with destroyed := true }
  mutexes := fun _ _ => none
  objects := 0

theorem init_stores (store : StoreId) :
    ∃ d, init.stores store = { newStore with destroyed := d } := by
  cases store with
  | clients => exact ⟨false, rfl⟩
  | keys | ciphers | macs | svps => exact ⟨true, rfl⟩

def setStore (σ : TaEnv) (store : StoreId) (state : StoreState Nat) : TaEnv :=
  { σ with stores := update σ.stores store state }

def setMutex (σ : TaEnv) (store : StoreId) (object : Nat) (locked : Option (Caller × Nat)) :
    TaEnv :=
  { σ with mutexes := update σ.mutexes store (update (σ.mutexes store) object locked) }

def acquired : Result Nat → Option Nat
  | .acquired _ object => object
  | _ => none

def added : Result Nat → Option Nat
  | .added .ok slot => some slot
  | _ => none

def answer (σ : TaEnv) (store : StoreId) (a : Action Nat) (result : Result Nat → α) :
    Option (TaEnv × Option α) :=
  ((σ.stores store).step a).map fun p => (σ.setStore store p.1, some (result p.2))

def wait (σ : TaEnv) (store : StoreId) (a : Action Nat) : Option (TaEnv × Option α) :=
  ((σ.stores store).step a).map fun p => (σ.setStore store p.1, none)

/-- The next section of `object_store_remove`. -/
def remove (σ : TaEnv) (c : Caller) (store : StoreId) (slot : Nat) :
    Option (TaEnv × Option (Option Nat)) :=
  match (σ.stores store).removes c with
  | .idle =>
    ((σ.stores store).step (.remove c slot)).map fun p =>
      (σ.setStore store p.1, if p.2 = .pending then none else some none)
  | .polling _ _ => σ.wait store (.poll c)
  | .counted _ _ => σ.wait store (.decrement c)
  | .freeing _ objectToFree => σ.answer store (.finish c) fun _ => objectToFree.map Prod.fst

/-- The next section of `object_store_shutdown`. -/
def shutdown (σ : TaEnv) (store : StoreId) : Option (TaEnv × Option Unit) :=
  match (σ.stores store).shutdown with
  | .idle => σ.wait store .shutdown
  | .draining => σ.wait store .shutdownPoll
  | .removing i =>
    if i < (σ.stores store).store.slotCount then σ.wait store .shutdownRemove
    else σ.answer store .shutdownClose fun _ => ()
  | .freeing _ _ => σ.wait store .shutdownFree
  | .done => none

/-- The mutexes are recursive, and are unlocked by the caller that has locked them. -/
def lock (σ : TaEnv) (c : Caller) (store : StoreId) (object : Nat) :
    Option (TaEnv × Option Unit) :=
  match σ.mutexes store object with
  | none => some (σ.setMutex store object (some (c, 0)), some ())
  | some (owner, again) =>
    if owner = c then some (σ.setMutex store object (some (c, again + 1)), some ())
    else some (σ, none)

def unlock (σ : TaEnv) (c : Caller) (store : StoreId) (object : Nat) :
    Option (TaEnv × Option Unit) :=
  match σ.mutexes store object with
  | none => none
  | some (owner, again) =>
    if owner = c then
      some (σ.setMutex store object (if again = 0 then none else some (c, again - 1)), some ())
    else none

/-- `client_init` makes the stores of the new client. -/
def clientInit (σ : TaEnv) : TaEnv where
  stores store := if store.client = some σ.objects then newStore else σ.stores store
  mutexes := σ.mutexes
  objects := σ.objects + 1

theorem clientInit_stores (σ : TaEnv) (store : StoreId) : σ.clientInit.stores store =
    if store.client = some σ.objects then newStore else σ.stores store := rfl

/-- What a call of a thread does to the stores. A store that has been freed is not there for it. -/
def perform (σ : TaEnv) (c : Caller) :
    (call : StoreCall) → Bool → Option (TaEnv × Option call.Answer)
  | .acquire store slot, _ => σ.answer store (.acquire c slot) acquired
  | .release store slot object, _ => σ.answer store (.release c slot object) fun _ => ()
  | .add store object, _ => σ.answer store (.add c (some object)) added
  | .remove store slot, _ => σ.remove c store slot
  | .shutdown store, _ => σ.shutdown store
  | .lock store object, _ => σ.lock c store object
  | .unlock store object, _ => σ.unlock c store object
  | .create, true => some ({ σ with objects := σ.objects + 1 }, some (some σ.objects))
  | .clientInit, true => some (σ.clientInit, some (some σ.objects))
  | .create, false | .clientInit, false => some (σ, some none)
  | .check, choice => some (σ, some choice)

end TaEnv

/-- What a thread has from the stores: a reference, a lock, a client that it has made and that is in
no slot yet, or a store of a client that is in no slot any more, which it has to shut down. -/
inductive Holding
  | reference (store : StoreId) (slot object : Nat)
  | locked (store : StoreId) (object : Nat)
  | made (client : Nat)
  | gone (store : StoreId)
  deriving DecidableEq

/-- The stores that `client_free` shuts down. -/
def clientStores (client : Nat) : List Holding :=
  [.gone (.keys client), .gone (.ciphers client), .gone (.macs client), .gone (.svps client)]

/-- A store can be reached: that of the clients, and those of a client that is referenced. -/
def ReachesStore (hand : List Holding) (store : StoreId) : Prop :=
  ∀ client ∈ store.client, ∃ slot, .reference .clients slot client ∈ hand

def Allows (hand : List Holding) : StoreCall → Prop
  | .acquire store _ => ReachesStore hand store
  | .release store slot object => ReachesStore hand store ∧ .reference store slot object ∈ hand
  | .add .clients object => .made object ∈ hand
  | .add store _ => ReachesStore hand store
  | .remove store slot => ReachesStore hand store ∧ ∀ object, .reference store slot object ∉ hand
  | .shutdown store => .gone store ∈ hand
  | .lock store object => ReachesStore hand store ∧ ∃ slot, .reference store slot object ∈ hand
  | .unlock store object =>
    ReachesStore hand store ∧ .locked store object ∈ hand ∧
      ∃ slot, .reference store slot object ∈ hand
  | .create | .clientInit | .check => True

def handAfter (hand : List Holding) : (call : StoreCall) → call.Answer → List Holding
  | .acquire store slot, some object => .reference store slot object :: hand
  | .release store slot object, _ => hand.erase (.reference store slot object)
  | .add .clients object, some _ => hand.erase (.made object)
  | .add .clients object, none => clientStores object ++ hand.erase (.made object)
  | .remove .clients _, some client => clientStores client ++ hand
  | .shutdown store, _ => hand.erase (.gone store)
  | .lock store object, _ => .locked store object :: hand
  | .unlock store object, _ => hand.erase (.locked store object)
  | .clientInit, some client => .made client :: hand
  | _, _ => hand

def taContract : Contract StoreCall.Answer Holding := ⟨Allows, handAfter⟩

abbrev TaState := Pool TaEnv Caller Holding StoreCall.Answer Leave

abbrev TaMove := Move Caller Bool TaCommand

namespace TaState

def init : TaState where
  env := .init
  rest := fun _ => .done .breaks
  waiting := fun _ => none
  hand := fun _ => []
  left := fun _ => []
  results := []

def step : TaState → TaMove → Option TaState :=
  Pool.step taContract (fun _ command => command.calls) TaEnv.perform

end TaState

end TaSecureApi
