import TaSecureApi.KeyCommands

namespace TaSecureApi
set_option autoImplicit true
open Wp

/-- A key that was created: with the rights that were asked for, from the key whose rights restrict
it, and from another key that was used as well. -/
structure Creation where
  requested : SaRights
  parent : Option StoredKey
  other : Option StoredKey
  child : StoredKey

/-- A key store, the readings made so far, and, latest first, the keys created and the events of the
commands that succeeded. -/
structure KeyState where
  store : KeyStore
  clock : Nat
  created : List Creation
  logs : List (List KeyEvent)

/-- The commands that put keys into the store or take them out. `add` is a key without an ancestry:
imported or generated. -/
inductive KeyAction
  | add (callerUuid : SaUuid) (storedKey : StoredKey)
  | remove (callerUuid : SaUuid) (key : Nat)
  | deriveRootKeyLadder (callerUuid : SaUuid) (rights : SaRights)
      (parameters : Except SaStatus Unit) (ladder : Except SaStatus (Vector UInt8 16))
  | deriveAnsiX963 (callerUuid : SaUuid) (rights : SaRights) (parent : Nat)
      (parameters : Except SaStatus Unit) (kdf : List UInt8 → Except SaStatus (List UInt8))
  | deriveConcat (callerUuid : SaUuid) (rights : SaRights) (parent : Nat)
      (parameters : Except SaStatus Unit) (kdf : List UInt8 → Except SaStatus (List UInt8))
  | deriveCmac (callerUuid : SaUuid) (rights : SaRights) (parent : Nat)
      (parameters : Except SaStatus Unit) (kdf : List UInt8 → Except SaStatus (List UInt8))
  | deriveHkdf (callerUuid : SaUuid) (rights : SaRights) (parent : Nat)
      (parameters : Except SaStatus Unit) (kdf : List UInt8 → Except SaStatus (List UInt8))
  | deriveNetflix (callerUuid : SaUuid) (rights : SaRights) (kenc khmac : Nat)
      (kdf : List UInt8 → List UInt8 → Except SaStatus (Vector UInt8 32))
  | unwrapAes (callerUuid : SaUuid) (request : UnwrapRequest) (parameters : Except SaStatus Unit)
      (decrypt : List UInt8 → Except SaStatus (List UInt8))
  | unwrapChacha20 (callerUuid : SaUuid) (request : UnwrapRequest)
      (parameters : Except SaStatus Unit) (decrypt : List UInt8 → Except SaStatus (List UInt8))
  | unwrapRsa (callerUuid : SaUuid) (request : UnwrapRequest) (inLength : Nat)
      (decrypt : List UInt8 → Except SaStatus (List UInt8))
  | unwrapEc (callerUuid : SaUuid) (request : UnwrapRequest) (parameters : Except SaStatus Unit)
      (inLength offset keyLength : Nat) (decrypt : List UInt8 → Except SaStatus (List UInt8))
  | exchangeDh (callerUuid : SaUuid) (rights : SaRights) (privateKey : Nat)
      (derive : List UInt8 → Except SaStatus (List UInt8))
  | exchangeEcdh (callerUuid : SaUuid) (rights : SaRights) (privateKey : Nat)
      (derive : List UInt8 → Except SaStatus (List UInt8))
  | exchangeNetflixDh (callerUuid : SaUuid) (request : NetflixRequest) (kdf : NetflixKdf)

namespace KeyState

def start (store : KeyStore) : KeyState := ⟨store, 0, [], []⟩

def keyAt (σ : KeyState) (key : Nat) : Option StoredKey := (σ.store.objects key).object

/-- A command that creates one key, and the import of the key into the store. -/
def create (σ : KeyState) (command : Command StoredKey) (callerUuid : SaUuid)
    (requested : SaRights) (parent other : Option Nat) : KeyState :=
  match command.run.run ⟨σ.clock, []⟩ with
  | (.error _, s) => { σ with clock := s.clock }
  | (.ok child, s) =>
    match keyStoreImportStoredKey σ.store child callerUuid with
    | (.ok, _, store) =>
      { store := store
        clock := s.clock
        created := ⟨requested, parent.bind σ.keyAt, other.bind σ.keyAt, child⟩ :: σ.created
        logs := s.log :: σ.logs }
    | (_, _, store) => { σ with store := store, clock := s.clock }

/-- The imports of the exchange of Netflix; keys imported before one fails are removed. -/
def importNetflix (store : KeyStore) (callerUuid : SaUuid) (keys : NetflixKeys) :
    Bool × KeyStore :=
  match keyStoreImportStoredKey store keys.enc callerUuid with
  | (.ok, ke, store) =>
    match keyStoreImportStoredKey store keys.hmac callerUuid with
    | (.ok, kh, store) =>
      match keyStoreImportStoredKey store keys.wrap callerUuid with
      | (.ok, _, store) => (true, store)
      | (_, _, store) =>
        (false, (keyStoreRemove (keyStoreRemove store ke callerUuid).2 kh callerUuid).2)
    | (_, _, store) => (false, (keyStoreRemove store ke callerUuid).2)
  | (_, _, store) => (false, store)

def exchangeNetflixDh (world : World) (σ : KeyState) (callerUuid : SaUuid)
    (request : NetflixRequest) (kdf : NetflixKdf) : KeyState :=
  let command := taSaKeyExchangeNetflixDh world σ.store callerUuid request kdf
  match command.run.run ⟨σ.clock, []⟩ with
  | (.error _, s) => { σ with clock := s.clock }
  | (.ok keys, s) =>
    match importNetflix σ.store callerUuid keys with
    | (true, store) =>
      let parent := σ.keyAt request.inKw
      let other := σ.keyAt request.privateKey
      { store := store
        clock := s.clock
        created := ⟨request.rights, parent, other, keys.wrap⟩ ::
          ⟨request.rightsKh, parent, other, keys.hmac⟩ ::
          ⟨request.rightsKe, parent, other, keys.enc⟩ :: σ.created
        logs := s.log :: σ.logs }
    | (false, store) => { σ with store := store, clock := s.clock }

def step (pkcs8 : Pkcs8) (world : World) (σ : KeyState) : KeyAction → Option KeyState
  | .add callerUuid storedKey =>
    some { σ with store := (keyStoreImportStoredKey σ.store storedKey callerUuid).2.2 }
  | .remove callerUuid key =>
    some { σ with store := (keyStoreRemove σ.store key callerUuid).2 }
  | .deriveRootKeyLadder callerUuid rights parameters ladder =>
    some (σ.create (taSaKeyDeriveRootKeyLadder rights parameters ladder) callerUuid rights none
      none)
  | .deriveAnsiX963 callerUuid rights parent parameters kdf =>
    some (σ.create (taSaKeyDeriveAnsiX963 world σ.store callerUuid rights parent parameters kdf)
      callerUuid rights parent none)
  | .deriveConcat callerUuid rights parent parameters kdf =>
    some (σ.create (taSaKeyDeriveConcat world σ.store callerUuid rights parent parameters kdf)
      callerUuid rights parent none)
  | .deriveCmac callerUuid rights parent parameters kdf =>
    some (σ.create (taSaKeyDeriveCmac world σ.store callerUuid rights parent parameters kdf)
      callerUuid rights parent none)
  | .deriveHkdf callerUuid rights parent parameters kdf =>
    some (σ.create (taSaKeyDeriveHkdf world σ.store callerUuid rights parent parameters kdf)
      callerUuid rights parent none)
  | .deriveNetflix callerUuid rights kenc khmac kdf =>
    some (σ.create (taSaKeyDeriveNetflix world σ.store callerUuid rights kenc khmac kdf)
      callerUuid rights kenc khmac)
  | .unwrapAes callerUuid request parameters decrypt =>
    some (σ.create (taSaKeyUnwrapAes world σ.store pkcs8 callerUuid request parameters decrypt)
      callerUuid request.rights request.wrappingKey none)
  | .unwrapChacha20 callerUuid request parameters decrypt =>
    some (σ.create (taSaKeyUnwrapChacha20 world σ.store pkcs8 callerUuid request parameters
      decrypt) callerUuid request.rights request.wrappingKey none)
  | .unwrapRsa callerUuid request inLength decrypt =>
    some (σ.create (taSaKeyUnwrapRsa world σ.store pkcs8 callerUuid request inLength decrypt)
      callerUuid request.rights request.wrappingKey none)
  | .unwrapEc callerUuid request parameters inLength offset keyLength decrypt =>
    some (σ.create (taSaKeyUnwrapEc world σ.store pkcs8 callerUuid request parameters inLength
      offset keyLength decrypt) callerUuid request.rights request.wrappingKey none)
  | .exchangeDh callerUuid rights privateKey derive =>
    some (σ.create (taSaKeyExchangeDh world σ.store callerUuid rights privateKey derive)
      callerUuid rights privateKey none)
  | .exchangeEcdh callerUuid rights privateKey derive =>
    some (σ.create (taSaKeyExchangeEcdh world σ.store callerUuid rights privateKey derive)
      callerUuid rights privateKey none)
  | .exchangeNetflixDh callerUuid request kdf =>
    some (σ.exchangeNetflixDh world callerUuid request kdf)

end KeyState

end TaSecureApi
