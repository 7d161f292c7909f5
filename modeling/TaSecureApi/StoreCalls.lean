import TaSecureApi.Lib.Programs

namespace TaSecureApi
set_option autoImplicit true
open Programs

/-- The store of the clients, and the stores of each client. -/
inductive StoreId
  | clients
  | keys (client : Nat)
  | ciphers (client : Nat)
  | macs (client : Nat)
  | svps (client : Nat)
  deriving DecidableEq

namespace StoreCalls

/-- What the functions of the commands call. -/
inductive StoreCall
  | acquire (store : StoreId) (slot : Nat)
  | release (store : StoreId) (slot object : Nat)
  | add (store : StoreId) (object : Nat)
  | remove (store : StoreId) (slot : Nat)
  | shutdown (store : StoreId)
  | lock (store : StoreId) (object : Nat)
  | unlock (store : StoreId) (object : Nat)
  | create
  | clientInit
  | check
  deriving DecidableEq

/-- An acquire that succeeds gives the object, an add its slot, and a remove what it has given to
`object_free`. -/
@[reducible] def StoreCall.Answer : StoreCall → Type
  | .acquire .. | .add .. | .remove .. | .create | .clientInit => Option Nat
  | .check => Bool
  | .release .. | .shutdown .. | .lock .. | .unlock .. => Unit

abbrev Calls := Program StoreCall.Answer

/-- How a function leaves the block behind which it releases what it has, and whether a command has
left something behind with a return. -/
inductive Leave
  | breaks
  | returns
  deriving DecidableEq

def acquire (store : StoreId) (slot : Nat) : Calls (Option Nat) :=
  request (StoreCall.acquire store slot)

def release (store : StoreId) (slot object : Nat) : Calls Unit :=
  request (StoreCall.release store slot object)

def remove (store : StoreId) (slot : Nat) : Calls (Option Nat) :=
  request (StoreCall.remove store slot)

def shutdown (store : StoreId) : Calls Unit := request (StoreCall.shutdown store)

def lock (store : StoreId) (object : Nat) : Calls Unit := request (StoreCall.lock store object)

def unlock (store : StoreId) (object : Nat) : Calls Unit := request (StoreCall.unlock store object)

def add (store : StoreId) (object : Nat) : Calls (Option Nat) :=
  request (StoreCall.add store object)

/-- The memory of an object, with what is in it: a wrapped key, a cipher, a MAC or an SVP buffer. -/
def create : Calls (Option Nat) := request StoreCall.create

def clientInit : Calls (Option Nat) := request StoreCall.clientInit

def check : Calls Bool := request StoreCall.check

/-- Statements that are reached when the checks in front of them pass. -/
def checked (body : Calls Leave) : Calls Leave := do
  if ← check then body else pure .breaks

section Stores

/-- `key_store_unwrap`, and `key_store_get_header` and `key_store_export`, which take the key as it
does. -/
def keyStoreUnwrap (client key : Nat) : Calls Bool := do
  if ← check then
    match ← acquire (.keys client) key with
    | none => pure false
    | some wrappedKey => do
      let unwrapped ← check
      release (.keys client) key wrappedKey
      pure unwrapped
  else pure false

def keyStoreGetHeader := keyStoreUnwrap

def keyStoreExport := keyStoreUnwrap

/-- `key_store_import_stored_key`, `cipher_store_add_symmetric_context`,
`cipher_store_add_asymmetric_key`, `mac_store_add_hmac_context`, `mac_store_add_cmac_context` and
`svp_store_create`: the handle of the new object. -/
def storeAdd (store : StoreId) : Calls (Option Nat) := do
  if ← check then
    match ← create with
    | none => pure none
    | some object => add store object
  else pure none

/-- `cipher_store_acquire_exclusive`, `mac_store_acquire_exclusive` or
`svp_store_acquire_exclusive`, and the release behind the block. -/
def withExclusive (store : StoreId) (handle : Nat) (body : Calls Leave) : Calls Leave := do
  match ← acquire store handle with
  | none => pure .breaks
  | some object => do
    lock store object
    match ← body with
    | .breaks => do
      unlock store object
      release store handle object
      pure .breaks
    | .returns => pure .returns

/-- `client_store_acquire`, the block of a command, and `client_store_release`. -/
def withClient (slot : Nat) (body : Nat → Calls Leave) : Calls Leave :=
  checked do
    match ← acquire .clients slot with
    | none => pure .breaks
    | some client =>
      match ← body client with
      | .breaks => do
        release .clients slot client
        pure .breaks
      | .returns => pure .returns

/-- The buffer type of an `sa_buffer`, with the handle of an SVP buffer. -/
inductive BufferArgument
  | clear
  | svp (svpBuffer : Nat)
  | other
  deriving DecidableEq

/-- `convert_buffer`, what is done with the buffer, and the release. An SVP buffer whose checks fail
is acquired before they do. -/
def convertBuffer (client : Nat) (buffer : BufferArgument) (body : Calls Leave) : Calls Leave :=
  match buffer with
  | .clear => checked body
  | .svp svpBuffer => withExclusive (.svps client) svpBuffer (checked body)
  | .other => pure .breaks

/-- `svp_store_release`. When `svp_release_buffer` fails it returns with what it has acquired. -/
def svpStoreRelease (client svpBuffer : Nat) : Calls Leave :=
  checked do
    match ← acquire (.svps client) svpBuffer with
    | none => pure .breaks
    | some svp => do
      lock (.svps client) svp
      if ← check then
        unlock (.svps client) svp
        release (.svps client) svpBuffer svp
        let _ ← remove (.svps client) svpBuffer
        pure .breaks
      else pure .returns

def clientFree (client : Nat) : Calls Unit := do
  shutdown (.keys client)
  shutdown (.ciphers client)
  shutdown (.macs client)
  shutdown (.svps client)

end Stores

section Commands

/-- Keys that are unwrapped one after the other, each with the checks of its rights. -/
def useKeys (client : Nat) : List Nat → Calls Leave → Calls Leave
  | [], body => body
  | key :: keys, body => do
    if ← keyStoreUnwrap client key then checked (useKeys client keys body) else pure .breaks

def addTo (store : StoreId) : Calls Leave := do
  let _ ← storeAdd store
  pure .breaks

def taSaInit : Calls Leave := do
  if ← check then
    match ← clientInit with
    | none => pure .breaks
    | some client => do
      match ← add .clients client with
      | none => do
        clientFree client
        pure .breaks
      | some _ => pure .breaks
  else pure .breaks

def taSaClose (slot : Nat) : Calls Leave := do
  match ← remove .clients slot with
  | none => pure .breaks
  | some client => do
    clientFree client
    pure .breaks

def taSaKeyGenerate (slot : Nat) : Calls Leave := withClient slot fun client => addTo (.keys client)

/-- The formats without keys of the store: clear, exported and SoC keys. -/
def taSaKeyImport := taSaKeyGenerate

def taSaKeyImportTypej (slot khmac kcipher : Nat) : Calls Leave :=
  withClient slot fun client => useKeys client [khmac, kcipher] (addTo (.keys client))

def taSaKeyProvision (slot : Nat) : Calls Leave := withClient slot fun _ => checked (pure .breaks)

def taSaKeyUnwrap (slot wrappingKey : Nat) : Calls Leave :=
  withClient slot fun client => useKeys client [wrappingKey] (addTo (.keys client))

def taSaKeyDeriveRootKeyLadder := taSaKeyGenerate

def taSaKeyDerive := taSaKeyUnwrap

def taSaKeyDeriveNetflix (slot kenc khmac : Nat) : Calls Leave :=
  withClient slot fun client => useKeys client [kenc, khmac] (addTo (.keys client))

def taSaKeyExchange := taSaKeyUnwrap

/-- The keys of a Netflix exchange that have been imported when a step fails. -/
def removeAll (store : StoreId) : List Nat → Calls Unit
  | [] => pure ()
  | key :: keys => do
    let _ ← remove store key
    removeAll store keys

def taSaKeyExchangeNetflixDh (slot inKw privateKey : Nat) : Calls Leave :=
  withClient slot fun client => useKeys client [inKw, privateKey] do
    match ← storeAdd (.keys client) with
    | none => pure .breaks
    | some outKe =>
      match ← storeAdd (.keys client) with
      | none => do
        removeAll (.keys client) [outKe]
        pure .breaks
      | some outKh =>
        match ← storeAdd (.keys client) with
        | none => do
          removeAll (.keys client) [outKe, outKh]
          pure .breaks
        | some _ => pure .breaks

def taSaKeyRelease (slot key : Nat) : Calls Leave :=
  withClient slot fun client => do
    let _ ← remove (.keys client) key
    pure .breaks

def taSaKeyExport (slot key : Nat) : Calls Leave :=
  withClient slot fun client => do
    let _ ← keyStoreExport client key
    pure .breaks

def taSaKeyHeader (slot key : Nat) : Calls Leave :=
  withClient slot fun client => do
    let _ ← keyStoreGetHeader client key
    pure .breaks

def usingKey (slot key : Nat) : Calls Leave :=
  withClient slot fun client => useKeys client [key] (pure .breaks)

def taSaKeyGetPublic := usingKey

def taSaKeyDigest := usingKey

def taSaCryptoSign := usingKey

def taSaCryptoCipherInit (slot key : Nat) : Calls Leave :=
  withClient slot fun client => useKeys client [key] (addTo (.ciphers client))

def taSaCryptoCipherInitRsaOaep (slot key : Nat) : Calls Leave :=
  withClient slot fun client => useKeys client [key] do
    match ← storeAdd (.ciphers client) with
    | none => pure .breaks
    | some context => withExclusive (.ciphers client) context (checked (pure .breaks))

def taSaCryptoCipherUpdateIv (slot context : Nat) : Calls Leave :=
  withClient slot fun client => withExclusive (.ciphers client) context (checked (pure .breaks))

/-- A buffer of a type that there is not is answered with a return out of the block. -/
def taSaCryptoCipherProcess (slot context : Nat) (out : Option BufferArgument)
    (inp : BufferArgument) : Calls Leave :=
  withClient slot fun client => withExclusive (.ciphers client) context <|
    match out with
    | none => pure .breaks
    | some out =>
      if out = .other then pure .returns
      else if inp = .other then pure .returns
      else checked (convertBuffer client out (convertBuffer client inp (checked (pure .breaks))))

def taSaCryptoCipherProcessLast := taSaCryptoCipherProcess

def taSaCryptoCipherRelease (slot context : Nat) : Calls Leave :=
  withClient slot fun client => do
    let _ ← remove (.ciphers client) context
    pure .breaks

def taSaCryptoMacInit (slot key : Nat) : Calls Leave :=
  withClient slot fun client => useKeys client [key] (addTo (.macs client))

def taSaCryptoMacProcess (slot context : Nat) : Calls Leave :=
  withClient slot fun client => withExclusive (.macs client) context (checked (pure .breaks))

def taSaCryptoMacProcessKey (slot context key : Nat) : Calls Leave :=
  withClient slot fun client => withExclusive (.macs client) context
    (useKeys client [key] (pure .breaks))

def taSaCryptoMacCompute := taSaCryptoMacProcess

def taSaCryptoMacRelease (slot context : Nat) : Calls Leave :=
  withClient slot fun client => do
    let _ ← remove (.macs client) context
    pure .breaks

def taSaSvpBufferCreate (slot : Nat) : Calls Leave :=
  withClient slot fun client => addTo (.svps client)

/-- The client is released also when `svp_store_release` has returned with the buffer. -/
def taSaSvpBufferRelease (slot svpBuffer : Nat) : Calls Leave :=
  checked do
    match ← acquire .clients slot with
    | none => pure .breaks
    | some client => do
      let leave ← svpStoreRelease client svpBuffer
      release .clients slot client
      pure leave

def taSaSvpBufferWrite (slot out : Nat) : Calls Leave :=
  withClient slot fun client => withExclusive (.svps client) out (checked (pure .breaks))

def taSaSvpBufferCopy (slot out inp : Nat) : Calls Leave :=
  withClient slot fun client => withExclusive (.svps client) out <|
    withExclusive (.svps client) inp (checked (pure .breaks))

def taSaSvpBufferCheck := taSaSvpBufferWrite

def taSaSvpKeyCheck (slot key : Nat) (inp : BufferArgument) : Calls Leave :=
  withClient slot fun client => useKeys client [key]
    (convertBuffer client inp (checked (pure .breaks)))

/-- The cipher of a sample and its buffers. -/
structure SampleArgument where
  context : Nat
  out : BufferArgument
  inp : BufferArgument

def cencProcessSample (client : Nat) (sample : SampleArgument) : Calls Leave :=
  withExclusive (.ciphers client) sample.context <| checked <|
    convertBuffer client sample.out (convertBuffer client sample.inp (checked (pure .breaks)))

/-- The verification takes the same objects, behind the checks of the sample's members. -/
def verifySample (client : Nat) (sample : SampleArgument) : Calls Leave :=
  checked (cencProcessSample client sample)

def forSamples (each : SampleArgument → Calls Leave) : List SampleArgument → Calls Leave
  | [] => pure .breaks
  | sample :: samples => do
    match ← each sample with
    | .breaks => checked (forSamples each samples)
    | .returns => pure .returns

def taSaProcessCommonEncryption (slot : Nat) (samples : List SampleArgument) : Calls Leave :=
  withClient slot fun client => do
    match ← forSamples (verifySample client) samples with
    | .breaks => checked (forSamples (cencProcessSample client) samples)
    | .returns => pure .returns

end Commands

/-- The commands of a session, its beginning and its end. -/
inductive TaCommand
  | init
  | close (slot : Nat)
  | keyGenerate (slot : Nat)
  | keyImport (slot : Nat)
  | keyImportTypej (slot khmac kcipher : Nat)
  | keyProvision (slot : Nat)
  | keyUnwrap (slot wrappingKey : Nat)
  | keyDeriveRootKeyLadder (slot : Nat)
  | keyDerive (slot parent : Nat)
  | keyDeriveNetflix (slot kenc khmac : Nat)
  | keyExchange (slot privateKey : Nat)
  | keyExchangeNetflixDh (slot inKw privateKey : Nat)
  | keyRelease (slot key : Nat)
  | keyExport (slot key : Nat)
  | keyHeader (slot key : Nat)
  | keyGetPublic (slot key : Nat)
  | keyDigest (slot key : Nat)
  | cryptoSign (slot key : Nat)
  | cryptoCipherInit (slot key : Nat)
  | cryptoCipherInitRsaOaep (slot key : Nat)
  | cryptoCipherUpdateIv (slot context : Nat)
  | cryptoCipherProcess (slot context : Nat) (out : Option BufferArgument) (inp : BufferArgument)
  | cryptoCipherProcessLast (slot context : Nat) (out : Option BufferArgument)
      (inp : BufferArgument)
  | cryptoCipherRelease (slot context : Nat)
  | cryptoMacInit (slot key : Nat)
  | cryptoMacProcess (slot context : Nat)
  | cryptoMacProcessKey (slot context key : Nat)
  | cryptoMacCompute (slot context : Nat)
  | cryptoMacRelease (slot context : Nat)
  | svpBufferCreate (slot : Nat)
  | svpBufferRelease (slot svpBuffer : Nat)
  | svpBufferWrite (slot out : Nat)
  | svpBufferCopy (slot out inp : Nat)
  | svpBufferCheck (slot svpBuffer : Nat)
  | svpKeyCheck (slot key : Nat) (inp : BufferArgument)
  | processCommonEncryption (slot : Nat) (samples : List SampleArgument)

def TaCommand.calls : TaCommand → Calls Leave
  | .init => taSaInit
  | .close slot => taSaClose slot
  | .keyGenerate slot => taSaKeyGenerate slot
  | .keyImport slot => taSaKeyImport slot
  | .keyImportTypej slot khmac kcipher => taSaKeyImportTypej slot khmac kcipher
  | .keyProvision slot => taSaKeyProvision slot
  | .keyUnwrap slot wrappingKey => taSaKeyUnwrap slot wrappingKey
  | .keyDeriveRootKeyLadder slot => taSaKeyDeriveRootKeyLadder slot
  | .keyDerive slot parent => taSaKeyDerive slot parent
  | .keyDeriveNetflix slot kenc khmac => taSaKeyDeriveNetflix slot kenc khmac
  | .keyExchange slot privateKey => taSaKeyExchange slot privateKey
  | .keyExchangeNetflixDh slot inKw privateKey => taSaKeyExchangeNetflixDh slot inKw privateKey
  | .keyRelease slot key => taSaKeyRelease slot key
  | .keyExport slot key => taSaKeyExport slot key
  | .keyHeader slot key => taSaKeyHeader slot key
  | .keyGetPublic slot key => taSaKeyGetPublic slot key
  | .keyDigest slot key => taSaKeyDigest slot key
  | .cryptoSign slot key => taSaCryptoSign slot key
  | .cryptoCipherInit slot key => taSaCryptoCipherInit slot key
  | .cryptoCipherInitRsaOaep slot key => taSaCryptoCipherInitRsaOaep slot key
  | .cryptoCipherUpdateIv slot context => taSaCryptoCipherUpdateIv slot context
  | .cryptoCipherProcess slot context out inp => taSaCryptoCipherProcess slot context out inp
  | .cryptoCipherProcessLast slot context out inp =>
    taSaCryptoCipherProcessLast slot context out inp
  | .cryptoCipherRelease slot context => taSaCryptoCipherRelease slot context
  | .cryptoMacInit slot key => taSaCryptoMacInit slot key
  | .cryptoMacProcess slot context => taSaCryptoMacProcess slot context
  | .cryptoMacProcessKey slot context key => taSaCryptoMacProcessKey slot context key
  | .cryptoMacCompute slot context => taSaCryptoMacCompute slot context
  | .cryptoMacRelease slot context => taSaCryptoMacRelease slot context
  | .svpBufferCreate slot => taSaSvpBufferCreate slot
  | .svpBufferRelease slot svpBuffer => taSaSvpBufferRelease slot svpBuffer
  | .svpBufferWrite slot out => taSaSvpBufferWrite slot out
  | .svpBufferCopy slot out inp => taSaSvpBufferCopy slot out inp
  | .svpBufferCheck slot svpBuffer => taSaSvpBufferCheck slot svpBuffer
  | .svpKeyCheck slot key inp => taSaSvpKeyCheck slot key inp
  | .processCommonEncryption slot samples => taSaProcessCommonEncryption slot samples

end StoreCalls

end TaSecureApi
