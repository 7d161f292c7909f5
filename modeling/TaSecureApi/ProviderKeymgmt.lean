import TaSecureApi.KeyImports
import TaSecureApi.ProviderKdf
import TaSecureApi.Signing

namespace TaSecureApi
set_option autoImplicit true
open Signing (EvpPkeyType bnToBin)

def invalidHandle : SaKey := 2 ^ 64 - 1

/-- `OSSL_KEYMGMT_SELECT_KEYPAIR`. -/
def selectKeypair : Nat := 3

def sizeofProviderKeyData : Nat := 1728

def keymgmtName : EvpPkeyType → String
  | .rsa => "RSA"
  | .ec => "EC"
  | .dh => "DH"
  | .x25519 => "X25519"
  | .x448 => "X448"
  | .ed25519 => "ED25519"
  | .ed448 => "ED448"
  | .other => ""

/-- `sa_type_parameters` with the curve `UINT32_MAX`, which is `none`. -/
inductive KeymgmtTypeParameters
  | curve (curve : Option SaEllipticCurve)
  | dhParameters (p g : List UInt8)
  deriving DecidableEq

/-- What the provider reads of `sa_header`. -/
structure PrivateKeyHeader where
  type : SaKeyType
  typeParameters : KeymgmtTypeParameters
  size : Nat
  deriving DecidableEq

def PrivateKeyHeader.zero : PrivateKeyHeader := ⟨.symmetric, .curve (some .nistP256), 0⟩

/-- `sa_provider_key_data`. -/
structure ProviderKeyData (Pkey : Type) where
  referenceCount : Nat
  type : EvpPkeyType
  privateKey : SaKey
  privateKeyHeader : PrivateKeyHeader
  publicKey : Option Pkey
  deleteKey : Bool

/-- The parameters of an import; `keyMaterial` is what only OpenSSL reads. -/
structure KeymgmtParams where
  saKey : OsslParam SaKey
  saKeyDelete : OsslParam Int
  ffcP : OsslParam Nat
  ffcG : OsslParam Nat
  groupName : OsslParam String
  bits : OsslParam Int
  keyMaterial : List (String × List UInt8)

/-- `sa_provider_key_gen_context`. -/
structure ProviderKeyGenContext where
  type : EvpPkeyType
  selection : Nat
  keySize : Nat
  typeParameters : KeymgmtTypeParameters

/-- The parameters of `sa_key_generate`, read from those of the context. -/
inductive KeymgmtGenerate
  | rsa (modulusLength : Nat)
  | ec (typeParameters : KeymgmtTypeParameters)
  | dh (typeParameters : KeymgmtTypeParameters)

/-- The formats of `sa_key_import`, both with the rights. -/
inductive KeymgmtImport
  | rsaPrivateKeyInfo (rights : SaRights)
  | ecPrivateBytes (rights : SaRights) (curve : SaEllipticCurve)

/-- What the provider calls. The world is what these calls leave: the keys of the TA, and the
memory. -/
structure KeymgmtLibrary (World Pkey : Type) where
  malloc (world : World) (size : Nat) : Bool × World
  evpPkeyFromdata (name : String) (params : KeymgmtParams) : Option Pkey
  evpPkeyToPkcs8 (pkey : Pkey) : Option (List UInt8)
  evpPkeyGetId (pkey : Pkey) : EvpPkeyType
  evpPkeyGetGroupName (pkey : Pkey) : Option String
  evpPkeyGetBits (pkey : Pkey) : Int
  evpPkeyDup (pkey : Pkey) : Option Pkey
  saKeyGenerate (world : World) (rights : SaRights) (parameters : KeymgmtGenerate) :
    Option SaKey × World
  saKeyImport (world : World) (format : KeymgmtImport) (bytes : List UInt8) : Option SaKey × World
  saGetPublicKey (world : World) (key : SaKey) : Option Pkey
  saKeyHeader (world : World) (key : SaKey) : Option PrivateKeyHeader
  saKeyRelease (world : World) (key : SaKey) : World

def ecGetCurveFromName (name : String) : Option SaEllipticCurve :=
  if name = "prime192v1" ∨ name = "P-192" then some .nistP192
  else if name = "secp224r1" ∨ name = "P-224" then some .nistP224
  else if name = "prime256v1" ∨ name = "P-256" then some .nistP256
  else if name = "secp384r1" ∨ name = "P-384" then some .nistP384
  else if name = "secp521r1" ∨ name = "P-521" then some .nistP521
  else if name = "ED25519" then some .ed25519
  else if name = "X25519" then some .x25519
  else if name = "ED448" then some .ed448
  else if name = "X448" then some .x448
  else none

def ecGetKeySize (curve : Option SaEllipticCurve) : Nat :=
  (curve.map ecKeySizeFromCurve).getD 0

/-- The memory of a number in the order of the machine, the least significant byte first. -/
def bnNative (n : Nat) : List UInt8 := (bnToBin n).reverse

/-- A size in bits that is stored as a `uint16_t` of bytes. -/
def headerSize (bits : Int) : Nat := ((bits.tdiv 8) % 2 ^ 16).toNat

/-- An import fails, or it overruns or frees memory that is not its own. -/
inductive KeymgmtStop
  | failed
  | undefined
  deriving DecidableEq

abbrev KeymgmtCall (World : Type) := ExceptT KeymgmtStop (StateM World)

structure KeySource (Pkey : Type) where
  privateKey : SaKey
  deleteKey : Bool
  evpPkey : Option Pkey

/-- What an import writes to the key object. -/
structure ImportedKey (Pkey : Type) where
  privateKey : SaKey
  privateKeyHeader : PrivateKeyHeader
  evpPkey : Option Pkey
  deleteKey : Bool

namespace KeymgmtLibrary

variable {World Pkey : Type} (library : KeymgmtLibrary World Pkey)

def ecGetCurveFromType (pkey : Pkey) : Option SaEllipticCurve :=
  match library.evpPkeyGetId pkey with
  | .x25519 => some .x25519
  | .x448 => some .x448
  | .ed25519 => some .ed25519
  | .ed448 => some .ed448
  | .ec => do
    match ← library.evpPkeyGetGroupName pkey with
    | "P-192" => some .nistP192
    | "P-224" => some .nistP224
    | "P-256" => some .nistP256
    | "P-384" => some .nistP384
    | "P-521" => some .nistP521
    | _ => none
  | _ => none

def keymgmtNew (type : EvpPkeyType) (world : World) : Option (ProviderKeyData Pkey) × World :=
  match library.malloc world sizeofProviderKeyData with
  | (false, world) => (none, world)
  | (true, world) => (some ⟨1, type, invalidHandle, .zero, none, false⟩, world)

def release (privateKey : SaKey) (world : World) : World :=
  if privateKey ≠ invalidHandle then library.saKeyRelease world privateKey else world

section Import

variable (type : EvpPkeyType) (params : KeymgmtParams)

def orFail (a : Option α) : KeymgmtCall World α := (a.map pure).getD (throw .failed)

def importFormat (pkey : Pkey) : Option KeymgmtImport :=
  match type with
  | .rsa => some (.rsaPrivateKeyInfo saRightsAllowAll)
  | .ec | .x25519 | .x448 | .ed25519 | .ed448 =>
    (library.ecGetCurveFromType pkey).map (.ecPrivateBytes saRightsAllowAll)
  | _ => none

/-- A private key in the parameters is imported into the TA, and gone from OpenSSL. -/
def importRaw : KeymgmtCall World (KeySource Pkey) := do
  let pkey ← orFail (library.evpPkeyFromdata (keymgmtName type) params)
  match library.evpPkeyToPkcs8 pkey with
  | none => pure ⟨invalidHandle, false, some pkey⟩
  | some pkcs8 =>
    let allocated ← modifyGet (library.malloc · pkcs8.length)
    if !allocated then throw .failed
    let format ← orFail (library.importFormat type pkey)
    let privateKey ← orFail (← modifyGet (library.saKeyImport · format pkcs8))
    if privateKey = invalidHandle then throw .undefined
    pure ⟨privateKey, true, none⟩

def importSource (selection : Nat) : KeymgmtCall World (KeySource Pkey) :=
  if selection &&& selectKeypair = 0 then pure ⟨invalidHandle, false, none⟩
  else
    match params.saKey with
    | .absent => library.importRaw type params
    | .invalid => throw .failed
    | .value privateKey => pure ⟨privateKey, false, none⟩

/-- The prime and the generator, if both are there. The prime is freed twice where the generator
cannot be read, and neither is checked against the size of its array. -/
def dhHeader : KeymgmtCall World PrivateKeyHeader :=
  match params.ffcP, params.ffcG with
  | .absent, _ | _, .absent => pure .zero
  | .invalid, _ => throw .failed
  | .value _, .invalid => throw .undefined
  | .value p, .value g => do
    if dhMaxModSize < (bnNative p).length ∨ dhMaxModSize < (bnNative g).length then
      throw .undefined
    pure ⟨.dh, .dhParameters (bnNative p) (bnNative g), (bnNative p).length⟩

def ecHeader : KeymgmtCall World PrivateKeyHeader :=
  match params.groupName with
  | .absent => pure .zero
  | .invalid => throw .failed
  | .value name =>
    let curve := ecGetCurveFromName name
    pure ⟨.ec, .curve curve, ecGetKeySize curve⟩

def rsaHeader (evpPkey : Option Pkey) : KeymgmtCall World PrivateKeyHeader :=
  let header (size : Nat) : PrivateKeyHeader := { PrivateKeyHeader.zero with type := .rsa, size }
  match evpPkey, params.bits with
  | some pkey, _ => pure (header (headerSize (library.evpPkeyGetBits pkey)))
  | none, .absent => pure (header 0)
  | none, .invalid => throw .failed
  | none, .value bits => pure (header (headerSize bits))

/-- The header without a private key, from the parameters. -/
def paramsHeader (evpPkey : Option Pkey) : KeymgmtCall World PrivateKeyHeader :=
  let edwards (curve : SaEllipticCurve) : PrivateKeyHeader :=
    ⟨.ec, .curve (some curve), ecKeySizeFromCurve curve⟩
  match type with
  | .dh => dhHeader params
  | .ec => ecHeader params
  | .rsa => library.rsaHeader params evpPkey
  | .x25519 => pure (edwards .x25519)
  | .x448 => pure (edwards .x448)
  | .ed25519 => pure (edwards .ed25519)
  | .ed448 => pure (edwards .ed448)
  | .other => pure .zero

def importKeys (selection : Nat) : KeymgmtCall World (ImportedKey Pkey) := do
  let source ← library.importSource type params selection
  if source.privateKey ≠ invalidHandle then
    let world ← getThe World
    let publicKey ← orFail (library.saGetPublicKey world source.privateKey)
    let header ← orFail (library.saKeyHeader world source.privateKey)
    match params.saKeyDelete with
    | .absent => pure ⟨source.privateKey, header, some publicKey, source.deleteKey⟩
    | .invalid => throw .failed
    | .value deleteKey => pure ⟨source.privateKey, header, some publicKey, deleteKey ≠ 0⟩
  else
    let header ← library.paramsHeader type params source.evpPkey
    pure ⟨source.privateKey, header, source.evpPkey, source.deleteKey⟩

/-- `keymgmt_import`: the result and the object after it, where it is defined. The key that the
object held is released in any case. -/
def keymgmtImport (keyData : ProviderKeyData Pkey) (selection : Nat) (world : World) :
    Option (Bool × ProviderKeyData Pkey × World) :=
  match library.importKeys keyData.type params selection world with
  | (.error .undefined, _) => none
  | (.error .failed, world) =>
    some (false,
      { keyData with privateKey := invalidHandle, privateKeyHeader := .zero, publicKey := none },
      library.release keyData.privateKey world)
  | (.ok key, world) =>
    some (true,
      { keyData with
        privateKey := key.privateKey
        privateKeyHeader := key.privateKeyHeader
        publicKey := key.evpPkey.bind library.evpPkeyDup
        deleteKey := key.deleteKey },
      library.release keyData.privateKey world)

end Import

section Generate

variable (context : ProviderKeyGenContext)

def generateParameters : Option KeymgmtGenerate :=
  match context.type with
  | .rsa => some (.rsa context.keySize)
  | .ec | .x25519 | .x448 | .ed25519 | .ed448 => some (.ec context.typeParameters)
  | .dh => some (.dh context.typeParameters)
  | .other => none

/-- The keys of a new object; it is freed again, with the private key, if one of them is missing. -/
def generateKeys (keyData : ProviderKeyData Pkey) (parameters : KeymgmtGenerate) (world : World) :
    Option (ProviderKeyData Pkey) × World :=
  match library.saKeyGenerate world saRightsAllowAll parameters with
  | (none, world) => (none, world)
  | (some privateKey, world) =>
    match library.saGetPublicKey world privateKey, library.saKeyHeader world privateKey with
    | some publicKey, some header =>
      (some { keyData with
        privateKey := privateKey
        privateKeyHeader := header
        publicKey := some publicKey
        deleteKey := true }, world)
    | _, _ => (none, library.release privateKey world)

def keymgmtGen (world : World) : Option (ProviderKeyData Pkey) × World :=
  if context.selection &&& selectKeypair ≠ 0 then
    match generateParameters context with
    | none => (none, world)
    | some parameters =>
      match library.keymgmtNew context.type world with
      | (none, world) => (none, world)
      | (some keyData, world) => library.generateKeys keyData parameters world
  else
    match library.keymgmtNew context.type world with
    | (none, world) => (none, world)
    | (some keyData, world) =>
      let header := { keyData.privateKeyHeader with
        size := context.keySize % 2 ^ 16
        typeParameters := context.typeParameters }
      (some { keyData with privateKeyHeader := header }, world)

end Generate

end KeymgmtLibrary

/-- `keymgmt_dup`, which is the same object. -/
def keymgmtDup (keyData : ProviderKeyData Pkey) : ProviderKeyData Pkey :=
  { keyData with referenceCount := keyData.referenceCount + 1 }

/-- `keymgmt_match`, of objects or `NULL`. -/
def keymgmtMatch (keydata1 keydata2 : Option (ProviderKeyData Pkey)) : Bool :=
  match keydata1, keydata2 with
  | some keydata1, some _ =>
    let keyData1 := keydata1
    let keyData2 := keydata1
    keyData1.privateKey = keyData2.privateKey
  | _, _ => false

end TaSecureApi
