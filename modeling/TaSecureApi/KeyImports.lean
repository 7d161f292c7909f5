import Mathlib.Data.Nat.Digits.Lemmas
import TaSecureApi.KeyRuns
import TaSecureApi.KeyStoreRuns
import TaSecureApi.Typej

namespace TaSecureApi
set_option autoImplicit true

def sym128KeySize : Nat := 16

def symMaxKeySize : Nat := 512

def dhMaxModSize : Nat := 512

def bigNum (bytes : List UInt8) : Nat := Nat.ofDigits 256 (bytes.reverse.map UInt8.toNat)

/-- What OpenSSL generates for one command: what it was asked for, when it is parsed. -/
structure Generator (pkcs8 : Pkcs8) where
  randBytes : Nat → Except SaStatus (List UInt8)
  rsaKey : Int → Except SaStatus (List UInt8)
  ecKey : SaEllipticCurve → Except SaStatus (List UInt8)
  dhKey : Nat → Nat → Except SaStatus (List UInt8)
  randBytes_length : randBytes length = .ok bytes → bytes.length = length
  rsaKey_parses : rsaKey bits = .ok key → ∃ n : Nat, bits = n ∧ pkcs8 key = some (.rsa n)
  ecKey_parses : ecKey curve = .ok key → pkcs8 key = some (.ec (some curve))
  dhKey_parses : dhKey p g = .ok key → pkcs8 key = some (.dh p g)

section Imports

variable (pkcs8 : Pkcs8) (rights : SaRights)

/-- `ta_sa_key_import_symmetric_bytes`, before the key store. -/
def importSymmetricBytes (inp : List UInt8) : Except SaStatus StoredKey := do
  require (sym128KeySize ≤ inp.length ∧ inp.length ≤ symMaxKeySize) .invalidParameter
  storedKeyImport rights .symmetric .zero inp.length inp

/-- `ta_sa_key_import_ec_private_bytes`, before the key store. -/
def importEcPrivateBytes (curve : Option SaEllipticCurve) (inp : List UInt8) :
    Except SaStatus StoredKey := do
  let keySize := ecValidatePrivate pkcs8 curve inp
  require (keySize ≠ 0) .invalidParameter
  storedKeyImport rights .ec (curve.elim .zero SaTypeParameters.curve) keySize inp

/-- `ta_sa_key_import_rsa_private_key_info`, before the key store. -/
def importRsaPrivateKeyInfo (inp : List UInt8) : Except SaStatus StoredKey := do
  let keySize := rsaValidatePrivate pkcs8 inp
  require (keySize ≠ 0) .invalidKeyFormat
  require (keySize = 128 ∨ keySize = 256 ∨ keySize = 384 ∨ keySize = 512) .invalidParameter
  storedKeyImport rights .rsa .zero keySize inp

/-- `ta_sa_key_import_soc`, before the key store. -/
def importSoc (libraries : Libraries) (unwritten : Unwritten) (inp : List UInt8)
    (parameters : Option SaImportParametersSoc) : Unwrapped :=
  if inp.length = 0 then some (.invalidKeyFormat, none)
  else socKcUnwrap libraries unwritten inp parameters

/-- `ta_sa_key_import_typej`, before the key store. -/
def importTypej (libraries : Libraries) (unwritten : Unwritten) (world : World) (store : KeyStore)
    (callerUuid : SaUuid) (inp : List UInt8) (khmac kcipher : Nat) : Command Unwrapped := do
  let storedKeyMac ← keyStoreUnwrap world store khmac callerUuid
  let macHeader := storedKeyMac.header
  checkSign world macHeader.rights
  check (keyTypeSupportsHmac macHeader.type macHeader.size) .invalidKeyType
  let storedKeyEncryption ← keyStoreUnwrap world store kcipher callerUuid
  let encHeader := storedKeyEncryption.header
  checkUnwrap world encHeader.rights
  check (keyTypeSupportsAes encHeader.type encHeader.size) .invalidKeyType
  useKey .sign macHeader.rights
  useKey .unwrap encHeader.rights
  pure (typejUnwrap libraries unwritten inp storedKeyMac storedKeyEncryption)

end Imports

section Generation

variable {pkcs8 : Pkcs8} (generator : Generator pkcs8) (rights : SaRights)

/-- `ta_sa_key_generate_symmetric`, before the key store, with `symmetric_generate_key`. -/
def generateSymmetric (keyLength : Nat) : Except SaStatus StoredKey := do
  require (sym128KeySize ≤ keyLength ∧ keyLength ≤ symMaxKeySize) .invalidParameter
  let generated ← generator.randBytes keyLength
  storedKeyCreate rights none .symmetric .zero keyLength generated

/-- `ec_generate_key`; a number that is no curve has the size 0. -/
def ecGenerateKey : Option SaEllipticCurve → Except SaStatus StoredKey
  | none => .error .invalidParameter
  | some curve => do
    let key ← generator.ecKey curve
    storedKeyCreate rights none .ec (.curve curve) (ecKeySizeFromCurve curve) key

/-- `rsa_generate_key`: `(int) parameters->modulus_length * 8` bits. -/
def rsaGenerateKey (modulusLength : Nat) : Except SaStatus StoredKey := do
  let key ← generator.rsaKey (castInt modulusLength * 8)
  storedKeyCreate rights none .rsa .zero modulusLength key

def dhGenerateKey (p g : List UInt8) : Except SaStatus StoredKey := do
  require (¬ (p.length > dhMaxModSize ∨ p.length = 0)) .invalidParameter
  require (¬ (g.length < 1 ∨ g.length > p.length)) .invalidParameter
  let key ← generator.dhKey (bigNum p) (bigNum g)
  storedKeyCreate rights none .dh (.dhParameters p g) p.length key

/-- `ta_sa_key_generate_dh`, before the key store. -/
def generateDh (p g : List UInt8) : Except SaStatus StoredKey := do
  require (keyTypeSupportsDh .dh p.length) .invalidParameter
  require (¬ (g.length < 1 ∨ g.length > p.length)) .invalidParameter
  dhGenerateKey generator rights p g

end Generation

def exportMixin : Option (List UInt8) → Option (Vector UInt8 16)
  | none => some (.replicate 16 0)
  | some bytes => if h : bytes.length = 16 then some ⟨bytes.toArray, h⟩ else none

/-- `key_store_export`, as `WrappedKeyStore.keyStoreExport` of the store that hides the keys. -/
def keyStoreExport (otp : Otp) (store : KeyStore) (key : Nat) (mixin : Option (List UInt8))
    (out : Option Nat) (callerUuid : SaUuid) (iv : Vector UInt8 16) :
    Except SaStatus (Nat × Option ExportedKey) := do
  require (key < store.slotCount) .invalidParameter
  let mixin ← (exportMixin mixin).elim (.error .invalidParameter) .ok
  match objectStoreAcquire store key (some callerUuid) with
  | (.ok, some storedKey, _) => do
    require (saUsageBitTest storedKey.header.rights.usageFlags .cacheable) .operationNotAllowed
    let requiredOutLength :=
      exportedLength ((Pkcs7.pad aesBlockSize storedKey.key).length + sizeofSignature)
    match out with
    | none => pure (requiredOutLength, none)
    | some outLength => do
      require (requiredOutLength ≤ outLength) .invalidParameter
      let rewrappedKey ← (wrappedKeyCreate otp (exportDerivationInputs.applyMixin mixin)
        storedKey iv).elim (.error .internalError) .ok
      pure (requiredOutLength, some (.structures mixin rewrappedKey.header
        rewrappedKey.cipherParameters (rewrappedKey.ciphertext ++
          rewrappedKey.signature.toList)))
  | (status, _, _) => .error status

theorem Hides.keyStoreExport (hotp : otp.Inverts) (h : Hides otp store keys) (key : Nat)
    (mixin : Option (List UInt8)) (out : Option Nat) (u : SaUuid) (iv : Vector UInt8 16) :
    TaSecureApi.keyStoreExport otp keys key mixin out u iv =
      (WrappedKeyStore.keyStoreExport otp store key mixin out u iv).1 := by
  obtain ⟨hstatus, hobject⟩ := h.acquire key u
  have hmixin : exportMixin mixin = mixin.elim (some (.replicate 16 0)) fun bytes =>
      if h : bytes.length = 16 then some ⟨bytes.toArray, h⟩ else none := by
    cases mixin <;> rfl
  unfold TaSecureApi.keyStoreExport WrappedKeyStore.keyStoreExport WrappedKeyStore.withKey
  rw [h.slotCount, hmixin]
  by_cases hslot : key < store.slotCount
  · simp only [require, hslot, if_true, Nat.not_le.2 hslot, if_false]
    cases (mixin.elim (some (.replicate 16 0)) fun bytes =>
      if h : bytes.length = 16 then some ⟨bytes.toArray, h⟩ else none :
        Option (Vector UInt8 16)) with
    | none => rfl
    | some m =>
      generalize objectStoreAcquire store key (some u) = r at hstatus hobject
      generalize objectStoreAcquire keys key (some u) = r' at hstatus hobject
      obtain ⟨status, o, store'⟩ := r
      obtain ⟨status', o', keys'⟩ := r'
      dsimp only at hstatus hobject
      subst hstatus
      cases hobject with
      | none => cases status' <;> rfl
      | @some w k hwraps =>
        obtain ⟨-, inputs, iv', hcreate⟩ := id hwraps
        have hlength : w.cipherParameters.ciphertextLength =
            (Pkcs7.pad aesBlockSize k.key).length := by
          rw [(wrappedKeyCreate_eq_some.1 hcreate).2.2.2.1]
        cases status' with
        | ok =>
          simp only [hwraps.unwrap hotp, hwraps.header, hlength]
          rfl
        | _ => rfl
  · simp only [require, hslot, if_false, Nat.not_lt.1 hslot, if_true]
    rfl

/-- A key store and the readings made so far, and the containers that keys were exported to. -/
structure KeyTraffic where
  keys : KeyState
  exports : List ExportedKey

/-- Every command on the keys of a store. -/
inductive KeyRequest (pkcs8 : Pkcs8)
  | importSymmetric (callerUuid : SaUuid) (rights : SaRights) (inp : List UInt8)
  | importEc (callerUuid : SaUuid) (rights : SaRights) (curve : Option SaEllipticCurve)
      (inp : List UInt8)
  | importRsa (callerUuid : SaUuid) (rights : SaRights) (inp : List UInt8)
  | importExported (callerUuid : SaUuid) (exported : ExportedKey)
  | importSoc (callerUuid : SaUuid) (unwritten : Unwritten) (inp : List UInt8)
      (parameters : Option SaImportParametersSoc)
  | importTypej (callerUuid : SaUuid) (unwritten : Unwritten) (inp : List UInt8)
      (khmac kcipher : Nat)
  | generateSymmetric (callerUuid : SaUuid) (generator : Generator pkcs8) (rights : SaRights)
      (keyLength : Nat)
  | generateEc (callerUuid : SaUuid) (generator : Generator pkcs8) (rights : SaRights)
      (curve : Option SaEllipticCurve)
  | generateRsa (callerUuid : SaUuid) (generator : Generator pkcs8) (rights : SaRights)
      (modulusLength : Nat)
  | generateDh (callerUuid : SaUuid) (generator : Generator pkcs8) (rights : SaRights)
      (p g : List UInt8)
  | exportKey (callerUuid : SaUuid) (key : Nat) (mixin : Option (List UInt8))
      (out : Option Nat) (iv : Vector UInt8 16)
  | act (action : KeyAction)

namespace KeyTraffic

variable (libraries : Libraries) (otp : Otp) (world : World) (σ : KeyTraffic)

def store (callerUuid : SaUuid) : Except SaStatus StoredKey → KeyTraffic
  | .error _ => σ
  | .ok storedKey => { σ with
      keys.store := (keyStoreImportStoredKey σ.keys.store storedKey callerUuid).2.2 }

/-- The import of what a container is unwrapped to; what is undefined has no next state. -/
def storeUnwrapped (callerUuid : SaUuid) : Unwrapped → Option KeyTraffic
  | none => none
  | some (.ok, some storedKey) => some (σ.store callerUuid (.ok storedKey))
  | some _ => some σ

def step : KeyRequest libraries.pkcs8 → Option KeyTraffic
  | .importSymmetric callerUuid rights inp =>
    some (σ.store callerUuid (importSymmetricBytes rights inp))
  | .importEc callerUuid rights curve inp =>
    some (σ.store callerUuid (importEcPrivateBytes libraries.pkcs8 rights curve inp))
  | .importRsa callerUuid rights inp =>
    some (σ.store callerUuid (importRsaPrivateKeyInfo libraries.pkcs8 rights inp))
  | .importExported callerUuid exported =>
    some (σ.store callerUuid
      ((unwrapExported otp exported).elim (.error .invalidKeyFormat) .ok))
  | .importSoc callerUuid unwritten inp parameters =>
    σ.storeUnwrapped callerUuid (importSoc libraries unwritten inp parameters)
  | .importTypej callerUuid unwritten inp khmac kcipher =>
    let command := importTypej libraries unwritten world σ.keys.store callerUuid inp khmac kcipher
    match command.run.run ⟨σ.keys.clock, []⟩ with
    | (.error _, s) => some { σ with keys.clock := s.clock }
    | (.ok unwrapped, s) => { σ with keys.clock := s.clock }.storeUnwrapped callerUuid unwrapped
  | .generateSymmetric callerUuid generator rights keyLength =>
    some (σ.store callerUuid (generateSymmetric generator rights keyLength))
  | .generateEc callerUuid generator rights curve =>
    some (σ.store callerUuid (ecGenerateKey generator rights curve))
  | .generateRsa callerUuid generator rights modulusLength =>
    some (σ.store callerUuid (rsaGenerateKey generator rights modulusLength))
  | .generateDh callerUuid generator rights p g =>
    some (σ.store callerUuid (generateDh generator rights p g))
  | .exportKey callerUuid key mixin out iv =>
    match keyStoreExport otp σ.keys.store key mixin out callerUuid iv with
    | .ok (_, some exported) => some { σ with exports := exported :: σ.exports }
    | _ => some σ
  -- an import that has no format is not a command
  | .act (.add ..) => none
  | .act action => (σ.keys.step libraries.pkcs8 world action).map fun keys => { σ with keys }

end KeyTraffic

end TaSecureApi
