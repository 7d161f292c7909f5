import TaSecureApi.ContainerResults
import TaSecureApi.TaTypes
import TaSecureApi.WrappedKeyStore

namespace TaSecureApi
set_option autoImplicit true
open Layout

/-- The bytes of an exported key, of a length that `size_t` has. -/
structure ExportedBytes where
  bytes : List UInt8
  length_lt : bytes.length < 2 ^ 64

def ExportedBytes.read (exported : ExportedBytes) (offset length : Nat) :
    Except Stop (List UInt8) :=
  if offset + length ≤ exported.bytes.length then
    .ok ((exported.bytes.drop offset).take length)
  else
    .error .undefined

/-- The members of `sa_header`, those that are structures themselves as their bytes. -/
structure HeaderMembers where
  magic : List UInt8
  rights : List UInt8
  type : Nat
  typeParameters : List UInt8
  size : Nat

def sizeofSaRights : Nat := 608

def sizeofSaTypeParameters : Nat := 1040

def numMagic : Nat := 4

def maxKeyIdLength : Nat := 64

/-- Where the members of `sa_header` are. -/
def HeaderMembers.ofBytes (bytes : List UInt8) : HeaderMembers where
  magic := bytes.take numMagic
  rights := (bytes.drop 8).take sizeofSaRights
  type := numberOf ((bytes.drop 616).take 1)
  typeParameters := (bytes.drop 624).take sizeofSaTypeParameters
  size := numberOf ((bytes.drop 1664).take 2)

example : offsets 0 [uint8Array 4, saRights, uint8,
    nested [uint8Array 512, uint64, uint8Array 512, uint64], ⟨2, 2, by decide⟩] =
    [0, 8, 616, 624, 1664] := by decide

def HeaderMembers.toBytes (header : HeaderMembers) : List UInt8 :=
  header.magic ++ .replicate 4 0 ++ header.rights ++ [.ofNat header.type] ++ .replicate 7 0 ++
    header.typeParameters ++ [.ofNat header.size, .ofNat (header.size / 256)] ++ .replicate 6 0

def SaEllipticCurve.ofNumber (n : Nat) : Option SaEllipticCurve :=
  [nistP256, nistP384, nistP521, ed25519, x25519, ed448, x448, nistP192, nistP224][n]?

/-- `key_type_supports_any`, which takes the curve as a number of 8 bits. -/
def HeaderMembers.supportsAny (header : HeaderMembers) : Bool :=
  match SaKeyType.ofNumber header.type with
  | none => false
  | some type =>
    keyTypeSupportsAny type
      ((SaEllipticCurve.ofNumber (numberOf (header.typeParameters.take 1))).elim
        (.dhParameters [] []) .curve) header.size

/-- `rights_validate_format`: a zero ends the identifier, with which the rights begin. -/
def HeaderMembers.validateRights (header : HeaderMembers) : Bool :=
  (header.rights.take maxKeyIdLength).contains 0

/-- The static function `validate_header_format`. -/
def HeaderMembers.validateFormat (header : HeaderMembers) : Bool :=
  header.magic = ascii "sak0" && header.validateRights && header.supportsAny

/-- What the functions of `otp.c` call: the key ladder for the root key of the device, HMAC, and
AES in CBC mode without padding. A call that fails is `none`. -/
structure OtpLibraries where
  hwKeyLadder (inputs : KeyLadderInputs) : Option (Vector UInt8 16)
  hmacSha256 (key : Vector UInt8 16) (in1 in2 in3 : List UInt8) : Option (Vector UInt8 32)
  encryptUpdate (key iv : List UInt8) (inp : List UInt8) :
    Option { out : List UInt8 // out.length = inp.length }
  decryptUpdate (key iv : List UInt8) (inp : List UInt8) :
    Option { out : List UInt8 // out.length = inp.length }

/-- Which allocations succeed, what the random numbers are, and what newly allocated memory holds.
-/
structure ImportResources where
  cleartext : Bool
  storedKey : Bool
  wrappedKey : Bool
  padded : Bool
  derivationInputs : Option DerivationInputs
  iv : Option (Vector UInt8 16)
  fresh : Nat → UInt8

/-- `stored_key_t`. -/
structure StoredKeyBytes where
  header : HeaderMembers
  key : List UInt8

/-- `wrapped_key_t`. -/
structure WrappedKeyBytes where
  header : List UInt8
  iv : Vector UInt8 16
  ciphertext : List UInt8
  signature : Vector UInt8 32
  derivationInputs : DerivationInputs

/-- Bytes that are written to the start of a buffer; a write behind its end is undefined. -/
def writeBytes (buffer bytes : List UInt8) : Except Stop (List UInt8) :=
  if bytes.length ≤ buffer.length then .ok (bytes ++ buffer.drop bytes.length)
  else .error .undefined

/-- `otp_unwrap_aes_cbc`, called by `unwrap`, which does not pass its status on. The length is cast
to `int`, and a negative one is refused. -/
def otpUnwrapAesCbc (lib : OtpLibraries) (out : List UInt8) (inputs : KeyLadderInputs)
    (wrapped iv : List UInt8) : Except Stop (List UInt8) := do
  demand (wrapped.length % aesBlockSize = 0) .invalidKeyFormat
  let key ← demandSome .invalidKeyFormat (lib.hwKeyLadder inputs)
  demand (0 ≤ castInt wrapped.length) .invalidKeyFormat
  let plain ← demandSome .invalidKeyFormat
    (lib.decryptUpdate key.toList iv (wrapped.take (castInt wrapped.length).toNat))
  writeBytes out plain.1

/-- `otp_wrap_aes_cbc`, in place. -/
def otpWrapAesCbc (lib : OtpLibraries) (inputs : KeyLadderInputs) (inp iv : List UInt8) :
    Option (List UInt8) := do
  guard (inp.length % aesBlockSize = 0)
  let key ← lib.hwKeyLadder inputs
  guard (0 ≤ castInt inp.length)
  let out ← lib.encryptUpdate key.toList iv (inp.take (castInt inp.length).toNat)
  pure (out.1 ++ inp.drop out.1.length)

def otpHmacSha256 (lib : OtpLibraries) (inputs : KeyLadderInputs) (in1 in2 in3 : List UInt8) :
    Option (Vector UInt8 32) := do
  let key ← lib.hwKeyLadder inputs
  lib.hmacSha256 key in1 in2 in3

/-- What `key_store_import_exported` finds in front of the ciphertext. -/
structure ExportedParts where
  header : List UInt8
  cipherParameters : List UInt8

/-- `cipher_parameters->iv`. -/
def ExportedParts.iv (parts : ExportedParts) : List UInt8 :=
  parts.cipherParameters.take aesBlockSize

/-- `cipher_parameters->ciphertext_length`, which has 64 bits. -/
def ExportedParts.ciphertextLength (parts : ExportedParts) : Nat :=
  numberOf ((parts.cipherParameters.drop aesBlockSize).take 8)

def ciphertextOffset : Nat := aesBlockSize + sizeofSaHeader + sizeofCipherParameters

/-- `required_exported_length`, a sum of 64 bits. -/
def requiredExportedLength (ciphertextLength : Nat) : Nat :=
  (ciphertextOffset + ciphertextLength + sizeofSignature) % 2 ^ 64

/-- The checks of `key_store_import_exported`. -/
def exportedParts (exported : ExportedBytes) : Except Stop ExportedParts := do
  demand (¬ exported.bytes.length < ciphertextOffset + aesBlockSize + sizeofSignature)
    .invalidKeyFormat
  let header ← exported.read aesBlockSize sizeofSaHeader
  demand ((HeaderMembers.ofBytes header).validateFormat = true) .invalidKeyFormat
  let cipherParameters ← exported.read (aesBlockSize + sizeofSaHeader) sizeofCipherParameters
  let parts := ⟨header, cipherParameters⟩
  demand (¬ (parts.ciphertextLength < aesBlockSize ∨ parts.ciphertextLength % aesBlockSize ≠ 0))
    .invalidKeyFormat
  demand (exported.bytes.length = requiredExportedLength parts.ciphertextLength) .invalidKeyFormat
  pure parts

/-- `stored_key_create` without parent rights, called by `unwrap`. -/
def storedKeyCreateBytes (resources : ImportResources) (header : HeaderMembers) (key : List UInt8) :
    Except Stop StoredKeyBytes := do
  demand (header.supportsAny = true) .invalidKeyFormat
  demand (header.validateRights = true) .invalidKeyFormat
  demand (resources.storedKey = true) .invalidKeyFormat
  pure ⟨{ header with magic := ascii "sak0" }, key⟩

/-- The static function `unwrap` on the bytes of an exported key. Where it returns `NULL` its caller
returns `SA_STATUS_INVALID_KEY_FORMAT`. -/
def unwrapBytes (lib : OtpLibraries) (resources : ImportResources) (inputs : DerivationInputs)
    (exported : ExportedBytes) (parts : ExportedParts) : Except Stop StoredKeyBytes := do
  let length := parts.ciphertextLength
  demand (¬ (length < aesBlockSize ∨ length % aesBlockSize ≠ 0)) .invalidKeyFormat
  let ciphertext ← exported.read ciphertextOffset length
  let computedMac ← demandSome .invalidKeyFormat (otpHmacSha256 lib inputs.integrityKeyInputs
    parts.header parts.cipherParameters ciphertext)
  let signature ← exported.read (ciphertextOffset + length) sizeofSignature
  demand (computedMac.toList = signature) .invalidKeyFormat
  demand (resources.cleartext = true) .invalidKeyFormat
  let cleartext ← otpUnwrapAesCbc lib ((List.range length).map resources.fresh)
    inputs.wrappingKeyInputs ciphertext parts.iv
  let padValue ← demandSome .invalidKeyFormat
    (Pkcs7.check aesBlockSize (cleartext.drop (length - aesBlockSize)))
  storedKeyCreateBytes resources (HeaderMembers.ofBytes parts.header)
    (cleartext.take (length - padValue))

def unwrapExportedBytes (lib : OtpLibraries) (resources : ImportResources)
    (exported : ExportedBytes) : Except Stop StoredKeyBytes := do
  let parts ← exportedParts exported
  let mixin ← exported.read 0 aesBlockSize
  unwrapBytes lib resources
    (exportDerivationInputs.applyMixin (Vector.ofFn fun i => mixin.getD i 0)) exported parts

/-- The static function `wrapped_key_create`. -/
def wrappedKeyCreateBytes (lib : OtpLibraries) (resources : ImportResources)
    (inputs : DerivationInputs) (storedKey : StoredKeyBytes) : Option WrappedKeyBytes := do
  guard (resources.wrappedKey = true)
  guard (resources.padded = true)
  let padded := Pkcs7.pad aesBlockSize storedKey.key
  let header := storedKey.header.toBytes
  let iv ← resources.iv
  let ciphertext ← otpWrapAesCbc lib inputs.wrappingKeyInputs padded iv.toList
  let cipherParameters := iv.toList ++ (List.range 8).map fun i =>
    .ofNat (padded.length / 256 ^ i)
  let mac ← otpHmacSha256 lib inputs.integrityKeyInputs header cipherParameters ciphertext
  pure ⟨header, iv, ciphertext, mac, inputs⟩

/-- `key_store_import_stored_key`. -/
def keyStoreImportStoredKeyBytes (lib : OtpLibraries) (resources : ImportResources)
    (store : ObjectStore WrappedKeyBytes) (storedKey : StoredKeyBytes)
    (callerUuid : Option SaUuid) : SaStatus × Nat × ObjectStore WrappedKeyBytes :=
  if callerUuid = none then (.nullParameter, slotInvalid, store)
  else if storedKey.header.validateFormat = false then (.invalidKeyFormat, slotInvalid, store)
  else
    match resources.derivationInputs with
    | none => (.internalError, slotInvalid, store)
    | some inputs =>
      match wrappedKeyCreateBytes lib resources inputs storedKey with
      | none => (.internalError, slotInvalid, store)
      | some wrappedKey => objectStoreAdd store (some wrappedKey) callerUuid

/-- `key_store_import_exported`: the status, `*key` and the store. -/
def keyStoreImportExportedBytes (lib : OtpLibraries) (resources : ImportResources)
    (store : ObjectStore WrappedKeyBytes) (exported : Option ExportedBytes)
    (callerUuid : Option SaUuid) : Except Stop (SaStatus × Nat × ObjectStore WrappedKeyBytes) :=
  match exported, callerUuid with
  | none, _ => .ok (.nullParameter, slotInvalid, store)
  | _, none => .ok (.nullParameter, slotInvalid, store)
  | some exported, callerUuid =>
    match unwrapExportedBytes lib resources exported with
    | .error (.status status) => .ok (status, slotInvalid, store)
    | .error .undefined => .error .undefined
    | .ok storedKey =>
      .ok (keyStoreImportStoredKeyBytes lib resources store storedKey callerUuid)

section Rules

variable {exported : ExportedBytes} {parts : ExportedParts} {bytes : List UInt8}

theorem ExportedBytes.read_eq_undefined :
    exported.read offset length = .error .undefined ↔
      exported.bytes.length < offset + length := by
  unfold ExportedBytes.read
  split_ifs with h
  · exact ⟨nofun, fun h' => absurd h (Nat.not_le.2 h')⟩
  · exact ⟨fun _ => Nat.not_le.1 h, fun _ => rfl⟩

theorem ExportedBytes.length_of_read (h : exported.read offset length = .ok bytes) :
    bytes.length = length := by
  unfold ExportedBytes.read at h
  split_ifs at h with hle
  cases h
  rw [List.length_take, List.length_drop]
  omega

theorem writeBytes_eq_undefined {buffer : List UInt8} :
    writeBytes buffer bytes = .error .undefined ↔ buffer.length < bytes.length := by
  unfold writeBytes
  split_ifs with h
  · exact ⟨nofun, fun h' => absurd h (Nat.not_le.2 h')⟩
  · exact ⟨fun _ => Nat.not_le.1 h, fun _ => rfl⟩

/-- A length of 64 bits that the checks accept is that of the ciphertext: the sum does not wrap,
since the bytes are longer than everything but the ciphertext. -/
theorem exportedParts_ok (h : exportedParts exported = .ok parts) :
    ciphertextOffset + parts.ciphertextLength + sizeofSignature = exported.bytes.length ∧
      aesBlockSize ≤ parts.ciphertextLength := by
  simp only [exportedParts, bind_eq_ok, demand_eq_ok] at h
  obtain ⟨-, hmin, header, hheader, -, hvalid, cipherParameters, hparameters, -, hblocks, -,
    hlength, hparts⟩ := h
  obtain rfl := Except.ok.inj hparts
  have hlt : ExportedParts.ciphertextLength ⟨header, cipherParameters⟩ < 2 ^ 64 := by
    have hlt := numberOf_lt ((cipherParameters.drop aesBlockSize).take 8)
    rw [List.length_take, List.length_drop, exported.length_of_read hparameters] at hlt
    exact hlt
  generalize ExportedParts.ciphertextLength ⟨header, cipherParameters⟩ = n at *
  have hbound := exported.length_lt
  have hoffset : ciphertextOffset = 1712 := rfl
  have hsignature : sizeofSignature = 32 := rfl
  have hblock : aesBlockSize = 16 := rfl
  rw [requiredExportedLength] at hlength
  omega

theorem exportedParts_ne_undefined : exportedParts exported ≠ .error .undefined := by
  intro h
  simp only [exportedParts, bind_eq_undefined, demand_ne_undefined, demand_eq_ok, false_or,
    ExportedBytes.read_eq_undefined] at h
  obtain ⟨-, hmin, h⟩ := h
  have hoffset : ciphertextOffset = 1712 := rfl
  have hheader : sizeofSaHeader = 1672 := rfl
  have hparameters : sizeofCipherParameters = 24 := rfl
  have hblock : aesBlockSize = 16 := rfl
  rcases h with h | ⟨header, -, -, -, h | ⟨cipherParameters, -, -, -, -, -, h⟩⟩
  · omega
  · omega
  · cases h

theorem otpUnwrapAesCbc_ne_undefined {out wrapped : List UInt8} (h : wrapped.length ≤ out.length) :
    otpUnwrapAesCbc lib out inputs wrapped iv ≠ .error .undefined := by
  intro h'
  simp only [otpUnwrapAesCbc, bind_eq_undefined, demand_ne_undefined, demandSome_ne_undefined,
    writeBytes_eq_undefined, false_or] at h'
  obtain ⟨-, -, key, -, -, -, plain, -, hlt⟩ := h'
  rw [plain.2, List.length_take] at hlt
  omega

theorem storedKeyCreateBytes_ne_undefined :
    storedKeyCreateBytes resources header key ≠ .error .undefined := by
  intro h
  simp only [storedKeyCreateBytes, bind_eq_undefined, demand_ne_undefined, false_or] at h
  obtain ⟨-, -, -, -, -, -, hpure⟩ := h
  cases hpure

theorem unwrapBytes_ne_undefined
    (h : ciphertextOffset + parts.ciphertextLength + sizeofSignature = exported.bytes.length) :
    unwrapBytes lib resources inputs exported parts ≠ .error .undefined := by
  intro h'
  simp only [unwrapBytes, bind_eq_undefined, demand_ne_undefined, demandSome_ne_undefined,
    ExportedBytes.read_eq_undefined, false_or] at h'
  obtain ⟨-, -, hread | ⟨ciphertext, hciphertext, mac, -, hread | ⟨signature, -, -, -, -, -,
    hunwrap | ⟨cleartext, -, padValue, -, hcreate⟩⟩⟩⟩ := h'
  · omega
  · omega
  · refine otpUnwrapAesCbc_ne_undefined ?_ hunwrap
    rw [exported.length_of_read hciphertext, List.length_map, List.length_range]
  · exact storedKeyCreateBytes_ne_undefined hcreate

theorem unwrapExportedBytes_ne_undefined :
    unwrapExportedBytes lib resources exported ≠ .error .undefined := by
  intro h
  simp only [unwrapExportedBytes, bind_eq_undefined, exportedParts_ne_undefined, false_or,
    ExportedBytes.read_eq_undefined] at h
  obtain ⟨parts, hparts, h⟩ := h
  obtain ⟨hlength, hblock⟩ := exportedParts_ok hparts
  rcases h with hread | ⟨mixin, -, hunwrap⟩
  · omega
  · exact unwrapBytes_ne_undefined hlength hunwrap

end Rules

theorem keyStoreImportStoredKeyBytes_error {store store' : ObjectStore WrappedKeyBytes}
    (h : keyStoreImportStoredKeyBytes lib resources store storedKey callerUuid =
      (status, key, store')) (hne : status ≠ .ok) : key = slotInvalid ∧ store' = store := by
  have hearly {e : SaStatus} (h : (e, slotInvalid, store) = (status, key, store')) :
      key = slotInvalid ∧ store' = store := by
    obtain ⟨-, hrest⟩ := Prod.mk.inj h
    exact ⟨(Prod.mk.inj hrest).1.symm, (Prod.mk.inj hrest).2.symm⟩
  unfold keyStoreImportStoredKeyBytes at h
  split_ifs at h
  · exact hearly h
  · exact hearly h
  · split at h
    · exact hearly h
    · split at h
      · exact hearly h
      · exact objectStoreAdd_slot h hne

/-- Importing an exported key reads inside its bytes and writes inside the buffer, whatever the
bytes are, no sum of lengths that is accepted wraps, and without success nothing is imported. -/
theorem keyStoreImportExportedBytes_safe (lib : OtpLibraries) (resources : ImportResources)
    (store : ObjectStore WrappedKeyBytes) (exported : Option ExportedBytes)
    (callerUuid : Option SaUuid) :
    (∀ e parts, exported = some e → exportedParts e = .ok parts →
      ciphertextOffset + parts.ciphertextLength + sizeofSignature = e.bytes.length) ∧
    ∃ status key store',
      keyStoreImportExportedBytes lib resources store exported callerUuid =
        .ok (status, key, store') ∧
      (status ≠ .ok → key = slotInvalid ∧ store' = store) := by
  refine ⟨fun e parts _ hparts => (exportedParts_ok hparts).1, ?_⟩
  unfold keyStoreImportExportedBytes
  split
  · exact ⟨_, _, _, rfl, fun _ => ⟨rfl, rfl⟩⟩
  · exact ⟨_, _, _, rfl, fun _ => ⟨rfl, rfl⟩⟩
  · rename_i e u _
    split
    · exact ⟨_, _, _, rfl, fun _ => ⟨rfl, rfl⟩⟩
    · rename_i hundefined
      exact absurd hundefined unwrapExportedBytes_ne_undefined
    · rename_i storedKey _
      exact ⟨_, _, _, rfl, fun hne => keyStoreImportStoredKeyBytes_error rfl hne⟩

end TaSecureApi
