import TaSecureApi.KeyContainer

namespace TaSecureApi
set_option autoImplicit true

/-- `sa_import_parameters_soc`: the size that it says it has, and what is read of it. -/
structure SaImportParametersSoc where
  length : Nat
  version : Nat
  objectId : BitVec 64
  deriving DecidableEq

def sizeofSaImportParametersSoc : Nat := 624

def maxNumAllowedTaIds : Nat := 32

def maxAadSize : Nat := 1300

structure SocKcPayload where
  containerVersion : UInt8
  rootKeyType : SaRootKeyType
  keyTypeString : List UInt8
  encryptedKey : List UInt8
  iv : Vector UInt8 12
  keyUsage : UInt8
  decryptedKeyUsage : UInt8
  entitledTaIds : List (List UInt8)
  keyLadderInputs : KeyLadderInputs
  deriving DecidableEq

def keyOnly : UInt8 := 2

def socDataAndKey : UInt8 := 3

def castUint8 (n : Int) : UInt8 := UInt8.ofNat (n % 256).toNat

/-- A member in base64 that is decoded into an array. Only a text that has the wrong length and is
not base64 is refused; what is decoded from one that is longer goes behind the array. -/
def decodeFixed (bioRead : BioRead) (unwritten : Unwritten) (place : ContainerPlace)
    (array : Vector UInt8 n) (value : JsonValue) (urlDecode : Bool) :
    Except Stop (Vector UInt8 n) :=
  let (size, _) := jsonValueAsString (unwritten.length place) value
  match decodeMember bioRead unwritten place value urlDecode with
  | none => do
    demand (b64DecodedLength size = n) .invalidKeyFormat
    .ok array
  | some bytes =>
    if bytes.length > n then .error .undefined
    else .ok (Vector.ofFn fun i => bytes.getD i (array.get i))

/-- The alg of `parse_header`. -/
def parseHeader (fields : List (List UInt8 × JsonValue)) : Except Stop (List UInt8) := do
  let value ← requiredField "alg" fields
  demandSome .invalidKeyFormat (jsonValueAsString 0 value).2

/-- The root key type, from version 5 on; a value that is no string is `NULL`. -/
def parseRootKeyType (unwritten : Unwritten) (fields : List (List UInt8 × JsonValue))
    (containerVersion : UInt8) : Except Stop SaRootKeyType :=
  if containerVersion < 5 then .ok .undefined
  else
    match jsonKeyValueFind "rootKeyType" fields with
    | none => .ok .undefined
    | some value =>
      match jsonValueAsString (unwritten.length .rootKeyType) value with
      | (length, none) => if length = 0 then .ok .unique else .error .undefined
      | (_, some text) =>
        if agreesWith unwritten "unique" text then .ok .unique
        else if agreesWith unwritten "common" text then .ok .common
        else .error (.status .invalidKeyFormat)

def copyTaIds (unwritten : Unwritten) : Nat → List JsonValue → Except Stop (List (List UInt8))
  | _, [] => .ok []
  | i, value :: values =>
    let (taIdLength, taId) := jsonValueAsString (unwritten.length (.taId i)) value
    if taIdLength ≠ uuidLength then .error (.status .invalidKeyFormat)
    else
      match taId with
      | none => .error .undefined
      | some taId =>
        -- `memcpy` into an array that has an entry less than the index
        if i ≥ maxNumAllowedTaIds then .error .undefined
        else do
          let taIds ← copyTaIds unwritten (i + 1) values
          .ok (taId :: taIds)

/-- The entitled TA IDs of the payload, whose number is zero before. -/
def parseEntitledTaIds (unwritten : Unwritten) (fields : List (List UInt8 × JsonValue)) :
    Except Stop (List (List UInt8)) :=
  match jsonKeyValueFind "entitledTaIds" fields with
  | none => .ok []
  | some value => copyTaIds unwritten 0 ((jsonValueAsArray 0 value).2.getD [])

structure SocKcKey where
  containerVersion : UInt8
  rootKeyType : SaRootKeyType
  keyTypeString : List UInt8
  encryptedKey : List UInt8
  iv : Vector UInt8 12
  keyUsage : UInt8
  decryptedKeyUsage : UInt8

/-- `parse_payload`, up to the TA IDs. -/
def parsePayloadKey (libraries : Libraries) (unwritten : Unwritten)
    (fields : List (List UInt8 × JsonValue)) : Except Stop SocKcKey := do
  let containerVersion := castUint8 (jsonValueAsInteger (← requiredField "containerVersion" fields))
  let rootKeyType ← parseRootKeyType unwritten fields containerVersion
  let keyType ← requiredField "keyType" fields
  let keyTypeString ← demandSome .invalidKeyFormat (jsonValueAsString 0 keyType).2
  let encryptedKeyField ← requiredField "encryptedKey" fields
  let encryptedKey ← demandSome .invalidKeyFormat
    (decodeMember libraries.bioRead unwritten .encryptedKey encryptedKeyField false)
  let ivField ← requiredField "iv" fields
  let iv ← decodeFixed libraries.bioRead unwritten .iv (.replicate 12 0) ivField false
  let keyUsage := castUint8 (jsonValueAsInteger (← requiredField "keyUsage" fields))
  let decryptedKeyUsage :=
    if keyUsage = keyOnly then
      (jsonKeyValueFind "decryptedKeyUsage" fields).elim 0 (castUint8 ∘ jsonValueAsInteger)
    else 0
  pure {
    containerVersion := containerVersion
    rootKeyType := rootKeyType
    keyTypeString := keyTypeString
    encryptedKey := encryptedKey
    iv := iv
    keyUsage := keyUsage
    decryptedKeyUsage := decryptedKeyUsage }

def parseLadderInput (libraries : Libraries) (unwritten : Unwritten) (key : String)
    (place : ContainerPlace) (fields : List (List UInt8 × JsonValue)) (urlDecode : Bool) :
    Except Stop (Vector UInt8 16) := do
  let value ← requiredField key fields
  decodeFixed libraries.bioRead unwritten place (Vector.ofFn fun i => unwritten.byte place i) value
    urlDecode

def parsePayload (libraries : Libraries) (unwritten : Unwritten)
    (fields : List (List UInt8 × JsonValue)) : Except Stop SocKcPayload := do
  let key ← parsePayloadKey libraries unwritten fields
  let entitledTaIds ← parseEntitledTaIds unwritten fields
  let c1 ← parseLadderInput libraries unwritten "c1" .c1 fields false
  let c2 ← parseLadderInput libraries unwritten "c2" .c2 fields true
  let c3 ← parseLadderInput libraries unwritten "c3" .c3 fields false
  pure {
    containerVersion := key.containerVersion
    rootKeyType := key.rootKeyType
    keyTypeString := key.keyTypeString
    encryptedKey := key.encryptedKey
    iv := key.iv
    keyUsage := key.keyUsage
    decryptedKeyUsage := key.decryptedKeyUsage
    entitledTaIds := entitledTaIds
    keyLadderInputs := ⟨c1, c2, c3⟩ }

/-- `memcpy` to the end of the AAD. -/
def appendAad (aad bytes : List UInt8) : Except Stop (List UInt8) :=
  if aad.length + bytes.length > maxAadSize then .error .undefined else .ok (aad ++ bytes)

def appendTaIds (aad : List UInt8) : List (List UInt8) → Except Stop (List UInt8)
  | [] => .ok aad
  | taId :: taIds => do
    let aad ← appendAad aad (taId.map lowerCase)
    appendTaIds aad taIds

def rootKeyTypeText : SaRootKeyType → List UInt8
  | .undefined => []
  | .unique => ascii "unique"
  | .common => ascii "common"

/-- `build_aad`; what fails has the length 0. -/
def buildAad (unwritten : Unwritten) (alg : List UInt8) (payload : SocKcPayload) :
    Except Stop (List UInt8) := do
  demand (alg = ascii "A128GCM") .invalidKeyFormat
  let aad ← appendAad [] alg
  demand (4 ≤ payload.containerVersion) .invalidKeyFormat
  let aad ← appendAad aad [payload.containerVersion]
  let aad ← appendAad aad
    (if 5 ≤ payload.containerVersion then rootKeyTypeText payload.rootKeyType else [])
  demand (payload.keyTypeString ≠ []) .invalidKeyFormat
  let aad ← appendAad aad payload.keyTypeString
  demand (payload.keyUsage ≠ 0 ∧ payload.keyUsage ≤ socDataAndKey) .invalidKeyFormat
  demand (¬ (payload.keyUsage = keyOnly ∧
    (agreesWith unwritten "HMAC-128" payload.keyTypeString ∨
      agreesWith unwritten "HMAC-160" payload.keyTypeString ∨
      agreesWith unwritten "HMAC-256" payload.keyTypeString))) .invalidKeyFormat
  let aad ← appendAad aad [payload.keyUsage]
  let aad ←
    if payload.keyUsage = keyOnly then do
      demand (payload.decryptedKeyUsage ≠ 0 ∧ payload.decryptedKeyUsage ≤ socDataAndKey)
        .invalidKeyFormat
      appendAad aad [payload.decryptedKeyUsage]
    else .ok aad
  let aad ← appendAad aad payload.iv.toList
  let aad ← appendAad aad payload.keyLadderInputs.c1.toList
  let aad ← appendAad aad payload.keyLadderInputs.c2.toList
  let aad ← appendAad aad payload.keyLadderInputs.c3.toList
  demand (payload.entitledTaIds.length ≤ maxNumAllowedTaIds) .invalidKeyFormat
  appendTaIds aad payload.entitledTaIds

/-- What the name of a key type stands for. -/
structure SocKeyKind where
  name : String
  keyType : SaKeyType
  keySize : Nat
  subtype : KeySubtype
  curve : Option SaEllipticCurve

/-- The names of `get_key_type_and_size`, in the order in which they are compared. -/
def socKeyKinds : List SocKeyKind :=
  [⟨"AES-128", .symmetric, 16, .aesSubtype, none⟩,
    ⟨"HMAC-128", .symmetric, 16, .hmacSubtype, none⟩,
    ⟨"AES-256", .symmetric, 32, .aesSubtype, none⟩,
    ⟨"CHACHA20-256", .symmetric, 32, .chacha20Subtype, none⟩,
    ⟨"HMAC-256", .symmetric, 32, .hmacSubtype, none⟩,
    ⟨"HMAC-160", .symmetric, 20, .hmacSubtype, none⟩,
    ⟨"RSA-1024", .rsa, 128, .privateSubtype, none⟩,
    ⟨"RSA-2048", .rsa, 256, .privateSubtype, none⟩,
    ⟨"RSA-3072", .rsa, 384, .privateSubtype, none⟩,
    ⟨"RSA-4096", .rsa, 512, .privateSubtype, none⟩,
    ⟨"ECC-P192", .ec, 24, .privateSubtype, some .nistP192⟩,
    ⟨"ECC-P224", .ec, 28, .privateSubtype, some .nistP224⟩,
    ⟨"ECC-P256", .ec, 32, .privateSubtype, some .nistP256⟩,
    ⟨"ECC-P384", .ec, 48, .privateSubtype, some .nistP384⟩,
    ⟨"ECC-P521", .ec, 66, .privateSubtype, some .nistP521⟩,
    ⟨"ECC-ED25519", .ec, 32, .privateSubtype, some .ed25519⟩,
    ⟨"ECC-ED448", .ec, 57, .privateSubtype, some .ed448⟩,
    ⟨"ECC-X25519", .ec, 32, .privateSubtype, some .x25519⟩,
    ⟨"ECC-X448", .ec, 56, .privateSubtype, some .x448⟩]

def getKeyTypeAndSize (unwritten : Unwritten) (keyTypeString : List UInt8) : Option SocKeyKind :=
  socKeyKinds.find? fun kind => agreesWith unwritten kind.name keyTypeString

def objectIdToId (objectId : BitVec 64) : Vector UInt8 64 :=
  Vector.ofFn fun i =>
    if i.val < 8 then UInt8.ofNat ((objectId >>> (56 - 8 * i.val)).toNat % 256) else 0

def socAllowedTas (entitledTaIds : List (List UInt8)) : List SaUuid :=
  if entitledTaIds = [] then allMatch :: List.replicate (maxNumAllowedTaIds - 1) noMatch
  else
    entitledTaIds.map (fun taId => (convertUuid taId noMatch).2) ++
      List.replicate (maxNumAllowedTaIds - entitledTaIds.length) noMatch

/-- `fields_to_rights` of the SoC key container. -/
def socFieldsToRights (keyType : SaKeyType) (subtype : KeySubtype) (payload : SocKcPayload)
    (parameters : Option SaImportParametersSoc) : Except Stop SaRights := do
  let id ← match parameters with
    | none => .ok (.replicate 64 0)
    | some parametersSoc => do
      demand (parametersSoc.length = sizeofSaImportParametersSoc) .invalidParameter
      demand (parametersSoc.version = 2 ∨ parametersSoc.version = 3) .invalidParameter
      .ok (objectIdToId parametersSoc.objectId)
  let usageFlags ← liftStatus (keyUsageToUsageFlags
    (saUsageBitSet 0 [.cacheable] ||| saUsageOutputProtectionsMask) payload.keyUsage.toNat keyType
    subtype)
  let childUsageFlags ←
    if payload.keyUsage = keyOnly then
      liftStatus (keyUsageToUsageFlags 0 payload.decryptedKeyUsage.toNat keyType subtype)
    else .ok 0
  demand (payload.entitledTaIds.length ≤ maxNumAllowedTaIds) .invalidKeyFormat
  pure {
    usageFlags := usageFlags
    childUsageFlags := childUsageFlags
    notBefore := 0
    notOnOrAfter := 2 ^ 64 - 1
    allowedTas := socAllowedTas payload.entitledTaIds
    id := id }

/-- The checks of the key that was decrypted, and its creation. A private key of another curve
leaves the status as it is, which is `SA_STATUS_OK`. -/
def socCreateKey (pkcs8 : Pkcs8) (kind : SocKeyKind) (rights : SaRights) (key : List UInt8) :
    Except Stop (SaStatus × Option StoredKey) := do
  let create (typeParameters : SaTypeParameters) : Except Stop (SaStatus × Option StoredKey) := do
    let storedKey ← liftStatus (storedKeyCreate rights none kind.keyType typeParameters
      kind.keySize key)
    pure (.ok, some storedKey)
  match kind.keyType with
  | .rsa => do
    let rsaKeySize := rsaValidatePrivate pkcs8 key
    demand (rsaKeySize ≠ 0) .invalidKeyFormat
    demand (rsaKeySize = kind.keySize) .invalidKeyFormat
    create .zero
  | .ec =>
    let ecKeySize := ecValidatePrivate pkcs8 kind.curve key
    if ecKeySize = 0 then .ok (.ok, none)
    else do
      demand (ecKeySize = kind.keySize) .invalidKeyFormat
      create (kind.curve.elim .zero SaTypeParameters.curve)
  | .symmetric => do
    demand (key.length = kind.keySize) .invalidKeyFormat
    create .zero
  | .dh => .error (.status .invalidKeyFormat)

def decryptKeyAndVerifyMac (libraries : Libraries) (unwritten : Unwritten) (alg : List UInt8)
    (payload : SocKcPayload) (mac : List UInt8) (parameters : Option SaImportParametersSoc) :
    Except Stop (SaStatus × Option StoredKey) := do
  let aad ← buildAad unwritten alg payload
  let kind ← demandSome .invalidKeyFormat (getKeyTypeAndSize unwritten payload.keyTypeString)
  let key ← liftStatus (otpUnwrapAesGcm libraries payload.keyLadderInputs
    (if payload.rootKeyType = .undefined then .unique else payload.rootKeyType)
    payload.encryptedKey payload.iv aad mac)
  let rights ← socFieldsToRights kind.keyType kind.subtype payload parameters
  socCreateKey libraries.pkcs8 kind rights key

def socKcParse (libraries : Libraries) (unwritten : Unwritten) (unpacked : Unpacked) :
    Except Stop (List UInt8 × SocKcPayload) := do
  let headerFields ← demandSome .invalidKeyFormat
    (jsonValueAsMap (libraries.jsonParseBytes unpacked.header))
  let alg ← parseHeader headerFields
  let payloadFields ← demandSome .invalidKeyFormat
    (jsonValueAsMap (libraries.jsonParseBytes unpacked.payload))
  let payload ← parsePayload libraries unwritten payloadFields
  pure (alg, payload)

def socKcUnwrap (libraries : Libraries) (unwritten : Unwritten) (inp : List UInt8)
    (parameters : Option SaImportParametersSoc) : Unwrapped :=
  Unwrapped.of do
    let unpacked ← demandSome .invalidKeyFormat (unpackSocKc libraries.bioRead inp)
    let (alg, payload) ← socKcParse libraries unwritten unpacked
    decryptKeyAndVerifyMac libraries unwritten alg payload unpacked.mac parameters

section Errors

variable {libraries : Libraries} {unwritten : Unwritten}

theorem keyUsageToUsageFlags_ne_ok :
    keyUsageToUsageFlags flags usage keyType subtype ≠ .error .ok := by
  unfold keyUsageToUsageFlags
  split_ifs <;> simp

theorem storedKeyCreate_ne_ok :
    storedKeyCreate rights parentRights keyType typeParameters size inp ≠ .error .ok := by
  simp [storedKeyCreate, pure, Except.pure]

theorem unwrapAesEcbInternal_ne_ok {aes : Aes} : unwrapAesEcbInternal aes key inp ≠ .error .ok := by
  simp [unwrapAesEcbInternal, requireAes]

theorem otpUnwrapAesGcm_ne_ok :
    otpUnwrapAesGcm libraries inputs rootKeyType wrapped iv aad tag ≠ .error .ok := by
  simp [otpUnwrapAesGcm, otpHwKeyLadder, unwrapAesGcmInternal, unwrapAesEcbInternal_ne_ok, pure,
    Except.pure]

theorem decodeFixed_fails {array : Vector UInt8 n} :
    FailsWithError (decodeFixed bioRead unwritten place array value urlDecode) := by
  unfold decodeFixed
  dsimp only
  split
  · simp
  · simp

theorem parseRootKeyType_fails :
    FailsWithError (parseRootKeyType unwritten fields containerVersion) := by
  unfold parseRootKeyType
  split_ifs
  · simp
  split
  · simp
  split
  · simp
  · simp

theorem copyTaIds_fails : FailsWithError (copyTaIds unwritten i values) := by
  induction values generalizing i with
  | nil => exact failsWithError_ok _
  | cons value values ih =>
    unfold copyTaIds
    dsimp only
    split
    · simp
    · split
      · simp
      · simp [ih]

theorem parsePayload_fails : FailsWithError (parsePayload libraries unwritten fields) := by
  have hids : FailsWithError (parseEntitledTaIds unwritten fields) := by
    unfold parseEntitledTaIds
    split
    · simp
    · exact copyTaIds_fails
  simp [parsePayload, parsePayloadKey, requiredField, parseRootKeyType_fails, decodeFixed_fails,
    parseLadderInput, hids]

theorem appendAad_fails : FailsWithError (appendAad aad bytes) := by
  simp [appendAad]

theorem buildAad_fails : FailsWithError (buildAad unwritten alg payload) := by
  have hids (aad : List UInt8) (taIds : List (List UInt8)) :
      FailsWithError (appendTaIds aad taIds) := by
    induction taIds generalizing aad with
    | nil => exact failsWithError_ok _
    | cons taId taIds ih => simp [appendTaIds, appendAad_fails, ih]
  simp [buildAad, appendAad_fails, hids]

theorem socCreateKey_fails : FailsWithError (socCreateKey pkcs8 kind rights key) := by
  unfold socCreateKey
  dsimp only
  split
  · simp [storedKeyCreate_ne_ok]
  · simp [storedKeyCreate_ne_ok]
  · simp [storedKeyCreate_ne_ok]
  · simp

theorem socFieldsToRights_fails :
    FailsWithError (socFieldsToRights keyType subtype payload parameters) := by
  cases parameters with
  | none => simp [socFieldsToRights, keyUsageToUsageFlags_ne_ok]
  | some parametersSoc => simp [socFieldsToRights, keyUsageToUsageFlags_ne_ok]

theorem decryptKeyAndVerifyMac_fails :
    FailsWithError (decryptKeyAndVerifyMac libraries unwritten alg payload mac parameters) := by
  simp [decryptKeyAndVerifyMac, buildAad_fails, otpUnwrapAesGcm_ne_ok, socFieldsToRights_fails,
    socCreateKey_fails]

theorem socKcParse_fails : FailsWithError (socKcParse libraries unwritten unpacked) := by
  simp [socKcParse, parseHeader, requiredField, parsePayload_fails]

end Errors

end TaSecureApi
