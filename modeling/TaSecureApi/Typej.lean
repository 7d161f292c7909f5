import TaSecureApi.SocKeyContainer

namespace TaSecureApi
set_option autoImplicit true

/-- `verify_mac`, over the header, a dot and the payload. -/
def verifyMac (libraries : Libraries) (header payload mac : List UInt8) (storedKey : StoredKey) :
    Except SaStatus Unit := do
  require (mac.length = 32) .invalidParameter
  let computedMac ← libraries.hmacSha256 storedKey.key (header ++ [46] ++ payload)
  require (computedMac.toList = mac) .invalidParameter

/-- What the loop over the rights keeps: the flags, and which of two rights it has seen. -/
structure ContentKeyRights where
  usageFlags : BitVec 64
  cgmsaRequired : Bool
  analogAllowed : Bool
  deriving DecidableEq

/-- One right of `content_key_rights_to_usage_flags`, numbered as `typej_right_e`. -/
def ContentKeyRights.add (state : ContentKeyRights) : Nat → Except SaStatus ContentKeyRights
  | 0 => .ok state
  | 1 => .ok { state with usageFlags := saUsageBitClear state.usageFlags [.svpOptional] }
  | 2 => .ok { state with usageFlags := saUsageBitSet state.usageFlags [.allowedDigitalDtcp] }
  | 3 => .ok { state with usageFlags := saUsageBitSet state.usageFlags [.allowedDigitalHdcp14] }
  | 4 => .ok { state with usageFlags := saUsageBitSet state.usageFlags [.allowedDigitalHdcp22] }
  | 5 =>
    let flags :=
      if state.cgmsaRequired then saUsageBitClear state.usageFlags [.allowedAnalogUnprotected]
      else saUsageBitSet state.usageFlags [.allowedAnalogUnprotected]
    .ok
      { state with
        usageFlags := saUsageBitSet flags [.allowedAnalogCgmsa], analogAllowed := true }
  | 8 =>
    let flags :=
      if state.analogAllowed then
        saUsageBitSet (saUsageBitClear state.usageFlags [.allowedAnalogUnprotected])
          [.allowedAnalogCgmsa]
      else state.usageFlags
    .ok { state with usageFlags := flags, cgmsaRequired := true }
  | _ => .error .invalidKeyFormat

def contentKeyRightsToUsageFlags (usageFlags : BitVec 64) (contentKeyRightsBytes : List UInt8) :
    Except SaStatus (BitVec 64) := do
  let flags := saUsageBitSet (usageFlags &&& ~~~saUsageOutputProtectionsMask) [.svpOptional]
  let state ← contentKeyRightsBytes.foldlM (fun state right => state.add right.toNat)
    (⟨flags, false, false⟩ : ContentKeyRights)
  pure state.usageFlags

/-- `iso8601_to_epoch_time`: the time -1 is not refused. -/
def iso8601ToEpochTime (libraries : Libraries) (iso8601 : List UInt8) : Option Nat := do
  guard (iso8601.length = 20)
  let time ← libraries.parseTime iso8601
  guard (¬ (time < 0 ∧ time ≠ -1))
  pure (time % 2 ^ 64).toNat

def timeField (libraries : Libraries) (key : String) (fields : List (List UInt8 × JsonValue)) :
    Except Stop Nat := do
  let value ← requiredField key fields
  let text ← demandSome .invalidKeyFormat (jsonValueAsString 0 value).2
  demandSome .invalidKeyFormat (iso8601ToEpochTime libraries text)

/-- `strncpy` of a text into an id. -/
def copyId (text : List UInt8) : Vector UInt8 64 :=
  Vector.ofFn fun i => (text.takeWhile (· ≠ 0)).getD i 0

/-- The rights of a Type-J container, without the allowed TAs. -/
def typejRights (libraries : Libraries) (unwritten : Unwritten)
    (fields : List (List UInt8 × JsonValue)) : Except Stop SaRights := do
  let keyId ← requiredField "contentKeyId" fields
  let keyIdText ← demandSome .invalidKeyFormat (jsonValueAsString 0 keyId).2
  demand (keyIdText.length ≤ 63) .invalidKeyFormat
  let rightsField ← requiredField "contentKeyRights" fields
  let _ ← demandSome .invalidKeyFormat (jsonValueAsString 0 rightsField).2
  let rightsBytes ← demandSome .invalidKeyFormat
    (decodeMember libraries.bioRead unwritten .contentKeyRights rightsField false)
  let outputFlags ← liftStatus (contentKeyRightsToUsageFlags 0 rightsBytes)
  let usageField ← requiredField "contentKeyUsage" fields
  let usageFlags ← liftStatus (keyUsageToUsageFlags outputFlags (jsonValueAsInteger usageField)
    .symmetric .aesSubtype)
  let notBefore ← timeField libraries "contentKeyNotBefore" fields
  let notOnOrAfter ← timeField libraries "contentKeyNotOnOrAfter" fields
  let cacheableField ← requiredField "contentKeyCacheable" fields
  pure {
    usageFlags :=
      if jsonValueAsBool cacheableField then saUsageBitSet usageFlags [.cacheable] else usageFlags
    childUsageFlags := 0
    notBefore := notBefore
    notOnOrAfter := notOnOrAfter
    allowedTas := []
    id := copyId keyIdText }

/-- The loop that converts the entitled TA IDs, from an index on. -/
def convertTaIds (unwritten : Unwritten) : Nat → List JsonValue → Except Stop (List SaUuid)
  | _, [] => .ok []
  | i, value :: values =>
    let (taIdLength, taId) := jsonValueAsString (unwritten.length (.taId i)) value
    if taIdLength ≠ uuidLength then .error (.status .invalidKeyFormat)
    else
      match taId with
      | none => .error .undefined
      | some taId => do
        -- whether the conversion fails is not looked at
        let allowedTas ← convertTaIds unwritten (i + 1) values
        .ok ((convertUuid taId noMatch).2 :: allowedTas)

/-- The allowed TAs of a Type-J container. A value that is no array leaves the number of entries
unwritten. -/
def typejAllowedTas (unwritten : Unwritten) (fields : List (List UInt8 × JsonValue)) :
    Except Stop (List SaUuid) :=
  match jsonKeyValueFind "entitledTaIds" fields with
  | none => .ok (allMatch :: List.replicate (maxNumAllowedTaIds - 1) noMatch)
  | some value => do
    let (entitledTaIdsLength, entitledTaIds) :=
      jsonValueAsArray (unwritten.length .entitledTaIds) value
    demand (entitledTaIdsLength ≤ maxNumAllowedTaIds) .invalidKeyFormat
    match entitledTaIds with
    | none =>
      if entitledTaIdsLength = 0 then .ok (List.replicate maxNumAllowedTaIds noMatch)
      else .error .undefined
    | some values => do
      let allowedTas ← convertTaIds unwritten 0 values
      .ok (allowedTas ++ List.replicate (maxNumAllowedTaIds - allowedTas.length) noMatch)

/-- `fields_to_rights` of the Type-J container. -/
def typejFieldsToRights (libraries : Libraries) (unwritten : Unwritten)
    (fields : List (List UInt8 × JsonValue)) : Except Stop SaRights := do
  let rights ← typejRights libraries unwritten fields
  let allowedTas ← typejAllowedTas unwritten fields
  pure { rights with allowedTas := allowedTas }

/-- The padding of a key that was decrypted; what is before an empty buffer is not ours to read. -/
def padValue (padded : Bool) (unwrappedKey : List UInt8) : Except Stop Nat :=
  if ¬ padded then .ok 0
  else if unwrappedKey.length < aesBlockSize then .error .undefined
  else demandSome .invalidKeyFormat
    (Pkcs7.check aesBlockSize (unwrappedKey.drop (unwrappedKey.length - aesBlockSize)))

/-- The form of `unwrap_aes_ecb` and `unwrap_aes_cbc`, after the decryption. -/
def importUnwrapped (libraries : Libraries) (rights : SaRights) (padded : Bool)
    (storedKeyWrapping : StoredKey) (unwrappedKey : List UInt8) : Except Stop StoredKey := do
  let pad ← padValue padded unwrappedKey
  liftStatus (importKey libraries.pkcs8 rights storedKeyWrapping.header.rights .symmetric none
    (unwrappedKey.take (unwrappedKey.length - pad)))

def unwrapAesEcb (libraries : Libraries) (inp : List UInt8) (rights : SaRights) (padded : Bool)
    (storedKeyWrapping : StoredKey) : Except Stop StoredKey := do
  let unwrappedKey ← liftStatus (unwrapAesEcbInternal libraries.aes storedKeyWrapping.key inp)
  importUnwrapped libraries rights padded storedKeyWrapping unwrappedKey

def unwrapAesCbc (libraries : Libraries) (inp : List UInt8) (rights : SaRights) (padded : Bool)
    (iv : List UInt8) (storedKeyWrapping : StoredKey) : Except Stop StoredKey := do
  let unwrappedKey ← liftStatus (unwrapAesCbcInternal libraries.aes storedKeyWrapping.key iv inp)
  importUnwrapped libraries rights padded storedKeyWrapping unwrappedKey

def typejContentKey (libraries : Libraries) (unwritten : Unwritten)
    (fields : List (List UInt8 × JsonValue)) : Except Stop (List UInt8) := do
  let field ← requiredField "contentKey" fields
  let _ ← demandSome .invalidKeyFormat (jsonValueAsString 0 field).2
  demandSome .invalidKeyFormat
    (decodeMember libraries.bioRead unwritten .contentKey field false)

def unwrapKeyV1 (libraries : Libraries) (unwritten : Unwritten)
    (fields : List (List UInt8 × JsonValue)) (rights : SaRights)
    (storedKeyEncryption : StoredKey) : Except Stop (SaStatus × Option StoredKey) := do
  let contentKey ← typejContentKey libraries unwritten fields
  demand (contentKey.length % 16 = 0) .invalidKeyFormat
  let storedKey ← unwrapAesEcb libraries contentKey rights false storedKeyEncryption
  pure (.ok, some storedKey)

/-- The algorithms of `parse_cipher_algorithm`. -/
def parseCipherAlgorithm : Option (List UInt8) → Option SaCipherAlgorithm
  | none => none
  | some algorithm =>
    if algorithm = ascii "aesEcbNone" then some .aesEcb
    else if algorithm = ascii "aesEcbPkcs5" then some .aesEcbPkcs7
    else if algorithm = ascii "aesCbcNone" then some .aesCbc
    else if algorithm = ascii "aesCbcPkcs5" then some .aesCbcPkcs7
    else none

def typejIv (libraries : Libraries) (unwritten : Unwritten)
    (fields : List (List UInt8 × JsonValue)) : Except Stop (List UInt8) := do
  let field ← requiredField "contentKeyTransportIv" fields
  let _ ← demandSome .invalidKeyFormat (jsonValueAsString 0 field).2
  let iv ← demandSome .invalidKeyFormat
    (decodeMember libraries.bioRead unwritten .contentKeyTransportIv field false)
  demand (iv.length = 16) .invalidKeyFormat
  pure iv

/-- The unwrap of `unwrap_key_v2` by its algorithm. In CBC mode every failure has one status. -/
def unwrapContentKey (libraries : Libraries) (unwritten : Unwritten)
    (fields : List (List UInt8 × JsonValue)) (rights : SaRights)
    (storedKeyEncryption : StoredKey) (cipherAlgorithm : Option SaCipherAlgorithm)
    (contentKey : List UInt8) : Except Stop StoredKey :=
  match cipherAlgorithm with
  | some .aesEcb => unwrapAesEcb libraries contentKey rights false storedKeyEncryption
  | some .aesEcbPkcs7 => unwrapAesEcb libraries contentKey rights true storedKeyEncryption
  | some .aesCbc => do
    let iv ← typejIv libraries unwritten fields
    failsInternally (unwrapAesCbc libraries contentKey rights false iv storedKeyEncryption)
  | some .aesCbcPkcs7 => do
    let iv ← typejIv libraries unwritten fields
    failsInternally (unwrapAesCbc libraries contentKey rights true iv storedKeyEncryption)
  | _ => .error (.status .invalidKeyFormat)
where
  failsInternally : Except Stop StoredKey → Except Stop StoredKey
    | .error (.status _) => .error (.status .internalError)
    | x => x

@[simp] theorem failsInternally_eq_ok {x : Except Stop StoredKey} :
    unwrapContentKey.failsInternally x = .ok storedKey ↔ x = .ok storedKey := by
  unfold unwrapContentKey.failsInternally
  split <;> simp

/-- `unwrap_key_v2`. A key of another length than the container says stays in `*stored_key`. -/
def unwrapKeyV2 (libraries : Libraries) (unwritten : Unwritten)
    (fields : List (List UInt8 × JsonValue)) (rights : SaRights)
    (storedKeyEncryption : StoredKey) : Except Stop (SaStatus × Option StoredKey) := do
  let algorithmField ← requiredField "contentKeyTransportAlgorithm" fields
  let cipherAlgorithm := parseCipherAlgorithm (jsonValueAsString 0 algorithmField).2
  let contentKey ← typejContentKey libraries unwritten fields
  let lengthField ← requiredField "contentKeyLength" fields
  let contentKeyLength := (jsonValueAsInteger lengthField % 2 ^ 64).toNat
  let storedKey ← unwrapContentKey libraries unwritten fields rights storedKeyEncryption
    cipherAlgorithm contentKey
  pure (if storedKey.key.length ≠ contentKeyLength then .invalidKeyFormat else .ok, some storedKey)

def unwrapKeyV3 := unwrapKeyV2

/-- The unwrap for the version of the container, which is 1 where it says none. -/
def unwrapKeyVersion (libraries : Libraries) (unwritten : Unwritten)
    (fields : List (List UInt8 × JsonValue)) (rights : SaRights)
    (storedKeyEncryption : StoredKey) : Except Stop (SaStatus × Option StoredKey) :=
  let version := (jsonKeyValueFind "contentKeyContainerVersion" fields).elim 1 jsonValueAsInteger
  if version = 1 then unwrapKeyV1 libraries unwritten fields rights storedKeyEncryption
  else if version = 2 then unwrapKeyV2 libraries unwritten fields rights storedKeyEncryption
  else if version = 3 then unwrapKeyV3 libraries unwritten fields rights storedKeyEncryption
  else .error (.status .invalidKeyFormat)

/-- The fields of a Type-J container whose MAC is right. -/
def typejFields (libraries : Libraries) (inp : List UInt8) (storedKeyMac : StoredKey) :
    Except Stop (List (List UInt8 × JsonValue)) := do
  let unpacked ← demandSome .invalidKeyFormat (unpackTypej libraries.bioRead inp)
  let verified := verifyMac libraries unpacked.headerB64 unpacked.payloadB64 unpacked.mac
    storedKeyMac
  demand (verified.isOk) .invalidKeyFormat
  demandSome .invalidKeyFormat (jsonValueAsMap (libraries.jsonParseBytes unpacked.payload))

def typejUnwrap (libraries : Libraries) (unwritten : Unwritten) (inp : List UInt8)
    (storedKeyMac storedKeyEncryption : StoredKey) : Unwrapped :=
  Unwrapped.of do
    let fields ← typejFields libraries inp storedKeyMac
    let rights ← typejFieldsToRights libraries unwritten fields
    unwrapKeyVersion libraries unwritten fields rights storedKeyEncryption

section Errors

variable {libraries : Libraries} {unwritten : Unwritten}

theorem contentKeyRightsToUsageFlags_ne_ok :
    contentKeyRightsToUsageFlags flags bytes ≠ .error .ok := by
  have hadd (state : ContentKeyRights) (right : Nat) : state.add right ≠ .error .ok := by
    unfold ContentKeyRights.add
    split <;> simp
  have hfold (bytes : List UInt8) (state : ContentKeyRights) :
      bytes.foldlM (fun state right => state.add right.toNat) state ≠ .error .ok := by
    induction bytes generalizing state with
    | nil => simp [pure, Except.pure]
    | cons right bytes ih => simp [List.foldlM_cons, hadd, ih]
  simp [contentKeyRightsToUsageFlags, hfold, pure, Except.pure]

theorem importKey_ne_ok :
    importKey pkcs8 rights wrappingKeyRights keyType parameters inp ≠ .error .ok := by
  unfold importKey
  split
  · simp
  · simp
  · dsimp only
    split_ifs
    · simp
    · exact storedKeyCreate_ne_ok
  · dsimp only
    split_ifs
    · simp
    · exact storedKeyCreate_ne_ok
  · exact storedKeyCreate_ne_ok

theorem typejRights_fails : FailsWithError (typejRights libraries unwritten fields) := by
  simp [typejRights, requiredField, timeField, keyUsageToUsageFlags_ne_ok,
    contentKeyRightsToUsageFlags_ne_ok]

theorem convertTaIds_fails : FailsWithError (convertTaIds unwritten i values) := by
  induction values generalizing i with
  | nil => exact failsWithError_ok _
  | cons value values ih =>
    unfold convertTaIds
    dsimp only
    split
    · simp
    · split
      · simp
      · simp [ih]

theorem typejAllowedTas_fails : FailsWithError (typejAllowedTas unwritten fields) := by
  unfold typejAllowedTas
  split
  · simp
  dsimp only
  rw [failsWithError_bind]
  constructor
  · simp
  · intro _ _
    split
    · simp
    · simp [convertTaIds_fails]

theorem importUnwrapped_fails :
    FailsWithError (importUnwrapped libraries rights padded storedKey key) := by
  simp [importUnwrapped, padValue, importKey_ne_ok]

theorem unwrapAesEcb_fails :
    FailsWithError (unwrapAesEcb libraries inp rights padded storedKey) := by
  simp [unwrapAesEcb, unwrapAesEcbInternal_ne_ok, importUnwrapped_fails]

theorem typejContentKey_fails : FailsWithError (typejContentKey libraries unwritten fields) := by
  simp [typejContentKey, requiredField]

theorem failsInternally_fails {x : Except Stop StoredKey} (hx : FailsWithError x) :
    FailsWithError (unwrapContentKey.failsInternally x) := by
  unfold unwrapContentKey.failsInternally
  split
  · simp
  · exact hx

theorem unwrapAesCbc_fails :
    FailsWithError (unwrapAesCbc libraries inp rights padded iv storedKey) := by
  simp [unwrapAesCbc, unwrapAesCbcInternal, requireAes, importUnwrapped_fails]

theorem typejIv_fails : FailsWithError (typejIv libraries unwritten fields) := by
  simp [typejIv, requiredField]

theorem unwrapContentKey_fails : FailsWithError
    (unwrapContentKey libraries unwritten fields rights storedKey algorithm contentKey) := by
  unfold unwrapContentKey
  split
  · exact unwrapAesEcb_fails
  · exact unwrapAesEcb_fails
  · simp [typejIv_fails, failsInternally_fails, unwrapAesCbc_fails]
  · simp [typejIv_fails, failsInternally_fails, unwrapAesCbc_fails]
  · simp

theorem unwrapKeyVersion_fails :
    FailsWithError (unwrapKeyVersion libraries unwritten fields rights storedKey) := by
  have hv1 : FailsWithError (unwrapKeyV1 libraries unwritten fields rights storedKey) := by
    simp [unwrapKeyV1, typejContentKey_fails, unwrapAesEcb_fails]
  have hv2 : FailsWithError (unwrapKeyV2 libraries unwritten fields rights storedKey) := by
    simp [unwrapKeyV2, requiredField, typejContentKey_fails, unwrapContentKey_fails]
  unfold unwrapKeyVersion
  dsimp only
  split_ifs
  · exact hv1
  · exact hv2
  · exact hv2
  · simp

theorem typejFields_fails : FailsWithError (typejFields libraries inp storedKey) := by
  simp [typejFields]

end Errors

end TaSecureApi
