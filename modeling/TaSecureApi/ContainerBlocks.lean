import TaSecureApi.ContainerSizes
import TaSecureApi.Lib.Blocks

namespace TaSecureApi.Import
set_option autoImplicit true
open Blocks

/-- The blocks for the parts and the members of a container. -/
inductive Block
  | header
  | payload
  | mac
  | encryptedKey
  | contentKey
  | iv
  | rightsBytes
  | taIds
  deriving DecidableEq

abbrev Call (α : Type) := Traced Block Stop α

/-- A call that ends with `SA_STATUS_INVALID_KEY_FORMAT`. -/
def refuse : Call α := lift (.error (.status .invalidKeyFormat))

/-- `b64_decode` into a new block, which is freed where the text is not base64. -/
def decodeOrFree (block : Block) (decoded : Option (List UInt8)) : Call (List UInt8) := do
  alloc block
  match decoded with
  | none => do
    free block
    refuse
  | some bytes => pure bytes

/-- `b64_decode` into a new block. -/
def decodeInto (block : Block) (decoded : Option (List UInt8)) : Call (List UInt8) := do
  alloc block
  lift (demandSome .invalidKeyFormat decoded)

/-- The form of the two functions that take a container apart: they end with the free of the parts
where they fail. -/
def unpackContainer (bioRead : BioRead) (decode : Block → Option (List UInt8) → Call (List UInt8))
    (inp : List UInt8) : Call Unpacked :=
  onFailure (freeingOwn [.header, .payload, .mac]) do
    let (headerB64, inp) ← lift (demandSome .invalidKeyFormat (splitDot inp))
    lift (demand (inp ≠ []) .invalidKeyFormat)
    let (payloadB64, macB64) ← lift (demandSome .invalidKeyFormat (splitDot inp))
    lift (demand (macB64 ≠ []) .invalidKeyFormat)
    let header ← decode .header (unpackPart bioRead headerB64)
    let payload ← decode .payload (unpackPart bioRead payloadB64)
    let mac ← decode .mac (unpackPart bioRead macB64)
    pure ⟨headerB64, payloadB64, header, payload, mac⟩

def unpackTypej (bioRead : BioRead) (inp : List UInt8) : Call Unpacked :=
  unpackContainer bioRead decodeOrFree inp

def unpackSocKc (bioRead : BioRead) (inp : List UInt8) : Call Unpacked :=
  unpackContainer bioRead decodeInto inp

section Typej

variable (libraries : Libraries) (unwritten : Unwritten) (fields : List (List UInt8 × JsonValue))

/-- The rights of a Type-J container, without the allowed TAs. -/
def typejRights : Call SaRights := do
  let keyId ← lift (requiredField "contentKeyId" fields)
  let keyIdText ← lift (demandSome .invalidKeyFormat (jsonValueAsString 0 keyId).2)
  lift (demand (keyIdText.length ≤ 63) .invalidKeyFormat)
  let rightsField ← lift (requiredField "contentKeyRights" fields)
  let _ ← lift (demandSome .invalidKeyFormat (jsonValueAsString 0 rightsField).2)
  let rightsBytes ← decodeOrFree .rightsBytes
    (decodeMember libraries.bioRead unwritten .contentKeyRights rightsField false)
  let outputFlags := contentKeyRightsToUsageFlags 0 rightsBytes
  free .rightsBytes
  let outputFlags ← lift (liftStatus outputFlags)
  let usageField ← lift (requiredField "contentKeyUsage" fields)
  let usageFlags ← lift (liftStatus (keyUsageToUsageFlags outputFlags
    (jsonValueAsInteger usageField) .symmetric .aesSubtype))
  let notBefore ← lift (timeField libraries "contentKeyNotBefore" fields)
  let notOnOrAfter ← lift (timeField libraries "contentKeyNotOnOrAfter" fields)
  let cacheableField ← lift (requiredField "contentKeyCacheable" fields)
  pure {
    usageFlags :=
      if jsonValueAsBool cacheableField then saUsageBitSet usageFlags [.cacheable] else usageFlags
    childUsageFlags := 0
    notBefore := notBefore
    notOnOrAfter := notOnOrAfter
    allowedTas := []
    id := copyId keyIdText }

/-- The loop that converts the entitled TA IDs; it frees the array where it fails. -/
def convertTaIds : Nat → List JsonValue → Call (List SaUuid)
  | _, [] => pure []
  | i, value :: values =>
    let (taIdLength, taId) := jsonValueAsString (unwritten.length (.taId i)) value
    if taIdLength ≠ uuidLength then do
      free .taIds
      refuse
    else
      match taId with
      | none => lift (.error .undefined)
      | some taId => do
        let allowedTas ← convertTaIds (i + 1) values
        pure ((convertUuid taId noMatch).2 :: allowedTas)

/-- The allowed TAs of a Type-J container. The array is a new one; `NULL` is not freed. -/
def typejAllowedTas : Call (List SaUuid) :=
  match jsonKeyValueFind "entitledTaIds" fields with
  | none => pure (allMatch :: List.replicate (maxNumAllowedTaIds - 1) noMatch)
  | some value =>
    match jsonValueAsArray (unwritten.length .entitledTaIds) value with
    | (entitledTaIdsLength, none) => do
      lift (demand (entitledTaIdsLength ≤ maxNumAllowedTaIds) .invalidKeyFormat)
      if entitledTaIdsLength = 0 then pure (List.replicate maxNumAllowedTaIds noMatch)
      else lift (.error .undefined)
    | (entitledTaIdsLength, some values) => do
      alloc .taIds
      if maxNumAllowedTaIds < entitledTaIdsLength then do
        free .taIds
        refuse
      else do
        let allowedTas ← convertTaIds unwritten 0 values
        free .taIds
        pure (allowedTas ++ List.replicate (maxNumAllowedTaIds - allowedTas.length) noMatch)

/-- `fields_to_rights` of the Type-J container. -/
def typejFieldsToRights : Call SaRights := do
  let rights ← typejRights libraries unwritten fields
  let allowedTas ← typejAllowedTas unwritten fields
  pure { rights with allowedTas := allowedTas }

def typejContentKey : Call (List UInt8) := do
  let field ← lift (requiredField "contentKey" fields)
  let _ ← lift (demandSome .invalidKeyFormat (jsonValueAsString 0 field).2)
  decodeOrFree .contentKey (decodeMember libraries.bioRead unwritten .contentKey field false)

def unwrapKeyV1 (rights : SaRights) (storedKeyEncryption : StoredKey) :
    Call (SaStatus × Option StoredKey) :=
  freeingOwn [.contentKey] do
    let contentKey ← typejContentKey libraries unwritten fields
    lift (demand (contentKey.length % 16 = 0) .invalidKeyFormat)
    let storedKey ← lift (unwrapAesEcb libraries contentKey rights false storedKeyEncryption)
    pure (.ok, some storedKey)

/-- The initialization vector of the encrypted key, which is freed where it has another length too.
-/
def typejIv : Call (List UInt8) := do
  let field ← lift (requiredField "contentKeyTransportIv" fields)
  let _ ← lift (demandSome .invalidKeyFormat (jsonValueAsString 0 field).2)
  decodeOrFree .iv ((decodeMember libraries.bioRead unwritten .contentKeyTransportIv field
    false).filter fun iv => iv.length = 16)

/-- The unwrap of `unwrap_key_v2` by its algorithm. -/
def unwrapContentKey (rights : SaRights) (storedKeyEncryption : StoredKey)
    (cipherAlgorithm : Option SaCipherAlgorithm) (contentKey : List UInt8) : Call StoredKey :=
  match cipherAlgorithm with
  | some .aesEcb => lift (unwrapAesEcb libraries contentKey rights false storedKeyEncryption)
  | some .aesEcbPkcs7 => lift (unwrapAesEcb libraries contentKey rights true storedKeyEncryption)
  | some .aesCbc => do
    let iv ← typejIv libraries unwritten fields
    lift (unwrapContentKey.failsInternally
      (unwrapAesCbc libraries contentKey rights false iv storedKeyEncryption))
  | some .aesCbcPkcs7 => do
    let iv ← typejIv libraries unwritten fields
    lift (unwrapContentKey.failsInternally
      (unwrapAesCbc libraries contentKey rights true iv storedKeyEncryption))
  | _ => refuse

def unwrapKeyV2 (rights : SaRights) (storedKeyEncryption : StoredKey) :
    Call (SaStatus × Option StoredKey) :=
  freeingOwn [.contentKey, .iv] do
    let algorithmField ← lift (requiredField "contentKeyTransportAlgorithm" fields)
    let cipherAlgorithm := parseCipherAlgorithm (jsonValueAsString 0 algorithmField).2
    let contentKey ← typejContentKey libraries unwritten fields
    let lengthField ← lift (requiredField "contentKeyLength" fields)
    let contentKeyLength := (jsonValueAsInteger lengthField % 2 ^ 64).toNat
    let storedKey ← unwrapContentKey libraries unwritten fields rights storedKeyEncryption
      cipherAlgorithm contentKey
    pure (if storedKey.key.length ≠ contentKeyLength then .invalidKeyFormat else .ok,
      some storedKey)

def unwrapKeyV3 := unwrapKeyV2

/-- The unwrap for the version of the container, which is 1 where it says none. -/
def unwrapKeyVersion (rights : SaRights) (storedKeyEncryption : StoredKey) :
    Call (SaStatus × Option StoredKey) :=
  let version := (jsonKeyValueFind "contentKeyContainerVersion" fields).elim 1 jsonValueAsInteger
  if version = 1 then unwrapKeyV1 libraries unwritten fields rights storedKeyEncryption
  else if version = 2 then unwrapKeyV2 libraries unwritten fields rights storedKeyEncryption
  else if version = 3 then unwrapKeyV3 libraries unwritten fields rights storedKeyEncryption
  else refuse

/-- `typej_unwrap`: the parts are freed at its end, if there are any. -/
def typejUnwrap (inp : List UInt8) (storedKeyMac storedKeyEncryption : StoredKey) :
    Call (SaStatus × Option StoredKey) := do
  let unpacked ← unpackTypej libraries.bioRead inp
  freeing [.header, .payload, .mac] do
    let verified := verifyMac libraries unpacked.headerB64 unpacked.payloadB64 unpacked.mac
      storedKeyMac
    lift (demand verified.isOk .invalidKeyFormat)
    let fields ← lift (demandSome .invalidKeyFormat
      (jsonValueAsMap (libraries.jsonParseBytes unpacked.payload)))
    let rights ← typejFieldsToRights libraries unwritten fields
    unwrapKeyVersion libraries unwritten fields rights storedKeyEncryption

end Typej

section Soc

variable (libraries : Libraries) (unwritten : Unwritten) (fields : List (List UInt8 × JsonValue))

/-- The loop over the entitled TA IDs; it frees the array where it fails. -/
def copyTaIds : Nat → List JsonValue → Call (List (List UInt8))
  | _, [] => pure []
  | i, value :: values =>
    let (taIdLength, taId) := jsonValueAsString (unwritten.length (.taId i)) value
    if taIdLength ≠ uuidLength then do
      free .taIds
      refuse
    else
      match taId with
      | none => lift (.error .undefined)
      | some taId =>
        if i ≥ maxNumAllowedTaIds then lift (.error .undefined)
        else do
          let taIds ← copyTaIds (i + 1) values
          pure (taId :: taIds)

/-- The entitled TA IDs of the payload. The array is a new one; `NULL` is not freed. -/
def parseEntitledTaIds : Call (List (List UInt8)) :=
  match jsonKeyValueFind "entitledTaIds" fields with
  | none => pure []
  | some value =>
    match (jsonValueAsArray 0 value).2 with
    | none => pure []
    | some values => do
      alloc .taIds
      let taIds ← copyTaIds unwritten 0 values
      free .taIds
      pure taIds

/-- `parse_payload`, up to the TA IDs. -/
def parsePayloadKey : Call SocKcKey := do
  let version ← lift (requiredField "containerVersion" fields)
  let containerVersion := castUint8 (jsonValueAsInteger version)
  let rootKeyType ← lift (parseRootKeyType unwritten fields containerVersion)
  let keyType ← lift (requiredField "keyType" fields)
  let keyTypeString ← lift (demandSome .invalidKeyFormat (jsonValueAsString 0 keyType).2)
  let encryptedKeyField ← lift (requiredField "encryptedKey" fields)
  let encryptedKey ← decodeOrFree .encryptedKey
    (decodeMember libraries.bioRead unwritten .encryptedKey encryptedKeyField false)
  let ivField ← lift (requiredField "iv" fields)
  let iv ← lift (decodeFixed libraries.bioRead unwritten .iv (.replicate 12 0) ivField false)
  let usage ← lift (requiredField "keyUsage" fields)
  let keyUsage := castUint8 (jsonValueAsInteger usage)
  let decryptedKeyUsage :=
    if keyUsage = keyOnly then
      (jsonKeyValueFind "decryptedKeyUsage" fields).elim 0 (castUint8 ∘ jsonValueAsInteger)
    else 0
  pure {
    containerVersion := containerVersion
    rootKeyType := rootKeyType
    keyTypeString := keyTypeString
    encryptedKey := encryptedKey
    iv := iv
    keyUsage := keyUsage
    decryptedKeyUsage := decryptedKeyUsage }

def parsePayload : Call SocKcPayload := do
  let key ← parsePayloadKey libraries unwritten fields
  let entitledTaIds ← parseEntitledTaIds unwritten fields
  let c1 ← lift (parseLadderInput libraries unwritten "c1" .c1 fields false)
  let c2 ← lift (parseLadderInput libraries unwritten "c2" .c2 fields true)
  let c3 ← lift (parseLadderInput libraries unwritten "c3" .c3 fields false)
  pure {
    containerVersion := key.containerVersion
    rootKeyType := key.rootKeyType
    keyTypeString := key.keyTypeString
    encryptedKey := key.encryptedKey
    iv := key.iv
    keyUsage := key.keyUsage
    decryptedKeyUsage := key.decryptedKeyUsage
    entitledTaIds := entitledTaIds
    keyLadderInputs := ⟨c1, c2, c3⟩ }

/-- `soc_kc_unwrap`: the parts are freed at its end, if there are any, and then the encrypted key,
for which `parse_payload` has allocated a block. -/
def socKcUnwrap (inp : List UInt8) (parameters : Option SaImportParametersSoc) :
    Call (SaStatus × Option StoredKey) :=
  freeingOwn [.encryptedKey] do
    let unpacked ← unpackSocKc libraries.bioRead inp
    freeing [.header, .payload, .mac] do
      let headerFields ← lift (demandSome .invalidKeyFormat
        (jsonValueAsMap (libraries.jsonParseBytes unpacked.header)))
      let alg ← lift (parseHeader headerFields)
      let payloadFields ← lift (demandSome .invalidKeyFormat
        (jsonValueAsMap (libraries.jsonParseBytes unpacked.payload)))
      let payload ← parsePayload libraries unwritten payloadFields
      lift (decryptKeyAndVerifyMac libraries unwritten alg payload unpacked.mac parameters)

end Soc

section Results

variable {libraries : Libraries} {unwritten : Unwritten} {fields : List (List UInt8 × JsonValue)}
  {inp : List UInt8}

@[simp] theorem result_decodeOrFree {decoded : Option (List UInt8)} :
    (decodeOrFree block decoded).result = demandSome .invalidKeyFormat decoded := by
  cases decoded <;> rfl

@[simp] theorem result_decodeInto {decoded : Option (List UInt8)} :
    (decodeInto block decoded).result = demandSome .invalidKeyFormat decoded := rfl

theorem demandSome_bind {o : Option α} {f : α → Option β} {status : SaStatus} :
    demandSome status (o >>= f) = demandSome status o >>= fun a => demandSome status (f a) := by
  cases o <;> rfl

theorem demandSome_guard {c : Prop} [Decidable c] {status : SaStatus} :
    demandSome status (guard c) = demand c status := by
  unfold demand
  by_cases hc : c
  · simp [guard, hc, demandSome]
  · simp [guard, hc, demandSome]

theorem result_unpackContainer {bioRead : BioRead}
    {decode : Block → Option (List UInt8) → Call (List UInt8)}
    (h : ∀ block decoded, (decode block decoded).result = demandSome .invalidKeyFormat decoded) :
    (unpackContainer bioRead decode inp).result =
      demandSome .invalidKeyFormat (TaSecureApi.unpackContainer bioRead inp) := by
  rw [unpackContainer, result_onFailure result_freeingOwn]
  simp only [result_bind, result_lift, h, result_pure, TaSecureApi.unpackContainer, demandSome_bind,
    demandSome_guard]
  rfl

theorem result_typejRights : (typejRights libraries unwritten fields).result =
    TaSecureApi.typejRights libraries unwritten fields := by
  simp only [typejRights, TaSecureApi.typejRights, result_bind, result_lift, result_decodeOrFree,
    result_free, result_pure]
  rfl

theorem result_convertTaIds (i : Nat) (values : List JsonValue) :
    (convertTaIds unwritten i values).result = TaSecureApi.convertTaIds unwritten i values := by
  induction values generalizing i with
  | nil => rfl
  | cons value values ih =>
    rw [convertTaIds, TaSecureApi.convertTaIds]
    dsimp only
    split
    · rfl
    · cases (jsonValueAsString (unwritten.length (.taId i)) value).2 with
      | none => rfl
      | some taId =>
        simp only [result_bind, ih, result_pure]

theorem result_typejAllowedTas : (typejAllowedTas unwritten fields).result =
    TaSecureApi.typejAllowedTas unwritten fields := by
  unfold typejAllowedTas TaSecureApi.typejAllowedTas
  cases jsonKeyValueFind "entitledTaIds" fields with
  | none => rfl
  | some value =>
    dsimp only
    cases jsonValueAsArray (unwritten.length .entitledTaIds) value with
    | mk length values =>
      cases values with
      | none =>
        dsimp only
        rw [result_bind, result_lift]
        congr 1
        funext _
        split <;> rfl
      | some values =>
        dsimp only
        rw [result_bind, result_alloc]
        by_cases hlong : maxNumAllowedTaIds < length
        · rw [if_pos hlong]
          simp [demand, Nat.not_le.2 hlong]
          rfl
        · rw [if_neg hlong]
          simp only [result_bind, result_convertTaIds, result_free, result_pure, demand,
            Nat.not_lt.1 hlong, if_true]
          rfl

theorem result_typejFieldsToRights : (typejFieldsToRights libraries unwritten fields).result =
    TaSecureApi.typejFieldsToRights libraries unwritten fields := by
  simp only [typejFieldsToRights, TaSecureApi.typejFieldsToRights, result_bind, result_typejRights,
    result_typejAllowedTas, result_pure]
  rfl

theorem result_typejContentKey : (typejContentKey libraries unwritten fields).result =
    TaSecureApi.typejContentKey libraries unwritten fields := by
  simp only [typejContentKey, TaSecureApi.typejContentKey, result_bind, result_lift,
    result_decodeOrFree]

theorem result_unwrapKeyV1 {rights : SaRights} {storedKeyEncryption : StoredKey} :
    (unwrapKeyV1 libraries unwritten fields rights storedKeyEncryption).result =
      TaSecureApi.unwrapKeyV1 libraries unwritten fields rights storedKeyEncryption := by
  simp only [unwrapKeyV1, TaSecureApi.unwrapKeyV1, result_freeingOwn, result_bind, result_lift,
    result_typejContentKey, result_pure]
  rfl

theorem demandSome_filter {o : Option (List UInt8)} {status : SaStatus} :
    demandSome status (o.filter fun iv => iv.length = 16) =
      demandSome status o >>= fun iv => demand (iv.length = 16) status >>= fun _ => .ok iv := by
  cases o with
  | none => rfl
  | some iv =>
    change _ = demand (iv.length = 16) status >>= fun _ => .ok iv
    rw [Option.filter_some, demand]
    by_cases hlength : iv.length = 16
    · rw [if_pos (decide_eq_true hlength), if_pos hlength]
      rfl
    · rw [if_neg (by simpa using hlength), if_neg hlength]
      rfl

theorem result_typejIv : (typejIv libraries unwritten fields).result =
    TaSecureApi.typejIv libraries unwritten fields := by
  simp only [typejIv, TaSecureApi.typejIv, result_bind, result_lift, result_decodeOrFree,
    demandSome_filter]
  rfl

theorem result_unwrapContentKey {rights : SaRights} {storedKeyEncryption : StoredKey}
    {cipherAlgorithm : Option SaCipherAlgorithm} {contentKey : List UInt8} :
    (unwrapContentKey libraries unwritten fields rights storedKeyEncryption cipherAlgorithm
      contentKey).result = TaSecureApi.unwrapContentKey libraries unwritten fields rights
        storedKeyEncryption cipherAlgorithm contentKey := by
  cases cipherAlgorithm with
  | none => rfl
  | some algorithm =>
    cases algorithm with
    | aesCbc =>
      simp only [unwrapContentKey, TaSecureApi.unwrapContentKey, result_bind, result_typejIv,
        result_lift]
    | aesCbcPkcs7 =>
      simp only [unwrapContentKey, TaSecureApi.unwrapContentKey, result_bind, result_typejIv,
        result_lift]
    | _ => rfl

theorem result_unwrapKeyV2 {rights : SaRights} {storedKeyEncryption : StoredKey} :
    (unwrapKeyV2 libraries unwritten fields rights storedKeyEncryption).result =
      TaSecureApi.unwrapKeyV2 libraries unwritten fields rights storedKeyEncryption := by
  simp only [unwrapKeyV2, TaSecureApi.unwrapKeyV2, result_freeingOwn, result_bind, result_lift,
    result_typejContentKey, result_unwrapContentKey, result_pure]
  rfl

theorem result_unwrapKeyVersion {rights : SaRights} {storedKeyEncryption : StoredKey} :
    (unwrapKeyVersion libraries unwritten fields rights storedKeyEncryption).result =
      TaSecureApi.unwrapKeyVersion libraries unwritten fields rights storedKeyEncryption := by
  unfold unwrapKeyVersion TaSecureApi.unwrapKeyVersion
  dsimp only
  split_ifs
  · exact result_unwrapKeyV1
  · exact result_unwrapKeyV2
  · exact result_unwrapKeyV2
  · rfl

theorem result_typejUnwrap {storedKeyMac storedKeyEncryption : StoredKey} :
    Unwrapped.of (typejUnwrap libraries unwritten inp storedKeyMac storedKeyEncryption).result =
      TaSecureApi.typejUnwrap libraries unwritten inp storedKeyMac storedKeyEncryption := by
  have hunpack : (unpackTypej libraries.bioRead inp).result =
      demandSome .invalidKeyFormat (TaSecureApi.unpackTypej libraries.bioRead inp) :=
    result_unpackContainer fun _ _ => result_decodeOrFree
  simp only [typejUnwrap, TaSecureApi.typejUnwrap, typejFields, result_bind, hunpack,
    result_freeing, result_lift, result_typejFieldsToRights, result_unwrapKeyVersion, bind_assoc]

theorem result_copyTaIds (i : Nat) (values : List JsonValue) :
    (copyTaIds unwritten i values).result = TaSecureApi.copyTaIds unwritten i values := by
  induction values generalizing i with
  | nil => rfl
  | cons value values ih =>
    rw [copyTaIds, TaSecureApi.copyTaIds]
    dsimp only
    split
    · rfl
    · cases (jsonValueAsString (unwritten.length (.taId i)) value).2 with
      | none => rfl
      | some taId =>
        dsimp only
        split
        · rfl
        · simp only [result_bind, ih, result_pure]

theorem result_parseEntitledTaIds : (parseEntitledTaIds unwritten fields).result =
    TaSecureApi.parseEntitledTaIds unwritten fields := by
  unfold parseEntitledTaIds TaSecureApi.parseEntitledTaIds
  cases jsonKeyValueFind "entitledTaIds" fields with
  | none => rfl
  | some value =>
    dsimp only
    cases (jsonValueAsArray 0 value).2 with
    | none => rfl
    | some values =>
      simp only [result_bind, result_alloc, result_copyTaIds, result_free, result_pure,
        Option.getD_some]
      cases TaSecureApi.copyTaIds unwritten 0 values <;> rfl

theorem result_parsePayload : (parsePayload libraries unwritten fields).result =
    TaSecureApi.parsePayload libraries unwritten fields := by
  have hkey : (parsePayloadKey libraries unwritten fields).result =
      TaSecureApi.parsePayloadKey libraries unwritten fields := by
    simp only [parsePayloadKey, TaSecureApi.parsePayloadKey, result_bind, result_lift,
      result_decodeOrFree, result_pure]
    rfl
  simp only [parsePayload, TaSecureApi.parsePayload, result_bind, hkey, result_parseEntitledTaIds,
    result_lift, result_pure]
  rfl

theorem result_socKcUnwrap {parameters : Option SaImportParametersSoc} :
    Unwrapped.of (socKcUnwrap libraries unwritten inp parameters).result =
      TaSecureApi.socKcUnwrap libraries unwritten inp parameters := by
  have hunpack : (unpackSocKc libraries.bioRead inp).result =
      demandSome .invalidKeyFormat (TaSecureApi.unpackSocKc libraries.bioRead inp) :=
    result_unpackContainer fun _ _ => result_decodeInto
  simp only [socKcUnwrap, TaSecureApi.socKcUnwrap, socKcParse, result_freeingOwn, result_bind,
    hunpack, result_freeing, result_lift, result_parsePayload, bind_assoc]
  rfl

end Results

end TaSecureApi.Import
