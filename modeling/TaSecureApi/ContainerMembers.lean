import TaSecureApi.ContainerSizes

namespace TaSecureApi
set_option autoImplicit true

/-- The types that members of the containers are documented to have. -/
inductive MemberType
  | bool
  | integer
  | string
  | strings
  deriving DecidableEq

def JsonValue.isText : JsonValue → Bool
  | .string _ => true
  | _ => false

def JsonValue.hasType : MemberType → JsonValue → Bool
  | .bool, .bool _ | .integer, .integer _ | .string, .string _ => true
  | .strings, .array values => values.all isText
  | _, _ => false

/-- The functions that read members: `parse_header`, `parse_payload`, `fields_to_rights` of Type-J,
and `unwrap_key_v1` to `unwrap_key_v3` with the version in front of them. -/
inductive ContainerParser
  | header
  | payload
  | rights
  | key
  deriving DecidableEq

/-- The members that they read. -/
inductive ContainerMember
  | alg
  | containerVersion
  | rootKeyType
  | keyType
  | encryptedKey
  | iv
  | keyUsage
  | decryptedKeyUsage
  | socEntitledTaIds
  | c1
  | c2
  | c3
  | contentKeyId
  | contentKeyRights
  | contentKeyUsage
  | contentKeyNotBefore
  | contentKeyNotOnOrAfter
  | contentKeyCacheable
  | typejEntitledTaIds
  | contentKeyContainerVersion
  | contentKeyTransportAlgorithm
  | contentKey
  | contentKeyLength
  | contentKeyTransportIv
  deriving DecidableEq

/-- A loop over TA IDs comes to an entry that is no text, whose length it compares. -/
def entryUnset : List JsonValue → Bool
  | .string text :: values => text.length = uuidLength && entryUnset values
  | values => !values.isEmpty

/-- The entry has the right length by what the variable held, and is read through `NULL`. -/
def entryFollowed (unwritten : Unwritten) (i : Nat) : List JsonValue → Bool
  | .string text :: values => text.length = uuidLength && entryFollowed unwritten (i + 1) values
  | values => !values.isEmpty && unwritten.length (.taId i) = uuidLength

namespace ContainerMember

def name : ContainerMember → String
  | alg => "alg"
  | containerVersion => "containerVersion"
  | rootKeyType => "rootKeyType"
  | keyType => "keyType"
  | encryptedKey => "encryptedKey"
  | iv => "iv"
  | keyUsage => "keyUsage"
  | decryptedKeyUsage => "decryptedKeyUsage"
  | socEntitledTaIds | typejEntitledTaIds => "entitledTaIds"
  | c1 => "c1"
  | c2 => "c2"
  | c3 => "c3"
  | contentKeyId => "contentKeyId"
  | contentKeyRights => "contentKeyRights"
  | contentKeyUsage => "contentKeyUsage"
  | contentKeyNotBefore => "contentKeyNotBefore"
  | contentKeyNotOnOrAfter => "contentKeyNotOnOrAfter"
  | contentKeyCacheable => "contentKeyCacheable"
  | contentKeyContainerVersion => "contentKeyContainerVersion"
  | contentKeyTransportAlgorithm => "contentKeyTransportAlgorithm"
  | contentKey => "contentKey"
  | contentKeyLength => "contentKeyLength"
  | contentKeyTransportIv => "contentKeyTransportIv"

def type : ContainerMember → MemberType
  | containerVersion | keyUsage | decryptedKeyUsage | contentKeyUsage
  | contentKeyContainerVersion | contentKeyLength => .integer
  | contentKeyCacheable => .bool
  | socEntitledTaIds | typejEntitledTaIds => .strings
  | _ => .string

def readBy : ContainerMember → ContainerParser
  | alg => .header
  | containerVersion | rootKeyType | keyType | encryptedKey | iv | keyUsage | decryptedKeyUsage
  | socEntitledTaIds | c1 | c2 | c3 => .payload
  | contentKeyId | contentKeyRights | contentKeyUsage | contentKeyNotBefore
  | contentKeyNotOnOrAfter | contentKeyCacheable | typejEntitledTaIds => .rights
  | contentKeyContainerVersion | contentKeyTransportAlgorithm | contentKey | contentKeyLength
  | contentKeyTransportIv => .key

/-- The function computes with a length that the accessor has not set for this value. -/
def usesUnset : ContainerMember → JsonValue → Bool
  | rootKeyType, value | encryptedKey, value | iv, value | c1, value | c2, value | c3, value =>
    !value.isText
  | socEntitledTaIds, .array values => entryUnset values
  | typejEntitledTaIds, .array values => values.length ≤ maxNumAllowedTaIds && entryUnset values
  | socEntitledTaIds, _ | typejEntitledTaIds, _ => true
  | _, _ => false

/-- The function follows the `NULL` that the accessor has returned. -/
def followsNull (unwritten : Unwritten) : ContainerMember → JsonValue → Bool
  | rootKeyType, value => !value.isText && unwritten.length .rootKeyType ≠ 0
  | socEntitledTaIds, .array values => entryFollowed unwritten 0 values
  | typejEntitledTaIds, .array values =>
    values.length ≤ maxNumAllowedTaIds && entryFollowed unwritten 0 values
  | typejEntitledTaIds, _ =>
    unwritten.length .entitledTaIds ≠ 0 && unwritten.length .entitledTaIds ≤ maxNumAllowedTaIds
  | _, _ => false

/-- The members whose `NULL` or 0 for a wrong type ends the function. -/
def isChecked : ContainerMember → Bool
  | alg | keyType | contentKeyId | contentKeyRights | contentKeyNotBefore | contentKeyNotOnOrAfter
  | contentKeyContainerVersion | contentKeyTransportAlgorithm | contentKey | contentKeyLength
  | contentKeyTransportIv => true
  | _ => false

end ContainerMember

/-- What the functions get: the header or the payload, and for the keys of Type-J the rights and the
key that decrypts them. -/
structure ParserInput where
  libraries : Libraries
  unwritten : Unwritten
  document : JsonValue
  rights : SaRights
  storedKeyEncryption : StoredKey

namespace ParserInput

variable (input : ParserInput)

def fields : List (List UInt8 × JsonValue) := (jsonValueAsMap input.document).getD []

def field (m : ContainerMember) : Option JsonValue := jsonKeyValueFind m.name input.fields

def integer (m : ContainerMember) (absent : Int) : Int :=
  (input.field m).elim absent jsonValueAsInteger

def version : Int := input.integer .contentKeyContainerVersion 1

def cipherAlgorithm : Option SaCipherAlgorithm :=
  (input.field .contentKeyTransportAlgorithm).bind fun value =>
    parseCipherAlgorithm (jsonValueAsString 0 value).2

def parse : ContainerParser → Except Stop Unit
  | .header => do
    let _ ← parseHeader input.fields
    pure ()
  | .payload => do
    let _ ← parsePayload input.libraries input.unwritten input.fields
    pure ()
  | .rights => do
    let _ ← typejFieldsToRights input.libraries input.unwritten input.fields
    pure ()
  | .key => do
    let (status, _) ← unwrapKeyVersion input.libraries input.unwritten input.fields input.rights
      input.storedKeyEncryption
    demand (status = .ok) status

/-- How it ends; a document that is no map has no fields. -/
def result (p : ContainerParser) : Except Stop Unit := do
  let _ ← demandSome .invalidKeyFormat (jsonValueAsMap input.document)
  input.parse p

/-- The part of a function that reads a member, up to the next one. -/
def step (m : ContainerMember) : Except Stop Unit :=
  match m with
  | .containerVersion | .keyUsage | .contentKeyCacheable | .contentKeyTransportAlgorithm
  | .contentKeyLength => do
    let _ ← requiredField m.name input.fields
    pure ()
  | .decryptedKeyUsage => pure ()
  | .alg => do
    let _ ← parseHeader input.fields
    pure ()
  | .rootKeyType => do
    let _ ← parseRootKeyType input.unwritten input.fields 5
    pure ()
  | .keyType => do
    let value ← requiredField m.name input.fields
    let _ ← demandSome .invalidKeyFormat (jsonValueAsString 0 value).2
    pure ()
  | .encryptedKey => do
    let value ← requiredField m.name input.fields
    let _ ← demandSome .invalidKeyFormat
      (decodeMember input.libraries.bioRead input.unwritten .encryptedKey value false)
    pure ()
  | .iv => do
    let value ← requiredField m.name input.fields
    let _ ← decodeFixed input.libraries.bioRead input.unwritten .iv
      (.replicate 12 0 : Vector UInt8 12) value false
    pure ()
  | .socEntitledTaIds => do
    let _ ← parseEntitledTaIds input.unwritten input.fields
    pure ()
  | .c1 => do
    let _ ← parseLadderInput input.libraries input.unwritten m.name .c1 input.fields false
    pure ()
  | .c2 => do
    let _ ← parseLadderInput input.libraries input.unwritten m.name .c2 input.fields true
    pure ()
  | .c3 => do
    let _ ← parseLadderInput input.libraries input.unwritten m.name .c3 input.fields false
    pure ()
  | .contentKeyId => do
    let value ← requiredField m.name input.fields
    let text ← demandSome .invalidKeyFormat (jsonValueAsString 0 value).2
    demand (text.length ≤ 63) .invalidKeyFormat
  | .contentKeyRights => do
    let value ← requiredField m.name input.fields
    let _ ← demandSome .invalidKeyFormat (jsonValueAsString 0 value).2
    let bytes ← demandSome .invalidKeyFormat
      (decodeMember input.libraries.bioRead input.unwritten .contentKeyRights value false)
    let _ ← liftStatus (contentKeyRightsToUsageFlags 0 bytes)
    pure ()
  | .contentKeyUsage => do
    let value ← requiredField m.name input.fields
    demand (jsonValueAsInteger value ∈ [0, 1, 2, 3]) .invalidKeyFormat
  | .contentKeyNotBefore | .contentKeyNotOnOrAfter => do
    let _ ← timeField input.libraries m.name input.fields
    pure ()
  | .typejEntitledTaIds => do
    let _ ← typejAllowedTas input.unwritten input.fields
    pure ()
  | .contentKeyContainerVersion => demand (input.version ∈ [1, 2, 3]) .invalidKeyFormat
  | .contentKey => do
    let _ ← typejContentKey input.libraries input.unwritten input.fields
    pure ()
  | .contentKeyTransportIv => do
    let _ ← typejIv input.libraries input.unwritten input.fields
    pure ()

def v2Members : List ContainerMember :=
  [.contentKeyTransportAlgorithm, .contentKey, .contentKeyLength] ++
    if input.cipherAlgorithm = some .aesCbc ∨ input.cipherAlgorithm = some .aesCbcPkcs7 then
      [.contentKeyTransportIv]
    else []

/-- The members in the order in which a function reads them. -/
def members : ContainerParser → List ContainerMember
  | .header => [.alg]
  | .payload =>
    [.containerVersion] ++
    (if castUint8 (input.integer .containerVersion 0) < 5 then [] else [.rootKeyType]) ++
    [.keyType, .encryptedKey, .iv, .keyUsage] ++
    (if castUint8 (input.integer .keyUsage 0) = keyOnly then [.decryptedKeyUsage] else []) ++
    [.socEntitledTaIds, .c1, .c2, .c3]
  | .rights =>
    [.contentKeyId, .contentKeyRights, .contentKeyUsage, .contentKeyNotBefore,
      .contentKeyNotOnOrAfter, .contentKeyCacheable, .typejEntitledTaIds]
  | .key =>
    .contentKeyContainerVersion :: if input.version = 1 then [.contentKey] else input.v2Members

def run : List ContainerMember → Except Stop Unit
  | [] => pure ()
  | m :: ms => do
    input.step m
    run ms

def readFrom : List ContainerMember → List ContainerMember
  | [] => []
  | m :: ms => m :: if (input.step m).isOk then readFrom ms else []

def Reads (m : ContainerMember) : Prop :=
  (jsonValueAsMap input.document).isSome ∧ m ∈ input.readFrom (input.members m.readBy)

def Accepts (p : ContainerParser) : Prop := input.result p = .ok ()

end ParserInput

/-- The function that reads a member is strict about a value of it, or about its absence: where it
comes to the member, it neither computes with a length that was not set nor follows `NULL`, and it
accepts the document only for a value of the documented type. -/
def TypeStrict (m : ContainerMember) (value : Option JsonValue) : Prop :=
  ∀ input : ParserInput, input.field m = value → input.Reads m → ∀ v ∈ value,
    m.usesUnset v = false ∧ m.followsNull input.unwritten v = false ∧
      (input.Accepts m.readBy → v.hasType m.type)

/-- A TA list that is refused for a length in front of any entry that is no text. -/
def RefusedList (m : ContainerMember) (v : JsonValue) : Prop :=
  m.type = .strings ∧ ∃ values, v = .array values ∧
    (m = .typejEntitledTaIds ∧ maxNumAllowedTaIds < values.length ∨
      ∃ before text behind, values = List.map .string before ++ .string text :: behind ∧
        text.length ≠ uuidLength)

section Steps

variable {input : ParserInput} {m : ContainerMember} {ms ms' : List ContainerMember}
  {fields : List (List UInt8 × JsonValue)}

theorem ParserInput.run_append :
    input.run (ms ++ ms') = input.run ms >>= fun _ => input.run ms' := by
  induction ms with
  | nil => rfl
  | cons m ms ih => simp only [List.cons_append, ParserInput.run, ih, bind_assoc]

theorem ParserInput.run_singleton : input.run [m] = input.step m := by
  simp only [ParserInput.run, bind_pure_unit]

theorem requiredField_none (h : jsonKeyValueFind key fields = none) :
    requiredField key fields = .error (.status .invalidKeyFormat) := by
  rw [requiredField, h]
  rfl

theorem requiredField_some (h : jsonKeyValueFind key fields = some value) :
    requiredField key fields = .ok value := by
  rw [requiredField, h]
  rfl

theorem requiredField_congr {f g : JsonValue → Except Stop β}
    (h : ∀ value, jsonKeyValueFind key fields = some value → f value = g value) :
    requiredField key fields >>= f = requiredField key fields >>= g := by
  cases hvalue : jsonKeyValueFind key fields with
  | none => rw [requiredField_none hvalue, error_bind, error_bind]
  | some value => rw [requiredField_some hvalue, ok_bind, ok_bind, h value hvalue]

theorem ParserInput.integer_of_some (h : input.field m = some value) :
    input.integer m absent = jsonValueAsInteger value := by
  rw [ParserInput.integer, h]
  rfl

theorem run_rootKeyType (version : UInt8) :
    input.run (if version < 5 then [] else [.rootKeyType]) =
      parseRootKeyType input.unwritten input.fields version >>= fun _ => pure () := by
  split_ifs with h
  · rw [parseRootKeyType, if_pos h]
    rfl
  · rw [ParserInput.run_singleton, ParserInput.step, parseRootKeyType, parseRootKeyType, if_neg h,
      if_neg (by decide)]

theorem run_decryptedKeyUsage (c : Prop) [Decidable c] :
    input.run (if c then [.decryptedKeyUsage] else []) = pure () := by
  split_ifs
  · rw [ParserInput.run_singleton, ParserInput.step]
  · rfl

theorem parse_header : input.parse .header = input.run (input.members .header) := by
  simp only [ParserInput.parse, ParserInput.members, ParserInput.run, ParserInput.step, bind_assoc,
    pure_bind]

theorem parse_payload : input.parse .payload = input.run (input.members .payload) := by
  simp only [ParserInput.members, ParserInput.run_append, run_rootKeyType, run_decryptedKeyUsage,
    ParserInput.parse, ParserInput.run, ParserInput.step, ContainerMember.name, parsePayload,
    parsePayloadKey, bind_assoc, pure_bind]
  refine requiredField_congr fun version hversion => ?_
  rw [ParserInput.integer_of_some (m := .containerVersion) hversion]

theorem keyUsage_bind {y : Except Stop β} :
    (liftStatus (keyUsageToUsageFlags flags usage .symmetric .aesSubtype) >>= fun _ => y) =
      demand (usage ∈ [0, 1, 2, 3]) .invalidKeyFormat >>= fun _ => y := by
  have hmem : usage ∈ [0, 1, 2, 3] ↔ (usage = 0 ∨ usage = 3) ∨ usage = 1 ∨ usage = 2 := by
    simp only [List.mem_cons, List.not_mem_nil, or_false]
    tauto
  unfold keyUsageToUsageFlags demand
  dsimp only
  rw [if_congr hmem rfl rfl]
  split_ifs with h₀ h h₁ h h₂ h h <;> first | rfl | tauto

theorem parse_rights : input.parse .rights = input.run (input.members .rights) := by
  simp only [ParserInput.members, ParserInput.parse, ParserInput.run, ParserInput.step,
    ContainerMember.name, typejFieldsToRights, typejRights, bind_assoc, pure_bind, keyUsage_bind]

theorem unwrapContentKey_iv
    (h : cipherAlgorithm = some .aesCbc ∨ cipherAlgorithm = some .aesCbcPkcs7)
    (hiv : typejIv libraries unwritten fields = .error e) :
    unwrapContentKey libraries unwritten fields rights storedKeyEncryption cipherAlgorithm
      contentKey = .error e := by
  obtain rfl | rfl := h
  · rw [unwrapContentKey, hiv, error_bind]
  · rw [unwrapContentKey, hiv, error_bind]

theorem unwrapKeyV2_error (h : input.run input.v2Members = .error e) :
    unwrapKeyV2 input.libraries input.unwritten input.fields input.rights
      input.storedKeyEncryption = .error e := by
  simp only [ParserInput.v2Members, ParserInput.run_append, ParserInput.run, ParserInput.step,
    ContainerMember.name, bind_assoc, pure_bind] at h
  rw [unwrapKeyV2]
  cases halgorithm : requiredField "contentKeyTransportAlgorithm" input.fields with
  | error e' =>
    rw [halgorithm, error_bind] at h
    cases h
    rw [error_bind]
  | ok algorithm =>
    rw [halgorithm, ok_bind] at h
    rw [ok_bind]
    cases hcontent : typejContentKey input.libraries input.unwritten input.fields with
    | error e' =>
      rw [hcontent, error_bind] at h
      cases h
      rw [error_bind]
    | ok contentKey =>
      rw [hcontent, ok_bind] at h
      rw [ok_bind]
      cases hlength : requiredField "contentKeyLength" input.fields with
      | error e' =>
        rw [hlength, error_bind] at h
        cases h
        rw [error_bind]
      | ok length =>
        rw [hlength, ok_bind] at h
        rw [ok_bind]
        have hcipher : input.cipherAlgorithm =
            parseCipherAlgorithm (jsonValueAsString 0 algorithm).2 := by
          rw [requiredField, demandSome_eq_ok] at halgorithm
          rw [ParserInput.cipherAlgorithm, ParserInput.field, ContainerMember.name, halgorithm]
          rfl
        rw [hcipher] at h
        split_ifs at h with hcbc
        · rw [ParserInput.run_singleton, ParserInput.step] at h
          have hiv : typejIv input.libraries input.unwritten input.fields = .error e := by
            cases hiv : typejIv input.libraries input.unwritten input.fields with
            | error e' =>
              rw [hiv, error_bind] at h
              cases h
              rfl
            | ok iv =>
              rw [hiv, ok_bind] at h
              cases h
          dsimp only
          rw [unwrapContentKey_iv hcbc hiv, error_bind]
        · cases h

theorem unwrapKeyV1_error (h : input.run [.contentKey] = .error e) :
    unwrapKeyV1 input.libraries input.unwritten input.fields input.rights
      input.storedKeyEncryption = .error e := by
  rw [ParserInput.run_singleton, ParserInput.step] at h
  rw [unwrapKeyV1]
  cases hcontent : typejContentKey input.libraries input.unwritten input.fields with
  | error e' =>
    rw [hcontent, error_bind] at h
    cases h
    rw [error_bind]
  | ok contentKey =>
    rw [hcontent, ok_bind] at h
    cases h

theorem parse_key_error (h : input.run (input.members .key) = .error e) :
    input.parse .key = .error e := by
  have hversion : (jsonKeyValueFind "contentKeyContainerVersion" input.fields).elim 1
      jsonValueAsInteger = input.version := rfl
  rw [ParserInput.members, ParserInput.run, ParserInput.step, demand] at h
  rw [ParserInput.parse, unwrapKeyVersion, hversion]
  dsimp only
  by_cases h₁ : input.version = 1
  · rw [if_pos h₁, if_pos (by simp [h₁]), ok_bind] at h
    rw [if_pos h₁, unwrapKeyV1_error h, error_bind]
  · by_cases h₂ : input.version = 2
    · rw [if_neg h₁, if_pos (by simp [h₂]), ok_bind] at h
      rw [if_neg h₁, if_pos h₂, unwrapKeyV2_error h, error_bind]
    · by_cases h₃ : input.version = 3
      · rw [if_neg h₁, if_pos (by simp [h₃]), ok_bind] at h
        rw [if_neg h₁, if_neg h₂, if_pos h₃, unwrapKeyV3, unwrapKeyV2_error h, error_bind]
      · rw [if_neg (by simp [h₁, h₂, h₃]), error_bind] at h
        cases h
        rw [if_neg h₁, if_neg h₂, if_neg h₃, error_bind]

theorem ParserInput.run_eq_ok : input.run ms = .ok () ↔ ∀ m ∈ ms, input.step m = .ok () := by
  induction ms with
  | nil => exact ⟨fun _ => nofun, fun _ => rfl⟩
  | cons m ms ih =>
    rw [ParserInput.run, List.forall_mem_cons, ← ih]
    cases input.step m with
    | error e => exact ⟨nofun, nofun⟩
    | ok u => exact ⟨fun h => ⟨rfl, h⟩, fun h => h.2⟩

theorem ParserInput.mem_readFrom (hm : m ∈ ms)
    (h : ∀ m' ∈ ms, m' ≠ m → input.step m' = .ok ()) : m ∈ input.readFrom ms := by
  induction ms with
  | nil => exact hm
  | cons m' ms ih =>
    by_cases hne : m' = m
    · rw [hne]
      exact List.mem_cons_self
    · have hstep := h m' List.mem_cons_self hne
      rw [ParserInput.readFrom, hstep]
      exact List.mem_cons_of_mem m' (ih ((List.mem_cons.1 hm).resolve_left (Ne.symm hne))
        fun m'' hm'' => h m'' (List.mem_cons_of_mem m' hm''))

theorem ParserInput.mem_of_readFrom (hm : m ∈ input.readFrom ms) : m ∈ ms := by
  induction ms with
  | nil => exact hm
  | cons m' ms ih =>
    obtain rfl | hm := List.mem_cons.1 hm
    · exact List.mem_cons_self
    · split at hm
      · exact List.mem_cons_of_mem m' (ih hm)
      · cases hm

theorem ParserInput.run_of_readFrom (hm : m ∈ input.readFrom ms) (h : input.step m = .error e) :
    input.run ms = .error e := by
  induction ms with
  | nil => cases hm
  | cons m' ms ih =>
    rw [ParserInput.run]
    obtain rfl | hm := List.mem_cons.1 hm
    · rw [h, error_bind]
    · split at hm
      · rename_i hok
        obtain ⟨u, hu⟩ := isOk_iff.1 hok
        rw [hu, ok_bind]
        exact ih hm
      · cases hm

theorem ParserInput.parse_error (h : input.run (input.members p) = .error e) :
    input.parse p = .error e := by
  cases p with
  | header => rw [parse_header, h]
  | payload => rw [parse_payload, h]
  | rights => rw [parse_rights, h]
  | key => exact parse_key_error h

theorem ParserInput.parse_eq_run (hp : p ≠ .key) :
    input.parse p = input.run (input.members p) := by
  cases p with
  | header => exact parse_header
  | payload => exact parse_payload
  | rights => exact parse_rights
  | key => exact absurd rfl hp

theorem ParserInput.result_eq (h : (jsonValueAsMap input.document).isSome) :
    input.result p = input.parse p := by
  obtain ⟨fields, hfields⟩ := Option.isSome_iff_exists.1 h
  rw [ParserInput.result, hfields]
  rfl

theorem ParserInput.Reads.result (hread : input.Reads m) (h : input.step m = .error e) :
    input.result m.readBy = .error e := by
  rw [ParserInput.result_eq hread.1]
  exact ParserInput.parse_error (ParserInput.run_of_readFrom hread.2 h)

theorem ParserInput.Accepts.step (h : input.Accepts p) (hm : m ∈ input.members p) :
    input.step m = .ok () := by
  have hparse : input.parse p = .ok () := by
    rw [ParserInput.Accepts, ParserInput.result] at h
    cases hfields : jsonValueAsMap input.document with
    | none => rw [hfields, demandSome, error_bind] at h; cases h
    | some fields => rw [hfields, demandSome, ok_bind] at h; exact h
  cases hrun : input.run (input.members p) with
  | error e => rw [ParserInput.parse_error hrun] at hparse; cases hparse
  | ok u => exact ParserInput.run_eq_ok.1 hrun m hm

theorem ParserInput.accepts_of_steps (hp : p ≠ .key)
    (hmap : (jsonValueAsMap input.document).isSome)
    (h : ∀ m ∈ input.members p, input.step m = .ok ()) : input.Accepts p := by
  rw [ParserInput.Accepts, ParserInput.result_eq hmap, ParserInput.parse_eq_run hp]
  exact ParserInput.run_eq_ok.2 h

end Steps

end TaSecureApi
