import TaSecureApi.ContainerIntegers
import TaSecureApi.ContainerMembers
import TaSecureApi.ContainerResults

namespace TaSecureApi
set_option autoImplicit true

section Values

variable {input : ParserInput} {m : ContainerMember} {v : JsonValue} {unwritten : Unwritten}
  {values : List JsonValue}

theorem hasType_string (h : (jsonValueAsString 0 v).2 = some text) : v.hasType .string = true := by
  cases v with
  | string text => rfl
  | _ => cases h

theorem requiredField_eq (h : input.field m = some v) : requiredField m.name input.fields = .ok v :=
  requiredField_some h

theorem step_text (hc : m.isChecked = true) (htype : m.type = .string)
    (hm : m ≠ .contentKeyTransportAlgorithm) (hfield : input.field m = some v)
    (h : input.step m = .ok ()) : v.hasType .string = true := by
  have hvalue := requiredField_eq hfield
  cases m with
  | contentKeyTransportAlgorithm => exact absurd rfl hm
  | containerVersion | rootKeyType | encryptedKey | iv | keyUsage | decryptedKeyUsage
  | socEntitledTaIds | c1 | c2 | c3 | contentKeyUsage | contentKeyCacheable
  | typejEntitledTaIds => cases hc
  | contentKeyContainerVersion | contentKeyLength => cases htype
  | _ =>
    simp only [ContainerMember.name] at hvalue
    simp only [ParserInput.step, ContainerMember.name, parseHeader, timeField, typejContentKey,
      typejIv, hvalue, ok_bind, bind_eq_ok, demandSome_eq_ok] at h
    obtain ⟨text, htext⟩ : ∃ text, (jsonValueAsString 0 v).2 = some text := by
      grind
    exact hasType_string htext

theorem jsonValueAsInteger_ne (h : v.hasType .integer = false) : jsonValueAsInteger v = 0 := by
  cases v with
  | integer n => cases h
  | _ => rfl

/-- An accepted key of version 2 or 3 has been unwrapped by an algorithm, and has a length. -/
theorem accepts_key (h : input.Accepts .key) (hversion : input.version ≠ 1) :
    ∃ algorithm length storedKey contentKey,
      input.field .contentKeyTransportAlgorithm = some algorithm ∧
      input.field .contentKeyLength = some length ∧
      unwrapContentKey input.libraries input.unwritten input.fields input.rights
        input.storedKeyEncryption (parseCipherAlgorithm (jsonValueAsString 0 algorithm).2)
        contentKey = .ok storedKey ∧
      storedKey.key.length = (jsonValueAsInteger length % 2 ^ 64).toNat := by
  have hknown := h.step (m := .contentKeyContainerVersion) List.mem_cons_self
  have hcall : (jsonKeyValueFind "contentKeyContainerVersion" input.fields).elim 1
      jsonValueAsInteger = input.version := rfl
  rw [ParserInput.step, demand_eq_ok] at hknown
  have hkey : ∃ k, unwrapKeyV2 input.libraries input.unwritten input.fields input.rights
      input.storedKeyEncryption = .ok (.ok, k) := by
    rw [ParserInput.Accepts, ParserInput.result, bind_eq_ok] at h
    obtain ⟨_, _, h⟩ := h
    simp only [ParserInput.parse, bind_eq_ok, Prod.exists, demand_eq_ok] at h
    obtain ⟨status, k, hunwrap, rfl⟩ := h
    rw [unwrapKeyVersion, hcall] at hunwrap
    rw [if_neg hversion] at hunwrap
    split_ifs at hunwrap
    · exact ⟨k, hunwrap⟩
    · exact ⟨k, hunwrap⟩
  obtain ⟨k, hkey⟩ := hkey
  obtain ⟨algorithm, contentKey, length, storedKey, halgorithm, -, hlength, hcontent, hstatus,
    -⟩ := unwrapKeyV2_eq_ok.1 hkey
  rw [requiredField, demandSome_eq_ok] at halgorithm hlength
  refine ⟨algorithm, length, storedKey, contentKey, halgorithm, hlength, hcontent, ?_⟩
  by_contra hne
  rw [if_pos hne] at hstatus
  cases hstatus

theorem unwrapContentKey_ne_nil
    (h : unwrapContentKey libraries unwritten fields rights storedKeyEncryption algorithm
      contentKey = .ok storedKey) : storedKey.key.length ≠ 0 := by
  obtain ⟨padded, unwrappedKey, -, himport⟩ := unwrapContentKey_eq_ok.1 h
  obtain ⟨pad, -, himport⟩ := importUnwrapped_eq_ok.1 himport
  obtain ⟨hsize, -, rfl⟩ := storedKeyCreate_ok himport
  intro hzero
  rw [hzero] at hsize
  cases hsize

theorem mem_members_key (hm : m ∈ input.members .key) (hne : m = .contentKeyTransportAlgorithm ∨
    m = .contentKeyLength) : input.version ≠ 1 := by
  intro hversion
  rw [ParserInput.members, if_pos hversion] at hm
  obtain rfl | rfl := hne
  · simp at hm
  · simp at hm

theorem checked_type (hc : m.isChecked = true) (hread : input.Reads m)
    (hfield : input.field m = some v) (h : input.Accepts m.readBy) : v.hasType m.type = true := by
  have hmem := ParserInput.mem_of_readFrom hread.2
  have hstep := h.step hmem
  cases m with
  | contentKeyContainerVersion =>
    by_contra htype
    have hzero := jsonValueAsInteger_ne (Bool.eq_false_of_not_eq_true htype)
    rw [ParserInput.step, demand_eq_ok, ParserInput.version,
      ParserInput.integer_of_some hfield, hzero] at hstep
    exact absurd hstep (by decide)
  | contentKeyTransportAlgorithm =>
    obtain ⟨algorithm, _, _, _, halgorithm, -, hcontent, -⟩ :=
      accepts_key h (mem_members_key hmem (.inl rfl))
    rw [hfield] at halgorithm
    obtain rfl := Option.some.inj halgorithm
    cases htext : (jsonValueAsString 0 v).2 with
    | none =>
      rw [htext] at hcontent
      cases hcontent
    | some text => exact hasType_string htext
  | contentKeyLength =>
    obtain ⟨_, length, _, _, -, hlength, hcontent, hkey⟩ :=
      accepts_key h (mem_members_key hmem (.inr rfl))
    rw [hfield] at hlength
    obtain rfl := Option.some.inj hlength
    by_contra htype
    rw [jsonValueAsInteger_ne (Bool.eq_false_of_not_eq_true htype)] at hkey
    exact unwrapContentKey_ne_nil hcontent hkey
  | containerVersion | rootKeyType | encryptedKey | iv | keyUsage | decryptedKeyUsage
  | socEntitledTaIds | c1 | c2 | c3 | contentKeyUsage | contentKeyCacheable
  | typejEntitledTaIds => cases hc
  | _ => exact step_text hc rfl (by decide) hfield hstep

theorem entryUnset_texts (before : List (List UInt8)) (hvalues : entryUnset values = false) :
    entryUnset (before.map .string ++ values) = false := by
  induction before with
  | nil => exact hvalues
  | cons text before ih =>
    rw [List.map_cons, List.cons_append, entryUnset, ih, Bool.and_false]

theorem entryUnset_of_followed (h : entryFollowed unwritten i values = true) :
    entryUnset values = true := by
  induction values generalizing i with
  | nil => cases h
  | cons value values ih =>
    cases value with
    | string text =>
      rw [entryFollowed, Bool.and_eq_true] at h
      rw [entryUnset, Bool.and_eq_true]
      exact ⟨h.1, ih h.2⟩
    | _ => rfl

theorem isText_iff : v.isText = true ↔ ∃ text, v = .string text := by
  cases v with
  | string text => exact ⟨fun _ => ⟨text, rfl⟩, fun _ => rfl⟩
  | _ => exact ⟨nofun, nofun⟩

theorem texts_eq_map (h : values.all JsonValue.isText = true) :
    ∃ texts : List (List UInt8), values = texts.map .string := by
  induction values with
  | nil => exact ⟨[], rfl⟩
  | cons value values ih =>
    rw [List.all_cons, Bool.and_eq_true] at h
    obtain ⟨text, rfl⟩ := isText_iff.1 h.1
    obtain ⟨texts, rfl⟩ := ih h.2
    exact ⟨text :: texts, rfl⟩

theorem usesUnset_of_followsNull (h : m.followsNull unwritten v = true) : m.usesUnset v = true := by
  cases m with
  | rootKeyType => exact (Bool.and_eq_true _ _ ▸ h).1
  | socEntitledTaIds =>
    cases v with
    | array values => exact entryUnset_of_followed h
    | _ => rfl
  | typejEntitledTaIds =>
    cases v with
    | array values =>
      rw [ContainerMember.followsNull, Bool.and_eq_true] at h
      rw [ContainerMember.usesUnset, Bool.and_eq_true]
      exact ⟨h.1, entryUnset_of_followed h.2⟩
    | _ => rfl
  | _ => cases h

theorem usesUnset_checked (h : m.isChecked = true) : m.usesUnset v = false := by
  cases m with
  | containerVersion | rootKeyType | encryptedKey | iv | keyUsage | decryptedKeyUsage
  | socEntitledTaIds | c1 | c2 | c3 | contentKeyUsage | contentKeyCacheable
  | typejEntitledTaIds => cases h
  | _ => rfl

theorem usesUnset_of_type (h : v.hasType m.type = true) : m.usesUnset v = false := by
  cases m with
  | rootKeyType | encryptedKey | iv | c1 | c2 | c3 =>
    cases v with
    | string text => rfl
    | _ => cases h
  | socEntitledTaIds =>
    cases v with
    | array values =>
      obtain ⟨texts, rfl⟩ := texts_eq_map h
      have htexts : entryUnset (texts.map .string ++ []) = false := entryUnset_texts texts rfl
      rw [List.append_nil] at htexts
      exact htexts
    | _ => cases h
  | typejEntitledTaIds =>
    cases v with
    | array values =>
      obtain ⟨texts, rfl⟩ := texts_eq_map h
      have htexts : entryUnset (texts.map .string ++ []) = false := entryUnset_texts texts rfl
      rw [List.append_nil] at htexts
      rw [ContainerMember.usesUnset, htexts, Bool.and_false]
    | _ => cases h
  | _ => rfl

theorem usesUnset_refused (h : RefusedList m v) : m.usesUnset v = false := by
  obtain ⟨htype, values, rfl, ⟨rfl, hlong⟩ | ⟨before, text, behind, rfl, hlength⟩⟩ := h
  · rw [ContainerMember.usesUnset, decide_eq_false (Nat.not_le.2 hlong), Bool.false_and]
  · have hentry : entryUnset (.string text :: behind) = false := by
      rw [entryUnset, decide_eq_false hlength, Bool.false_and]
    have hvalues := entryUnset_texts before hentry
    cases m with
    | socEntitledTaIds => exact hvalues
    | typejEntitledTaIds => rw [ContainerMember.usesUnset, hvalues, Bool.and_false]
    | _ => cases htype

theorem step_refused (h : RefusedList m v) (hfield : input.field m = some v) :
    input.step m ≠ .ok () := by
  obtain ⟨htype, values, rfl, hvalues⟩ := h
  have hrefused : ∀ ids : List (List UInt8), values = ids.map .string →
      (∀ id ∈ ids, id.length = uuidLength) → ids.length ≤ maxNumAllowedTaIds → False := by
    rintro ids rfl hlengths hroom
    obtain ⟨-, hlong⟩ | ⟨before, text, behind, hsplit, hlength⟩ := hvalues
    · rw [List.length_map] at hlong
      exact Nat.not_lt.2 hroom hlong
    · have hmem : JsonValue.string text ∈ ids.map .string := by
        rw [hsplit]
        exact List.mem_append_right _ List.mem_cons_self
      obtain ⟨id, hid, hstring⟩ := List.mem_map.1 hmem
      cases hstring
      exact hlength (hlengths text hid)
  intro hstep
  cases m with
  | socEntitledTaIds =>
    simp only [ParserInput.step, bind_eq_ok] at hstep
    obtain ⟨ids, hids, -⟩ := hstep
    obtain ⟨hvalues, hlengths, hroom⟩ | ⟨hvalues, -⟩ := (parseEntitledTaIds_eq_ok hfield).1 hids
    · exact hrefused ids (JsonValue.array.inj hvalues) hlengths hroom
    · exact hvalues values rfl
  | typejEntitledTaIds =>
    simp only [ParserInput.step, bind_eq_ok] at hstep
    obtain ⟨tas, htas, -⟩ := hstep
    obtain ⟨ids, ⟨hvalues, hlengths, hroom⟩ | ⟨hvalues, -⟩, -⟩ :=
      (typejAllowedTas_eq_ok hfield).1 htas
    · exact hrefused ids (JsonValue.array.inj hvalues) hlengths hroom
    · exact hvalues values rfl
  | _ => cases htype

/-- A value that is no list of texts, and is not refused, has an entry that is no text. -/
theorem entryUnset_of_not_texts (htype : values.all JsonValue.isText = false)
    (hlist : ∀ before text behind, values = List.map .string before ++ .string text :: behind →
      text.length = uuidLength) : entryUnset values = true := by
  induction values with
  | nil => cases htype
  | cons value values ih =>
    cases value with
    | string text =>
      have hlength := hlist [] text values rfl
      rw [entryUnset, Bool.and_eq_true, decide_eq_true_eq]
      rw [List.all_cons, JsonValue.isText, Bool.true_and] at htype
      refine ⟨hlength, ih htype fun before text' behind hvalues => ?_⟩
      exact hlist (text :: before) text' behind (by rw [hvalues]; rfl)
    | _ => rfl

/-- A wrong type that is not checked is used with a length that is not set, or is taken for 0 or
false. -/
theorem wrong_type (hc : m.isChecked = false) (htype : v.hasType m.type = false)
    (hlist : ¬ RefusedList m v) : m.usesUnset v = true ∨
      ∀ input : ParserInput, input.field m = some v → input.step m = .ok () := by
  have hentry : ∀ values, v = .array values → m.type = .strings →
      entryUnset values = true := by
    rintro values rfl hstrings
    rw [hstrings] at htype
    refine entryUnset_of_not_texts htype fun before text behind hvalues => ?_
    by_contra hlength
    exact hlist ⟨hstrings, values, rfl, .inr ⟨before, text, behind, hvalues, hlength⟩⟩
  cases m with
  | rootKeyType | encryptedKey | iv | c1 | c2 | c3 =>
    cases v with
    | string text => cases htype
    | _ => exact .inl rfl
  | socEntitledTaIds =>
    cases v with
    | array values => exact .inl (hentry values rfl rfl)
    | _ => exact .inl rfl
  | typejEntitledTaIds =>
    cases v with
    | array values =>
      have hroom : values.length ≤ maxNumAllowedTaIds := by
        by_contra hlong
        exact hlist ⟨rfl, values, rfl, .inl ⟨rfl, Nat.not_le.1 hlong⟩⟩
      rw [ContainerMember.usesUnset, hentry values rfl rfl, decide_eq_true hroom]
      exact .inl rfl
    | _ => exact .inl rfl
  | containerVersion | keyUsage | contentKeyCacheable =>
    refine .inr fun input hfield => ?_
    rw [ParserInput.step, requiredField_eq hfield]
    rfl
  | decryptedKeyUsage => exact .inr fun input hfield => rfl
  | contentKeyUsage =>
    refine .inr fun input hfield => ?_
    rw [ParserInput.step, requiredField_eq hfield, ok_bind, jsonValueAsInteger_ne htype]
    rfl
  | _ => cases hc

/-- The value of a member that is checked, or that has its type, or that is refused. -/
theorem typeStrict_of (h : ∀ v ∈ value, m.isChecked = true ∨ v.hasType m.type = true ∨
    RefusedList m v) : TypeStrict m value := by
  intro input hfield hread v hv
  rw [Option.mem_def] at hv
  rw [hv] at hfield
  have hunset : m.usesUnset v = false := by
    obtain hc | htype | hlist := h v hv
    · exact usesUnset_checked hc
    · exact usesUnset_of_type htype
    · exact usesUnset_refused hlist
  have hnull : m.followsNull input.unwritten v = false := by
    by_contra hfollows
    rw [usesUnset_of_followsNull (Bool.eq_true_of_not_eq_false hfollows)] at hunset
    cases hunset
  refine ⟨hunset, hnull, fun haccepts => ?_⟩
  obtain hc | htype | hlist := h v hv
  · exact checked_type hc hread hfield haccepts
  · exact htype
  · exact absurd (haccepts.step (ParserInput.mem_of_readFrom hread.2)) (step_refused hlist hfield)

end Values

section Uses

variable {input : ParserInput} {m : ContainerMember} {v : JsonValue} {unwritten : Unwritten}
  {values : List JsonValue}

theorem copyTaIds_followed (h : entryFollowed unwritten i values = true) :
    copyTaIds unwritten i values = .error .undefined := by
  induction values generalizing i with
  | nil => cases h
  | cons value values ih =>
    cases value with
    | string text =>
      rw [entryFollowed, Bool.and_eq_true, decide_eq_true_eq] at h
      by_cases hi : i < maxNumAllowedTaIds
      · rw [copyTaIds_string h.1 hi, ih h.2]
        rfl
      · exact copyTaIds_undefined h.1 (.inr (Nat.not_lt.1 hi))
    | _ => exact copyTaIds_undefined (of_decide_eq_true h) (.inl nofun)

theorem step_followsNull (hfield : input.field m = some v)
    (h : m.followsNull input.unwritten v = true) : input.step m = .error .undefined := by
  cases m with
  | rootKeyType =>
    have hroot : jsonKeyValueFind "rootKeyType" input.fields = some v := hfield
    rw [ContainerMember.followsNull, Bool.and_eq_true] at h
    rw [ParserInput.step, parseRootKeyType, if_neg (by decide), hroot]
    cases v with
    | string text => cases h.1
    | _ =>
      dsimp only [jsonValueAsString]
      rw [if_neg (by simpa using h.2)]
      rfl
  | socEntitledTaIds =>
    cases v with
    | array values =>
      have hids := copyTaIds_followed h
      rw [ParserInput.step, parseEntitledTaIds_eq hfield, jsonValueAsArray, Option.getD_some, hids]
      rfl
    | _ => cases h
  | typejEntitledTaIds =>
    cases v with
    | array values =>
      rw [ContainerMember.followsNull, Bool.and_eq_true, decide_eq_true_eq] at h
      rw [ParserInput.step, typejAllowedTas_array hfield h.1, copyTaIds_followed h.2]
      rfl
    | _ =>
      simp only [ContainerMember.followsNull, Bool.and_eq_true, decide_eq_true_eq] at h
      rw [ParserInput.step, typejAllowedTas_other hfield (by simp), if_neg (Nat.not_lt.2 h.2),
        if_neg h.1]
      rfl
  | _ => cases h

theorem ParserInput.Reads.undefined (hread : input.Reads m) (hfield : input.field m = some v)
    (h : m.followsNull input.unwritten v = true) : input.result m.readBy = .error .undefined :=
  hread.result (step_followsNull hfield h)

def ParserInput.withLengths (input : ParserInput) (length : ContainerPlace → Nat) : ParserInput :=
  { input with unwritten := ⟨length, input.unwritten.byte⟩ }

theorem copyTaIds_lengths (h : entryUnset values = false) :
    copyTaIds ⟨length, unwritten.byte⟩ i values = copyTaIds unwritten i values := by
  induction values generalizing i with
  | nil => rfl
  | cons value values ih =>
    cases value with
    | string text =>
      by_cases hlength : text.length = uuidLength
      · rw [entryUnset, decide_eq_true hlength, Bool.true_and] at h
        rw [copyTaIds, copyTaIds, ih h]
        rfl
      · have hwrong : ∀ u : Unwritten, copyTaIds u i (.string text :: values) =
            .error (.status .invalidKeyFormat) := fun u => copyTaIds_wrong_length hlength
        rw [hwrong, hwrong]
    | _ => cases h

theorem step_withLengths (h : ∀ v, input.field m = some v → m.usesUnset v = false) :
    (input.withLengths length).step m = input.step m := by
  have hfields : (input.withLengths length).fields = input.fields := rfl
  have hversion : (input.withLengths length).version = input.version := rfl
  cases hfield : input.field m with
  | none =>
    have hfind : jsonKeyValueFind m.name input.fields = none := hfield
    cases m with
    | _ =>
      simp only [ContainerMember.name] at hfind
      simp only [ParserInput.step, hfields, hversion, ContainerMember.name, parseHeader,
        parseRootKeyType, parseEntitledTaIds, parseLadderInput, timeField, typejAllowedTas,
        typejContentKey, typejIv, requiredField_none hfind, hfind, error_bind]
  | some v =>
    have hfind : jsonKeyValueFind m.name input.fields = some v := hfield
    have hunset := h v hfield
    cases m with
    | socEntitledTaIds =>
      cases v with
      | array values =>
        have hids : copyTaIds (input.withLengths length).unwritten 0 values =
            copyTaIds input.unwritten 0 values := copyTaIds_lengths hunset
        rw [ParserInput.step, ParserInput.step, hfields, parseEntitledTaIds_eq hfield,
          parseEntitledTaIds_eq hfield, jsonValueAsArray, Option.getD_some, hids]
      | _ => cases hunset
    | typejEntitledTaIds =>
      cases v with
      | array values =>
        rw [ParserInput.step, ParserInput.step, hfields]
        by_cases hroom : values.length ≤ maxNumAllowedTaIds
        · rw [ContainerMember.usesUnset, decide_eq_true hroom, Bool.true_and] at hunset
          have hids : copyTaIds (input.withLengths length).unwritten 0 values =
              copyTaIds input.unwritten 0 values := copyTaIds_lengths hunset
          rw [typejAllowedTas_array hfield hroom, typejAllowedTas_array hfield hroom, hids]
        · rw [typejAllowedTas_long hfield (Nat.not_le.1 hroom),
            typejAllowedTas_long hfield (Nat.not_le.1 hroom)]
      | _ => cases hunset
    | _ =>
      simp only [ContainerMember.name] at hfind
      simp only [ParserInput.step, hfields, hversion, ContainerMember.name, parseHeader,
        parseRootKeyType, parseLadderInput, timeField, typejContentKey, typejIv,
        requiredField_some hfind, hfind, ok_bind] <;>
      cases v <;> first | rfl | cases hunset

end Uses

section Documents

/-- The fields of a payload with every member that has to be there and the decrypted usage, and of
the rights of a Type-J container. -/
def plainFields : ContainerParser → List (List UInt8 × JsonValue)
  | .rights =>
    [(ascii "contentKeyId", .string []), (ascii "contentKeyRights", .string []),
      (ascii "contentKeyUsage", .integer 3),
      (ascii "contentKeyNotBefore", .string (.replicate 20 48)),
      (ascii "contentKeyNotOnOrAfter", .string (.replicate 20 48)),
      (ascii "contentKeyCacheable", .bool true)]
  | _ =>
    plainMembers ++ [(ascii "containerVersion", .integer 5), (ascii "keyUsage", .integer 2),
      (ascii "decryptedKeyUsage", .integer 1)]

/-- A document with a value for one member in front of the plain fields. -/
def plainInput (p : ContainerParser) (front : List (List UInt8 × JsonValue)) : ParserInput where
  libraries := plainLibraries [] fun _ => none
  unwritten := zeroMemory
  document := .map (front ++ plainFields p)
  rights := ⟨0, 0, 0, 0, [], .replicate 64 0⟩
  storedKeyEncryption :=
    ⟨⟨⟨0, 0, 0, 0, [], .replicate 64 0⟩, .symmetric, .zero, 16⟩, List.replicate 16 0⟩

def plainReads : ContainerParser → List ContainerMember
  | .rights =>
    [.contentKeyId, .contentKeyRights, .contentKeyUsage, .contentKeyNotBefore,
      .contentKeyNotOnOrAfter, .contentKeyCacheable, .typejEntitledTaIds]
  | _ =>
    [.containerVersion, .rootKeyType, .keyType, .encryptedKey, .iv, .keyUsage, .decryptedKeyUsage,
      .socEntitledTaIds, .c1, .c2, .c3]

theorem plainInput_step : ∀ p ∈ [ContainerParser.payload, .rights], ∀ m ∈ plainReads p,
    ((plainInput p []).step m).isOk = true := by
  decide +kernel

theorem plainReads_names : ∀ p ∈ [ContainerParser.payload, .rights], ∀ m ∈ plainReads p,
    ∀ m' ∈ plainReads p, m' ≠ m → ascii m.name ≠ ascii m'.name := by
  decide +kernel

theorem step_congr {input input' : ParserInput} (hlibraries : input.libraries = input'.libraries)
    (hunwritten : input.unwritten = input'.unwritten) (h : input.field m = input'.field m) :
    input.step m = input'.step m := by
  have hfind : jsonKeyValueFind m.name input.fields = jsonKeyValueFind m.name input'.fields := h
  cases m with
  | contentKeyContainerVersion =>
    rw [ParserInput.step, ParserInput.step, ParserInput.version, ParserInput.version,
      ParserInput.integer, ParserInput.integer, h]
  | _ =>
    simp only [ContainerMember.name] at hfind
    simp only [ParserInput.step, ContainerMember.name, parseHeader, parseRootKeyType,
      parseEntitledTaIds, parseLadderInput, timeField, iso8601ToEpochTime, typejAllowedTas,
      typejContentKey, typejIv, requiredField, hfind, hlibraries, hunwritten]

variable {m m' : ContainerMember} {p : ContainerParser} {v : JsonValue}

theorem plainInput_self : (plainInput p [(ascii m.name, v)]).field m = some v := by
  change jsonKeyValueFind m.name ((ascii m.name, v) :: plainFields p) = some v
  rw [jsonKeyValueFind, List.find?_cons_of_pos (by simp)]
  rfl

theorem plainInput_other (hne : ascii m.name ≠ ascii m'.name) :
    (plainInput p [(ascii m.name, v)]).field m' = (plainInput p []).field m' := by
  change jsonKeyValueFind m'.name ((ascii m.name, v) :: plainFields p) =
    jsonKeyValueFind m'.name (plainFields p)
  rw [jsonKeyValueFind, List.find?_cons_of_neg (by simpa using hne), jsonKeyValueFind]

theorem plainInput_steps (hp : p ∈ [ContainerParser.payload, .rights]) (hm : m ∈ plainReads p)
    (hm' : m' ∈ plainReads p) (hne : m' ≠ m) :
    (plainInput p [(ascii m.name, v)]).step m' = .ok () := by
  have hfield := plainInput_other (p := p) (v := v) (plainReads_names p hp m hm m' hm' hne)
  obtain ⟨u, hstep⟩ := isOk_iff.1 (plainInput_step p hp m' hm')
  have hcongr : (plainInput p [(ascii m.name, v)]).step m' = (plainInput p []).step m' :=
    step_congr rfl rfl hfield
  rw [hcongr]
  exact hstep

theorem members_plain {input : ParserInput} (hp : p ∈ [ContainerParser.payload, .rights])
    (hm : m ∈ input.members p) : m ∈ plainReads p := by
  simp only [List.mem_cons, List.not_mem_nil, or_false] at hp
  obtain rfl | rfl := hp
  · rw [ParserInput.members] at hm
    split_ifs at hm
    all_goals
      refine (?_ : _ ⊆ plainReads .payload) hm
      decide
  · exact hm

theorem plainInput_integer (hne : ascii m.name ≠ ascii m'.name) :
    (plainInput p [(ascii m.name, v)]).integer m' absent = (plainInput p []).integer m' absent := by
  rw [ParserInput.integer, plainInput_other hne, ParserInput.integer]

theorem mem_members_plain (hp : p ∈ [ContainerParser.payload, .rights]) (hm : m ∈ plainReads p) :
    m ∈ (plainInput p [(ascii m.name, v)]).members p := by
  simp only [List.mem_cons, List.not_mem_nil, or_false] at hp
  obtain rfl | rfl := hp
  · have hnames := plainReads_names .payload List.mem_cons_self m hm
    have hroot : m = .rootKeyType → ¬ castUint8
        ((plainInput .payload [(ascii m.name, v)]).integer .containerVersion 0) < 5 := by
      rintro rfl
      rw [plainInput_integer (hnames .containerVersion (by decide) (by decide))]
      decide +kernel
    have hdecrypted : m = .decryptedKeyUsage → castUint8
        ((plainInput .payload [(ascii m.name, v)]).integer .keyUsage 0) = keyOnly := by
      rintro rfl
      rw [plainInput_integer (hnames .keyUsage (by decide) (by decide))]
      decide +kernel
    simp only [plainReads, List.mem_cons, List.not_mem_nil, or_false] at hm
    simp only [ParserInput.members, List.mem_append, List.mem_cons, List.not_mem_nil, or_false]
    split_ifs <;> simp only [List.mem_cons, List.not_mem_nil, or_false] <;> grind
  · exact hm

theorem unchecked_plain (hc : m.isChecked = false) :
    m.readBy ∈ [ContainerParser.payload, .rights] ∧ m ∈ plainReads m.readBy := by
  cases m with
  | alg | keyType | contentKeyId | contentKeyRights | contentKeyNotBefore | contentKeyNotOnOrAfter
  | contentKeyContainerVersion | contentKeyTransportAlgorithm | contentKey | contentKeyLength
  | contentKeyTransportIv => cases hc
  | _ => decide

end Documents

/-- A function is strict about the value of a member if and only if it checks the member, the value
has its type, or it is a list that is refused before its entries can be wrong. -/
theorem containerMembers_strict (m : ContainerMember) (value : Option JsonValue) :
    TypeStrict m value ↔ ∀ v ∈ value, m.isChecked = true ∨ v.hasType m.type = true ∨
      RefusedList m v := by
  constructor
  · intro hstrict v hv
    by_contra hnot
    rw [not_or, not_or] at hnot
    obtain ⟨hchecked, htype, hlist⟩ := hnot
    have hc := Bool.eq_false_of_not_eq_true hchecked
    obtain ⟨hp, hm⟩ := unchecked_plain hc
    let input := plainInput m.readBy [(ascii m.name, v)]
    have hfield : input.field m = some v := plainInput_self
    have hothers : ∀ m' ∈ input.members m.readBy, m' ≠ m → input.step m' = .ok () :=
      fun m' hm' hne => plainInput_steps hp hm (members_plain hp hm') hne
    have hread : input.Reads m :=
      ⟨rfl, ParserInput.mem_readFrom (mem_members_plain hp hm) hothers⟩
    obtain ⟨hunset, -, haccepts⟩ := hstrict input (hfield.trans hv.symm) hread v hv
    obtain hwrong | hstep := wrong_type hc (Bool.eq_false_of_not_eq_true htype) hlist
    · rw [hunset] at hwrong
      cases hwrong
    · apply htype
      apply haccepts
      have hkey : m.readBy ≠ .key := by
        intro hkey
        rw [hkey] at hp
        cases hp with
        | tail _ hp => cases hp with
          | tail _ hp => cases hp
      refine ParserInput.accepts_of_steps hkey rfl fun m' hm' => ?_
      by_cases hne : m' = m
      · rw [hne]
        exact hstep input hfield
      · exact hothers m' hm' hne
  · exact typeStrict_of

/-- A payload whose usage is `null` is parsed with the usage 0. -/
theorem containerMembers_not_strict : ¬ ∀ m value, TypeStrict m value := by
  intro h
  let input := plainInput .payload [(ascii "keyUsage", .null)]
  have hread : (input.readFrom (input.members .payload)).contains .keyUsage = true := by
    decide +kernel
  have haccepts : (input.result .payload).isOk = true := by decide +kernel
  obtain ⟨u, hresult⟩ := isOk_iff.1 haccepts
  obtain ⟨-, -, htype⟩ := h .keyUsage (some .null) input plainInput_self
    ⟨rfl, List.contains_iff_mem.1 hread⟩ .null rfl
  cases htype hresult

end TaSecureApi
