import TaSecureApi.ContainerTags

namespace TaSecureApi
set_option autoImplicit true

/-- The TA list of a container, where its payload has one. -/
def containerTaList (libraries : Libraries) (inp : List UInt8) : Option JsonValue := do
  let unpacked ← unpackContainer libraries.bioRead inp
  let fields ← jsonValueAsMap (libraries.jsonParseBytes unpacked.payload)
  jsonKeyValueFind "entitledTaIds" fields

/-- Entries that are all the text of a UUID, and no more than the rights hold. -/
def UuidTexts (values : List JsonValue) : Prop :=
  values.length ≤ maxNumAllowedTaIds ∧
    ∀ value ∈ values, ∃ text u, value = .string text ∧ uuidOfText text = some u

def ListedTa (list : JsonValue) (u : SaUuid) : Prop :=
  ∃ values text, list = .array values ∧ .string text ∈ values ∧ uuidOfText text = some u

/-- An unwrap that ends, and not with a key. -/
def Rejected (r : Unwrapped) : Prop :=
  ∃ status k, r = some (status, k) ∧ (status = .ok → k = none)

/-- The TA list of a container is enforced exactly: a key that is unwrapped admits the TAs that it
names, and all if it names the UUID of ones; and a list that is no list of UUID texts is refused. -/
structure TaListEnforced (list : JsonValue) (r : Unwrapped) : Prop where
  admits : ∀ k, r = some (.ok, some k) → ∀ u, u ≠ noMatch →
    (rightsAllowedUuid k.header.rights u = true ↔ ListedTa list u ∨ ListedTa list allMatch)
  refuses : (∀ values, list = .array values → ¬ UuidTexts values) → Rejected r

/-- The loop over the entries comes to one whose length is wrong, after texts whose length is right.
The length of an entry that is no text is what was in the variable. -/
def TaListRefused (unwritten : Unwritten) (i : Nat) (values : List JsonValue) : Prop :=
  ∃ before entry behind, values = List.map .string before ++ entry :: behind ∧
    (∀ id ∈ before, id.length = uuidLength) ∧ i + before.length ≤ maxNumAllowedTaIds ∧
    (jsonValueAsString (unwritten.length (.taId (i + before.length))) entry).1 ≠ uuidLength

theorem bind_eq_status {x : Except Stop α} {f : α → β} :
    (∃ e, (x >>= fun a => .ok (f a)) = .error (.status e)) ↔ ∃ e, x = .error (.status e) := by
  cases x with
  | error stop =>
    constructor
    · intro ⟨e, h⟩
      cases h
      exact ⟨e, rfl⟩
    · intro ⟨e, h⟩
      cases h
      exact ⟨e, rfl⟩
  | ok a => exact ⟨fun ⟨e, h⟩ => (by cases h), fun ⟨e, h⟩ => (by cases h)⟩

section Lists

variable {unwritten : Unwritten} {i : Nat} {values : List JsonValue} {ids : List (List UInt8)}

theorem copyTaIds_string (h : text.length = uuidLength) (hi : i < maxNumAllowedTaIds) :
    copyTaIds unwritten i (.string text :: values) =
      (copyTaIds unwritten (i + 1) values >>= fun ids => .ok (text :: ids)) := by
  simp only [copyTaIds, jsonValueAsString, h, ne_eq, not_true, if_false, ge_iff_le,
    Nat.not_le.2 hi]

theorem copyTaIds_wrong_length
    (h : (jsonValueAsString (unwritten.length (.taId i)) value).1 ≠ uuidLength) :
    copyTaIds unwritten i (value :: values) = .error (.status .invalidKeyFormat) := by
  rw [copyTaIds]
  exact if_pos h

theorem copyTaIds_undefined
    (h : (jsonValueAsString (unwritten.length (.taId i)) value).1 = uuidLength)
    (hvalue : (∀ text, value ≠ .string text) ∨ maxNumAllowedTaIds ≤ i) :
    copyTaIds unwritten i (value :: values) = .error .undefined := by
  simp only [copyTaIds, h, ne_eq, not_true, if_false]
  cases value with
  | string text =>
    obtain hvalue | hi := hvalue
    · exact absurd rfl (hvalue text)
    · simp only [jsonValueAsString, ge_iff_le, hi, if_true]
  | _ => rfl

/-- A loop over the entries that gets to its end has read texts of the right length. -/
theorem copyTaIds_eq_ok (hi : i ≤ maxNumAllowedTaIds) : copyTaIds unwritten i values = .ok ids ↔
    values = ids.map .string ∧ (∀ id ∈ ids, id.length = uuidLength) ∧
      i + ids.length ≤ maxNumAllowedTaIds := by
  induction values generalizing i ids with
  | nil =>
    constructor
    · intro h
      cases h
      exact ⟨rfl, by simp, hi⟩
    · intro ⟨hvalues, _, _⟩
      rw [List.map_eq_nil_iff.1 hvalues.symm]
      rfl
  | cons value values ih =>
    by_cases hlength : (jsonValueAsString (unwritten.length (.taId i)) value).1 = uuidLength
    · by_cases hbad : (∀ text, value ≠ .string text) ∨ maxNumAllowedTaIds ≤ i
      · rw [copyTaIds_undefined hlength hbad]
        constructor
        · intro h
          cases h
        · intro ⟨hvalues, _, hroom⟩
          cases ids with
          | nil => cases hvalues
          | cons id ids =>
            obtain ⟨rfl, -⟩ := List.cons.inj hvalues
            obtain hbad | hbad := hbad
            · exact absurd rfl (hbad id)
            · rw [List.length_cons] at hroom
              omega
      · simp only [not_or, not_forall, not_not, Nat.not_le] at hbad
        obtain ⟨⟨text, rfl⟩, hi⟩ := hbad
        rw [copyTaIds_string hlength hi, bind_eq_ok]
        constructor
        · rintro ⟨ids, hids, h⟩
          cases h
          obtain ⟨rfl, hlengths, hroom⟩ := (ih hi).1 hids
          refine ⟨rfl, ?_, by rw [List.length_cons]; omega⟩
          intro id hid
          obtain rfl | hid := List.mem_cons.1 hid
          · exact hlength
          · exact hlengths id hid
        · intro ⟨hvalues, hlengths, hroom⟩
          cases ids with
          | nil => cases hvalues
          | cons id ids =>
            obtain ⟨hid, rfl⟩ := List.cons.inj hvalues
            cases hid
            rw [List.length_cons] at hroom
            exact ⟨ids, (ih hi).2 ⟨rfl, fun id hid => hlengths id (List.mem_cons_of_mem _ hid),
              by omega⟩, rfl⟩
    · rw [copyTaIds_wrong_length hlength]
      constructor
      · intro h
        cases h
      · intro ⟨hvalues, hlengths, _⟩
        cases ids with
        | nil => cases hvalues
        | cons id ids =>
          obtain ⟨rfl, -⟩ := List.cons.inj hvalues
          exact absurd (hlengths id (List.mem_cons_self ..)) hlength

theorem copyTaIds_eq_status (hi : i ≤ maxNumAllowedTaIds) :
    (∃ e, copyTaIds unwritten i values = .error (.status e)) ↔
      TaListRefused unwritten i values := by
  induction values generalizing i with
  | nil =>
    constructor
    · rintro ⟨e, h⟩
      cases h
    · rintro ⟨before, entry, behind, hvalues, -⟩
      simp at hvalues
  | cons value values ih =>
    by_cases hlength : (jsonValueAsString (unwritten.length (.taId i)) value).1 = uuidLength
    · by_cases hbad : (∀ text, value ≠ .string text) ∨ maxNumAllowedTaIds ≤ i
      · rw [copyTaIds_undefined hlength hbad]
        constructor
        · rintro ⟨e, h⟩
          cases h
        · rintro ⟨before, entry, behind, hvalues, -, hroom, hentry⟩
          cases before with
          | nil =>
            obtain ⟨rfl, -⟩ := List.cons.inj hvalues
            exact absurd hlength hentry
          | cons id before =>
            obtain ⟨rfl, -⟩ := List.cons.inj hvalues
            obtain hbad | hbad := hbad
            · exact absurd rfl (hbad id)
            · rw [List.length_cons] at hroom
              omega
      · simp only [not_or, not_forall, not_not, Nat.not_le] at hbad
        obtain ⟨⟨text, rfl⟩, hi⟩ := hbad
        rw [copyTaIds_string hlength hi, bind_eq_status, ih hi]
        constructor
        · rintro ⟨before, entry, behind, rfl, hlengths, hroom, hentry⟩
          refine ⟨text :: before, entry, behind, rfl, ?_, by rw [List.length_cons]; omega, ?_⟩
          · intro id hid
            obtain rfl | hid := List.mem_cons.1 hid
            · exact hlength
            · exact hlengths id hid
          · rwa [List.length_cons, Nat.add_comm before.length, ← Nat.add_assoc]
        · rintro ⟨before, entry, behind, hvalues, hlengths, hroom, hentry⟩
          cases before with
          | nil =>
            obtain ⟨rfl, -⟩ := List.cons.inj hvalues
            exact absurd hlength hentry
          | cons id before =>
            obtain ⟨-, rfl⟩ := List.cons.inj hvalues
            rw [List.length_cons] at hroom
            rw [List.length_cons, Nat.add_comm before.length, ← Nat.add_assoc] at hentry
            exact ⟨before, entry, behind, rfl,
              fun id hid => hlengths id (List.mem_cons_of_mem _ hid), by omega, hentry⟩
    · rw [copyTaIds_wrong_length hlength]
      exact ⟨fun _ => ⟨[], value, values, rfl, by simp, hi, hlength⟩, fun _ => ⟨_, rfl⟩⟩

/-- The conversion of no more entries than the array has is that of the texts that are read. -/
theorem convertTaIds_eq (hroom : i + values.length ≤ maxNumAllowedTaIds) :
    convertTaIds unwritten i values =
      (copyTaIds unwritten i values).map fun ids =>
        ids.map fun id => (convertUuid id noMatch).2 := by
  induction values generalizing i with
  | nil => rfl
  | cons value values ih =>
    rw [List.length_cons] at hroom
    by_cases hlength : (jsonValueAsString (unwritten.length (.taId i)) value).1 = uuidLength
    · have hi : i < maxNumAllowedTaIds := by omega
      simp only [convertTaIds, copyTaIds, hlength, ne_eq, not_true, if_false, ge_iff_le,
        Nat.not_le.2 hi, ih (by omega : i + 1 + values.length ≤ maxNumAllowedTaIds)]
      cases (jsonValueAsString (unwritten.length (.taId i)) value).2 with
      | none => rfl
      | some text =>
        cases copyTaIds unwritten (i + 1) values with
        | error e => rfl
        | ok ids => rfl
    · rw [copyTaIds_wrong_length hlength, convertTaIds]
      exact if_pos hlength

end Lists

section Rights

variable {libraries : Libraries} {unwritten : Unwritten} {k : StoredKey}

theorem rightsAllowedUuid_iff : rightsAllowedUuid rights u = true ↔
    ∃ ta ∈ rights.allowedTas, ta ≠ noMatch ∧ (ta = allMatch ∨ ta = u) := by
  simp [rightsAllowedUuid, List.any_eq_true]

/-- The TAs that are admitted where the texts of UUIDs are converted, and no other. -/
theorem rightsAllowedUuid_texts {ids : List (List UInt8)}
    (hallowed : rights.allowedTas =
      ids.map (fun id => (convertUuid id noMatch).2) ++ List.replicate n noMatch)
    (htexts : UuidTexts (ids.map .string)) (hu : u ≠ noMatch) :
    rightsAllowedUuid rights u = true ↔
      ListedTa (.array (ids.map .string)) u ∨ ListedTa (.array (ids.map .string)) allMatch := by
  have hlisted (v : SaUuid) : ListedTa (.array (ids.map .string)) v ↔
      ∃ id ∈ ids, (convertUuid id noMatch).2 = v := by
    constructor
    · rintro ⟨values, text, hvalues, hmem, hv⟩
      cases hvalues
      obtain ⟨id, hid, hstring⟩ := List.mem_map.1 hmem
      cases hstring
      exact ⟨text, hid, congrArg Prod.snd (convertUuid_of_text hv).2⟩
    · rintro ⟨id, hid, hv⟩
      have hmem : JsonValue.string id ∈ ids.map .string := List.mem_map_of_mem hid
      obtain ⟨text, w, hstring, hw⟩ := htexts.2 _ hmem
      cases hstring
      rw [(convertUuid_of_text hw).2] at hv
      cases hv
      exact ⟨_, _, rfl, hmem, hw⟩
  rw [rightsAllowedUuid_iff, hlisted, hlisted, hallowed]
  have hones : allMatch ≠ noMatch := by decide
  constructor
  · rintro ⟨ta, hta, hne, heq⟩
    obtain hta | hta := List.mem_append.1 hta
    · obtain ⟨id, hid, rfl⟩ := List.mem_map.1 hta
      obtain heq | heq := heq
      · exact .inr ⟨id, hid, heq⟩
      · exact .inl ⟨id, hid, heq⟩
    · exact absurd (List.eq_of_mem_replicate hta) hne
  · rintro (⟨id, hid, heq⟩ | ⟨id, hid, heq⟩)
    · exact ⟨u, List.mem_append_left _ (List.mem_map.2 ⟨id, hid, heq⟩), hu, .inr rfl⟩
    · exact ⟨allMatch, List.mem_append_left _ (List.mem_map.2 ⟨id, hid, heq⟩), hones, .inl rfl⟩

theorem restrictChildRights_allowedTas (parent : Option SaRights) :
    (restrictChildRights rights parent).allowedTas = rights.allowedTas := by
  cases parent with
  | none => rfl
  | some rootrights =>
    rw [restrictChildRights]
    split_ifs
    · rfl
    · rfl

theorem socCreateKey_rights (h : socCreateKey pkcs8 kind rights key = .ok (.ok, some k)) :
    k.header.rights = rights := by
  have hcreate {typeParameters : SaTypeParameters} (h : (do
      let storedKey ← liftStatus (storedKeyCreate rights none kind.keyType typeParameters
        kind.keySize key)
      (pure (.ok, some storedKey) : Except Stop (SaStatus × Option StoredKey))) =
      .ok (.ok, some k)) : k.header.rights = rights := by
    simp only [bind_eq_ok, liftStatus_eq_ok] at h
    obtain ⟨storedKey, hcreate, h⟩ := h
    cases h
    obtain ⟨-, -, rfl⟩ := storedKeyCreate_ok hcreate
    rfl
  unfold socCreateKey at h
  dsimp only at h
  split at h
  · simp only [bind_eq_ok, demand_eq_ok, exists_const] at h
    exact hcreate (bind_eq_ok.2 h.2.2)
  · split at h
    · cases h
    · simp only [bind_eq_ok, demand_eq_ok, exists_const] at h
      exact hcreate (bind_eq_ok.2 h.2)
  · simp only [bind_eq_ok, demand_eq_ok, exists_const] at h
    exact hcreate (bind_eq_ok.2 h.2)
  · cases h

theorem importUnwrapped_imports
    (h : importUnwrapped libraries rights padded storedKey key = .ok k) :
    ∃ inp, importKey libraries.pkcs8 rights storedKey.header.rights .symmetric none inp =
      .ok k := by
  simp only [importUnwrapped, bind_eq_ok, liftStatus_eq_ok] at h
  obtain ⟨pad, -, h⟩ := h
  exact ⟨_, h⟩

theorem unwrapAesEcb_imports (h : unwrapAesEcb libraries inp rights padded storedKey = .ok k) :
    ∃ inp, importKey libraries.pkcs8 rights storedKey.header.rights .symmetric none inp =
      .ok k := by
  simp only [unwrapAesEcb, bind_eq_ok] at h
  obtain ⟨key, -, h⟩ := h
  exact importUnwrapped_imports h

theorem unwrapAesCbc_imports
    (h : unwrapAesCbc libraries inp rights padded iv storedKey = .ok k) :
    ∃ inp, importKey libraries.pkcs8 rights storedKey.header.rights .symmetric none inp =
      .ok k := by
  simp only [unwrapAesCbc, bind_eq_ok] at h
  obtain ⟨key, -, h⟩ := h
  exact importUnwrapped_imports h

theorem unwrapContentKey_imports
    (h : unwrapContentKey libraries unwritten fields rights storedKey algorithm contentKey =
      .ok k) :
    ∃ inp, importKey libraries.pkcs8 rights storedKey.header.rights .symmetric none inp =
      .ok k := by
  unfold unwrapContentKey at h
  split at h
  · exact unwrapAesEcb_imports h
  · exact unwrapAesEcb_imports h
  · obtain ⟨iv, -, h⟩ := bind_eq_ok.1 h
    exact unwrapAesCbc_imports (failsInternally_eq_ok.1 h)
  · obtain ⟨iv, -, h⟩ := bind_eq_ok.1 h
    exact unwrapAesCbc_imports (failsInternally_eq_ok.1 h)
  · cases h

/-- A key of a Type-J container is an import of a symmetric key, whatever the version. -/
theorem unwrapKeyVersion_imports
    (h : unwrapKeyVersion libraries unwritten fields rights storedKey = .ok (.ok, some k)) :
    ∃ inp, importKey libraries.pkcs8 rights storedKey.header.rights .symmetric none inp =
      .ok k := by
  have hv2 (h : unwrapKeyV2 libraries unwritten fields rights storedKey = .ok (.ok, some k)) :
      ∃ inp, importKey libraries.pkcs8 rights storedKey.header.rights .symmetric none inp =
        .ok k := by
    simp only [unwrapKeyV2, bind_eq_ok, pure, Except.pure, Except.ok.injEq, Prod.mk.injEq,
      Option.some.injEq] at h
    obtain ⟨algorithmField, -, contentKey, -, -, -, storedKey', h', -, rfl⟩ := h
    exact unwrapContentKey_imports h'
  unfold unwrapKeyVersion at h
  dsimp only at h
  split at h
  · simp only [unwrapKeyV1, bind_eq_ok] at h
    obtain ⟨contentKey, -, -, -, storedKey', h', h⟩ := h
    cases h
    exact unwrapAesEcb_imports h'
  split at h
  · exact hv2 h
  split at h
  · exact hv2 h
  · cases h

theorem unwrapKeyVersion_allowedTas
    (h : unwrapKeyVersion libraries unwritten fields rights storedKey = .ok (.ok, some k)) :
    k.header.rights.allowedTas = rights.allowedTas := by
  obtain ⟨inp, h⟩ := unwrapKeyVersion_imports h
  obtain ⟨-, -, rfl⟩ := storedKeyCreate_ok h
  exact restrictChildRights_allowedTas _

end Rights

/-- The parts of a SoC container that are read before its TA list. -/
structure SocStage where
  alg : List UInt8
  key : SocKcKey
  fields : List (List UInt8 × JsonValue)
  mac : List UInt8

/-- `soc_kc_unwrap` up to the TA list. -/
def socBefore (libraries : Libraries) (unwritten : Unwritten) (inp : List UInt8) :
    Except Stop SocStage := do
  let unpacked ← demandSome .invalidKeyFormat (unpackSocKc libraries.bioRead inp)
  let headerFields ← demandSome .invalidKeyFormat
    (jsonValueAsMap (libraries.jsonParseBytes unpacked.header))
  let alg ← parseHeader headerFields
  let fields ← demandSome .invalidKeyFormat
    (jsonValueAsMap (libraries.jsonParseBytes unpacked.payload))
  let key ← parsePayloadKey libraries unwritten fields
  pure ⟨alg, key, fields, unpacked.mac⟩

/-- `soc_kc_unwrap` from the TA list on. -/
def socAfter (libraries : Libraries) (unwritten : Unwritten)
    (parameters : Option SaImportParametersSoc) (stage : SocStage) (taIds : List (List UInt8)) :
    Except Stop (SaStatus × Option StoredKey) := do
  let c1 ← parseLadderInput libraries unwritten "c1" .c1 stage.fields false
  let c2 ← parseLadderInput libraries unwritten "c2" .c2 stage.fields true
  let c3 ← parseLadderInput libraries unwritten "c3" .c3 stage.fields false
  decryptKeyAndVerifyMac libraries unwritten stage.alg
    { containerVersion := stage.key.containerVersion
      rootKeyType := stage.key.rootKeyType
      keyTypeString := stage.key.keyTypeString
      encryptedKey := stage.key.encryptedKey
      iv := stage.key.iv
      keyUsage := stage.key.keyUsage
      decryptedKeyUsage := stage.key.decryptedKeyUsage
      entitledTaIds := taIds
      keyLadderInputs := ⟨c1, c2, c3⟩ } stage.mac parameters

/-- The parts of a Type-J container that are read before its TA list. -/
structure TypejStage where
  fields : List (List UInt8 × JsonValue)
  rights : SaRights

/-- `typej_unwrap` up to the TA list. -/
def typejBefore (libraries : Libraries) (unwritten : Unwritten) (inp : List UInt8)
    (storedKeyMac : StoredKey) : Except Stop TypejStage := do
  let fields ← typejFields libraries inp storedKeyMac
  let rights ← typejRights libraries unwritten fields
  pure ⟨fields, rights⟩

/-- `typej_unwrap` from the TA list on. -/
def typejAfter (libraries : Libraries) (unwritten : Unwritten) (storedKeyEncryption : StoredKey)
    (stage : TypejStage) (allowedTas : List SaUuid) : Except Stop (SaStatus × Option StoredKey) :=
  unwrapKeyVersion libraries unwritten stage.fields { stage.rights with allowedTas := allowedTas }
    storedKeyEncryption

/-- What the code makes of the TA list of a SoC container that it reads to the end: the texts of an
array, and no text of what is no array. -/
def SocListReads (list : JsonValue) (ids : List (List UInt8)) : Prop :=
  (list = .array (ids.map .string) ∧ (∀ id ∈ ids, id.length = uuidLength) ∧
    ids.length ≤ maxNumAllowedTaIds) ∨
  ((∀ values, list ≠ .array values) ∧ ids = [])

def SocListRefused (unwritten : Unwritten) (list : JsonValue) : Prop :=
  ∃ values, list = .array values ∧ TaListRefused unwritten 0 values

/-- The TA list of a SoC container does no harm: it is an array of UUID texts, and not an empty one;
or it is empty, and the container is not accepted; or the container is refused, before the list,
for the list, or after it. -/
def SocListHarmless (libraries : Libraries) (unwritten : Unwritten) (inp : List UInt8)
    (parameters : Option SaImportParametersSoc) (list : JsonValue) : Prop :=
  (∃ values, list = .array values ∧ values ≠ [] ∧ UuidTexts values) ∨
  (list = .array [] ∧ ∀ stage k, socBefore libraries unwritten inp = .ok stage →
    socAfter libraries unwritten parameters stage [] ≠ .ok (.ok, some k)) ∨
  (∃ e, socBefore libraries unwritten inp = .error (.status e)) ∨
  ∃ stage, socBefore libraries unwritten inp = .ok stage ∧
    (SocListRefused unwritten list ∨ ∃ ids, SocListReads list ids ∧
      Rejected (Unwrapped.of (socAfter libraries unwritten parameters stage ids)))

/-- What the code makes of the TA list of a Type-J container that it reads to the end. The length of
what is no array is what was in the variable. -/
def TypejListReads (unwritten : Unwritten) (list : JsonValue) (ids : List (List UInt8)) : Prop :=
  (list = .array (ids.map .string) ∧ (∀ id ∈ ids, id.length = uuidLength) ∧
    ids.length ≤ maxNumAllowedTaIds) ∨
  ((∀ values, list ≠ .array values) ∧ unwritten.length .entitledTaIds = 0 ∧ ids = [])

def TypejListRefused (unwritten : Unwritten) (list : JsonValue) : Prop :=
  (∃ values, list = .array values ∧
    (maxNumAllowedTaIds < values.length ∨ TaListRefused unwritten 0 values)) ∨
  ((∀ values, list ≠ .array values) ∧ maxNumAllowedTaIds < unwritten.length .entitledTaIds)

def taIdRights (ids : List (List UInt8)) : List SaUuid :=
  ids.map (fun id => (convertUuid id noMatch).2) ++
    List.replicate (maxNumAllowedTaIds - ids.length) noMatch

/-- The TA list of a Type-J container does no harm: it is an array of UUID texts; or the container
is refused, before the list, for the list, or after it. -/
def TypejListHarmless (libraries : Libraries) (unwritten : Unwritten) (inp : List UInt8)
    (storedKeyMac storedKeyEncryption : StoredKey) (list : JsonValue) : Prop :=
  (∃ values, list = .array values ∧ UuidTexts values) ∨
  (∃ e, typejBefore libraries unwritten inp storedKeyMac = .error (.status e)) ∨
  ∃ stage, typejBefore libraries unwritten inp storedKeyMac = .ok stage ∧
    (TypejListRefused unwritten list ∨ ∃ ids, TypejListReads unwritten list ids ∧
      Rejected (Unwrapped.of (typejAfter libraries unwritten storedKeyEncryption stage
        (taIdRights ids))))

section Unwraps

variable {libraries : Libraries} {unwritten : Unwritten} {inp : List UInt8}
  {parameters : Option SaImportParametersSoc} {list : JsonValue}
  {storedKeyMac storedKeyEncryption : StoredKey}

theorem rejected_bind {x : Except Stop α} {f : α → Except Stop (SaStatus × Option StoredKey)} :
    Rejected (Unwrapped.of (x >>= f)) ↔ (∃ e, x = .error (.status e)) ∨
      ∃ a, x = .ok a ∧ Rejected (Unwrapped.of (f a)) := by
  match x with
  | .error (.status e) =>
    exact ⟨fun _ => .inl ⟨e, rfl⟩, fun _ => ⟨e, none, rfl, fun _ => rfl⟩⟩
  | .error .undefined =>
    constructor
    · rintro ⟨status, k, h, -⟩
      cases h
    · rintro (⟨e, h⟩ | ⟨a, h, -⟩)
      · cases h
      · cases h
  | .ok a =>
    constructor
    · intro h
      exact .inr ⟨a, rfl, h⟩
    · rintro (⟨e, h⟩ | ⟨a, h, hrejected⟩)
      · cases h
      · cases h
        exact hrejected

theorem Unwrapped.of_eq_key {x : Except Stop (SaStatus × Option StoredKey)} :
    Unwrapped.of x = some (.ok, some k) ↔ x = .ok (.ok, some k) := by
  match x with
  | .error (.status e) => simp [Unwrapped.of]
  | .error .undefined => simp [Unwrapped.of]
  | .ok result => simp [Unwrapped.of]

theorem Rejected.no_key {r : Unwrapped} (h : Rejected r) (hk : r = some (.ok, some k)) : False := by
  obtain ⟨status, k', hr, hnone⟩ := h
  rw [hk] at hr
  cases hr
  cases hnone rfl

theorem socKcUnwrap_stages : socKcUnwrap libraries unwritten inp parameters = Unwrapped.of (do
    let stage ← socBefore libraries unwritten inp
    let ids ← parseEntitledTaIds unwritten stage.fields
    socAfter libraries unwritten parameters stage ids) := by
  simp only [socKcUnwrap, socKcParse, parsePayload, socBefore, socAfter, bind_assoc, pure_bind]

theorem socBefore_list (h : socBefore libraries unwritten inp = .ok stage) :
    jsonKeyValueFind "entitledTaIds" stage.fields = containerTaList libraries inp := by
  simp only [socBefore, bind_eq_ok, demandSome_eq_ok] at h
  obtain ⟨unpacked, hunpack, _, -, alg, -, fields, hfields, key, -, h⟩ := h
  cases h
  have hunpack : unpackContainer libraries.bioRead inp = some unpacked := hunpack
  simp only [containerTaList, hunpack, hfields, Option.bind_eq_bind, Option.bind_some]

theorem parseEntitledTaIds_eq (h : jsonKeyValueFind "entitledTaIds" fields = some list) :
    parseEntitledTaIds unwritten fields =
      copyTaIds unwritten 0 ((jsonValueAsArray 0 list).2.getD []) := by
  rw [parseEntitledTaIds, h]

theorem parseEntitledTaIds_eq_ok (h : jsonKeyValueFind "entitledTaIds" fields = some list) :
    parseEntitledTaIds unwritten fields = .ok ids ↔ SocListReads list ids := by
  rw [parseEntitledTaIds_eq h]
  cases list with
  | array values =>
    rw [jsonValueAsArray, Option.getD_some, copyTaIds_eq_ok (Nat.zero_le _), Nat.zero_add]
    constructor
    · intro ⟨hvalues, htexts⟩
      exact .inl ⟨congrArg JsonValue.array hvalues, htexts⟩
    · rintro (⟨hvalues, htexts⟩ | ⟨hvalues, _⟩)
      · exact ⟨JsonValue.array.inj hvalues, htexts⟩
      · exact absurd rfl (hvalues values)
  | _ =>
    simp [SocListReads, jsonValueAsArray, copyTaIds, eq_comm]

theorem parseEntitledTaIds_eq_status (h : jsonKeyValueFind "entitledTaIds" fields = some list) :
    (∃ e, parseEntitledTaIds unwritten fields = .error (.status e)) ↔
      SocListRefused unwritten list := by
  rw [parseEntitledTaIds_eq h]
  cases list with
  | array values =>
    simp only [SocListRefused, JsonValue.array.injEq, exists_eq_left', jsonValueAsArray,
      Option.getD_some, copyTaIds_eq_status (Nat.zero_le _)]
  | _ =>
    simp [SocListRefused, jsonValueAsArray, copyTaIds]

theorem socKcUnwrap_rejected (hlist : containerTaList libraries inp = some list) :
    Rejected (socKcUnwrap libraries unwritten inp parameters) ↔
      (∃ e, socBefore libraries unwritten inp = .error (.status e)) ∨
      ∃ stage, socBefore libraries unwritten inp = .ok stage ∧
        (SocListRefused unwritten list ∨ ∃ ids, SocListReads list ids ∧
          Rejected (Unwrapped.of (socAfter libraries unwritten parameters stage ids))) := by
  rw [socKcUnwrap_stages, rejected_bind]
  apply or_congr_right
  apply exists_congr
  intro stage
  apply and_congr_right
  intro hstage
  have hfields := (socBefore_list hstage).trans hlist
  rw [rejected_bind, parseEntitledTaIds_eq_status hfields]
  simp only [parseEntitledTaIds_eq_ok hfields]

theorem socKcUnwrap_key (hlist : containerTaList libraries inp = some list) :
    socKcUnwrap libraries unwritten inp parameters = some (.ok, some k) ↔
      ∃ stage ids, socBefore libraries unwritten inp = .ok stage ∧ SocListReads list ids ∧
        socAfter libraries unwritten parameters stage ids = .ok (.ok, some k) := by
  rw [socKcUnwrap_stages, Unwrapped.of_eq_key]
  simp only [bind_eq_ok]
  apply exists_congr
  intro stage
  constructor
  · intro ⟨hstage, ids, hids, hk⟩
    exact ⟨ids, hstage, (parseEntitledTaIds_eq_ok ((socBefore_list hstage).trans hlist)).1 hids, hk⟩
  · intro ⟨ids, hstage, hids, hk⟩
    exact ⟨hstage, ids,
      (parseEntitledTaIds_eq_ok ((socBefore_list hstage).trans hlist)).2 hids, hk⟩

theorem socFieldsToRights_allowedTas
    (h : socFieldsToRights keyType subtype payload parameters = .ok rights) :
    rights.allowedTas = socAllowedTas payload.entitledTaIds := by
  by_cases husage : payload.keyUsage = keyOnly
  · cases parameters with
    | none =>
      simp only [socFieldsToRights, husage, if_true, bind_eq_ok] at h
      obtain ⟨_, -, _, -, _, -, _, -, h⟩ := h
      cases h
      rfl
    | some parametersSoc =>
      simp only [socFieldsToRights, husage, if_true, bind_eq_ok] at h
      obtain ⟨_, -, _, -, _, -, _, -, _, -, _, -, h⟩ := h
      cases h
      rfl
  · cases parameters with
    | none =>
      simp only [socFieldsToRights, husage, if_false, bind_eq_ok] at h
      obtain ⟨_, -, _, -, _, -, _, -, h⟩ := h
      cases h
      rfl
    | some parametersSoc =>
      simp only [socFieldsToRights, husage, if_false, bind_eq_ok] at h
      obtain ⟨_, -, _, -, _, -, _, -, _, -, _, -, h⟩ := h
      cases h
      rfl

theorem socAfter_allowedTas
    (h : socAfter libraries unwritten parameters stage ids = .ok (.ok, some k)) :
    k.header.rights.allowedTas = socAllowedTas ids := by
  simp only [socAfter, decryptKeyAndVerifyMac, bind_eq_ok] at h
  obtain ⟨c1, -, c2, -, c3, -, aad, -, kind, -, key, -, rights, hrights, h⟩ := h
  rw [socCreateKey_rights h]
  exact socFieldsToRights_allowedTas hrights

/-- A SoC container has its TA list enforced where the list does no harm, and only there. -/
theorem soc_taList_enforced (hlist : containerTaList libraries inp = some list) :
    TaListEnforced list (socKcUnwrap libraries unwritten inp parameters) ↔
      SocListHarmless libraries unwritten inp parameters list := by
  have hrejected := @socKcUnwrap_rejected _ unwritten _ parameters _ hlist
  constructor
  · intro henforced
    by_cases htexts : ∃ values, list = .array values ∧ UuidTexts values
    · obtain ⟨values, rfl, htexts⟩ := htexts
      cases values with
      | nil =>
        refine .inr (.inl ⟨rfl, fun stage k hstage hk => ?_⟩)
        have hkey : socKcUnwrap libraries unwritten inp parameters = some (.ok, some k) :=
          (socKcUnwrap_key hlist).2
            ⟨stage, [], hstage, .inl ⟨rfl, by simp, Nat.zero_le _⟩, hk⟩
        have hadmits : rightsAllowedUuid k.header.rights (SaUuid.ofByte 1) = true := by
          rw [rightsAllowedUuid_iff, socAfter_allowedTas hk]
          exact ⟨allMatch, List.mem_cons_self .., by decide, .inl rfl⟩
        obtain ⟨values, text, hvalues, hmem, -⟩ | ⟨values, text, hvalues, hmem, -⟩ :=
          (henforced.admits k hkey (SaUuid.ofByte 1) (by decide)).1 hadmits
        · cases hvalues
          cases hmem
        · cases hvalues
          cases hmem
      | cons value values => exact .inl ⟨_, rfl, List.cons_ne_nil _ _, htexts⟩
    · exact .inr (.inr (hrejected.1 (henforced.refuses fun values h ht => htexts ⟨values, h, ht⟩)))
  · rintro (⟨values, rfl, hne, htexts⟩ | ⟨rfl, hempty⟩ | hother)
    · refine ⟨fun k hk u hu => ?_, fun h => absurd htexts (h values rfl)⟩
      obtain ⟨stage, ids, -, hids, hk⟩ := (socKcUnwrap_key hlist).1 hk
      obtain ⟨hvalues, -, -⟩ | ⟨hvalues, -⟩ := hids
      · cases hvalues
        have hids : ids ≠ [] := by
          intro h
          rw [h] at hne
          exact hne rfl
        have hallowed := socAfter_allowedTas hk
        rw [socAllowedTas, if_neg hids] at hallowed
        exact rightsAllowedUuid_texts hallowed htexts hu
      · exact absurd rfl (hvalues values)
    · refine ⟨fun k hk => ?_, fun h => absurd ⟨Nat.zero_le _, by simp⟩ (h [] rfl)⟩
      obtain ⟨stage, ids, hstage, hids, hk⟩ := (socKcUnwrap_key hlist).1 hk
      obtain ⟨hvalues, -, -⟩ | ⟨hvalues, -⟩ := hids
      · rw [JsonValue.array.injEq] at hvalues
        rw [List.map_eq_nil_iff.1 hvalues.symm] at hk
        exact absurd hk (hempty stage k hstage)
      · exact absurd rfl (hvalues [])
    · have hr := hrejected.2 hother
      exact ⟨fun k hk => (hr.no_key hk).elim, fun _ => hr⟩

theorem typejUnwrap_stages :
    typejUnwrap libraries unwritten inp storedKeyMac storedKeyEncryption = Unwrapped.of (do
      let stage ← typejBefore libraries unwritten inp storedKeyMac
      let allowedTas ← typejAllowedTas unwritten stage.fields
      typejAfter libraries unwritten storedKeyEncryption stage allowedTas) := by
  simp only [typejUnwrap, typejFieldsToRights, typejBefore, typejAfter, bind_assoc, pure_bind]

theorem typejBefore_list (h : typejBefore libraries unwritten inp storedKeyMac = .ok stage) :
    jsonKeyValueFind "entitledTaIds" stage.fields = containerTaList libraries inp := by
  simp only [typejBefore, typejFields, bind_eq_ok, demandSome_eq_ok] at h
  obtain ⟨fields, ⟨unpacked, hunpack, -, -, hfields⟩, rights, -, h⟩ := h
  cases h
  have hunpack : unpackContainer libraries.bioRead inp = some unpacked := hunpack
  simp only [containerTaList, hunpack, hfields, Option.bind_eq_bind, Option.bind_some]

theorem typejAllowedTas_array
    (h : jsonKeyValueFind "entitledTaIds" fields = some (.array values))
    (hroom : values.length ≤ maxNumAllowedTaIds) : typejAllowedTas unwritten fields =
      (copyTaIds unwritten 0 values >>= fun ids => .ok (taIdRights ids)) := by
  have hconvert : convertTaIds unwritten 0 values = (copyTaIds unwritten 0 values).map
      fun ids => ids.map fun id => (convertUuid id noMatch).2 :=
    convertTaIds_eq (by rwa [Nat.zero_add])
  simp only [typejAllowedTas, h, jsonValueAsArray, demand, hroom, if_true, hconvert]
  cases copyTaIds unwritten 0 values with
  | error e => rfl
  | ok ids => simp [Except.map, bind, Except.bind, taIdRights]

theorem typejAllowedTas_long
    (h : jsonKeyValueFind "entitledTaIds" fields = some (.array values))
    (hroom : maxNumAllowedTaIds < values.length) :
    typejAllowedTas unwritten fields = .error (.status .invalidKeyFormat) := by
  simp only [typejAllowedTas, h, jsonValueAsArray, demand, Nat.not_le.2 hroom, if_false]
  rfl

/-- The allowed TAs of what is no array, by what was in the variable for its length. -/
theorem typejAllowedTas_other (h : jsonKeyValueFind "entitledTaIds" fields = some list)
    (hlist : ∀ values, list ≠ .array values) : typejAllowedTas unwritten fields =
      if maxNumAllowedTaIds < unwritten.length .entitledTaIds then
        .error (.status .invalidKeyFormat)
      else if unwritten.length .entitledTaIds = 0 then .ok (taIdRights [])
      else .error .undefined := by
  have harray : jsonValueAsArray (unwritten.length .entitledTaIds) list =
      (unwritten.length .entitledTaIds, none) := by
    cases list with
    | array values => exact absurd rfl (hlist values)
    | _ => rfl
  simp only [typejAllowedTas, h, harray, demand]
  by_cases hlong : unwritten.length .entitledTaIds ≤ maxNumAllowedTaIds
  · rw [if_pos hlong, if_neg (Nat.not_lt.2 hlong)]
    rfl
  · rw [if_neg hlong, if_pos (Nat.not_le.1 hlong)]
    rfl

theorem typejAllowedTas_eq_ok (h : jsonKeyValueFind "entitledTaIds" fields = some list) :
    typejAllowedTas unwritten fields = .ok tas ↔
      ∃ ids, TypejListReads unwritten list ids ∧ tas = taIdRights ids := by
  by_cases hlist : ∃ values, list = .array values
  · obtain ⟨values, rfl⟩ := hlist
    by_cases hroom : values.length ≤ maxNumAllowedTaIds
    · rw [typejAllowedTas_array h hroom, bind_eq_ok]
      apply exists_congr
      intro ids
      rw [copyTaIds_eq_ok (Nat.zero_le _), Nat.zero_add]
      constructor
      · intro ⟨⟨hvalues, htexts⟩, htas⟩
        cases htas
        exact ⟨.inl ⟨congrArg JsonValue.array hvalues, htexts⟩, rfl⟩
      · rintro ⟨⟨hvalues, htexts⟩ | ⟨hvalues, _⟩, rfl⟩
        · exact ⟨⟨JsonValue.array.inj hvalues, htexts⟩, rfl⟩
        · exact absurd rfl (hvalues values)
    · rw [typejAllowedTas_long h (Nat.not_le.1 hroom)]
      constructor
      · intro hok
        cases hok
      · rintro ⟨ids, ⟨hvalues, -, hlength⟩ | ⟨hvalues, _⟩, -⟩
        · rw [JsonValue.array.inj hvalues, List.length_map] at hroom
          exact absurd hlength hroom
        · exact absurd rfl (hvalues values)
  · rw [not_exists] at hlist
    rw [typejAllowedTas_other h hlist]
    constructor
    · intro hok
      split_ifs at hok with hlong hzero
      cases hok
      exact ⟨[], .inr ⟨hlist, hzero, rfl⟩, rfl⟩
    · rintro ⟨ids, ⟨hvalues, _⟩ | ⟨_, hzero, rfl⟩, rfl⟩
      · exact absurd hvalues (hlist _)
      · rw [hzero]
        rfl

theorem typejAllowedTas_eq_status (h : jsonKeyValueFind "entitledTaIds" fields = some list) :
    (∃ e, typejAllowedTas unwritten fields = .error (.status e)) ↔
      TypejListRefused unwritten list := by
  by_cases hlist : ∃ values, list = .array values
  · obtain ⟨values, rfl⟩ := hlist
    by_cases hroom : values.length ≤ maxNumAllowedTaIds
    · rw [typejAllowedTas_array h hroom, bind_eq_status, copyTaIds_eq_status (Nat.zero_le _)]
      constructor
      · intro hrefused
        exact .inl ⟨values, rfl, .inr hrefused⟩
      · rintro (⟨_, hvalues, hlong | hrefused⟩ | ⟨hvalues, _⟩)
        · cases hvalues
          exact absurd hroom (Nat.not_le.2 hlong)
        · cases hvalues
          exact hrefused
        · exact absurd rfl (hvalues values)
    · rw [typejAllowedTas_long h (Nat.not_le.1 hroom)]
      exact ⟨fun _ => .inl ⟨values, rfl, .inl (Nat.not_le.1 hroom)⟩, fun _ => ⟨_, rfl⟩⟩
  · rw [not_exists] at hlist
    rw [typejAllowedTas_other h hlist]
    constructor
    · intro ⟨e, he⟩
      split_ifs at he with hlong hzero
      · exact .inr ⟨hlist, hlong⟩
      · cases he
    · rintro (⟨values, hvalues, -⟩ | ⟨-, hlong⟩)
      · exact absurd hvalues (hlist values)
      · exact ⟨_, if_pos hlong⟩

theorem typejUnwrap_rejected (hlist : containerTaList libraries inp = some list) :
    Rejected (typejUnwrap libraries unwritten inp storedKeyMac storedKeyEncryption) ↔
      (∃ e, typejBefore libraries unwritten inp storedKeyMac = .error (.status e)) ∨
      ∃ stage, typejBefore libraries unwritten inp storedKeyMac = .ok stage ∧
        (TypejListRefused unwritten list ∨ ∃ ids, TypejListReads unwritten list ids ∧
          Rejected (Unwrapped.of (typejAfter libraries unwritten storedKeyEncryption stage
            (taIdRights ids)))) := by
  rw [typejUnwrap_stages, rejected_bind]
  apply or_congr_right
  apply exists_congr
  intro stage
  apply and_congr_right
  intro hstage
  have hfields := (typejBefore_list hstage).trans hlist
  rw [rejected_bind, typejAllowedTas_eq_status hfields]
  simp only [typejAllowedTas_eq_ok hfields]
  constructor
  · rintro (hrefused | ⟨_, ⟨ids, hids, rfl⟩, hrejected⟩)
    · exact .inl hrefused
    · exact .inr ⟨ids, hids, hrejected⟩
  · rintro (hrefused | ⟨ids, hids, hrejected⟩)
    · exact .inl hrefused
    · exact .inr ⟨_, ⟨ids, hids, rfl⟩, hrejected⟩

theorem typejUnwrap_key (hlist : containerTaList libraries inp = some list)
    (h : typejUnwrap libraries unwritten inp storedKeyMac storedKeyEncryption =
      some (.ok, some k)) :
    ∃ ids, TypejListReads unwritten list ids ∧ k.header.rights.allowedTas = taIdRights ids := by
  rw [typejUnwrap_stages, Unwrapped.of_eq_key, bind_eq_ok] at h
  obtain ⟨stage, hstage, h⟩ := h
  obtain ⟨tas, htas, h⟩ := bind_eq_ok.1 h
  obtain ⟨ids, hids, rfl⟩ :=
    (typejAllowedTas_eq_ok ((typejBefore_list hstage).trans hlist)).1 htas
  exact ⟨ids, hids, unwrapKeyVersion_allowedTas h⟩

/-- A Type-J container has its TA list enforced where the list does no harm, and only there. -/
theorem typej_taList_enforced (hlist : containerTaList libraries inp = some list) :
    TaListEnforced list
      (typejUnwrap libraries unwritten inp storedKeyMac storedKeyEncryption) ↔
      TypejListHarmless libraries unwritten inp storedKeyMac storedKeyEncryption list := by
  have hrejected := @typejUnwrap_rejected _ unwritten _ _ storedKeyMac storedKeyEncryption hlist
  constructor
  · intro henforced
    by_cases htexts : ∃ values, list = .array values ∧ UuidTexts values
    · exact .inl htexts
    · exact .inr (hrejected.1 (henforced.refuses fun values h ht => htexts ⟨values, h, ht⟩))
  · rintro (⟨values, rfl, htexts⟩ | hother)
    · refine ⟨fun k hk u hu => ?_, fun h => absurd htexts (h values rfl)⟩
      obtain ⟨ids, ⟨hvalues, -, -⟩ | ⟨hvalues, -⟩, hallowed⟩ := typejUnwrap_key hlist hk
      · cases hvalues
        exact rightsAllowedUuid_texts hallowed htexts hu
      · exact absurd rfl (hvalues values)
    · have hr := hrejected.2 hother
      exact ⟨fun k hk => (hr.no_key hk).elim, fun _ => hr⟩

end Unwraps

/-- The TA list of a container of either format is enforced exactly where it does no harm. -/
theorem container_taLists (libraries : Libraries) (unwritten : Unwritten) (inp : List UInt8)
    (parameters : Option SaImportParametersSoc) (storedKeyMac storedKeyEncryption : StoredKey) :
    (∀ list, containerTaList libraries inp = some list →
      TaListEnforced list (socKcUnwrap libraries unwritten inp parameters) ∧
      TaListEnforced list
        (typejUnwrap libraries unwritten inp storedKeyMac storedKeyEncryption)) ↔
    ∀ list, containerTaList libraries inp = some list →
      SocListHarmless libraries unwritten inp parameters list ∧
      TypejListHarmless libraries unwritten inp storedKeyMac storedKeyEncryption list := by
  apply forall_congr'
  intro list
  apply imp_congr_right
  intro hlist
  exact and_congr (soc_taList_enforced hlist) (typej_taList_enforced hlist)

/-- A SoC container whose TA list is `null` is accepted, and its key admits every TA. -/
theorem container_null_taList : ¬ ∀ (libraries : Libraries) (unwritten : Unwritten)
    (inp : List UInt8) (parameters : Option SaImportParametersSoc)
    (storedKeyMac storedKeyEncryption : StoredKey) (list : JsonValue),
    containerTaList libraries inp = some list →
      TaListEnforced list (socKcUnwrap libraries unwritten inp parameters) ∧
      TaListEnforced list
        (typejUnwrap libraries unwritten inp storedKeyMac storedKeyEncryption) := by
  intro h
  let payload := aesPayload [(ascii "entitledTaIds", .null)]
  let libraries := plainLibraries [socHeader, payload] fun _ => none
  let inp := renderContainer socHeader payload (List.replicate 16 0)
  let storedKey : StoredKey :=
    ⟨⟨⟨0, 0, 0, 0, [], .replicate 64 0⟩, .symmetric, .zero, 16⟩, List.replicate 16 0⟩
  have hlist : (containerTaList libraries inp).any (fun list => list matches .null) = true := by
    decide +kernel
  have haccepted : ((socKcUnwrap libraries zeroMemory inp none).any
      fun r => r.1 = .ok && r.2.isSome) = true := by
    decide +kernel
  obtain ⟨list, hlist, hnull⟩ := (Option.any_eq_true _ _).1 hlist
  cases list with
  | null =>
    obtain ⟨henforced, -⟩ := h libraries zeroMemory inp none storedKey storedKey .null hlist
    obtain ⟨status, k, hunwrap, hnone⟩ := henforced.refuses fun values h => by cases h
    rw [hunwrap] at haccepted
    obtain ⟨rfl, hk⟩ : status = .ok ∧ k.isSome := by simpa using haccepted
    rw [hnone rfl] at hk
    cases hk
  | _ => cases hnull

end TaSecureApi
