import TaSecureApi.ContainerTags

namespace TaSecureApi
set_option autoImplicit true

/-- An unwrap returns, with `SA_STATUS_OK` for a key that is what it has to be, and without a key
for every other status. -/
def Unwrapped.YieldsKey (holds : StoredKey → Prop) : Unwrapped → Prop
  | none => False
  | some (status, k) =>
    (status = .ok ↔ ∃ key, k = some key ∧ holds key) ∧ (status ≠ .ok → k = none)

/-- A key with the bytes that a SoC container with its whole tag decrypts to. -/
def SocKeyOf (libraries : Libraries) (unwritten : Unwritten) (inp : List UInt8)
    (key : StoredKey) : Prop :=
  ∃ unpacked payload aad wrappingKey,
    SocTagged libraries unwritten inp unpacked payload aad wrappingKey ∧
    unpacked.mac = (socTag libraries payload aad wrappingKey).toList ∧
    libraries.gcm.decrypt wrappingKey payload.iv aad payload.encryptedKey = some key.key

section Rules

variable {α β : Type} {x : Except Stop α} {f : α → Except Stop β}

@[simp] theorem demand_ne_undefined {c : Prop} [Decidable c] :
    demand c e ≠ .error .undefined := by
  unfold demand
  split_ifs <;> simp

@[simp] theorem demandSome_ne_undefined {o : Option α} :
    demandSome e o ≠ .error .undefined := by
  cases o <;> simp [demandSome]

@[simp] theorem liftStatus_ne_undefined {y : Except SaStatus α} :
    liftStatus y ≠ .error .undefined := by
  cases y <;> simp [liftStatus]

theorem bind_eq_undefined : x >>= f = .error .undefined ↔
    x = .error .undefined ∨ ∃ a, x = .ok a ∧ f a = .error .undefined := by
  cases x with
  | error e =>
    change Except.error e = .error .undefined ↔ _
    simp
  | ok a =>
    change f a = .error .undefined ↔ _
    simp

theorem Unwrapped.of_eq_some {x : Except Stop (SaStatus × Option StoredKey)} :
    Unwrapped.of x = some (status, k) ↔
      x = .ok (status, k) ∨ x = .error (.status status) ∧ k = none := by
  match x with
  | .error (.status e) => simp [Unwrapped.of, eq_comm]
  | .error .undefined => simp [Unwrapped.of]
  | .ok result => simp [Unwrapped.of]

theorem Unwrapped.of_eq_none {x : Except Stop (SaStatus × Option StoredKey)} :
    Unwrapped.of x = none ↔ x = .error .undefined := by
  match x with
  | .error (.status e) => simp [Unwrapped.of]
  | .error .undefined => simp [Unwrapped.of]
  | .ok result => simp [Unwrapped.of]

theorem Unwrapped.yieldsKey_iff {r : Unwrapped} : r.YieldsKey holds ↔
    r ≠ none ∧ (∀ k, r = some (.ok, k) → ∃ key, k = some key ∧ holds key) ∧
      ∀ status k, r = some (status, k) → status ≠ .ok → k = none := by
  match r with
  | none => simp [Unwrapped.YieldsKey]
  | some (status, k) =>
    constructor
    · intro ⟨hok, hnone⟩
      refine ⟨by simp, fun k' h => ?_, fun status' k' h => ?_⟩
      · obtain ⟨rfl, rfl⟩ := Prod.mk.inj (Option.some.inj h)
        exact hok.1 rfl
      · obtain ⟨rfl, rfl⟩ := Prod.mk.inj (Option.some.inj h)
        exact hnone
    · intro ⟨_, hok, hnone⟩
      refine ⟨⟨?_, ?_⟩, hnone status k rfl⟩
      · intro h
        subst h
        exact hok k rfl
      · intro ⟨key, hkey, _⟩
        by_contra hstatus
        rw [hnone status k rfl hstatus] at hkey
        cases hkey

end Rules

/-- Undefined behaviour in a SoC container's parser, or behind it in the AAD. -/
def SocUndefined (libraries : Libraries) (unwritten : Unwritten) (inp : List UInt8) : Prop :=
  ∃ unpacked, unpackSocKc libraries.bioRead inp = some unpacked ∧
    (socKcParse libraries unwritten unpacked = .error .undefined ∨
      ∃ alg payload, socKcParse libraries unwritten unpacked = .ok (alg, payload) ∧
        buildAad unwritten alg payload = .error .undefined)

/-- A SoC container with the beginning of its tag for a private key that is not one of the curve. -/
def SocForeignKey (libraries : Libraries) (unwritten : Unwritten) (inp : List UInt8)
    (parameters : Option SaImportParametersSoc) : Prop :=
  ∃ unpacked payload aad wrappingKey kind key rights,
    SocTagged libraries unwritten inp unpacked payload aad wrappingKey ∧
    unpacked.mac.length ≤ 16 ∧ unpacked.mac.length ≠ 0 ∧
    unpacked.mac =
      (socTag libraries payload aad wrappingKey).toList.take unpacked.mac.length ∧
    getKeyTypeAndSize unwritten payload.keyTypeString = some kind ∧ kind.keyType = .ec ∧
    libraries.gcm.decrypt wrappingKey payload.iv aad payload.encryptedKey = some key ∧
    socFieldsToRights kind.keyType kind.subtype payload parameters = .ok rights ∧
    ecValidatePrivate libraries.pkcs8 kind.curve key = 0

section Soc

variable {libraries : Libraries} {unwritten : Unwritten} {inp : List UInt8}
  {parameters : Option SaImportParametersSoc} {k : Option StoredKey}

/-- What is created has the bytes that were decrypted, and only a private key of another curve is
not created with `SA_STATUS_OK`. -/
theorem socCreateKey_eq_ok {key : List UInt8}
    (h : socCreateKey pkcs8 kind rights key = .ok (status, k)) :
    status = .ok ∧ (∀ storedKey, k = some storedKey → storedKey.key = key) ∧
      (k = none ↔ kind.keyType = .ec ∧ ecValidatePrivate pkcs8 kind.curve key = 0) := by
  have hcreate : ∀ keyType typeParameters size,
      (do
        let storedKey ← liftStatus (storedKeyCreate rights none keyType typeParameters size key)
        pure (SaStatus.ok, some storedKey) : Except Stop (SaStatus × Option StoredKey)) =
          .ok (status, k) →
      status = .ok ∧ ∃ storedKey, k = some storedKey ∧ storedKey.key = key := by
    intro keyType typeParameters size h
    simp only [bind_eq_ok, liftStatus_eq_ok] at h
    obtain ⟨storedKey, hcreated, h⟩ := h
    obtain ⟨-, -, rfl⟩ := storedKeyCreate_ok hcreated
    cases h
    exact ⟨rfl, _, rfl, rfl⟩
  have hmade : (status = .ok ∧ ∃ storedKey, k = some storedKey ∧ storedKey.key = key) →
      ¬(kind.keyType = .ec ∧ ecValidatePrivate pkcs8 kind.curve key = 0) →
      status = .ok ∧ (∀ storedKey, k = some storedKey → storedKey.key = key) ∧
        (k = none ↔ kind.keyType = .ec ∧ ecValidatePrivate pkcs8 kind.curve key = 0) := by
    rintro ⟨hstatus, storedKey, hk, hkey⟩ hnot
    subst hk
    exact ⟨hstatus, fun _ h => Option.some.inj h ▸ hkey, by simp, fun h => (hnot h).elim⟩
  unfold socCreateKey at h
  dsimp only at h
  split at h
  · next htype =>
    simp only [bind_eq_ok (x := demand _ _), demand_eq_ok, exists_const] at h
    exact hmade (hcreate _ _ _ h.2.2) (by simp [htype])
  · next htype =>
    split_ifs at h with hsize
    · cases h
      exact ⟨rfl, by simp, fun _ => ⟨htype, hsize⟩, fun _ => rfl⟩
    · simp only [bind_eq_ok (x := demand _ _), demand_eq_ok, exists_const] at h
      exact hmade (hcreate _ _ _ h.2) fun h => hsize h.2
  · next htype =>
    simp only [bind_eq_ok (x := demand _ _), demand_eq_ok, exists_const] at h
    exact hmade (hcreate _ _ _ h.2) (by simp [htype])
  · cases h

theorem socCreateKey_ne_undefined {key : List UInt8} :
    socCreateKey pkcs8 kind rights key ≠ .error .undefined := by
  unfold socCreateKey
  dsimp only
  split
  · simp [pure, Except.pure]
  · split_ifs <;> simp [pure, Except.pure]
  · simp [pure, Except.pure]
  · simp

theorem socFieldsToRights_ne_undefined :
    socFieldsToRights keyType subtype payload parameters ≠ .error .undefined := by
  by_cases hkeyOnly : payload.keyUsage = keyOnly
  · cases parameters <;> simp [socFieldsToRights, hkeyOnly, pure, Except.pure]
  · cases parameters <;> simp [socFieldsToRights, hkeyOnly, pure, Except.pure]

theorem socKcUnwrap_eq_none :
    socKcUnwrap libraries unwritten inp parameters = none ↔
      SocUndefined libraries unwritten inp := by
  have hdecrypt : ∀ alg payload mac,
      decryptKeyAndVerifyMac libraries unwritten alg payload mac parameters =
        .error .undefined ↔ buildAad unwritten alg payload = .error .undefined := by
    intro alg payload mac
    simp only [decryptKeyAndVerifyMac, bind_eq_undefined, demandSome_ne_undefined,
      liftStatus_ne_undefined, socFieldsToRights_ne_undefined, socCreateKey_ne_undefined,
      and_false, exists_false, or_false]
  rw [socKcUnwrap, Unwrapped.of_eq_none]
  simp only [bind_eq_undefined, demandSome_ne_undefined, demandSome_eq_ok, hdecrypt, false_or,
    Prod.exists, SocUndefined]

theorem socKcUnwrap_no_key
    (h : socKcUnwrap libraries unwritten inp parameters = some (status, k)) (hs : status ≠ .ok) :
    k = none := by
  rcases Unwrapped.of_eq_some.1 h with h | ⟨-, hnone⟩
  · simp only [decryptKeyAndVerifyMac, bind_eq_ok] at h
    obtain ⟨unpacked, -, ⟨alg, payload⟩, -, aad, -, kind, -, key, -, rights, -, hcreate⟩ := h
    exact absurd (socCreateKey_eq_ok hcreate).1 hs
  · exact hnone

theorem SocShortTag.accepted (h : SocShortTag libraries unwritten inp parameters) :
    ∃ k, socKcUnwrap libraries unwritten inp parameters = some (.ok, k) := by
  obtain ⟨unpacked, payload, aad, wrappingKey, k, htagged, hcontent, hpos, hlt, hmac⟩ := h
  exact ⟨k, socKcUnwrap_eq_ok.2 ⟨unpacked, payload, aad, wrappingKey, htagged, hcontent,
    Nat.le_of_lt hlt, Nat.ne_of_gt hpos, hmac⟩⟩

theorem SocForeignKey.accepted (h : SocForeignKey libraries unwritten inp parameters) :
    socKcUnwrap libraries unwritten inp parameters = some (.ok, none) := by
  obtain ⟨unpacked, payload, aad, wrappingKey, kind, key, rights, htagged, hle, hne, hmac, hkind,
    hec, hdecrypt, hrights, hsize⟩ := h
  have hcreate : socCreateKey libraries.pkcs8 kind rights key = .ok (.ok, none) := by
    simp [socCreateKey, hec, hsize]
  exact socKcUnwrap_eq_ok.2 ⟨unpacked, payload, aad, wrappingKey, htagged,
    ⟨kind, key, rights, hkind, hdecrypt, hrights, hcreate⟩, hle, hne, hmac⟩

/-- What is accepted has the whole tag and a key unless the tag is cut short or the private key is
of another curve. -/
theorem socKcUnwrap_keyOf :
    (∀ k, socKcUnwrap libraries unwritten inp parameters = some (.ok, k) →
      ∃ key, k = some key ∧ SocKeyOf libraries unwritten inp key) ↔
    ¬SocShortTag libraries unwritten inp parameters ∧
      ¬SocForeignKey libraries unwritten inp parameters := by
  refine ⟨fun hok => ⟨?_, ?_⟩, fun ⟨hshort, hforeign⟩ k h => ?_⟩
  · intro hshort
    obtain ⟨k, haccepted⟩ := hshort.accepted
    obtain ⟨key, -, unpacked', payload', aad', wrappingKey', htagged', hmac', -⟩ := hok k haccepted
    obtain ⟨unpacked, payload, aad, wrappingKey, -, htagged, -, -, hlt, -⟩ := hshort
    obtain ⟨rfl, rfl, rfl, rfl⟩ := htagged.unique htagged'
    rw [hmac', Vector.length_toList] at hlt
    exact absurd hlt (Nat.lt_irrefl 16)
  · intro hforeign
    obtain ⟨_, hnone, -⟩ := hok none hforeign.accepted
    cases hnone
  · obtain ⟨unpacked, payload, aad, wrappingKey, htagged, hcontent, hle, hne, hmac⟩ :=
      socKcUnwrap_eq_ok.1 h
    have hwhole : unpacked.mac = (socTag libraries payload aad wrappingKey).toList := by
      have hlength : unpacked.mac.length = 16 := by
        by_contra hlength
        exact hshort ⟨unpacked, payload, aad, wrappingKey, k, htagged, hcontent,
          Nat.pos_of_ne_zero hne, Nat.lt_of_le_of_ne hle hlength, hmac⟩
      have htag : (socTag libraries payload aad wrappingKey).toList.length = 16 :=
        Vector.length_toList
      rwa [hlength, List.take_of_length_le htag.le] at hmac
    obtain ⟨kind, key, rights, hkind, hdecrypt, hrights, hcreate⟩ := hcontent
    obtain ⟨-, hkey, hnone⟩ := socCreateKey_eq_ok hcreate
    cases k with
    | none =>
      obtain ⟨hec, hsize⟩ := hnone.1 rfl
      exact absurd ⟨unpacked, payload, aad, wrappingKey, kind, key, rights, htagged, hle, hne, hmac,
        hkind, hec, hdecrypt, hrights, hsize⟩ hforeign
    | some storedKey =>
      rw [← hkey storedKey rfl] at hdecrypt
      exact ⟨storedKey, rfl, unpacked, payload, aad, wrappingKey, htagged, hwhole, hdecrypt⟩

/-- A SoC container yields a key, or no key and a status that says so, unless the parser is
undefined on it, its tag is cut short, or its private key is of another curve. -/
theorem socKcUnwrap_yieldsKey :
    (socKcUnwrap libraries unwritten inp parameters).YieldsKey
        (SocKeyOf libraries unwritten inp) ↔
      ¬SocUndefined libraries unwritten inp ∧
        ¬SocShortTag libraries unwritten inp parameters ∧
        ¬SocForeignKey libraries unwritten inp parameters := by
  rw [Unwrapped.yieldsKey_iff, ne_eq, socKcUnwrap_eq_none, socKcUnwrap_keyOf]
  exact and_congr_right fun _ => and_iff_left fun status k => socKcUnwrap_no_key

end Soc

/-- A content key that is decrypted with an algorithm, which tells if it is padded. -/
def DecryptsContentKey (libraries : Libraries) (unwritten : Unwritten)
    (fields : List (List UInt8 × JsonValue)) (storedKeyEncryption : StoredKey)
    (cipherAlgorithm : Option SaCipherAlgorithm) (contentKey : List UInt8) (padded : Bool)
    (unwrappedKey : List UInt8) : Prop :=
  (cipherAlgorithm = some (if padded then .aesEcbPkcs7 else .aesEcb) ∧
    unwrapAesEcbInternal libraries.aes storedKeyEncryption.key contentKey = .ok unwrappedKey) ∨
  (cipherAlgorithm = some (if padded then .aesCbcPkcs7 else .aesCbc) ∧
    ∃ iv, typejIv libraries unwritten fields = .ok iv ∧
      unwrapAesCbcInternal libraries.aes storedKeyEncryption.key iv contentKey = .ok unwrappedKey)

/-- A key with the bytes that a Type-J container with its whole MAC decrypts to, in version 1 always
in ECB mode and without padding. -/
def TypejKeyOf (libraries : Libraries) (unwritten : Unwritten) (inp : List UInt8)
    (storedKeyMac storedKeyEncryption key : StoredKey) : Prop :=
  TypejAuthentic libraries inp storedKeyMac ∧
    ∃ fields contentKey cipherAlgorithm padded unwrappedKey pad,
      typejFields libraries inp storedKeyMac = .ok fields ∧
      typejContentKey libraries unwritten fields = .ok contentKey ∧
      DecryptsContentKey libraries unwritten fields storedKeyEncryption cipherAlgorithm contentKey
        padded unwrappedKey ∧
      padValue padded unwrappedKey = .ok pad ∧
      key.key = unwrappedKey.take (unwrappedKey.length - pad)

/-- A Type-J container of version 2 or 3 with an encrypted key that decrypts, and what it says its
length is. -/
def TypejDecrypts (libraries : Libraries) (unwritten : Unwritten) (inp : List UInt8)
    (storedKeyMac storedKeyEncryption : StoredKey) (rights : SaRights) (padded : Bool)
    (unwrappedKey : List UInt8) (contentKeyLength : Nat) : Prop :=
  ∃ fields algorithm contentKey length,
    typejFields libraries inp storedKeyMac = .ok fields ∧
    typejFieldsToRights libraries unwritten fields = .ok rights ∧
    ((jsonKeyValueFind "contentKeyContainerVersion" fields).elim 1 jsonValueAsInteger = 2 ∨
      (jsonKeyValueFind "contentKeyContainerVersion" fields).elim 1 jsonValueAsInteger = 3) ∧
    requiredField "contentKeyTransportAlgorithm" fields = .ok algorithm ∧
    typejContentKey libraries unwritten fields = .ok contentKey ∧
    requiredField "contentKeyLength" fields = .ok length ∧
    contentKeyLength = (jsonValueAsInteger length % 2 ^ 64).toNat ∧
    DecryptsContentKey libraries unwritten fields storedKeyEncryption
      (parseCipherAlgorithm (jsonValueAsString 0 algorithm).2) contentKey padded unwrappedKey

/-- Undefined behaviour in the fields of a Type-J container, or in the padding of an empty key. -/
def TypejUndefined (libraries : Libraries) (unwritten : Unwritten) (inp : List UInt8)
    (storedKeyMac storedKeyEncryption : StoredKey) : Prop :=
  (∃ fields, typejFields libraries inp storedKeyMac = .ok fields ∧
    typejFieldsToRights libraries unwritten fields = .error .undefined) ∨
  ∃ rights contentKeyLength, TypejDecrypts libraries unwritten inp storedKeyMac storedKeyEncryption
    rights true [] contentKeyLength

/-- A Type-J container whose key is made, and has another length than it says. -/
def TypejOtherLength (libraries : Libraries) (unwritten : Unwritten) (inp : List UInt8)
    (storedKeyMac storedKeyEncryption : StoredKey) : Prop :=
  ∃ rights padded unwrappedKey contentKeyLength pad storedKey,
    TypejDecrypts libraries unwritten inp storedKeyMac storedKeyEncryption rights padded
      unwrappedKey contentKeyLength ∧
    padValue padded unwrappedKey = .ok pad ∧
    importKey libraries.pkcs8 rights storedKeyEncryption.header.rights .symmetric none
      (unwrappedKey.take (unwrappedKey.length - pad)) = .ok storedKey ∧
    unwrappedKey.length - pad ≠ contentKeyLength

section Typej

variable {libraries : Libraries} {unwritten : Unwritten} {inp : List UInt8}
  {storedKeyMac storedKeyEncryption : StoredKey} {k : Option StoredKey}

theorem importKey_symmetric_key
    (h : importKey pkcs8 rights wrappingKeyRights .symmetric none bytes = .ok storedKey) :
    storedKey.key = bytes := by
  obtain ⟨-, -, rfl⟩ := storedKeyCreate_ok h
  rfl

theorem importUnwrapped_eq_ok :
    importUnwrapped libraries rights padded storedKeyEncryption unwrappedKey = .ok storedKey ↔
      ∃ pad, padValue padded unwrappedKey = .ok pad ∧
        importKey libraries.pkcs8 rights storedKeyEncryption.header.rights .symmetric none
          (unwrappedKey.take (unwrappedKey.length - pad)) = .ok storedKey := by
  simp only [importUnwrapped, bind_eq_ok, liftStatus_eq_ok]

theorem importUnwrapped_eq_undefined :
    importUnwrapped libraries rights padded storedKeyEncryption unwrappedKey = .error .undefined ↔
      padded = true ∧ unwrappedKey.length < aesBlockSize := by
  simp only [importUnwrapped, bind_eq_undefined, liftStatus_ne_undefined, and_false, exists_false,
    or_false, padValue]
  cases padded with
  | false => simp
  | true =>
    split_ifs with h <;> simp_all

@[simp] theorem failsInternally_eq_undefined {x : Except Stop StoredKey} :
    unwrapContentKey.failsInternally x = .error .undefined ↔ x = .error .undefined := by
  unfold unwrapContentKey.failsInternally
  split <;> simp

theorem decryptsContentKey_cases {P : Bool → List UInt8 → Prop} :
    (∃ padded unwrappedKey, DecryptsContentKey libraries unwritten fields storedKeyEncryption
      cipherAlgorithm contentKey padded unwrappedKey ∧ P padded unwrappedKey) ↔
    match cipherAlgorithm with
    | some .aesEcb => ∃ unwrappedKey, unwrapAesEcbInternal libraries.aes storedKeyEncryption.key
        contentKey = .ok unwrappedKey ∧ P false unwrappedKey
    | some .aesEcbPkcs7 => ∃ unwrappedKey, unwrapAesEcbInternal libraries.aes
        storedKeyEncryption.key contentKey = .ok unwrappedKey ∧ P true unwrappedKey
    | some .aesCbc => ∃ iv, typejIv libraries unwritten fields = .ok iv ∧
        ∃ unwrappedKey, unwrapAesCbcInternal libraries.aes storedKeyEncryption.key iv contentKey =
          .ok unwrappedKey ∧ P false unwrappedKey
    | some .aesCbcPkcs7 => ∃ iv, typejIv libraries unwritten fields = .ok iv ∧
        ∃ unwrappedKey, unwrapAesCbcInternal libraries.aes storedKeyEncryption.key iv contentKey =
          .ok unwrappedKey ∧ P true unwrappedKey
    | _ => False := by
  simp only [DecryptsContentKey, Bool.exists_bool]
  split <;> simp <;> grind

theorem unwrapContentKey_eq_ok :
    unwrapContentKey libraries unwritten fields rights storedKeyEncryption cipherAlgorithm
        contentKey = .ok storedKey ↔
      ∃ padded unwrappedKey, DecryptsContentKey libraries unwritten fields storedKeyEncryption
          cipherAlgorithm contentKey padded unwrappedKey ∧
        importUnwrapped libraries rights padded storedKeyEncryption unwrappedKey =
          .ok storedKey := by
  rw [decryptsContentKey_cases]
  unfold unwrapContentKey
  split <;> simp [unwrapAesEcb, unwrapAesCbc, bind_eq_ok]

theorem unwrapContentKey_eq_undefined :
    unwrapContentKey libraries unwritten fields rights storedKeyEncryption cipherAlgorithm
        contentKey = .error .undefined ↔
      ∃ padded unwrappedKey, DecryptsContentKey libraries unwritten fields storedKeyEncryption
          cipherAlgorithm contentKey padded unwrappedKey ∧
        importUnwrapped libraries rights padded storedKeyEncryption unwrappedKey =
          .error .undefined := by
  have hiv : typejIv libraries unwritten fields ≠ .error .undefined := by
    simp [typejIv, requiredField, pure, Except.pure]
  rw [decryptsContentKey_cases]
  unfold unwrapContentKey
  split <;> simp [unwrapAesEcb, unwrapAesCbc, bind_eq_undefined, hiv]

theorem decryptsContentKey_eq_nil (h : DecryptsContentKey libraries unwritten fields
    storedKeyEncryption cipherAlgorithm contentKey padded unwrappedKey)
    (hlt : unwrappedKey.length < aesBlockSize) : unwrappedKey = [] := by
  have hmod : unwrappedKey.length % 16 = 0 := by
    rcases h with ⟨-, h⟩ | ⟨-, iv, -, h⟩
    · have hblocks := unwrapAesEcbInternal_length h
      simp only [unwrapAesEcbInternal, requireAes, bind_eq_ok, require_eq_ok, exists_const] at h
      rw [hblocks]
      exact h.1.1
    · simp only [unwrapAesCbcInternal, requireAes, bind_eq_ok, require_eq_ok, exists_const,
        elim_eq_ok] at h
      rw [libraries.aes.cbc_length _ _ _ _ h.2]
      exact h.1.1
  have hblock : aesBlockSize = 16 := rfl
  exact List.eq_nil_of_length_eq_zero (by omega)

theorem typejContentKey_ne_undefined :
    typejContentKey libraries unwritten fields ≠ .error .undefined := by
  simp [typejContentKey, requiredField]

theorem unwrapKeyV2_eq_ok :
    unwrapKeyV2 libraries unwritten fields rights storedKeyEncryption = .ok (status, k) ↔
      ∃ algorithm contentKey length storedKey,
        requiredField "contentKeyTransportAlgorithm" fields = .ok algorithm ∧
        typejContentKey libraries unwritten fields = .ok contentKey ∧
        requiredField "contentKeyLength" fields = .ok length ∧
        unwrapContentKey libraries unwritten fields rights storedKeyEncryption
          (parseCipherAlgorithm (jsonValueAsString 0 algorithm).2) contentKey = .ok storedKey ∧
        status = (if storedKey.key.length ≠ (jsonValueAsInteger length % 2 ^ 64).toNat then
          SaStatus.invalidKeyFormat else .ok) ∧ k = some storedKey := by
  simp only [unwrapKeyV2, bind_eq_ok, pure, Except.pure, Except.ok.injEq, Prod.mk.injEq]
  constructor
  · rintro ⟨algorithm, halgorithm, contentKey, hcontent, length, hlength, storedKey, hkey, hstatus,
      hk⟩
    exact ⟨algorithm, contentKey, length, storedKey, halgorithm, hcontent, hlength, hkey,
      hstatus.symm, hk.symm⟩
  · rintro ⟨algorithm, contentKey, length, storedKey, halgorithm, hcontent, hlength, hkey, hstatus,
      hk⟩
    exact ⟨algorithm, halgorithm, contentKey, hcontent, length, hlength, storedKey, hkey,
      hstatus.symm, hk.symm⟩

theorem unwrapKeyV2_eq_undefined :
    unwrapKeyV2 libraries unwritten fields rights storedKeyEncryption = .error .undefined ↔
      ∃ algorithm contentKey length,
        requiredField "contentKeyTransportAlgorithm" fields = .ok algorithm ∧
        typejContentKey libraries unwritten fields = .ok contentKey ∧
        requiredField "contentKeyLength" fields = .ok length ∧
        unwrapContentKey libraries unwritten fields rights storedKeyEncryption
          (parseCipherAlgorithm (jsonValueAsString 0 algorithm).2) contentKey =
            .error .undefined := by
  have hrequired : ∀ key, requiredField key fields ≠ .error .undefined := by
    simp [requiredField]
  simp only [unwrapKeyV2, bind_eq_undefined, hrequired, typejContentKey_ne_undefined, pure,
    Except.pure, reduceCtorEq, and_false, exists_false, or_false, false_or]
  constructor
  · rintro ⟨algorithm, halgorithm, contentKey, hcontent, length, hlength, hkey⟩
    exact ⟨algorithm, contentKey, length, halgorithm, hcontent, hlength, hkey⟩
  · rintro ⟨algorithm, contentKey, length, halgorithm, hcontent, hlength, hkey⟩
    exact ⟨algorithm, halgorithm, contentKey, hcontent, length, hlength, hkey⟩

theorem unwrapKeyV1_eq_ok :
    unwrapKeyV1 libraries unwritten fields rights storedKeyEncryption = .ok (status, k) →
      status = .ok ∧ ∃ contentKey unwrappedKey storedKey,
        typejContentKey libraries unwritten fields = .ok contentKey ∧
        unwrapAesEcbInternal libraries.aes storedKeyEncryption.key contentKey =
          .ok unwrappedKey ∧
        importUnwrapped libraries rights false storedKeyEncryption unwrappedKey =
          .ok storedKey ∧ k = some storedKey := by
  intro h
  simp only [unwrapKeyV1, unwrapAesEcb, bind_eq_ok, demand_eq_ok, liftStatus_eq_ok, exists_const,
    pure, Except.pure, Except.ok.injEq, Prod.mk.injEq] at h
  obtain ⟨contentKey, hcontent, -, storedKey, ⟨unwrappedKey, hdecrypt, hkey⟩, hstatus, hk⟩ := h
  exact ⟨hstatus.symm, contentKey, unwrappedKey, storedKey, hcontent, hdecrypt, hkey, hk.symm⟩

theorem unwrapKeyVersion_eq_undefined :
    unwrapKeyVersion libraries unwritten fields rights storedKeyEncryption = .error .undefined ↔
      ((jsonKeyValueFind "contentKeyContainerVersion" fields).elim 1 jsonValueAsInteger = 2 ∨
        (jsonKeyValueFind "contentKeyContainerVersion" fields).elim 1 jsonValueAsInteger = 3) ∧
      unwrapKeyV2 libraries unwritten fields rights storedKeyEncryption = .error .undefined := by
  have hv1 : unwrapKeyV1 libraries unwritten fields rights storedKeyEncryption ≠
      .error .undefined := by
    simp [unwrapKeyV1, unwrapAesEcb, typejContentKey_ne_undefined, importUnwrapped_eq_undefined,
      pure, Except.pure]
  unfold unwrapKeyVersion unwrapKeyV3
  dsimp only
  split_ifs with h₁ h₂ h₃
  · simp [hv1, h₁]
  · simp [h₂]
  · simp [h₃]
  · simp [h₂, h₃]

theorem typejUnwrap_eq_none :
    typejUnwrap libraries unwritten inp storedKeyMac storedKeyEncryption = none ↔
      TypejUndefined libraries unwritten inp storedKeyMac storedKeyEncryption := by
  have hfields : typejFields libraries inp storedKeyMac ≠ .error .undefined := by
    simp [typejFields]
  rw [typejUnwrap, Unwrapped.of_eq_none]
  simp only [bind_eq_undefined, hfields, false_or, unwrapKeyVersion_eq_undefined,
    unwrapKeyV2_eq_undefined, unwrapContentKey_eq_undefined, importUnwrapped_eq_undefined]
  constructor
  · rintro ⟨fields, hf, h⟩
    rcases h with hrights | ⟨rights, hrights, hversion, algorithm, contentKey, length, halgorithm,
      hcontent, hlength, padded, unwrappedKey, hdecrypt, rfl, hlt⟩
    · exact .inl ⟨fields, hf, hrights⟩
    · obtain rfl := decryptsContentKey_eq_nil hdecrypt hlt
      exact .inr ⟨rights, _, fields, algorithm, contentKey, length, hf, hrights, hversion,
        halgorithm,
        hcontent, hlength, rfl, hdecrypt⟩
  · intro h
    rcases h with ⟨fields, hf, hrights⟩ | ⟨rights, _, fields, algorithm, contentKey, length, hf,
      hrights, hversion, halgorithm, hcontent, hlength, -, hdecrypt⟩
    · exact ⟨fields, hf, .inl hrights⟩
    · exact ⟨fields, hf, .inr ⟨rights, hrights, hversion, algorithm, contentKey, length, halgorithm,
        hcontent, hlength, true, [], hdecrypt, rfl, by decide⟩⟩

theorem importUnwrapped_key
    (h : importUnwrapped libraries rights padded storedKeyEncryption unwrappedKey =
      .ok storedKey) : ∃ pad, padValue padded unwrappedKey = .ok pad ∧
    importKey libraries.pkcs8 rights storedKeyEncryption.header.rights .symmetric none
      (unwrappedKey.take (unwrappedKey.length - pad)) = .ok storedKey ∧
    storedKey.key = unwrappedKey.take (unwrappedKey.length - pad) ∧
    storedKey.key.length = unwrappedKey.length - pad := by
  obtain ⟨pad, hpad, himport⟩ := importUnwrapped_eq_ok.1 h
  have hkey := importKey_symmetric_key himport
  refine ⟨pad, hpad, himport, hkey, ?_⟩
  rw [hkey, List.length_take, Nat.min_eq_left (Nat.sub_le _ _)]

theorem typejUnwrap_holds
    (h : typejUnwrap libraries unwritten inp storedKeyMac storedKeyEncryption =
      some (status, some storedKey)) :
    TypejKeyOf libraries unwritten inp storedKeyMac storedKeyEncryption storedKey ∧
      (status ≠ .ok →
        TypejOtherLength libraries unwritten inp storedKeyMac storedKeyEncryption) := by
  rcases Unwrapped.of_eq_some.1 h with h | ⟨-, hnone⟩
  · obtain ⟨fields, hf, h⟩ := bind_eq_ok.1 h
    obtain ⟨rights, hrights, h⟩ := bind_eq_ok.1 h
    have hauthentic := typejFields_authentic hf
    have hv2 : unwrapKeyV2 libraries unwritten fields rights storedKeyEncryption =
        .ok (status, some storedKey) →
        (jsonKeyValueFind "contentKeyContainerVersion" fields).elim 1 jsonValueAsInteger = 2 ∨
          (jsonKeyValueFind "contentKeyContainerVersion" fields).elim 1 jsonValueAsInteger = 3 →
        TypejKeyOf libraries unwritten inp storedKeyMac storedKeyEncryption storedKey ∧
          (status ≠ .ok →
            TypejOtherLength libraries unwritten inp storedKeyMac storedKeyEncryption) := by
      intro h hversion
      obtain ⟨algorithm, contentKey, length, storedKey', halgorithm, hcontent, hlength, hunwrap,
        rfl, hk⟩ := unwrapKeyV2_eq_ok.1 h
      cases hk
      obtain ⟨padded, unwrappedKey, hdecrypt, himport⟩ := unwrapContentKey_eq_ok.1 hunwrap
      obtain ⟨pad, hpad, hcreated, hkey, hlen⟩ := importUnwrapped_key himport
      refine ⟨⟨hauthentic, fields, contentKey, _, padded, unwrappedKey, pad, hf, hcontent, hdecrypt,
        hpad, hkey⟩, fun hstatus => ?_⟩
      refine ⟨rights, padded, unwrappedKey, _, pad, storedKey,
        ⟨fields, algorithm, contentKey, length,
        hf, hrights, hversion, halgorithm, hcontent, hlength, rfl, hdecrypt⟩, hpad, hcreated, ?_⟩
      rw [← hlen]
      by_contra hsame
      exact hstatus (if_neg (not_not.2 hsame))
    unfold unwrapKeyVersion unwrapKeyV3 at h
    dsimp only at h
    split_ifs at h with h₁ h₂ h₃
    · obtain ⟨hstatus, contentKey, unwrappedKey, storedKey', hcontent, hdecrypt, himport, hk⟩ :=
        unwrapKeyV1_eq_ok h
      cases hk
      obtain ⟨pad, hpad, -, hkey, -⟩ := importUnwrapped_key himport
      exact ⟨⟨hauthentic, fields, contentKey, some .aesEcb, false, unwrappedKey, pad, hf, hcontent,
        .inl ⟨rfl, hdecrypt⟩, hpad, hkey⟩, fun hnot => (hnot hstatus).elim⟩
    · exact hv2 h (.inl h₂)
    · exact hv2 h (.inr h₃)
  · cases hnone

theorem typejUnwrap_otherLength
    (h : TypejOtherLength libraries unwritten inp storedKeyMac storedKeyEncryption) :
    ∃ storedKey, typejUnwrap libraries unwritten inp storedKeyMac storedKeyEncryption =
      some (.invalidKeyFormat, some storedKey) := by
  obtain ⟨rights, padded, unwrappedKey, contentKeyLength, pad, storedKey, ⟨fields, algorithm,
    contentKey, length, hf, hrights, hversion, halgorithm, hcontent, hlength, rfl, hdecrypt⟩, hpad,
    hcreated, hother⟩ := h
  have himport : importUnwrapped libraries rights padded storedKeyEncryption unwrappedKey =
      .ok storedKey := importUnwrapped_eq_ok.2 ⟨pad, hpad, hcreated⟩
  obtain ⟨pad', hpad', -, -, hlen⟩ := importUnwrapped_key himport
  rw [hpad] at hpad'
  cases hpad'
  rw [← hlen] at hother
  have hv2 : unwrapKeyV2 libraries unwritten fields rights storedKeyEncryption =
      .ok (.invalidKeyFormat, some storedKey) :=
    unwrapKeyV2_eq_ok.2 ⟨algorithm, contentKey, length, storedKey, halgorithm, hcontent, hlength,
      unwrapContentKey_eq_ok.2 ⟨padded, unwrappedKey, hdecrypt, himport⟩, (if_pos hother).symm,
      rfl⟩
  have hversions : unwrapKeyVersion libraries unwritten fields rights storedKeyEncryption =
      unwrapKeyV2 libraries unwritten fields rights storedKeyEncryption := by
    rcases hversion with h | h <;> simp [unwrapKeyVersion, unwrapKeyV3, h]
  refine ⟨storedKey, Unwrapped.of_eq_some.2 (.inl ?_)⟩
  rw [bind_eq_ok]
  refine ⟨fields, hf, ?_⟩
  rw [bind_eq_ok]
  exact ⟨rights, hrights, hversions.trans hv2⟩

theorem typejUnwrap_ok_key
    (h : typejUnwrap libraries unwritten inp storedKeyMac storedKeyEncryption = some (.ok, k)) :
    ∃ storedKey, k = some storedKey := by
  have hfails : FailsWithError (do
      let fields ← typejFields libraries inp storedKeyMac
      let rights ← typejFieldsToRights libraries unwritten fields
      unwrapKeyVersion libraries unwritten fields rights storedKeyEncryption) := by
    simp [typejFields_fails, typejFieldsToRights, typejRights_fails, typejAllowedTas_fails,
      unwrapKeyVersion_fails]
  rw [typejUnwrap, Unwrapped.of_eq_ok hfails, bind_eq_ok] at h
  obtain ⟨fields, -, h⟩ := h
  obtain ⟨rights, -, h⟩ := bind_eq_ok.1 h
  have hv2 : unwrapKeyV2 libraries unwritten fields rights storedKeyEncryption = .ok (.ok, k) →
      ∃ storedKey, k = some storedKey := by
    intro h
    obtain ⟨-, -, -, storedKey, -, -, -, -, -, hk⟩ := unwrapKeyV2_eq_ok.1 h
    exact ⟨storedKey, hk⟩
  unfold unwrapKeyVersion unwrapKeyV3 at h
  dsimp only at h
  split_ifs at h
  · obtain ⟨-, _, _, storedKey, -, -, -, hk⟩ := unwrapKeyV1_eq_ok h
    exact ⟨storedKey, hk⟩
  · exact hv2 h
  · exact hv2 h

/-- A Type-J container yields a key, or no key and a status that says so, unless its fields are
undefined or it says another length than its key has. -/
theorem typejUnwrap_yieldsKey :
    (typejUnwrap libraries unwritten inp storedKeyMac storedKeyEncryption).YieldsKey
        (TypejKeyOf libraries unwritten inp storedKeyMac storedKeyEncryption) ↔
      ¬TypejUndefined libraries unwritten inp storedKeyMac storedKeyEncryption ∧
        ¬TypejOtherLength libraries unwritten inp storedKeyMac storedKeyEncryption := by
  rw [Unwrapped.yieldsKey_iff, ne_eq, typejUnwrap_eq_none]
  refine and_congr_right fun _ => ⟨fun ⟨_, hnone⟩ hother => ?_, fun hother =>
    ⟨fun k h => ?_, fun status k h hstatus => ?_⟩⟩
  · obtain ⟨storedKey, h⟩ := typejUnwrap_otherLength hother
    cases hnone _ _ h (by decide)
  · obtain ⟨storedKey, rfl⟩ := typejUnwrap_ok_key h
    exact ⟨storedKey, rfl, (typejUnwrap_holds h).1⟩
  · cases k with
    | none => rfl
    | some storedKey => exact absurd ((typejUnwrap_holds h).2 hstatus) hother

end Typej

/-- Both unwraps yield a key that was authenticated and decrypted, or no key and a status that says
so, but for the containers that are named. -/
theorem containers_yieldKey (libraries : Libraries) (unwritten : Unwritten) (inp : List UInt8)
    (parameters : Option SaImportParametersSoc) (storedKeyMac storedKeyEncryption : StoredKey) :
    ((socKcUnwrap libraries unwritten inp parameters).YieldsKey
        (SocKeyOf libraries unwritten inp) ∧
      (typejUnwrap libraries unwritten inp storedKeyMac storedKeyEncryption).YieldsKey
        (TypejKeyOf libraries unwritten inp storedKeyMac storedKeyEncryption)) ↔
    (¬SocUndefined libraries unwritten inp ∧ ¬SocShortTag libraries unwritten inp parameters ∧
        ¬SocForeignKey libraries unwritten inp parameters) ∧
      ¬TypejUndefined libraries unwritten inp storedKeyMac storedKeyEncryption ∧
        ¬TypejOtherLength libraries unwritten inp storedKeyMac storedKeyEncryption :=
  and_congr socKcUnwrap_yieldsKey typejUnwrap_yieldsKey

/-- The payload of a SoC container for a private key of a curve that is not one. -/
def foreignPayload : JsonValue :=
  let zeros : JsonValue := .string (List.replicate 22 65 ++ [61, 61])
  .map [(ascii "containerVersion", .integer 4), (ascii "keyType", .string (ascii "ECC-P256")),
    (ascii "encryptedKey", zeros), (ascii "iv", .string (List.replicate 16 65)),
    (ascii "keyUsage", .integer 3), (ascii "c1", zeros), (ascii "c2", zeros), (ascii "c3", zeros)]

/-- A private key of another curve is unwrapped with `SA_STATUS_OK`, and is no key. -/
theorem containers_not_yieldKey : ¬∀ (libraries : Libraries) (unwritten : Unwritten)
    (inp : List UInt8) (parameters : Option SaImportParametersSoc)
    (storedKeyMac storedKeyEncryption : StoredKey),
    (socKcUnwrap libraries unwritten inp parameters).YieldsKey
        (SocKeyOf libraries unwritten inp) ∧
      (typejUnwrap libraries unwritten inp storedKeyMac storedKeyEncryption).YieldsKey
        (TypejKeyOf libraries unwritten inp storedKeyMac storedKeyEncryption) := by
  intro h
  let storedKey : StoredKey :=
    ⟨⟨⟨0, 0, 0, 0, [], .replicate 64 0⟩, .symmetric, .zero, 16⟩, List.replicate 16 0⟩
  obtain ⟨libraries, inp, hresult⟩ : ∃ libraries inp,
      socKcUnwrap libraries zeroMemory inp none = some (.ok, none) :=
    ⟨plainLibraries [socHeader, foreignPayload] fun _ => none,
      renderContainer socHeader foreignPayload (List.replicate 16 0), by decide +kernel⟩
  have hsoc := (h libraries zeroMemory inp none storedKey storedKey).1
  obtain ⟨-, hok, -⟩ := Unwrapped.yieldsKey_iff.1 hsoc
  obtain ⟨_, hkey, -⟩ := hok none hresult
  cases hkey

end TaSecureApi
