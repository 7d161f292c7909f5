import TaSecureApi.Typej

namespace TaSecureApi
set_option autoImplicit true

/-- What the tag of a SoC container is about: the parts of the container, the payload, the AAD and
the key that the key ladder derives. -/
structure SocTagged (libraries : Libraries) (unwritten : Unwritten) (inp : List UInt8)
    (unpacked : Unpacked) (payload : SocKcPayload) (aad wrappingKey : List UInt8) : Prop where
  unpack : unpackSocKc libraries.bioRead inp = some unpacked
  derive : ∃ alg, socKcParse libraries unwritten unpacked = .ok (alg, payload) ∧
    buildAad unwritten alg payload = .ok aad
  ladder : otpHwKeyLadder libraries
    (if payload.rootKeyType = .undefined then .unique else payload.rootKeyType)
    payload.keyLadderInputs = .ok wrappingKey

def socTag (libraries : Libraries) (payload : SocKcPayload) (aad wrappingKey : List UInt8) :
    Vector UInt8 16 :=
  libraries.gcm.tag wrappingKey payload.iv aad payload.encryptedKey

/-- The MAC part of a SoC container is the whole tag. -/
def SocAuthentic (libraries : Libraries) (unwritten : Unwritten) (inp : List UInt8) : Prop :=
  ∃ unpacked payload aad wrappingKey,
    SocTagged libraries unwritten inp unpacked payload aad wrappingKey ∧
    unpacked.mac.length = 16 ∧ unpacked.mac = (socTag libraries payload aad wrappingKey).toList

/-- The MAC part of a Type-J container is the whole HMAC of its header and payload text. -/
def TypejAuthentic (libraries : Libraries) (inp : List UInt8) (storedKeyMac : StoredKey) : Prop :=
  ∃ unpacked mac, unpackTypej libraries.bioRead inp = some unpacked ∧
    libraries.hmacSha256 storedKeyMac.key (unpacked.headerB64 ++ [46] ++ unpacked.payloadB64) =
      .ok mac ∧
    unpacked.mac.length = 32 ∧ unpacked.mac = mac.toList

/-- Everything else that a SoC container is accepted for: a type of key that is known, and a key
that decrypts, for rights that can be made, to one of that type. -/
def SocContent (libraries : Libraries) (unwritten : Unwritten)
    (parameters : Option SaImportParametersSoc) (payload : SocKcPayload)
    (aad wrappingKey : List UInt8) (k : Option StoredKey) : Prop :=
  ∃ kind key rights, getKeyTypeAndSize unwritten payload.keyTypeString = some kind ∧
    libraries.gcm.decrypt wrappingKey payload.iv aad payload.encryptedKey = some key ∧
    socFieldsToRights kind.keyType kind.subtype payload parameters = .ok rights ∧
    socCreateKey libraries.pkcs8 kind rights key = .ok (.ok, k)

/-- A SoC container whose MAC part is only the beginning of the tag, and that is right otherwise. -/
def SocShortTag (libraries : Libraries) (unwritten : Unwritten) (inp : List UInt8)
    (parameters : Option SaImportParametersSoc) : Prop :=
  ∃ unpacked payload aad wrappingKey k,
    SocTagged libraries unwritten inp unpacked payload aad wrappingKey ∧
    SocContent libraries unwritten parameters payload aad wrappingKey k ∧
    0 < unpacked.mac.length ∧ unpacked.mac.length < 16 ∧
    unpacked.mac =
      (socTag libraries payload aad wrappingKey).toList.take unpacked.mac.length

section Unwraps

variable {libraries : Libraries} {unwritten : Unwritten} {inp : List UInt8}
  {parameters : Option SaImportParametersSoc} {k : Option StoredKey}

theorem unwrapAesEcbInternal_length {aes : Aes} (h : unwrapAesEcbInternal aes key inp = .ok out) :
    out.length = inp.length := by
  simp only [unwrapAesEcbInternal, bind_eq_ok, elim_eq_ok] at h
  obtain ⟨-, -, h⟩ := h
  exact aes.ecb_length _ _ _ h

theorem otpHwKeyLadder_length (h : otpHwKeyLadder libraries rootKeyType inputs = .ok key) :
    key.length = 16 := by
  simp only [otpHwKeyLadder, bind_eq_ok] at h
  obtain ⟨-, -, -, -, k2, -, h⟩ := h
  rw [unwrapAesEcbInternal_length h, Vector.length_toList]

/-- What a SoC container that is accepted has: the beginning of its tag, and the content. -/
theorem socKcUnwrap_eq_ok : socKcUnwrap libraries unwritten inp parameters = some (.ok, k) ↔
    ∃ unpacked payload aad wrappingKey,
      SocTagged libraries unwritten inp unpacked payload aad wrappingKey ∧
      SocContent libraries unwritten parameters payload aad wrappingKey k ∧
      unpacked.mac.length ≤ 16 ∧ unpacked.mac.length ≠ 0 ∧
      unpacked.mac =
        (socTag libraries payload aad wrappingKey).toList.take unpacked.mac.length := by
  rw [socKcUnwrap, Unwrapped.of_eq_ok (by simp [socKcParse_fails, decryptKeyAndVerifyMac_fails])]
  simp only [bind_eq_ok, demandSome_eq_ok, liftStatus_eq_ok, decryptKeyAndVerifyMac,
    otpUnwrapAesGcm, unwrapAesGcmInternal_eq_ok, Prod.exists]
  constructor
  · rintro ⟨unpacked, hunpack, alg, payload, hparse, aad, haad, kind, hkind, key,
      ⟨wrappingKey, hladder, hlength, hkey, hdecrypt, hnonempty, hverify⟩, rights, hrights,
      hcreate⟩
    exact ⟨unpacked, payload, aad, wrappingKey, ⟨hunpack, ⟨alg, hparse, haad⟩, hladder⟩,
      ⟨kind, key, rights, hkind, hdecrypt, hrights, hcreate⟩, hlength, hnonempty, hverify⟩
  · rintro ⟨unpacked, payload, aad, wrappingKey, ⟨hunpack, ⟨alg, hparse, haad⟩, hladder⟩,
      ⟨kind, key, rights, hkind, hdecrypt, hrights, hcreate⟩, hlength, hnonempty, hverify⟩
    exact ⟨unpacked, hunpack, alg, payload, hparse, aad, haad, kind, hkind, key,
      ⟨wrappingKey, hladder, hlength, .inl (otpHwKeyLadder_length hladder), hdecrypt, hnonempty,
        hverify⟩, rights, hrights, hcreate⟩

/-- The parts of a container are what the functions that take it apart make of it. -/
theorem SocTagged.unique (h : SocTagged libraries unwritten inp unpacked payload aad wrappingKey)
    (h' : SocTagged libraries unwritten inp unpacked' payload' aad' wrappingKey') :
    unpacked = unpacked' ∧ payload = payload' ∧ aad = aad' ∧ wrappingKey = wrappingKey' := by
  obtain ⟨hunpack, ⟨alg, hparse, haad⟩, hladder⟩ := h
  obtain ⟨hunpack', ⟨alg', hparse', haad'⟩, hladder'⟩ := h'
  rw [hunpack] at hunpack'
  cases hunpack'
  rw [hparse] at hparse'
  cases hparse'
  rw [haad] at haad'
  cases haad'
  rw [hladder] at hladder'
  cases hladder'
  exact ⟨rfl, rfl, rfl, rfl⟩

theorem typejFields_authentic (h : typejFields libraries inp storedKeyMac = .ok fields) :
    TypejAuthentic libraries inp storedKeyMac := by
  simp only [typejFields, bind_eq_ok, demandSome_eq_ok, demand_eq_ok, exists_const] at h
  obtain ⟨unpacked, hunpack, hverified, -⟩ := h
  cases hmac : verifyMac libraries unpacked.headerB64 unpacked.payloadB64 unpacked.mac
      storedKeyMac with
  | error e =>
    rw [hmac] at hverified
    cases hverified
  | ok u =>
    simp only [verifyMac, bind_eq_ok, require_eq_ok, exists_const] at hmac
    obtain ⟨hlength, mac, hhmac, hequal⟩ := hmac
    exact ⟨unpacked, mac, hunpack, hhmac, hlength, hequal.symm⟩

theorem typejUnwrap_authentic
    (h : typejUnwrap libraries unwritten inp storedKeyMac storedKeyEncryption = some (.ok, k)) :
    TypejAuthentic libraries inp storedKeyMac := by
  have hfails : FailsWithError (do
      let fields ← typejFields libraries inp storedKeyMac
      let rights ← typejFieldsToRights libraries unwritten fields
      unwrapKeyVersion libraries unwritten fields rights storedKeyEncryption) := by
    simp [typejFields_fails, typejFieldsToRights, typejRights_fails, typejAllowedTas_fails,
      unwrapKeyVersion_fails]
  rw [typejUnwrap, Unwrapped.of_eq_ok hfails, bind_eq_ok] at h
  obtain ⟨fields, hfields, -⟩ := h
  exact typejFields_authentic hfields

end Unwraps

/-- Both unwraps accept a container only for a whole authenticator, unless it is a SoC container
that has the beginning of its tag. -/
theorem container_authenticators (libraries : Libraries) (unwritten : Unwritten)
    (inp : List UInt8) (parameters : Option SaImportParametersSoc)
    (storedKeyMac storedKeyEncryption : StoredKey) :
    ((∀ k, socKcUnwrap libraries unwritten inp parameters = some (.ok, k) →
        SocAuthentic libraries unwritten inp) ∧
      (∀ k, typejUnwrap libraries unwritten inp storedKeyMac storedKeyEncryption = some (.ok, k) →
        TypejAuthentic libraries inp storedKeyMac)) ↔
    ¬ SocShortTag libraries unwritten inp parameters := by
  constructor
  · intro ⟨hsoc, _⟩ ⟨unpacked, payload, aad, wrappingKey, k, htagged, hcontent, hpos, hlt, hmac⟩
    have haccepted : socKcUnwrap libraries unwritten inp parameters = some (.ok, k) :=
      socKcUnwrap_eq_ok.2 ⟨unpacked, payload, aad, wrappingKey, htagged, hcontent,
        Nat.le_of_lt hlt, Nat.ne_of_gt hpos, hmac⟩
    obtain ⟨unpacked', _, _, _, htagged', hlength, -⟩ := hsoc k haccepted
    obtain ⟨rfl, -⟩ := htagged.unique htagged'
    exact absurd hlength (Nat.ne_of_lt hlt)
  · intro hshort
    constructor
    · intro k haccepted
      obtain ⟨unpacked, payload, aad, wrappingKey, htagged, hcontent, hle, hne, hmac⟩ :=
        socKcUnwrap_eq_ok.1 haccepted
      have hlength : unpacked.mac.length = 16 := by
        by_contra hlength
        exact hshort ⟨unpacked, payload, aad, wrappingKey, k, htagged, hcontent,
          Nat.pos_of_ne_zero hne, Nat.lt_of_le_of_ne hle hlength, hmac⟩
      have htag : (socTag libraries payload aad wrappingKey).toList.length = 16 :=
        Vector.length_toList
      rw [hlength, List.take_of_length_le htag.le] at hmac
      exact ⟨unpacked, payload, aad, wrappingKey, htagged, hlength, hmac⟩
    · intro k haccepted
      exact typejUnwrap_authentic haccepted

def base64Value (c : UInt8) : Option Nat :=
  if 65 ≤ c ∧ c ≤ 90 then some (c.toNat - 65)
  else if 97 ≤ c ∧ c ≤ 122 then some (c.toNat - 97 + 26)
  else if 48 ≤ c ∧ c ≤ 57 then some (c.toNat - 48 + 52)
  else if c = 43 then some 62
  else if c = 47 then some 63
  else none

/-- The bytes of whole groups of four characters, the last of which can be padded. -/
def decodeBase64 : List UInt8 → Option (List UInt8)
  | [] => some []
  | [a, b, 61, 61] => do
    let bits := (← base64Value a) * 64 + (← base64Value b)
    some [UInt8.ofNat (bits / 16)]
  | [a, b, c, 61] => do
    let bits := ((← base64Value a) * 64 + (← base64Value b)) * 64 + (← base64Value c)
    some [UInt8.ofNat (bits / 1024), UInt8.ofNat (bits / 4 % 256)]
  | a :: b :: c :: d :: text => do
    let bits := (((← base64Value a) * 64 + (← base64Value b)) * 64 + (← base64Value c)) * 64 +
      (← base64Value d)
    let bytes ← decodeBase64 text
    some (UInt8.ofNat (bits / 65536) :: UInt8.ofNat (bits / 256 % 256) ::
      UInt8.ofNat (bits % 256) :: bytes)
  | _ => none

/-- `BIO_read` through `BIO_f_base64` of a short text, which reads nothing where it is no base64. -/
def readBase64 : BioRead := fun data _ => some ((decodeBase64 data).getD [])

/-- The character of base64, in the alphabet for URLs, for six bits. -/
def base64UrlCharacter (n : Nat) : UInt8 :=
  UInt8.ofNat (if n < 26 then n + 65 else if n < 52 then n + 71 else if n < 62 then n - 4
    else if n = 62 then 45 else 95)

def encodeBase64Url : List UInt8 → List UInt8
  | [] => []
  | [a] => [base64UrlCharacter (a.toNat / 4), base64UrlCharacter (a.toNat % 4 * 16)]
  | [a, b] =>
    [base64UrlCharacter (a.toNat / 4), base64UrlCharacter (a.toNat % 4 * 16 + b.toNat / 16),
      base64UrlCharacter (b.toNat % 16 * 4)]
  | a :: b :: c :: bytes =>
    base64UrlCharacter (a.toNat / 4) :: base64UrlCharacter (a.toNat % 4 * 16 + b.toNat / 16) ::
      base64UrlCharacter (b.toNat % 16 * 4 + c.toNat / 64) :: base64UrlCharacter (c.toNat % 64) ::
      encodeBase64Url bytes

mutual

def renderJson : JsonValue → List UInt8
  | .null => ascii "null"
  | .bool value => ascii (if value then "true" else "false")
  | .double => ascii "0.0"
  | .integer value => [UInt8.ofNat (48 + value.toNat)]
  | .string value => [34] ++ value ++ [34]
  | .array values => [91] ++ renderValues values ++ [93]
  | .map fields => [123] ++ renderFields fields ++ [125]

def renderValues : List JsonValue → List UInt8
  | [] => []
  | [value] => renderJson value
  | value :: values => renderJson value ++ [44] ++ renderValues values

def renderFields : List (List UInt8 × JsonValue) → List UInt8
  | [] => []
  | [field] => renderField field
  | field :: fields => renderField field ++ [44] ++ renderFields fields

def renderField : List UInt8 × JsonValue → List UInt8
  | (key, value) => [34] ++ key ++ [34, 58] ++ renderJson value

end

/-- Libraries that know some JSON documents, and whose ciphers change nothing. -/
def plainLibraries (documents : List JsonValue) (pkcs8 : Pkcs8) : Libraries where
  bioRead := readBase64
  jsonParseBytes := fun bytes => (documents.find? fun value => renderJson value = bytes).getD .null
  parseTime := fun _ => some 0
  hmacSha256 := fun _ _ => .ok (.replicate 32 0)
  aes := ⟨fun _ inp => some inp, fun _ _ inp => some inp, fun _ _ _ => Aes.length_copied,
    fun _ _ _ _ => Aes.length_copied⟩
  gcm := ⟨fun _ _ _ inp => some inp, fun _ _ _ _ => .replicate 16 0, by simp⟩
  rootKey := fun _ => some (List.replicate 16 0)
  pkcs8 := pkcs8

def zeroMemory : Unwritten := ⟨fun _ => 0, fun _ _ => 0⟩

def renderContainer (header payload : JsonValue) (mac : List UInt8) : List UInt8 :=
  encodeBase64Url (renderJson header) ++ [46] ++ encodeBase64Url (renderJson payload) ++ [46] ++
    encodeBase64Url mac

def socHeader : JsonValue := .map [(ascii "alg", .string (ascii "A128GCM"))]

/-- The payload of a SoC container for an AES key of 16 bytes that are all zero, with more fields.
-/
def aesPayload (fields : List (List UInt8 × JsonValue)) : JsonValue :=
  let zeros : JsonValue := .string (List.replicate 22 65 ++ [61, 61])
  .map ([(ascii "containerVersion", .integer 4), (ascii "keyType", .string (ascii "AES-128")),
    (ascii "encryptedKey", zeros), (ascii "iv", .string (List.replicate 16 65)),
    (ascii "keyUsage", .integer 3), (ascii "c1", zeros), (ascii "c2", zeros),
    (ascii "c3", zeros)] ++ fields)

/-- A container whose MAC part is the first byte of its tag is accepted. -/
theorem container_short_tag : ¬ ∀ (libraries : Libraries) (unwritten : Unwritten)
    (inp : List UInt8) (parameters : Option SaImportParametersSoc)
    (storedKeyMac storedKeyEncryption : StoredKey),
    (∀ k, socKcUnwrap libraries unwritten inp parameters = some (.ok, k) →
      SocAuthentic libraries unwritten inp) ∧
    (∀ k, typejUnwrap libraries unwritten inp storedKeyMac storedKeyEncryption = some (.ok, k) →
      TypejAuthentic libraries inp storedKeyMac) := by
  intro h
  let libraries := plainLibraries [socHeader, aesPayload []] fun _ => none
  let inp := renderContainer socHeader (aesPayload []) [0]
  let storedKey : StoredKey :=
    ⟨⟨⟨0, 0, 0, 0, [], .replicate 64 0⟩, .symmetric, .zero, 16⟩, List.replicate 16 0⟩
  have haccepted : ((socKcUnwrap libraries zeroMemory inp none).any
      fun r => r.1 = .ok && r.2.isSome) = true := by
    decide +kernel
  have hmac : (unpackSocKc libraries.bioRead inp).map (·.mac.length) = some 1 := by
    decide +kernel
  obtain ⟨⟨status, k⟩, hunwrap, hstatus⟩ := (Option.any_eq_true _ _).1 haccepted
  obtain ⟨rfl, -⟩ : status = .ok ∧ k.isSome := by simpa using hstatus
  obtain ⟨unpacked, _, _, _, htagged, hlength, -⟩ :=
    (h libraries zeroMemory inp none storedKey storedKey).1 k hunwrap
  rw [htagged.unpack, Option.map_some, hlength] at hmac
  cases hmac

end TaSecureApi
