import TaSecureApi.ContainerSizes

namespace TaSecureApi
set_option autoImplicit true

/-- The integer members of a payload. -/
structure SocIntegers where
  containerVersion : Int
  keyUsage : Int
  decryptedKeyUsage : Option Int

structure SocIntegers.Of (n : SocIntegers) (fields : List (List UInt8 × JsonValue)) : Prop where
  containerVersion : jsonKeyValueFind "containerVersion" fields = some (.integer n.containerVersion)
  keyUsage : jsonKeyValueFind "keyUsage" fields = some (.integer n.keyUsage)
  decryptedKeyUsage :
    jsonKeyValueFind "decryptedKeyUsage" fields = n.decryptedKeyUsage.map JsonValue.integer

/-- The values of a container that can be accepted: a version of one byte, and the usages. -/
structure SocIntegers.Allowed (n : SocIntegers) : Prop where
  containerVersion : 4 ≤ n.containerVersion ∧ n.containerVersion ≤ 255
  keyUsage : 1 ≤ n.keyUsage ∧ n.keyUsage ≤ 3
  decryptedKeyUsage : n.keyUsage = 2 → ∃ usage ∈ n.decryptedKeyUsage, 1 ≤ usage ∧ usage ≤ 3

/-- The last bytes of the values are those of values that can. -/
structure SocIntegers.AllowedBytes (n : SocIntegers) : Prop where
  containerVersion : 4 ≤ castUint8 n.containerVersion
  keyUsage : castUint8 n.keyUsage ≠ 0 ∧ castUint8 n.keyUsage ≤ socDataAndKey
  decryptedKeyUsage : castUint8 n.keyUsage = keyOnly → ∃ usage ∈ n.decryptedKeyUsage,
    castUint8 usage ≠ 0 ∧ castUint8 usage ≤ socDataAndKey

structure SocIntegers.Whole (n : SocIntegers) (payload : SocKcPayload) : Prop where
  containerVersion : (payload.containerVersion.toNat : Int) = n.containerVersion
  keyUsage : (payload.keyUsage.toNat : Int) = n.keyUsage
  decryptedKeyUsage :
    n.keyUsage = 2 → n.decryptedKeyUsage = some (payload.decryptedKeyUsage.toNat : Int)

def socPayloadFields (libraries : Libraries) (inp : List UInt8) :
    Option (List (List UInt8 × JsonValue)) := do
  let unpacked ← unpackSocKc libraries.bioRead inp
  jsonValueAsMap (libraries.jsonParseBytes unpacked.payload)

/-- A container with these values is accepted only if they are allowed, and its AAD and its rights
are made from the values themselves. -/
def SocIntegers.Exact (n : SocIntegers) : Prop :=
  ∀ libraries unwritten inp parameters fields k, socPayloadFields libraries inp = some fields →
    n.Of fields → socKcUnwrap libraries unwritten inp parameters = some (.ok, k) →
    n.Allowed ∧ ∃ unpacked payload aad wrappingKey,
      SocTagged libraries unwritten inp unpacked payload aad wrappingKey ∧
      SocContent libraries unwritten parameters payload aad wrappingKey k ∧ n.Whole payload

section Casts

variable {n : SocIntegers} {value : Int}

theorem castUint8_toNat (value : Int) : ((castUint8 value).toNat : Int) = value % 256 := by
  have hlt : (value % 256).toNat < 256 := by omega
  rw [castUint8, UInt8.toNat_ofNat', Nat.mod_eq_of_lt hlt]
  omega

theorem castUint8_whole (h : 0 ≤ value) (h' : value ≤ 255) :
    ((castUint8 value).toNat : Int) = value := by
  rw [castUint8_toNat]
  omega

theorem parsePayload_integers (hn : n.Of fields)
    (h : parsePayload libraries unwritten fields = .ok payload) :
    payload.containerVersion = castUint8 n.containerVersion ∧
      payload.keyUsage = castUint8 n.keyUsage ∧
      (castUint8 n.keyUsage = keyOnly →
        payload.decryptedKeyUsage = n.decryptedKeyUsage.elim 0 castUint8) := by
  simp only [parsePayload, bind_eq_ok, pure, Except.pure, Except.ok.injEq] at h
  obtain ⟨key, hkey, _, _, _, _, _, _, _, _, rfl⟩ := h
  simp only [parsePayloadKey, requiredField, hn.containerVersion, hn.keyUsage,
    hn.decryptedKeyUsage, bind_eq_ok, demandSome_eq_ok, Option.some.injEq, exists_eq_left', pure,
    Except.pure, Except.ok.injEq, jsonValueAsInteger] at hkey
  obtain ⟨_, _, _, _, _, _, _, _, _, _, _, _, _, _, rfl⟩ := hkey
  refine ⟨rfl, rfl, fun hkeyOnly => ?_⟩
  rw [if_pos hkeyOnly]
  cases n.decryptedKeyUsage <;> rfl

theorem SocTagged.payload_fields
    (h : SocTagged libraries unwritten inp unpacked payload aad wrappingKey)
    (hfields : socPayloadFields libraries inp = some fields) :
    parsePayload libraries unwritten fields = .ok payload := by
  obtain ⟨hunpack, ⟨alg, hparse, _⟩, _⟩ := h
  rw [socPayloadFields, hunpack] at hfields
  have hfields : jsonValueAsMap (libraries.jsonParseBytes unpacked.payload) = some fields := hfields
  simp only [socKcParse, bind_eq_ok, demandSome_eq_ok, hfields, Option.some.injEq, exists_eq_left',
    pure, Except.pure, Except.ok.injEq, Prod.mk.injEq] at hparse
  obtain ⟨_, _, _, _, payload', hpayload, _, rfl⟩ := hparse
  exact hpayload

theorem SocTagged.allowedBytes
    (h : SocTagged libraries unwritten inp unpacked payload aad wrappingKey)
    (hfields : socPayloadFields libraries inp = some fields) (hn : n.Of fields) :
    n.AllowedBytes := by
  obtain ⟨hversion, husage, hdecrypted⟩ := parsePayload_integers hn (h.payload_fields hfields)
  obtain ⟨_, ⟨alg, _, haad⟩, _⟩ := h
  obtain ⟨hchecked, _⟩ := buildAad_eq_ok.1 haad
  constructor
  · rw [← hversion]
    exact hchecked.containerVersion
  · rw [← husage]
    exact hchecked.keyUsage
  · intro hkeyOnly
    obtain ⟨hne, hle⟩ := hchecked.decryptedKeyUsage (husage.trans hkeyOnly)
    rw [hdecrypted hkeyOnly] at hne hle
    cases hvalue : n.decryptedKeyUsage with
    | none =>
      rw [hvalue] at hne
      exact absurd rfl hne
    | some usage =>
      rw [hvalue] at hne hle
      exact ⟨usage, rfl, hne, hle⟩

theorem SocIntegers.Allowed.whole (h : n.Allowed) (hn : n.Of fields)
    (hparse : parsePayload libraries unwritten fields = .ok payload) : n.Whole payload := by
  obtain ⟨hversion, husage, hdecrypted⟩ := parsePayload_integers hn hparse
  obtain ⟨⟨hv, hv'⟩, ⟨hu, hu'⟩, hd⟩ := h
  constructor
  · rw [hversion]
    exact castUint8_whole (by omega) hv'
  · rw [husage]
    exact castUint8_whole (by omega) (by omega)
  · intro hkeyOnly
    obtain ⟨usage, husage', hle, hle'⟩ := hd hkeyOnly
    have hcast : castUint8 n.keyUsage = keyOnly := by
      rw [hkeyOnly]
      rfl
    have hvalue : n.decryptedKeyUsage = some usage := husage'
    rw [hdecrypted hcast, hvalue, Option.elim_some, castUint8_whole (by omega) (by omega)]

theorem SocIntegers.exact_of (h : n.AllowedBytes → n.Allowed) : n.Exact := by
  intro libraries unwritten inp parameters fields k hfields hn haccepted
  obtain ⟨unpacked, payload, aad, wrappingKey, htagged, hcontent, _⟩ :=
    socKcUnwrap_eq_ok.1 haccepted
  have hallowed := h (htagged.allowedBytes hfields hn)
  exact ⟨hallowed, unpacked, payload, aad, wrappingKey, htagged, hcontent,
    hallowed.whole hn (htagged.payload_fields hfields)⟩

end Casts

def plainMembers : List (List UInt8 × JsonValue) :=
  let zeros : JsonValue := .string (List.replicate 22 65 ++ [61, 61])
  [(ascii "keyType", .string (ascii "AES-128")), (ascii "encryptedKey", zeros),
    (ascii "iv", .string (List.replicate 16 65)), (ascii "c1", zeros), (ascii "c2", zeros),
    (ascii "c3", zeros)]

def SocIntegers.fields (n : SocIntegers) : List (List UInt8 × JsonValue) :=
  plainMembers ++ [(ascii "containerVersion", .integer n.containerVersion),
    (ascii "keyUsage", .integer n.keyUsage)] ++
    (n.decryptedKeyUsage.map fun usage => (ascii "decryptedKeyUsage", .integer usage)).toList

def plainPayload (containerVersion keyUsage decryptedKeyUsage : UInt8) : SocKcPayload where
  containerVersion := containerVersion
  rootKeyType := .undefined
  keyTypeString := ascii "AES-128"
  encryptedKey := List.replicate 16 0
  iv := .replicate 12 0
  keyUsage := keyUsage
  decryptedKeyUsage := decryptedKeyUsage
  entitledTaIds := []
  keyLadderInputs := ⟨.replicate 16 0, .replicate 16 0, .replicate 16 0⟩

/-- Libraries that read a container with a header and that payload. -/
def SocIntegers.libraries (n : SocIntegers) : Libraries :=
  { plainLibraries [] fun _ => none with
    jsonParseBytes := fun bytes => if bytes = [0] then socHeader else .map n.fields }

def plainContainer : List UInt8 :=
  encodeBase64Url [0] ++ [46] ++ encodeBase64Url [1] ++ [46] ++
    encodeBase64Url (List.replicate 16 0)

section Containers

variable {n : SocIntegers}

theorem jsonKeyValueFind_append (key : String) (fields fields' : List (List UInt8 × JsonValue)) :
    jsonKeyValueFind key (fields ++ fields') =
      (jsonKeyValueFind key fields).or (jsonKeyValueFind key fields') := by
  simp [jsonKeyValueFind, List.find?_append, Option.map_or]

theorem SocIntegers.fields_member (h : jsonKeyValueFind key plainMembers = some value) :
    jsonKeyValueFind key n.fields = some value := by
  rw [SocIntegers.fields, List.append_assoc, jsonKeyValueFind_append, h]
  rfl

theorem SocIntegers.of_fields : n.Of n.fields := by
  constructor
  · rfl
  · rfl
  · unfold SocIntegers.fields
    cases n.decryptedKeyUsage <;> rfl

theorem SocIntegers.fields_none (h : jsonKeyValueFind key plainMembers = none)
    (hversion : ascii key ≠ ascii "containerVersion") (husage : ascii key ≠ ascii "keyUsage")
    (hdecrypted : ascii key ≠ ascii "decryptedKeyUsage") :
    jsonKeyValueFind key n.fields = none := by
  rw [SocIntegers.fields, List.append_assoc, jsonKeyValueFind_append, h]
  unfold jsonKeyValueFind
  cases n.decryptedKeyUsage <;> simp [hversion.symm, husage.symm, hdecrypted.symm]

def SocIntegers.decryptedByte (n : SocIntegers) : UInt8 :=
  if castUint8 n.keyUsage = keyOnly then n.decryptedKeyUsage.elim 0 castUint8 else 0

theorem SocIntegers.parsePayload_fields : parsePayload n.libraries zeroMemory n.fields =
    .ok (plainPayload (castUint8 n.containerVersion) (castUint8 n.keyUsage) n.decryptedByte) := by
  have hof : n.Of n.fields := SocIntegers.of_fields
  let zeros : JsonValue := .string (List.replicate 22 65 ++ [61, 61])
  have hkeyType : jsonKeyValueFind "keyType" n.fields = some (.string (ascii "AES-128")) :=
    SocIntegers.fields_member rfl
  have hencrypted : jsonKeyValueFind "encryptedKey" n.fields = some zeros :=
    SocIntegers.fields_member rfl
  have hiv : jsonKeyValueFind "iv" n.fields = some (.string (List.replicate 16 65)) :=
    SocIntegers.fields_member rfl
  have hc1 : jsonKeyValueFind "c1" n.fields = some zeros := SocIntegers.fields_member rfl
  have hc2 : jsonKeyValueFind "c2" n.fields = some zeros := SocIntegers.fields_member rfl
  have hc3 : jsonKeyValueFind "c3" n.fields = some zeros := SocIntegers.fields_member rfl
  have hroot : parseRootKeyType zeroMemory n.fields (castUint8 n.containerVersion) =
      .ok .undefined := by
    have hnone : jsonKeyValueFind "rootKeyType" n.fields = none :=
      SocIntegers.fields_none rfl (by decide) (by decide) (by decide)
    rw [parseRootKeyType, hnone]
    exact ite_self _
  have htaIds : parseEntitledTaIds zeroMemory n.fields = .ok [] := by
    have hnone : jsonKeyValueFind "entitledTaIds" n.fields = none :=
      SocIntegers.fields_none rfl (by decide) (by decide) (by decide)
    rw [parseEntitledTaIds, hnone]
  have hkey : decodeMember readBase64 zeroMemory .encryptedKey zeros false =
      some (List.replicate 16 0) := by
    decide +kernel
  have hivBytes : decodeFixed readBase64 zeroMemory .iv
      (.replicate 12 0 : Vector UInt8 12) (.string (List.replicate 16 65)) false =
        .ok (.replicate 12 0) := by
    decide +kernel
  have hinput : ∀ p ∈ [(ContainerPlace.c1, false), (.c2, true), (.c3, false)],
      decodeFixed readBase64 zeroMemory p.1
        (Vector.ofFn fun i : Fin 16 => zeroMemory.byte p.1 i) zeros p.2 =
          .ok (.replicate 16 0) := by
    decide +kernel
  simp only [List.forall_mem_cons, List.not_mem_nil, false_implies, implies_true, and_true]
    at hinput
  obtain ⟨h1, h2, h3⟩ := hinput
  have hbio : n.libraries.bioRead = readBase64 := rfl
  simp only [parsePayload, parsePayloadKey, parseLadderInput, requiredField, hof.containerVersion,
    hof.keyUsage, hof.decryptedKeyUsage, hkeyType, hencrypted, hiv, hc1, hc2, hc3, hroot, htaIds,
    hbio, hkey, hivBytes, h1, h2, h3, demandSome, jsonValueAsString, jsonValueAsInteger, bind,
    Except.bind, pure, Except.pure]
  rw [plainPayload, SocIntegers.decryptedByte]
  cases n.decryptedKeyUsage <;> rfl

/-- The usages that pass the checks of `build_aad`, with those of the keys that are decrypted. -/
def plainUsages : List (UInt8 × UInt8) := [(1, 0), (3, 0), (2, 1), (2, 2), (2, 3)]

theorem usage_cases {usage : UInt8} (h : usage ≠ 0 ∧ usage ≤ socDataAndKey) :
    usage = 1 ∨ usage = 2 ∨ usage = 3 := by
  obtain ⟨hne, hle⟩ := h
  rw [UInt8.le_iff_toNat_le] at hle
  rw [← UInt8.toNat_inj.ne] at hne
  simp only [← UInt8.toNat_inj]
  have hzero : (0 : UInt8).toNat = 0 := rfl
  have hthree : socDataAndKey.toNat = 3 := rfl
  have h1 : (1 : UInt8).toNat = 1 := rfl
  have h2 : (2 : UInt8).toNat = 2 := rfl
  have h3 : (3 : UInt8).toNat = 3 := rfl
  omega

theorem SocIntegers.AllowedBytes.usages (h : n.AllowedBytes) :
    (castUint8 n.keyUsage, n.decryptedByte) ∈ plainUsages := by
  have hdecrypted := h.decryptedKeyUsage
  rw [SocIntegers.decryptedByte]
  obtain husage | husage | husage := usage_cases h.keyUsage
  · rw [husage, if_neg (by decide)]
    decide
  · rw [husage] at hdecrypted ⊢
    obtain ⟨usage, hvalue, hallowed⟩ := hdecrypted rfl
    have hvalue : n.decryptedKeyUsage = some usage := hvalue
    rw [if_pos (by decide), hvalue, Option.elim_some]
    obtain hbyte | hbyte | hbyte := usage_cases hallowed
    · rw [hbyte]
      decide
    · rw [hbyte]
      decide
    · rw [hbyte]
      decide
  · rw [husage, if_neg (by decide)]
    decide

theorem plainPayload_key : ∀ p ∈ plainUsages, ∃ rights k,
    socFieldsToRights .symmetric .aesSubtype (plainPayload 4 p.1 p.2) none = .ok rights ∧
      socCreateKey (fun _ => none) ⟨"AES-128", .symmetric, 16, .aesSubtype, none⟩ rights
        (List.replicate 16 0) = .ok (.ok, k) := by
  have hcreated : plainUsages.all fun p =>
      decide (((socFieldsToRights .symmetric .aesSubtype (plainPayload 4 p.1 p.2) none) >>=
          fun rights => socCreateKey (fun _ => none) ⟨"AES-128", .symmetric, 16, .aesSubtype, none⟩
            rights (List.replicate 16 0)).toOption.map Prod.fst = some .ok) := by
    decide +kernel
  intro p hp
  have hok := of_decide_eq_true (List.all_eq_true.1 hcreated p hp)
  cases hresult : (socFieldsToRights .symmetric .aesSubtype (plainPayload 4 p.1 p.2) none) >>=
      fun rights => socCreateKey (fun _ => none) ⟨"AES-128", .symmetric, 16, .aesSubtype, none⟩
        rights (List.replicate 16 0) with
  | error stop =>
    rw [hresult] at hok
    cases hok
  | ok result =>
    obtain ⟨status, k⟩ := result
    rw [hresult] at hok
    obtain rfl : status = .ok := Option.some.inj hok
    obtain ⟨rights, hrights, hcreate⟩ := bind_eq_ok.1 hresult
    exact ⟨rights, k, hrights, hcreate⟩

theorem SocIntegers.plainContainer_fields :
    socPayloadFields n.libraries plainContainer = some n.fields := rfl

theorem SocIntegers.AllowedBytes.accepted (h : n.AllowedBytes) :
    ∃ k, socKcUnwrap n.libraries zeroMemory plainContainer none = some (.ok, k) := by
  obtain ⟨rights, k, hrights, hcreate⟩ := plainPayload_key _ h.usages
  let payload := plainPayload (castUint8 n.containerVersion) (castUint8 n.keyUsage) n.decryptedByte
  let unpacked : Unpacked := ⟨encodeBase64Url [0], encodeBase64Url [1], [0], [1],
    List.replicate 16 0⟩
  have hunpack : unpackSocKc n.libraries.bioRead plainContainer = some unpacked := by
    change unpackSocKc readBase64 plainContainer = _
    decide +kernel
  have hparse : socKcParse n.libraries zeroMemory unpacked = .ok (ascii "A128GCM", payload) := by
    have hheader : n.libraries.jsonParseBytes unpacked.header = socHeader := by
      simp only [SocIntegers.libraries, unpacked, if_true]
    have hfields : n.libraries.jsonParseBytes unpacked.payload = .map n.fields := by
      have hne : ([1] : List UInt8) ≠ [0] := by decide
      simp only [SocIntegers.libraries, unpacked, hne, if_false]
    rw [socKcParse, hheader, hfields]
    simp only [jsonValueAsMap, demandSome, SocIntegers.parsePayload_fields, bind, Except.bind]
    rfl
  have haad : buildAad zeroMemory (ascii "A128GCM") payload =
      .ok (socAad (ascii "A128GCM") payload) := by
    have hall : plainUsages.all fun p => p.1 = keyOnly → p.2 ≠ 0 ∧ p.2 ≤ socDataAndKey := by
      decide
    have hdecrypted : ∀ p ∈ plainUsages, p.1 = keyOnly → p.2 ≠ 0 ∧ p.2 ≤ socDataAndKey :=
      fun p hp => of_decide_eq_true (List.all_eq_true.1 hall p hp)
    refine buildAad_eq_ok.2 ⟨?_, ?_, rfl⟩
    · exact {
        alg := rfl
        containerVersion := h.containerVersion
        keyTypeString := (by decide : ascii "AES-128" ≠ [])
        keyUsage := h.keyUsage
        hmac := fun _ => (by decide +kernel :
          ∀ name ∈ hmacNames, agreesWith zeroMemory name (ascii "AES-128") = false)
        decryptedKeyUsage := hdecrypted _ h.usages
        entitledTaIds := Nat.zero_le _ }
    · have hlength : (if castUint8 n.keyUsage = keyOnly then [n.decryptedByte] else []).length ≤
          1 := by
        split <;> simp
      have htext : (ascii "A128GCM").length = 7 ∧ (ascii "AES-128").length = 7 := by decide
      simp only [socAad, payload, plainPayload, rootKeyTypeText, ite_self, List.map_nil,
        List.flatten_nil, List.length_append, List.length_nil, List.length_singleton, htext,
        Vector.length_toList, maxAadSize]
      omega
  have hladder : otpHwKeyLadder n.libraries .unique payload.keyLadderInputs =
      .ok (List.replicate 16 0) := by
    have hlibraries : otpHwKeyLadder n.libraries =
        otpHwKeyLadder (plainLibraries [] fun _ => none) := by
      unfold otpHwKeyLadder
      rfl
    have hinputs : payload.keyLadderInputs =
        ⟨.replicate 16 0, .replicate 16 0, .replicate 16 0⟩ := rfl
    rw [hlibraries, hinputs]
    decide +kernel
  have hkind : getKeyTypeAndSize zeroMemory payload.keyTypeString =
      some ⟨"AES-128", .symmetric, 16, .aesSubtype, none⟩ := by
    change getKeyTypeAndSize zeroMemory (ascii "AES-128") = _
    rfl
  have hcontent : SocContent n.libraries zeroMemory none payload (socAad (ascii "A128GCM") payload)
      (List.replicate 16 0) k :=
    ⟨_, List.replicate 16 0, rights, hkind, rfl, hrights, hcreate⟩
  exact ⟨k, socKcUnwrap_eq_ok.2 ⟨unpacked, payload, _, List.replicate 16 0,
    ⟨hunpack, ⟨_, hparse, haad⟩, hladder⟩, hcontent, by decide, by decide, rfl⟩⟩

end Containers

/-- The integers are exact where values with the last bytes of allowed ones are allowed. -/
theorem socIntegers_exact (n : SocIntegers) : n.Exact ↔ (n.AllowedBytes → n.Allowed) := by
  constructor
  · intro h hbytes
    obtain ⟨k, haccepted⟩ := hbytes.accepted
    exact (h n.libraries zeroMemory plainContainer none n.fields k
      SocIntegers.plainContainer_fields SocIntegers.of_fields haccepted).1
  · exact SocIntegers.exact_of

/-- A usage 259 is accepted as the usage 3. -/
theorem socIntegers_not_exact : ¬ ∀ n : SocIntegers, n.Exact := by
  intro h
  let n : SocIntegers := ⟨4, 259, none⟩
  have hbytes : n.AllowedBytes :=
    ⟨by decide, by decide, fun husage => absurd husage (by decide)⟩
  obtain ⟨k, haccepted⟩ := hbytes.accepted
  have hallowed := (h n n.libraries zeroMemory plainContainer none n.fields k
    SocIntegers.plainContainer_fields SocIntegers.of_fields haccepted).1
  exact absurd hallowed.keyUsage.2 (by decide)

end TaSecureApi
