import TaSecureApi.ContainerArrays

namespace TaSecureApi
set_option autoImplicit true

/-- A member in base64 that `parse_payload` decodes into an array of some length. -/
structure FixedMember where
  key : String
  place : ContainerPlace
  length : Nat
  urlDecode : Bool

def ivMember : FixedMember := ⟨"iv", .iv, 12, false⟩

def c1Member : FixedMember := ⟨"c1", .c1, 16, false⟩

def c2Member : FixedMember := ⟨"c2", .c2, 16, true⟩

def c3Member : FixedMember := ⟨"c3", .c3, 16, false⟩

def fixedMembers : List FixedMember := [ivMember, c1Member, c2Member, c3Member]

section Members

variable (libraries : Libraries) (unwritten : Unwritten) (fields : List (List UInt8 × JsonValue))

def FixedMember.decoded (m : FixedMember) : Option (List UInt8) := do
  let value ← jsonKeyValueFind m.key fields
  decodeMember libraries.bioRead unwritten m.place value m.urlDecode

/-- The member is not refused: it has room, or is not base64 and has the right length all the same.
-/
def FixedMember.accepted (m : FixedMember) : Bool :=
  (jsonKeyValueFind m.key fields).any fun value =>
    match decodeMember libraries.bioRead unwritten m.place value m.urlDecode with
    | none => b64DecodedLength (jsonValueAsString (unwritten.length m.place) value).1 = m.length
    | some bytes => bytes.length ≤ m.length

/-- The length of the array, and how many bytes are decoded into it. -/
def FixedMember.decoding (m : FixedMember) : List (Nat × Nat) :=
  (m.decoded libraries unwritten fields).toList.map fun bytes => (m.length, bytes.length)

/-- The members in front of `iv` are read. -/
def headReads : Bool :=
  ((jsonKeyValueFind "containerVersion" fields).any fun version =>
    (parseRootKeyType unwritten fields (castUint8 (jsonValueAsInteger version))).isOk) &&
  ((jsonKeyValueFind "keyType" fields).any fun keyType =>
    (jsonValueAsString 0 keyType).2.isSome) &&
  (jsonKeyValueFind "encryptedKey" fields).any fun encryptedKey =>
    (decodeMember libraries.bioRead unwritten .encryptedKey encryptedKey false).isSome

/-- The members between `iv` and `c1` are. -/
def usageReads : Bool :=
  (jsonKeyValueFind "keyUsage" fields).isSome && (parseEntitledTaIds unwritten fields).isOk

/-- What `parse_payload` checks, with the decodings into arrays, in its order. -/
def payloadSteps : List (Appends.Step (Nat × Nat)) :=
  [.check (headReads libraries unwritten fields),
    .append (ivMember.decoding libraries unwritten fields),
    .check (ivMember.accepted libraries unwritten fields),
    .check (usageReads unwritten fields),
    .append (c1Member.decoding libraries unwritten fields),
    .check (c1Member.accepted libraries unwritten fields),
    .append (c2Member.decoding libraries unwritten fields),
    .check (c2Member.accepted libraries unwritten fields),
    .append (c3Member.decoding libraries unwritten fields),
    .check (c3Member.accepted libraries unwritten fields)]

/-- The member is decoded to as many bytes as its array has. -/
def FixedMember.Exact (m : FixedMember) : Prop :=
  ∃ bytes, m.decoded libraries unwritten fields = some bytes ∧ bytes.length = m.length

def FixedMember.Overruns (m : FixedMember) : Prop :=
  ∃ bytes, m.decoded libraries unwritten fields = some bytes ∧ m.length < bytes.length

/-- A payload is parsed only if its arrays are what their members are decoded to. -/
def SizesExact : Prop :=
  ∀ payload, parsePayload libraries unwritten fields = .ok payload →
    ∀ m ∈ fixedMembers, m.Exact libraries unwritten fields

/-- The decodings stay inside the arrays. -/
def DecodingsInside : Prop :=
  ∀ decoding ∈ Appends.written (payloadSteps libraries unwritten fields), decoding.2 ≤ decoding.1

/-- No member is refused, though one has another size. -/
def InexactAccepted : Prop :=
  headReads libraries unwritten fields ∧ usageReads unwritten fields ∧
    (∀ m ∈ fixedMembers, m.accepted libraries unwritten fields) ∧
    ∃ m ∈ fixedMembers, ¬ m.Exact libraries unwritten fields

/-- A member is too long, and those in front of it are read. -/
def OverrunReached : Prop :=
  headReads libraries unwritten fields ∧ (ivMember.Overruns libraries unwritten fields ∨
    ivMember.accepted libraries unwritten fields ∧ usageReads unwritten fields ∧
      (c1Member.Overruns libraries unwritten fields ∨
        c1Member.accepted libraries unwritten fields ∧
          (c2Member.Overruns libraries unwritten fields ∨
            c2Member.accepted libraries unwritten fields ∧
              c3Member.Overruns libraries unwritten fields)))

end Members

section Sizes

variable {libraries : Libraries} {unwritten : Unwritten} {fields : List (List UInt8 × JsonValue)}
  {m : FixedMember}

theorem isOk_iff {x : Except ε α} : x.isOk = true ↔ ∃ a, x = .ok a := by
  cases x with
  | error e => exact ⟨nofun, nofun⟩
  | ok a => exact ⟨fun _ => ⟨a, rfl⟩, fun _ => rfl⟩

theorem decodeFixed_isOk {array : Vector UInt8 n} :
    (∃ v, decodeFixed bioRead unwritten place array value urlDecode = .ok v) ↔
      match decodeMember bioRead unwritten place value urlDecode with
      | none => b64DecodedLength (jsonValueAsString (unwritten.length place) value).1 = n
      | some bytes => bytes.length ≤ n := by
  unfold decodeFixed
  dsimp only
  cases decodeMember bioRead unwritten place value urlDecode with
  | none => simp only [bind_eq_ok, demand_eq_ok, exists_const, Except.ok.injEq, exists_and_left,
      exists_eq', and_true]
  | some bytes =>
    dsimp only
    split
    · rename_i hlong
      exact ⟨nofun, fun h => absurd h (Nat.not_le.2 hlong)⟩
    · rename_i hroom
      exact ⟨fun _ => Nat.not_lt.1 hroom, fun _ => ⟨_, rfl⟩⟩

/-- The member is accepted where its decoding is, whatever the array held before. -/
theorem FixedMember.accepted_iff (array : JsonValue → Vector UInt8 m.length) :
    m.accepted libraries unwritten fields = true ↔
      ∃ value, jsonKeyValueFind m.key fields = some value ∧ ∃ v,
        decodeFixed libraries.bioRead unwritten m.place (array value) value m.urlDecode =
          .ok v := by
  simp only [FixedMember.accepted, Option.any_eq_true, decodeFixed_isOk]
  apply exists_congr
  intro value
  apply and_congr_right
  intro _
  split <;> simp

theorem parseLadderInput_isOk :
    (∃ v, parseLadderInput libraries unwritten key place fields urlDecode = .ok v) ↔
      FixedMember.accepted libraries unwritten fields ⟨key, place, 16, urlDecode⟩ = true := by
  rw [FixedMember.accepted_iff fun _ => Vector.ofFn fun i => unwritten.byte place i]
  simp only [parseLadderInput, requiredField, bind_eq_ok, demandSome_eq_ok]
  constructor
  · rintro ⟨v, value, hvalue, hv⟩
    exact ⟨value, hvalue, v, hv⟩
  · rintro ⟨value, hvalue, v, hv⟩
    exact ⟨v, value, hvalue, hv⟩

theorem headReads_iff : headReads libraries unwritten fields = true ↔
    (∃ version, jsonKeyValueFind "containerVersion" fields = some version ∧
      ∃ rootKeyType, parseRootKeyType unwritten fields (castUint8 (jsonValueAsInteger version)) =
        .ok rootKeyType) ∧
    (∃ keyType, jsonKeyValueFind "keyType" fields = some keyType ∧
      ∃ text, (jsonValueAsString 0 keyType).2 = some text) ∧
    ∃ encryptedKey, jsonKeyValueFind "encryptedKey" fields = some encryptedKey ∧
      ∃ bytes, decodeMember libraries.bioRead unwritten .encryptedKey encryptedKey false =
        some bytes := by
  simp only [headReads, Bool.and_eq_true, Option.any_eq_true, isOk_iff, Option.isSome_iff_exists,
    and_assoc]

theorem usageReads_iff : usageReads unwritten fields = true ↔
    (∃ usage, jsonKeyValueFind "keyUsage" fields = some usage) ∧
      ∃ taIds, parseEntitledTaIds unwritten fields = .ok taIds := by
  simp only [usageReads, Bool.and_eq_true, isOk_iff, Option.isSome_iff_exists]

theorem parsePayloadKey_isOk : (∃ key, parsePayloadKey libraries unwritten fields = .ok key) ↔
    headReads libraries unwritten fields ∧ ivMember.accepted libraries unwritten fields ∧
      ∃ usage, jsonKeyValueFind "keyUsage" fields = some usage := by
  have hiv : ivMember.accepted libraries unwritten fields = true ↔ _ :=
    FixedMember.accepted_iff fun _ => .replicate 12 0
  rw [headReads_iff, hiv]
  simp only [parsePayloadKey, requiredField, bind_eq_ok, demandSome_eq_ok, pure, Except.pure,
    Except.ok.injEq]
  constructor
  · rintro ⟨_, version, hversion, rootKeyType, hroot, keyType, hkeyType, text, htext, encryptedKey,
      hencrypted, bytes, hbytes, iv, hiv, v, hv, usage, husage, _⟩
    exact ⟨⟨⟨version, hversion, rootKeyType, hroot⟩, ⟨keyType, hkeyType, text, htext⟩, encryptedKey,
      hencrypted, bytes, hbytes⟩, ⟨iv, hiv, v, hv⟩, usage, husage⟩
  · rintro ⟨⟨⟨version, hversion, rootKeyType, hroot⟩, ⟨keyType, hkeyType, text, htext⟩,
      encryptedKey,
      hencrypted, bytes, hbytes⟩, ⟨iv, hiv, v, hv⟩, usage, husage⟩
    exact ⟨_, version, hversion, rootKeyType, hroot, keyType, hkeyType, text, htext, encryptedKey,
      hencrypted, bytes, hbytes, iv, hiv, v, hv, usage, husage, rfl⟩

theorem forall_fixedMembers {p : FixedMember → Prop} :
    (∀ m ∈ fixedMembers, p m) ↔ p ivMember ∧ p c1Member ∧ p c2Member ∧ p c3Member := by
  simp [fixedMembers]

/-- A payload is parsed when its members are read and none of those in arrays is refused. -/
theorem parsePayload_isOk : (∃ payload, parsePayload libraries unwritten fields = .ok payload) ↔
    headReads libraries unwritten fields ∧ usageReads unwritten fields ∧
      ∀ m ∈ fixedMembers, m.accepted libraries unwritten fields := by
  have hc1 : _ ↔ c1Member.accepted libraries unwritten fields = true := parseLadderInput_isOk
  have hc2 : _ ↔ c2Member.accepted libraries unwritten fields = true := parseLadderInput_isOk
  have hc3 : _ ↔ c3Member.accepted libraries unwritten fields = true := parseLadderInput_isOk
  rw [forall_fixedMembers, ← hc1, ← hc2, ← hc3, usageReads_iff]
  simp only [parsePayload, bind_eq_ok, pure, Except.pure, Except.ok.injEq]
  constructor
  · rintro ⟨_, key, hkey, taIds, htaIds, c1, h1, c2, h2, c3, h3, _⟩
    obtain ⟨hhead, hiv, husage⟩ := parsePayloadKey_isOk.1 ⟨key, hkey⟩
    exact ⟨hhead, ⟨husage, taIds, htaIds⟩, hiv, ⟨c1, h1⟩, ⟨c2, h2⟩, c3, h3⟩
  · rintro ⟨hhead, ⟨husage, taIds, htaIds⟩, hiv, ⟨c1, h1⟩, ⟨c2, h2⟩, c3, h3⟩
    obtain ⟨key, hkey⟩ := parsePayloadKey_isOk.2 ⟨hhead, hiv, husage⟩
    exact ⟨_, key, hkey, taIds, htaIds, c1, h1, c2, h2, c3, h3, rfl⟩

theorem payloadSteps_passes : Appends.Passes (payloadSteps libraries unwritten fields) ↔
    ∃ payload, parsePayload libraries unwritten fields = .ok payload := by
  rw [parsePayload_isOk, forall_fixedMembers]
  simp only [payloadSteps, Appends.passes_check, Appends.passes_append, Appends.passes_nil,
    and_true]
  tauto

theorem sizesExact_iff : SizesExact libraries unwritten fields ↔
    ¬ InexactAccepted libraries unwritten fields := by
  constructor
  · intro h ⟨hhead, husage, haccepted, m, hm, hinexact⟩
    obtain ⟨payload, hparse⟩ := parsePayload_isOk.2 ⟨hhead, husage, haccepted⟩
    exact hinexact (h payload hparse m hm)
  · intro h payload hparse m hm
    obtain ⟨hhead, husage, haccepted⟩ := parsePayload_isOk.1 ⟨payload, hparse⟩
    by_contra hinexact
    exact h ⟨hhead, husage, haccepted, m, hm, hinexact⟩

theorem FixedMember.overruns_iff : m.Overruns libraries unwritten fields ↔
    ∃ decoding ∈ m.decoding libraries unwritten fields, decoding.1 < decoding.2 := by
  simp [FixedMember.Overruns, FixedMember.decoding]

theorem decodingsInside_iff : DecodingsInside libraries unwritten fields ↔
    ¬ OverrunReached libraries unwritten fields := by
  rw [iff_not_comm, DecodingsInside]
  simp only [not_forall, Nat.not_le, exists_prop, OverrunReached, FixedMember.overruns_iff,
    payloadSteps, Appends.exists_written_check, Appends.exists_written_append,
    Appends.exists_written_nil, and_false, or_false]

theorem decodeFixed_undefined {array : Vector UInt8 m.length}
    (hvalue : jsonKeyValueFind m.key fields = some value)
    (h : m.Overruns libraries unwritten fields) :
    decodeFixed libraries.bioRead unwritten m.place array value m.urlDecode =
      .error .undefined := by
  obtain ⟨bytes, hdecoded, hlong⟩ := h
  rw [FixedMember.decoded, hvalue] at hdecoded
  have hdecoded : decodeMember libraries.bioRead unwritten m.place value m.urlDecode =
      some bytes := hdecoded
  simp only [decodeFixed, hdecoded, gt_iff_lt, hlong, if_true]

theorem FixedMember.Overruns.found (h : m.Overruns libraries unwritten fields) :
    ∃ value, jsonKeyValueFind m.key fields = some value := by
  obtain ⟨bytes, hdecoded, _⟩ := h
  obtain ⟨value, hvalue, _⟩ := Option.bind_eq_some_iff.1 hdecoded
  exact ⟨value, hvalue⟩

theorem parseLadderInput_undefined
    (h : FixedMember.Overruns libraries unwritten fields ⟨key, place, 16, urlDecode⟩) :
    parseLadderInput libraries unwritten key place fields urlDecode = .error .undefined := by
  obtain ⟨value, hvalue⟩ := h.found
  have hvalue' : jsonKeyValueFind key fields = some value := hvalue
  rw [parseLadderInput, requiredField, hvalue']
  exact decodeFixed_undefined hvalue h

theorem parsePayload_of_overrun (h : OverrunReached libraries unwritten fields) :
    parsePayload libraries unwritten fields = .error .undefined := by
  obtain ⟨hhead, hiv | ⟨hiv, husage, hladder⟩⟩ := h
  · obtain ⟨⟨version, hversion, rootKeyType, hroot⟩, ⟨keyType, hkeyType, text, htext⟩, encryptedKey,
      hencrypted, bytes, hbytes⟩ := headReads_iff.1 hhead
    obtain ⟨value, hvalue⟩ := hiv.found
    have hdecode : decodeFixed libraries.bioRead unwritten .iv (.replicate 12 0) value false =
        .error .undefined := decodeFixed_undefined hvalue hiv
    have hvalue' : jsonKeyValueFind "iv" fields = some value := hvalue
    simp only [parsePayload, parsePayloadKey, requiredField, hversion, hroot, hkeyType, htext,
      hencrypted, hbytes, hvalue', hdecode, demandSome, bind, Except.bind]
  · obtain ⟨hkeyUsage, taIds, htaIds⟩ := usageReads_iff.1 husage
    obtain ⟨key, hkey⟩ := parsePayloadKey_isOk.2 ⟨hhead, hiv, hkeyUsage⟩
    obtain hc1 | ⟨hc1, hc2 | ⟨hc2, hc3⟩⟩ := hladder
    · have hc1 := parseLadderInput_undefined hc1
      simp only [parsePayload, hkey, htaIds, hc1, bind, Except.bind]
    · obtain ⟨c1, hc1⟩ := parseLadderInput_isOk.2 hc1
      have hc2 := parseLadderInput_undefined hc2
      simp only [parsePayload, hkey, htaIds, hc1, hc2, bind, Except.bind]
    · obtain ⟨c1, hc1⟩ := parseLadderInput_isOk.2 hc1
      obtain ⟨c2, hc2⟩ := parseLadderInput_isOk.2 hc2
      have hc3 := parseLadderInput_undefined hc3
      simp only [parsePayload, hkey, htaIds, hc1, hc2, hc3, bind, Except.bind]

end Sizes

/-- The members in arrays have the sizes of these and stay inside but where one of another size is
not refused, or one that is longer is decoded. -/
theorem payloadSizes_exact (libraries : Libraries) (unwritten : Unwritten)
    (fields : List (List UInt8 × JsonValue)) :
    (SizesExact libraries unwritten fields ↔ ¬ InexactAccepted libraries unwritten fields) ∧
      (DecodingsInside libraries unwritten fields ↔ ¬ OverrunReached libraries unwritten fields) :=
  ⟨sizesExact_iff, decodingsInside_iff⟩

/-- The payload of an AES key with other texts for `iv` and `c1`. -/
def sizedPayload (iv c1 : List UInt8) : List (List UInt8 × JsonValue) :=
  let zeros : JsonValue := .string (List.replicate 22 65 ++ [61, 61])
  [(ascii "containerVersion", .integer 4), (ascii "keyType", .string (ascii "AES-128")),
    (ascii "encryptedKey", zeros), (ascii "iv", .string iv), (ascii "keyUsage", .integer 3),
    (ascii "c1", .string c1), (ascii "c2", zeros), (ascii "c3", zeros)]

/-- An `iv` of three bytes is accepted, and one of fifteen goes behind its array. -/
theorem payloadSizes_not_exact :
    ¬ (∀ libraries unwritten fields, SizesExact libraries unwritten fields) ∧
      ¬ ∀ libraries unwritten fields, DecodingsInside libraries unwritten fields := by
  let libraries := plainLibraries [] fun _ => none
  let zeros : List UInt8 := List.replicate 22 65 ++ [61, 61]
  constructor
  · intro h
    have hparsed : (parsePayload libraries zeroMemory
        (sizedPayload (List.replicate 4 65) zeros)).isOk = true := by
      decide +kernel
    obtain ⟨payload, hpayload⟩ := isOk_iff.1 hparsed
    obtain ⟨bytes, hdecoded, hlength⟩ := h _ _ _ payload hpayload ivMember List.mem_cons_self
    have hshort : ivMember.decoded libraries zeroMemory
        (sizedPayload (List.replicate 4 65) zeros) = some [0, 0, 0] := by
      decide +kernel
    rw [hshort] at hdecoded
    cases hdecoded
    cases hlength
  · intro h
    have hlong : (12, 15) ∈ Appends.written (payloadSteps libraries zeroMemory
        (sizedPayload (List.replicate 20 65) zeros)) := by
      decide +kernel
    exact absurd (h _ _ _ _ hlong) (by decide)

end TaSecureApi
