import TaSecureApi.ContainerBinding

namespace TaSecureApi
set_option autoImplicit true

/-- The entries of the array that the loop over the entitled TA IDs writes, from an index on. -/
def taIdWrites (unwritten : Unwritten) : Nat → List JsonValue → List Nat
  | _, [] => []
  | i, value :: values =>
    let (taIdLength, taId) := jsonValueAsString (unwritten.length (.taId i)) value
    if taIdLength ≠ uuidLength then []
    else
      match taId with
      | none => [i]
      | some _ => i :: taIdWrites unwritten (i + 1) values

/-- The entries that `parse_payload` writes, if it gets to them. -/
def entitledTaIdWrites (libraries : Libraries) (unwritten : Unwritten)
    (fields : List (List UInt8 × JsonValue)) : List Nat :=
  match parsePayloadKey libraries unwritten fields with
  | .error _ => []
  | .ok _ =>
    match jsonKeyValueFind "entitledTaIds" fields with
    | none => []
    | some value => taIdWrites unwritten 0 ((jsonValueAsArray 0 value).2.getD [])

/-- Texts of the right length up to the end of the array, and one more entry that has it. -/
def TaIdsBehind (unwritten : Unwritten) (i : Nat) (values : List JsonValue) : Prop :=
  ∃ (before : List (List UInt8)) (entry : JsonValue) (behind : List JsonValue),
    values = before.map JsonValue.string ++ entry :: behind ∧
    (∀ id ∈ before, id.length = uuidLength) ∧
    i + before.length = maxNumAllowedTaIds ∧
    (jsonValueAsString (unwritten.length (.taId maxNumAllowedTaIds)) entry).1 = uuidLength

section Writes

variable {libraries : Libraries} {unwritten : Unwritten} {i : Nat} {value : JsonValue}
  {values : List JsonValue} {fields : List (List UInt8 × JsonValue)}

theorem taIdWrites_string (h : text.length = uuidLength) :
    taIdWrites unwritten i (.string text :: values) = i :: taIdWrites unwritten (i + 1) values := by
  simp only [taIdWrites, jsonValueAsString, h, ne_eq, not_true, if_false]

theorem taIdWrites_wrong_length
    (h : (jsonValueAsString (unwritten.length (.taId i)) value).1 ≠ uuidLength) :
    taIdWrites unwritten i (value :: values) = [] := by
  rw [taIdWrites]
  exact if_pos h

theorem taIdWrites_other
    (h : (jsonValueAsString (unwritten.length (.taId i)) value).1 = uuidLength)
    (hvalue : ∀ text, value ≠ .string text) : taIdWrites unwritten i (value :: values) = [i] := by
  simp only [taIdWrites, h, ne_eq, not_true, if_false]
  cases value with
  | string text => exact absurd rfl (hvalue text)
  | _ => rfl

theorem taIdWrites_of_ok (hi : i ≤ maxNumAllowedTaIds)
    (h : copyTaIds unwritten i values = .ok ids) :
    taIdWrites unwritten i values = List.range' i ids.length := by
  obtain ⟨rfl, hlengths, hroom⟩ := (copyTaIds_eq_ok hi).1 h
  clear h hi hroom
  induction ids generalizing i with
  | nil => rfl
  | cons id ids ih =>
    rw [List.map_cons, taIdWrites_string (hlengths id List.mem_cons_self), List.length_cons,
      List.range'_succ, ih fun id hid => hlengths id (List.mem_cons_of_mem _ hid)]

/-- The loop writes behind the array when it fills it and has one more entry to write. -/
theorem taIdWrites_behind (hi : i ≤ maxNumAllowedTaIds) :
    (∃ j ∈ taIdWrites unwritten i values, maxNumAllowedTaIds ≤ j) ↔
      TaIdsBehind unwritten i values := by
  induction values generalizing i with
  | nil =>
    constructor
    · intro ⟨_, hj, _⟩
      cases hj
    · intro ⟨_, _, _, hvalues, _⟩
      simp at hvalues
  | cons value values ih =>
    obtain rfl | hi := Nat.eq_or_lt_of_le hi
    · -- the array is full
      constructor
      · intro ⟨j, hj, _⟩
        refine ⟨[], value, values, rfl, nofun, rfl, ?_⟩
        by_contra hlength
        rw [taIdWrites_wrong_length hlength] at hj
        cases hj
      · intro ⟨before, entry, behind, hvalues, _, hroom, hlength⟩
        obtain rfl := List.length_eq_zero_iff.1 (Nat.add_eq_left.1 hroom)
        obtain ⟨rfl, _⟩ := List.cons.inj hvalues
        refine ⟨maxNumAllowedTaIds, ?_, le_rfl⟩
        rw [taIdWrites]
        simp only [hlength, ne_eq, not_true, if_false]
        split <;> exact List.mem_cons_self
    · by_cases hvalue : ∃ text, value = .string text ∧ text.length = uuidLength
      · obtain ⟨text, rfl, htext⟩ := hvalue
        have hnot : ¬ maxNumAllowedTaIds ≤ i := Nat.not_le.2 hi
        rw [taIdWrites_string htext, List.exists_mem_cons_iff, or_iff_right hnot, ih hi]
        constructor
        · intro ⟨before, entry, behind, hvalues, hlengths, hroom, hentry⟩
          refine ⟨text :: before, entry, behind, by rw [hvalues]; rfl, ?_, ?_, hentry⟩
          · exact List.forall_mem_cons.2 ⟨htext, hlengths⟩
          · rw [List.length_cons]
            omega
        · intro ⟨before, entry, behind, hvalues, hlengths, hroom, hentry⟩
          cases before with
          | nil =>
            rw [List.length_nil] at hroom
            omega
          | cons id before =>
            rw [List.length_cons] at hroom
            exact ⟨before, entry, behind, (List.cons.inj hvalues).2,
              (List.forall_mem_cons.1 hlengths).2, by omega, hentry⟩
      · -- an entry that is no text of the right length ends the loop
        constructor
        · intro ⟨j, hj, hbehind⟩
          by_cases hlength :
              (jsonValueAsString (unwritten.length (.taId i)) value).1 = uuidLength
          · have hother (text : List UInt8) : value ≠ .string text := by
              rintro rfl
              exact hvalue ⟨text, rfl, hlength⟩
            rw [taIdWrites_other hlength hother, List.mem_singleton] at hj
            omega
          · rw [taIdWrites_wrong_length hlength] at hj
            cases hj
        · intro ⟨before, entry, behind, hvalues, hlengths, hroom, _⟩
          cases before with
          | nil =>
            rw [List.length_nil] at hroom
            omega
          | cons id before =>
            exact absurd ⟨id, (List.cons.inj hvalues).1, hlengths id List.mem_cons_self⟩ hvalue

theorem copyTaIds_of_behind (h : TaIdsBehind unwritten i values) :
    copyTaIds unwritten i values = .error .undefined := by
  obtain ⟨before, entry, behind, rfl, hlengths, hroom, hentry⟩ := h
  induction before generalizing i with
  | nil =>
    obtain rfl : i = maxNumAllowedTaIds := hroom
    exact copyTaIds_undefined hentry (.inr le_rfl)
  | cons id before ih =>
    obtain ⟨hid, hlengths⟩ := List.forall_mem_cons.1 hlengths
    rw [List.length_cons] at hroom
    rw [List.map_cons, List.cons_append, copyTaIds_string hid (by omega),
      ih hlengths (by omega)]
    rfl

end Writes

/-- The usage passes the checks of `build_aad`. -/
def UsageAccepted (unwritten : Unwritten) (payload : SocKcPayload) : Prop :=
  (payload.keyUsage ≠ 0 ∧ payload.keyUsage ≤ socDataAndKey) ∧ (payload.keyUsage = keyOnly →
    ∀ name ∈ hmacNames, agreesWith unwritten name payload.keyTypeString = false)

def DecryptedUsageAccepted (payload : SocKcPayload) : Prop :=
  payload.keyUsage = keyOnly →
    payload.decryptedKeyUsage ≠ 0 ∧ payload.decryptedKeyUsage ≤ socDataAndKey

/-- The name of the key type, or all of the members, are too long for the AAD, and are appended. -/
def LongAad (unwritten : Unwritten) (payload : SocKcPayload) : Prop :=
  let names := (rootKeyTypeText payload.rootKeyType).length + payload.keyTypeString.length
  4 ≤ payload.containerVersion ∧ payload.keyTypeString ≠ [] ∧
    (maxAadSize < 8 + names ∨
      UsageAccepted unwritten payload ∧ (maxAadSize < 9 + names ∨
        DecryptedUsageAccepted payload ∧
        maxAadSize < (if payload.keyUsage = keyOnly then 70 else 69) + names +
          uuidLength * payload.entitledTaIds.length))

instance : Decidable (UsageAccepted unwritten payload) := by
  unfold UsageAccepted
  infer_instance

instance : Decidable (DecryptedUsageAccepted payload) := by
  unfold DecryptedUsageAccepted
  infer_instance

section Aad

variable {libraries : Libraries} {unwritten memory : Unwritten} {alg : List UInt8}
  {payload : SocKcPayload} {fields : List (List UInt8 × JsonValue)}

theorem parseEntitledTaIds_room (h : parseEntitledTaIds unwritten fields = .ok taIds) :
    taIds.length ≤ maxNumAllowedTaIds := by
  unfold parseEntitledTaIds at h
  split at h
  · cases h
    exact Nat.zero_le _
  · have hroom := ((copyTaIds_eq_ok (Nat.zero_le _)).1 h).2.2
    rwa [Nat.zero_add] at hroom

theorem parsePayload_room (h : parsePayload libraries unwritten fields = .ok payload) :
    payload.entitledTaIds.length ≤ maxNumAllowedTaIds := by
  simp only [parsePayload, bind_eq_ok, pure, Except.pure, Except.ok.injEq] at h
  obtain ⟨_, _, taIds, htaIds, _, _, _, _, _, _, rfl⟩ := h
  exact parseEntitledTaIds_room htaIds

theorem flatten_taIds_length {taIds : List (List UInt8)}
    (h : ∀ taId ∈ taIds, taId.length = uuidLength) :
    (taIds.map (·.map lowerCase)).flatten.length = uuidLength * taIds.length := by
  induction taIds with
  | nil => rfl
  | cons taId taIds ih =>
    obtain ⟨hhead, htail⟩ := List.forall_mem_cons.1 h
    rw [List.map_cons, List.flatten_cons, List.length_append, List.length_map, hhead, ih htail,
      List.length_cons, Nat.mul_succ, Nat.add_comm]

theorem written_aadSteps_alg (h : alg ≠ ascii "A128GCM") :
    Appends.written (aadSteps memory alg payload) = [] := by
  simp only [aadSteps, List.cons_append, Appends.written, h, decide_false, Bool.false_eq_true,
    if_false]

theorem written_aadSteps_length (hparsed : SocParsed payload)
    (hroom : payload.entitledTaIds.length ≤ maxNumAllowedTaIds) :
    (Appends.written (aadSteps memory (ascii "A128GCM") payload)).length =
      7 + if 4 ≤ payload.containerVersion then
        1 + (rootKeyTypeText payload.rootKeyType).length + if payload.keyTypeString ≠ [] then
          payload.keyTypeString.length + if UsageAccepted memory payload then
            1 + if DecryptedUsageAccepted payload then
              (if payload.keyUsage = keyOnly then 61 else 60) +
                uuidLength * payload.entitledTaIds.length
            else 0
          else 0
        else 0
      else 0 := by
  have halg : (ascii "A128GCM").length = 7 := by decide
  have hids := flatten_taIds_length hparsed.entitledTaIds
  have hitems : (Appends.written ((payload.entitledTaIds.map (·.map lowerCase)).map
      Appends.Step.append)).length = uuidLength * payload.entitledTaIds.length := by
    rw [Appends.written_of_passes (Appends.passes_map_append _), Appends.items_map_append, hids]
  by_cases hkey : payload.keyUsage = keyOnly
  · simp only [aadSteps, hparsed.rootKeyTypeText_eq, List.cons_append, List.nil_append,
      Appends.written, decide_true, if_true, decide_eq_true_eq, apply_ite List.length,
      List.length_append, List.length_cons, List.length_nil, halg, Vector.length_toList, hroom,
      hkey, UsageAccepted, DecryptedUsageAccepted, hitems, ite_and, true_imp_iff]
    split_ifs <;> omega
  · simp only [aadSteps, hparsed.rootKeyTypeText_eq, List.cons_append, List.nil_append,
      Appends.written, decide_true, if_true, decide_eq_true_eq, apply_ite List.length,
      List.length_append, List.length_cons, List.length_nil, halg, Vector.length_toList, hroom,
      hkey, if_false, UsageAccepted, DecryptedUsageAccepted, hitems, ite_and, false_imp_iff,
      and_true, if_true]
    split_ifs <;> omega

/-- What `build_aad` appends to a payload that was parsed goes behind the AAD. -/
theorem written_aadSteps_behind (hparsed : SocParsed payload)
    (hroom : payload.entitledTaIds.length ≤ maxNumAllowedTaIds) :
    maxAadSize < (Appends.written (aadSteps memory (ascii "A128GCM") payload)).length ↔
      LongAad memory payload := by
  have hroot : (rootKeyTypeText payload.rootKeyType).length ≤ 6 := by
    cases payload.rootKeyType <;> decide
  have hsize : maxAadSize = 1300 := rfl
  rw [written_aadSteps_length hparsed hroom, hsize]
  unfold LongAad
  dsimp only
  rw [hsize]
  grind

end Aad

/-- Every entry that `parse_payload` writes is one of the array. -/
def TaIdsInside (libraries : Libraries) (unwritten : Unwritten)
    (fields : List (List UInt8 × JsonValue)) : Prop :=
  ∀ i ∈ entitledTaIdWrites libraries unwritten fields, i < maxNumAllowedTaIds

/-- All that `build_aad` appends has room in the AAD. -/
def AadInside (unwritten : Unwritten) (alg : List UInt8) (payload : SocKcPayload) : Prop :=
  (Appends.written (aadSteps unwritten alg payload)).length ≤ maxAadSize

/-- The members in front of the TA IDs are parsed, and there are too many of these. -/
def ManyTaIds (libraries : Libraries) (unwritten : Unwritten)
    (fields : List (List UInt8 × JsonValue)) : Prop :=
  (∃ key, parsePayloadKey libraries unwritten fields = .ok key) ∧
    ∃ values, jsonKeyValueFind "entitledTaIds" fields = some (.array values) ∧
      TaIdsBehind unwritten 0 values

section Arrays

variable {libraries : Libraries} {unwritten : Unwritten} {alg : List UInt8}
  {payload : SocKcPayload} {fields : List (List UInt8 × JsonValue)}

theorem taIdsInside_iff :
    TaIdsInside libraries unwritten fields ↔ ¬ ManyTaIds libraries unwritten fields := by
  rw [iff_not_comm, TaIdsInside]
  simp only [not_forall, Nat.not_lt, exists_prop]
  unfold entitledTaIdWrites ManyTaIds
  cases hkey : parsePayloadKey libraries unwritten fields with
  | error e => simp
  | ok key =>
    cases hfield : jsonKeyValueFind "entitledTaIds" fields with
    | none => simp
    | some value =>
      dsimp only
      rw [taIdWrites_behind (Nat.zero_le _)]
      cases value with
      | array values => simp [jsonValueAsArray]
      | _ => simp [jsonValueAsArray, TaIdsBehind]

theorem aadInside_iff (h : parsePayload libraries unwritten fields = .ok payload) :
    AadInside unwritten alg payload ↔ ¬ (alg = ascii "A128GCM" ∧ LongAad unwritten payload) := by
  unfold AadInside
  by_cases halg : alg = ascii "A128GCM"
  · rw [halg, ← Nat.not_lt, written_aadSteps_behind (parsePayload_parsed h) (parsePayload_room h),
      eq_self, true_and]
  · rw [written_aadSteps_alg halg]
    simp [halg]

end Arrays

/-- Processing a payload stays inside the arrays but for more TA IDs than the array has entries, and
for names that are too long. -/
theorem containerArrays_inside (libraries : Libraries) (unwritten : Unwritten)
    (fields : List (List UInt8 × JsonValue)) :
    (TaIdsInside libraries unwritten fields ↔ ¬ ManyTaIds libraries unwritten fields) ∧
      ∀ payload, parsePayload libraries unwritten fields = .ok payload →
        ∀ alg, AadInside unwritten alg payload ↔
          ¬ (alg = ascii "A128GCM" ∧ LongAad unwritten payload) :=
  ⟨taIdsInside_iff, fun _ h _ => aadInside_iff h⟩

/-- The entry behind the array is written for the 33rd TA ID. -/
theorem containerArrays_not_inside : ¬ ∀ libraries unwritten fields,
    TaIdsInside libraries unwritten fields ∧
      ∀ payload, parsePayload libraries unwritten fields = .ok payload →
        ∀ alg, AadInside unwritten alg payload := by
  intro h
  let taIds : JsonValue := .array (List.replicate 33 (.string (List.replicate 36 48)))
  let fields := (jsonValueAsMap (aesPayload [(ascii "entitledTaIds", taIds)])).getD []
  have hwritten : 32 ∈ entitledTaIdWrites (plainLibraries [] fun _ => none) zeroMemory fields := by
    decide +kernel
  exact absurd ((h _ _ _).1 32 hwritten) (by decide)

end TaSecureApi
