import TaSecureApi.Lib.Appends
import TaSecureApi.SocKeyContainer

namespace TaSecureApi
set_option autoImplicit true

/-- The names of the HMAC keys in `build_aad`. -/
def hmacNames : List String := ["HMAC-128", "HMAC-160", "HMAC-256"]

/-- The checks and the pieces of `build_aad`, in their order. -/
def aadSteps (unwritten : Unwritten) (alg : List UInt8) (payload : SocKcPayload) :
    List (Appends.Step UInt8) :=
  ([.check (alg = ascii "A128GCM"), .append alg,
    .check (4 ≤ payload.containerVersion), .append [payload.containerVersion],
    .append (if 5 ≤ payload.containerVersion then rootKeyTypeText payload.rootKeyType else []),
    .check (payload.keyTypeString ≠ []), .append payload.keyTypeString,
    .check (payload.keyUsage ≠ 0 ∧ payload.keyUsage ≤ socDataAndKey),
    .check (payload.keyUsage = keyOnly →
      ∀ name ∈ hmacNames, agreesWith unwritten name payload.keyTypeString = false),
    .append [payload.keyUsage]] : List (Appends.Step UInt8)) ++
  (if payload.keyUsage = keyOnly then
    [.check (payload.decryptedKeyUsage ≠ 0 ∧ payload.decryptedKeyUsage ≤ socDataAndKey),
      .append [payload.decryptedKeyUsage]]
  else []) ++
  ([.append payload.iv.toList, .append payload.keyLadderInputs.c1.toList,
    .append payload.keyLadderInputs.c2.toList, .append payload.keyLadderInputs.c3.toList,
    .check (payload.entitledTaIds.length ≤ maxNumAllowedTaIds)] : List (Appends.Step UInt8)) ++
  (payload.entitledTaIds.map (·.map lowerCase)).map Appends.Step.append

/-- What `build_aad` puts together when no check fails. -/
def socAad (alg : List UInt8) (payload : SocKcPayload) : List UInt8 :=
  alg ++ [payload.containerVersion] ++
    (if 5 ≤ payload.containerVersion then rootKeyTypeText payload.rootKeyType else []) ++
    payload.keyTypeString ++ [payload.keyUsage] ++
    (if payload.keyUsage = keyOnly then [payload.decryptedKeyUsage] else []) ++
    payload.iv.toList ++ payload.keyLadderInputs.c1.toList ++ payload.keyLadderInputs.c2.toList ++
    payload.keyLadderInputs.c3.toList ++ (payload.entitledTaIds.map (·.map lowerCase)).flatten

/-- The checks of `build_aad`. -/
structure AadChecked (unwritten : Unwritten) (alg : List UInt8)
    (payload : SocKcPayload) : Prop where
  alg : alg = ascii "A128GCM"
  containerVersion : 4 ≤ payload.containerVersion
  keyTypeString : payload.keyTypeString ≠ []
  keyUsage : payload.keyUsage ≠ 0 ∧ payload.keyUsage ≤ socDataAndKey
  hmac : payload.keyUsage = keyOnly →
    ∀ name ∈ hmacNames, agreesWith unwritten name payload.keyTypeString = false
  decryptedKeyUsage : payload.keyUsage = keyOnly →
    payload.decryptedKeyUsage ≠ 0 ∧ payload.decryptedKeyUsage ≤ socDataAndKey
  entitledTaIds : payload.entitledTaIds.length ≤ maxNumAllowedTaIds

section Aad

variable {unwritten : Unwritten} {alg aad bytes : List UInt8} {payload : SocKcPayload}

theorem demand_bind {c : Prop} [Decidable c] {f : Unit → Except Stop α} :
    (demand c e >>= f) = if c then f () else .error (.status e) := by
  unfold demand
  split <;> rfl

theorem appendAad_bind {f : List UInt8 → Except Stop α} : (appendAad aad bytes >>= f) =
    if aad.length + bytes.length > maxAadSize then .error .undefined else f (aad ++ bytes) := by
  unfold appendAad
  split <;> rfl

theorem appendTaIds_eq_run (taIds : List (List UInt8)) : appendTaIds aad taIds =
    Appends.run maxAadSize (.status .invalidKeyFormat) .undefined aad
      ((taIds.map (·.map lowerCase)).map Appends.Step.append) := by
  induction taIds generalizing aad with
  | nil => rfl
  | cons taId taIds ih => simp only [appendTaIds, appendAad_bind, ih, List.map_cons, Appends.run]

theorem buildAad_eq_run : buildAad unwritten alg payload =
    Appends.run maxAadSize (.status .invalidKeyFormat) .undefined []
      (aadSteps unwritten alg payload) := by
  have hhmac : (∀ name ∈ hmacNames, agreesWith unwritten name payload.keyTypeString = false) ↔
      ¬ (agreesWith unwritten "HMAC-128" payload.keyTypeString ∨
        agreesWith unwritten "HMAC-160" payload.keyTypeString ∨
        agreesWith unwritten "HMAC-256" payload.keyTypeString) := by
    simp [hmacNames]
  by_cases husage : payload.keyUsage = keyOnly
  · simp only [buildAad, aadSteps, husage, if_true, demand_bind, appendAad_bind,
      appendTaIds_eq_run, List.cons_append, List.nil_append, Appends.run, decide_eq_true_eq, hhmac,
      true_and, forall_const]
  · simp only [buildAad, aadSteps, husage, if_false, demand_bind, appendAad_bind,
      appendTaIds_eq_run, List.cons_append, List.nil_append, Appends.run, decide_eq_true_eq,
      false_and, false_implies, not_false_eq_true]
    rfl

theorem items_aadSteps : Appends.items (aadSteps unwritten alg payload) = socAad alg payload := by
  rw [aadSteps, socAad, Appends.items_append, Appends.items_append, Appends.items_append,
    Appends.items_map_append]
  by_cases hkey : payload.keyUsage = keyOnly
  · simp [Appends.items, hkey]
  · simp [Appends.items, hkey]

theorem passes_aadSteps :
    Appends.Passes (aadSteps unwritten alg payload) ↔ AadChecked unwritten alg payload := by
  simp only [aadSteps, Appends.passes_append_steps, Appends.passes_map_append, and_true]
  constructor
  · intro ⟨⟨h₁, h₂⟩, h₃⟩
    simp only [Appends.passes_check, Appends.passes_append, decide_eq_true_eq] at h₁ h₃
    obtain ⟨halg, hversion, hname, husage, hhmac, _⟩ := h₁
    refine ⟨halg, hversion, hname, husage, hhmac, fun hkey => ?_, h₃.1⟩
    rw [if_pos hkey] at h₂
    simpa using h₂
  · intro h
    refine ⟨⟨?_, ?_⟩, ?_⟩
    · simp only [Appends.passes_check, Appends.passes_append, decide_eq_true_eq]
      exact ⟨h.alg, h.containerVersion, h.keyTypeString, h.keyUsage, h.hmac, Appends.passes_nil⟩
    · split
      · rename_i hkey
        simpa using h.decryptedKeyUsage hkey
      · exact Appends.passes_nil
    · simpa using h.entitledTaIds

theorem buildAad_eq_ok : buildAad unwritten alg payload = .ok aad ↔
    AadChecked unwritten alg payload ∧ (socAad alg payload).length ≤ maxAadSize ∧
      aad = socAad alg payload := by
  rw [buildAad_eq_run, Appends.run_eq_ok (Nat.zero_le _), passes_aadSteps, items_aadSteps,
    List.nil_append]

end Aad

end TaSecureApi
