import TaSecureApi.ContainerAad
import TaSecureApi.ContainerTags

namespace TaSecureApi
set_option autoImplicit true

/-- A text that is taken for a name though it is another one: a beginning of the name, or the name
with its terminating zero and what memory holds behind it. -/
def Mistaken (unwritten : Unwritten) (name : String) (text : List UInt8) : Prop :=
  (text <+: ascii name ∧ text ≠ ascii name) ∨
    ∃ n, text = ascii name ++ [0] ++ (List.range n).map fun i =>
      unwritten.byte (.literal name) ((ascii name ++ [0]).length + i)

section Comparison

variable {unwritten : Unwritten} {name : String} {text : List UInt8}

theorem map_range_getD (bytes : List UInt8) (f : Nat → UInt8) (n : Nat) :
    (List.range (bytes.length + n)).map (fun i => bytes.getD i (f i)) =
      bytes ++ (List.range n).map fun i => f (bytes.length + i) := by
  rw [List.range_add, List.map_append, List.map_map]
  congr 1
  · apply List.ext_getElem
    · simp
    · intro i _ hi
      simp [hi]
  · apply List.map_congr_left
    intro i _
    simp

theorem map_range_getD_take (bytes : List UInt8) (f : Nat → UInt8) {n : Nat}
    (h : n ≤ bytes.length) :
    (List.range n).map (fun i => bytes.getD i (f i)) = bytes.take n := by
  apply List.ext_getElem
  · simp [h]
  · intro i hi _
    have hlt : i < bytes.length := by
      rw [List.length_map, List.length_range] at hi
      omega
    simp [hlt]

theorem agreesWith_iff :
    agreesWith unwritten name text = true ↔ text = ascii name ∨ Mistaken unwritten name text := by
  rw [agreesWith, decide_eq_true_iff]
  by_cases hle : text.length ≤ (ascii name).length
  · rw [map_range_getD_take _ _ (by simp; omega), List.take_append_of_le_length hle,
      ← List.prefix_iff_eq_take]
    constructor
    · intro h
      by_cases heq : text = ascii name
      · exact .inl heq
      · exact .inr (.inl ⟨h, heq⟩)
    · intro h
      obtain rfl | ⟨h, _⟩ | ⟨n, h⟩ := h
      · exact List.prefix_rfl
      · exact h
      · rw [h] at hle
        simp at hle
  · obtain ⟨n, hn⟩ := Nat.exists_eq_add_of_lt (Nat.lt_of_not_le hle)
    have hlength : text.length = (ascii name ++ [0]).length + n := by
      rw [hn, List.length_append, List.length_singleton]
      omega
    rw [hlength, map_range_getD]
    constructor
    · intro h
      exact .inr (.inr ⟨n, h⟩)
    · intro h
      obtain rfl | ⟨h, _⟩ | ⟨n', h⟩ := h
      · exact absurd le_rfl hle
      · exact absurd h.length_le hle
      · have hn' : n' = n := by
          rw [h] at hlength
          simp only [List.length_append, List.length_map, List.length_range] at hlength
          omega
        rw [← hn']
        exact h

end Comparison

/-- Names of which none begins another, and none has a zero. -/
structure PrefixFree (names : List String) : Prop where
  eq_of_prefix : ∀ name ∈ names, ∀ other ∈ names, ascii name <+: ascii other → name = other
  no_zero : ∀ name ∈ names, 0 ∉ ascii name

/-- The names of the root key types in `parse_payload`. -/
def rootKeyNames : List String := ["unique", "common"]

theorem prefixFree_socKeyKinds : PrefixFree (socKeyKinds.map (·.name)) :=
  ⟨by decide +kernel, by decide +kernel⟩

theorem prefixFree_hmacNames : PrefixFree hmacNames := ⟨by decide +kernel, by decide +kernel⟩

theorem prefixFree_rootKeyNames : PrefixFree rootKeyNames := ⟨by decide +kernel, by decide +kernel⟩

section Names

variable {unwritten : Unwritten} {names : List String} {name : String} {text : List UInt8}

theorem PrefixFree.ne_of_mistaken (h : PrefixFree names) (hname : name ∈ names)
    (hother : other ∈ names) (hmistaken : Mistaken unwritten name text) : text ≠ ascii other := by
  intro htext
  subst htext
  obtain ⟨hbegins, hne⟩ | ⟨n, heq⟩ := hmistaken
  · exact hne (by rw [h.eq_of_prefix other hother name hname hbegins])
  · apply h.no_zero other hother
    rw [heq]
    simp

theorem agreesWith_of_not_mistaken (h : ¬ Mistaken unwritten name text) :
    agreesWith unwritten name text = true ↔ text = ascii name := by
  rw [agreesWith_iff, or_iff_left h]

end Names

/-- The name of a key type gives its type, size and curve, and no other text gives any. -/
def KeyTypeExact (unwritten : Unwritten) (text : List UInt8) : Prop :=
  ∀ kind, getKeyTypeAndSize unwritten text = some kind ↔
    kind ∈ socKeyKinds ∧ text = ascii kind.name

/-- The other checks of `build_aad`. -/
structure AadForm (alg : List UInt8) (payload : SocKcPayload) : Prop where
  alg : alg = ascii "A128GCM"
  containerVersion : 4 ≤ payload.containerVersion
  keyTypeString : payload.keyTypeString ≠ []
  keyUsage : payload.keyUsage ≠ 0 ∧ payload.keyUsage ≤ socDataAndKey
  decryptedKeyUsage : payload.keyUsage = keyOnly →
    payload.decryptedKeyUsage ≠ 0 ∧ payload.decryptedKeyUsage ≤ socDataAndKey
  entitledTaIds : payload.entitledTaIds.length ≤ maxNumAllowedTaIds

/-- `build_aad` refuses an HMAC key for key only, by its name, and no other name. -/
def HmacExact (unwritten : Unwritten) (text : List UInt8) : Prop :=
  ∀ alg payload, payload.keyTypeString = text →
    ((∃ aad, buildAad unwritten alg payload = .ok aad) ↔
      AadForm alg payload ∧ (payload.keyUsage = keyOnly → ∀ name ∈ hmacNames, text ≠ ascii name) ∧
        (socAad alg payload).length ≤ maxAadSize)

/-- A member with the root key type is accepted for the two names alone. -/
def RootKeyTypeExact (unwritten : Unwritten) (text : List UInt8) : Prop :=
  ∀ fields containerVersion, 5 ≤ containerVersion →
    jsonKeyValueFind "rootKeyType" fields = some (.string text) →
    ∀ rootKeyType, parseRootKeyType unwritten fields containerVersion = .ok rootKeyType ↔
      (rootKeyType = .unique ∧ text = ascii "unique") ∨
        (rootKeyType = .common ∧ text = ascii "common")

section Exactness

variable {unwritten : Unwritten} {text : List UInt8}

theorem socKeyKinds_inj : ∀ kind ∈ socKeyKinds, ∀ kind' ∈ socKeyKinds,
    ascii kind.name = ascii kind'.name → kind = kind' := by
  intro kind hkind kind' hkind' h
  have hname := prefixFree_socKeyKinds.eq_of_prefix kind.name (List.mem_map_of_mem hkind)
    kind'.name (List.mem_map_of_mem hkind') (by rw [h])
  have hnodup : (socKeyKinds.map (·.name)).Nodup := by decide +kernel
  exact List.inj_on_of_nodup_map hnodup hkind hkind' hname

theorem getKeyTypeAndSize_agrees (h : getKeyTypeAndSize unwritten text = some kind) :
    kind ∈ socKeyKinds ∧ agreesWith unwritten kind.name text = true := by
  unfold getKeyTypeAndSize at h
  exact ⟨List.mem_of_find?_eq_some h, by simpa using List.find?_some h⟩

theorem exists_getKeyTypeAndSize (hkind : kind ∈ socKeyKinds)
    (h : agreesWith unwritten kind.name text = true) :
    ∃ kind', getKeyTypeAndSize unwritten text = some kind' :=
  Option.isSome_iff_exists.1 (List.find?_isSome.2 ⟨kind, hkind, h⟩)

theorem keyTypeExact_iff : KeyTypeExact unwritten text ↔
    ∀ kind ∈ socKeyKinds, ¬ Mistaken unwritten kind.name text := by
  constructor
  · intro h kind hkind hmistaken
    obtain ⟨kind', hkind'⟩ := exists_getKeyTypeAndSize hkind (agreesWith_iff.2 (.inr hmistaken))
    obtain ⟨hmem, htext⟩ := (h kind').1 hkind'
    exact prefixFree_socKeyKinds.ne_of_mistaken (List.mem_map_of_mem hkind)
      (List.mem_map_of_mem hmem) hmistaken htext
  · intro h kind
    constructor
    · intro hsome
      obtain ⟨hkind, hagrees⟩ := getKeyTypeAndSize_agrees hsome
      exact ⟨hkind, (agreesWith_of_not_mistaken (h kind hkind)).1 hagrees⟩
    · intro ⟨hkind, htext⟩
      obtain ⟨kind', hsome⟩ := exists_getKeyTypeAndSize hkind (agreesWith_iff.2 (.inl htext))
      obtain ⟨hkind', hagrees⟩ := getKeyTypeAndSize_agrees hsome
      have htext' := (agreesWith_of_not_mistaken (h kind' hkind')).1 hagrees
      rw [socKeyKinds_inj kind hkind kind' hkind' (htext.symm.trans htext')]
      exact hsome

theorem aadChecked_iff : AadChecked unwritten alg payload ↔
    AadForm alg payload ∧ (payload.keyUsage = keyOnly →
      ∀ name ∈ hmacNames, agreesWith unwritten name payload.keyTypeString = false) := by
  constructor
  · intro h
    exact ⟨⟨h.alg, h.containerVersion, h.keyTypeString, h.keyUsage, h.decryptedKeyUsage,
      h.entitledTaIds⟩, h.hmac⟩
  · intro ⟨h, hhmac⟩
    exact ⟨h.alg, h.containerVersion, h.keyTypeString, h.keyUsage, hhmac, h.decryptedKeyUsage,
      h.entitledTaIds⟩

theorem buildAad_isOk : (∃ aad, buildAad unwritten alg payload = .ok aad) ↔
    AadForm alg payload ∧ (payload.keyUsage = keyOnly →
      ∀ name ∈ hmacNames, agreesWith unwritten name payload.keyTypeString = false) ∧
      (socAad alg payload).length ≤ maxAadSize := by
  simp only [buildAad_eq_ok, aadChecked_iff, and_assoc, exists_and_left, exists_eq, and_true]

def namedPayload (text : List UInt8) : SocKcPayload where
  containerVersion := 4
  rootKeyType := .undefined
  keyTypeString := text
  encryptedKey := []
  iv := .replicate 12 0
  keyUsage := keyOnly
  decryptedKeyUsage := 1
  entitledTaIds := []
  keyLadderInputs := ⟨.replicate 16 0, .replicate 16 0, .replicate 16 0⟩

theorem namedPayload_length :
    (socAad (ascii "A128GCM") (namedPayload text)).length = 70 + text.length := by
  have halg : (ascii "A128GCM").length = 7 := by decide
  simp [socAad, namedPayload, halg, keyOnly]
  omega

theorem socAad_length_le (h : AadForm alg payload) (hkey : payload.keyUsage = keyOnly) :
    70 + payload.keyTypeString.length ≤ (socAad alg payload).length := by
  have halg : (ascii "A128GCM").length = 7 := by decide
  simp only [socAad, h.alg, halg, hkey, if_true, List.length_append, List.length_singleton,
    Vector.length_toList]
  omega

theorem hmacExact_iff : HmacExact unwritten text ↔
    text = [] ∨ maxAadSize < 70 + text.length ∨
      ∀ name ∈ hmacNames, ¬ Mistaken unwritten name text := by
  constructor
  · intro h
    by_contra hnot
    simp only [not_or, not_lt, not_forall, not_not] at hnot
    obtain ⟨hne, hlength, name, hname, hmistaken⟩ := hnot
    -- the payload with the name is refused, though it names no HMAC key
    have hform : AadForm (ascii "A128GCM") (namedPayload text) := {
      alg := rfl
      containerVersion := (by decide : (4 : UInt8) ≤ 4)
      keyTypeString := hne
      keyUsage := (by decide : keyOnly ≠ 0 ∧ keyOnly ≤ socDataAndKey)
      decryptedKeyUsage := fun _ => (by decide : (1 : UInt8) ≠ 0 ∧ 1 ≤ socDataAndKey)
      entitledTaIds := Nat.zero_le _ }
    have hok := (h (ascii "A128GCM") (namedPayload text) rfl).2 ⟨hform, fun _ other hother =>
      prefixFree_hmacNames.ne_of_mistaken hname hother hmistaken, by
        rw [namedPayload_length]
        exact hlength⟩
    obtain ⟨_, hhmac, _⟩ := buildAad_isOk.1 hok
    have hagrees : agreesWith unwritten name text = true := agreesWith_iff.2 (.inr hmistaken)
    have hrefused : agreesWith unwritten name text = false := hhmac rfl name hname
    rw [hagrees] at hrefused
    cases hrefused
  · intro h alg payload htext
    rw [buildAad_isOk]
    apply and_congr_right
    intro hform
    by_cases hkey : payload.keyUsage = keyOnly
    · have hlength := socAad_length_le hform hkey
      rw [htext] at hlength
      obtain h | h | h := h
      · exact absurd (htext.trans h) hform.keyTypeString
      · have hlong : ¬ (socAad alg payload).length ≤ maxAadSize := by omega
        simp only [hlong, and_false]
      · have hagrees (name : String) (hname : name ∈ hmacNames) :
            agreesWith unwritten name payload.keyTypeString = false ↔ text ≠ ascii name := by
          rw [htext, ← Bool.not_eq_true, agreesWith_of_not_mistaken (h name hname)]
        simp only [hkey, forall_const]
        exact and_congr_left fun _ => forall₂_congr hagrees
    · simp only [hkey, false_implies]

theorem rootKeyTypeExact_iff : RootKeyTypeExact unwritten text ↔
    ∀ name ∈ rootKeyNames, ¬ Mistaken unwritten name text := by
  have hparse (fields : List (List UInt8 × JsonValue)) (containerVersion : UInt8)
      (hversion : 5 ≤ containerVersion)
      (hfield : jsonKeyValueFind "rootKeyType" fields = some (.string text)) :
      parseRootKeyType unwritten fields containerVersion =
        if agreesWith unwritten "unique" text then .ok .unique
        else if agreesWith unwritten "common" text then .ok .common
        else .error (.status .invalidKeyFormat) := by
    rw [parseRootKeyType, if_neg (UInt8.not_lt.2 hversion)]
    simp only [hfield, jsonValueAsString]
  have hdiffer : ascii "unique" ≠ ascii "common" := by decide
  constructor
  · intro h name hname hmistaken
    have hnot (other : String) (hother : other ∈ rootKeyNames) : text ≠ ascii other :=
      prefixFree_rootKeyNames.ne_of_mistaken hname hother hmistaken
    have hagrees : agreesWith unwritten name text = true := agreesWith_iff.2 (.inr hmistaken)
    have hfield : jsonKeyValueFind "rootKeyType" [(ascii "rootKeyType", .string text)] =
        some (.string text) := by
      simp [jsonKeyValueFind]
    have hexact := h _ 5 (UInt8.le_refl 5) hfield
    rw [hparse _ 5 (UInt8.le_refl 5) hfield] at hexact
    have hnone (rootKeyType : SaRootKeyType) : ¬ ((rootKeyType = .unique ∧ text = ascii "unique") ∨
        (rootKeyType = .common ∧ text = ascii "common")) := by
      simp only [hnot "unique" (by decide), hnot "common" (by decide), and_false, or_self,
        not_false_eq_true]
    by_cases hunique : agreesWith unwritten "unique" text = true
    · rw [if_pos hunique] at hexact
      exact hnone .unique ((hexact .unique).1 rfl)
    · have hcommon : agreesWith unwritten "common" text = true := by
        obtain rfl | rfl : name = "unique" ∨ name = "common" := by simpa [rootKeyNames] using hname
        · exact absurd hagrees hunique
        · exact hagrees
      rw [if_neg hunique, if_pos hcommon] at hexact
      exact hnone .common ((hexact .common).1 rfl)
  · intro h fields containerVersion hversion hfield rootKeyType
    have hunique := agreesWith_of_not_mistaken (h "unique" (by decide))
    have hcommon := agreesWith_of_not_mistaken (h "common" (by decide))
    rw [hparse fields containerVersion hversion hfield]
    simp only [hunique, hcommon]
    by_cases htext : text = ascii "unique"
    · simp [htext, hdiffer, eq_comm]
    by_cases htext' : text = ascii "common"
    · simp [htext', hdiffer.symm, eq_comm]
    · simp [htext, htext']

end Exactness

/-- A name is matched exactly where the text is not taken for another one; an HMAC name also where
the AAD would be refused all the same. -/
theorem containerNames_exact (unwritten : Unwritten) (text : List UInt8) :
    (KeyTypeExact unwritten text ↔ ∀ kind ∈ socKeyKinds, ¬ Mistaken unwritten kind.name text) ∧
      (HmacExact unwritten text ↔ text = [] ∨ maxAadSize < 70 + text.length ∨
        ∀ name ∈ hmacNames, ¬ Mistaken unwritten name text) ∧
      (RootKeyTypeExact unwritten text ↔ ∀ name ∈ rootKeyNames, ¬ Mistaken unwritten name text) :=
  ⟨keyTypeExact_iff, hmacExact_iff, rootKeyTypeExact_iff⟩

/-- The empty text is taken for the first name of the list. -/
theorem containerNames_not_exact : ¬ ∀ unwritten text, KeyTypeExact unwritten text ∧
    HmacExact unwritten text ∧ RootKeyTypeExact unwritten text := by
  intro h
  have hnone : getKeyTypeAndSize zeroMemory [] =
      some ⟨"AES-128", .symmetric, 16, .aesSubtype, none⟩ :=
    rfl
  obtain ⟨_, hname⟩ := ((h zeroMemory []).1 _).1 hnone
  exact absurd hname (by decide)

end TaSecureApi
