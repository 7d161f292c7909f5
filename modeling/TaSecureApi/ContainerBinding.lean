import TaSecureApi.ContainerAad
import TaSecureApi.ContainerTags
import TaSecureApi.ContainerTaLists
import TaSecureApi.Lib.Framing

namespace TaSecureApi
set_option autoImplicit true

/-- A payload as `parse_payload` makes it: optional members that are not read have one value. -/
structure SocParsed (payload : SocKcPayload) : Prop where
  rootKeyType : payload.containerVersion < 5 → payload.rootKeyType = .undefined
  decryptedKeyUsage : payload.keyUsage ≠ keyOnly → payload.decryptedKeyUsage = 0
  entitledTaIds : ∀ taId ∈ payload.entitledTaIds, taId.length = uuidLength

/-- The name of a key type is one of those that `get_key_type_and_size` lists. -/
def NamesKeyType (payload : SocKcPayload) : Prop :=
  ∃ kind ∈ socKeyKinds, payload.keyTypeString = ascii kind.name

/-- Two payloads agree on all that is authenticated; the TA IDs up to the case of their letters, and
so as UUIDs. -/
structure SameAuthenticated (payload payload' : SocKcPayload) : Prop where
  containerVersion : payload.containerVersion = payload'.containerVersion
  rootKeyType : payload.rootKeyType = payload'.rootKeyType
  keyTypeString : payload.keyTypeString = payload'.keyTypeString
  keyUsage : payload.keyUsage = payload'.keyUsage
  decryptedKeyUsage : payload.decryptedKeyUsage = payload'.decryptedKeyUsage
  iv : payload.iv = payload'.iv
  keyLadderInputs : payload.keyLadderInputs = payload'.keyLadderInputs
  entitledTaIds : payload.entitledTaIds.map (·.map lowerCase) =
    payload'.entitledTaIds.map (·.map lowerCase)
  uuids : payload.entitledTaIds.map (fun taId => convertUuid taId noMatch) =
    payload'.entitledTaIds.map fun taId => convertUuid taId noMatch

section Parsed

variable {libraries : Libraries} {unwritten : Unwritten}

theorem parseEntitledTaIds_lengths (h : parseEntitledTaIds unwritten fields = .ok taIds) :
    ∀ taId ∈ taIds, taId.length = uuidLength := by
  unfold parseEntitledTaIds at h
  split at h
  · cases h
    nofun
  · exact ((copyTaIds_eq_ok (Nat.zero_le _)).1 h).2.1

theorem parseRootKeyType_undefined (hversion : containerVersion < 5)
    (h : parseRootKeyType unwritten fields containerVersion = .ok rootKeyType) :
    rootKeyType = .undefined := by
  rw [parseRootKeyType, if_pos hversion] at h
  exact (Except.ok.inj h).symm

theorem parsePayload_parsed (h : parsePayload libraries unwritten fields = .ok payload) :
    SocParsed payload := by
  simp only [parsePayload, bind_eq_ok, pure, Except.pure, Except.ok.injEq] at h
  obtain ⟨key, hkey, taIds, htaIds, _, _, _, _, _, _, rfl⟩ := h
  simp only [parsePayloadKey, bind_eq_ok, pure, Except.pure, Except.ok.injEq] at hkey
  obtain ⟨_, _, rootKeyType, hroot, _, _, _, _, _, _, _, _, _, _, _, _, _, _, rfl⟩ := hkey
  constructor
  · intro hversion
    exact parseRootKeyType_undefined hversion hroot
  · intro husage
    exact if_neg husage
  · exact parseEntitledTaIds_lengths htaIds

end Parsed

section Texts

theorem lowerCase_lowerCase (c : UInt8) : lowerCase (lowerCase c) = lowerCase c := by
  unfold lowerCase
  grind

theorem hexDigit_lowerCase (c : UInt8) : hexDigit (lowerCase c) = hexDigit c := by
  rw [hexDigit, hexDigit, lowerCase_lowerCase]

theorem lowerCase_eq_dash (c : UInt8) : lowerCase c = 45 ↔ c = 45 := by
  unfold lowerCase
  grind

theorem convertUuidBytes_lowerCase (n : Nat) (text : List UInt8) :
    convertUuidBytes n (text.map lowerCase) = convertUuidBytes n text := by
  induction n generalizing text with
  | zero => rfl
  | succ n ih =>
    cases text with
    | nil => rfl
    | cons c text =>
      have htail : (if lowerCase c = 45 then text.map lowerCase else (c :: text).map lowerCase) =
          (if c = 45 then text else c :: text).map lowerCase := by
        simp only [lowerCase_eq_dash]
        split <;> rfl
      rw [List.map_cons, convertUuidBytes, convertUuidBytes, ← List.map_cons, htail]
      generalize (if c = 45 then text else c :: text) = tail
      rcases tail with _ | ⟨c1, _ | ⟨c2, rest⟩⟩
      · rfl
      · rfl
      · simp only [List.map_cons, hexDigit_lowerCase, ih]

theorem convertUuid_lowerCase (text : List UInt8) (uuid : SaUuid) :
    convertUuid (text.map lowerCase) uuid = convertUuid text uuid := by
  rw [convertUuid, convertUuid, List.length_map, convertUuidBytes_lowerCase]

theorem rootKeyTypeText_inj (h : rootKeyTypeText r = rootKeyTypeText r') : r = r' := by
  revert h
  cases r <;> cases r' <;> decide

theorem rootKeyTypeText_small : ∀ c ∈ rootKeyTypeText r, 97 ≤ c := by
  have hall : (rootKeyTypeText r).all (97 ≤ ·) := by
    cases r <;> decide
  intro c hc
  exact of_decide_eq_true (List.all_eq_true.1 hall c hc)

theorem socKeyKinds_text : ∀ kind ∈ socKeyKinds,
    (∃ c ∈ (ascii kind.name).head?, ¬ 97 ≤ c) ∧ ∀ c ∈ ascii kind.name, socDataAndKey < c := by
  have hall : socKeyKinds.all fun kind => (ascii kind.name).head?.any (fun c => ¬ 97 ≤ c) &&
      (ascii kind.name).all fun c => socDataAndKey < c := by
    decide +kernel
  intro kind hkind
  have h := List.all_eq_true.1 hall kind hkind
  simp only [Bool.and_eq_true, Option.any_eq_true, List.all_eq_true, decide_eq_true_eq] at h
  exact h

end Texts

section Binding

variable {libraries libraries' : Libraries} {unwritten unwritten' memory memory' : Unwritten}
  {fields fields' : List (List UInt8 × JsonValue)} {alg alg' aad : List UInt8}
  {payload payload' : SocKcPayload}

/-- The root key type in the AAD, if any, ends where the name of the key type begins, and that where
the usage is. -/
theorem names_inj {usage usage' : UInt8} {behind behind' : List UInt8}
    {r r' : SaRootKeyType} {kind kind' : SocKeyKind} (hkind : kind ∈ socKeyKinds)
    (hkind' : kind' ∈ socKeyKinds) (husage : usage ≤ socDataAndKey)
    (husage' : usage' ≤ socDataAndKey)
    (h : rootKeyTypeText r ++ (ascii kind.name ++ usage :: behind) =
      rootKeyTypeText r' ++ (ascii kind'.name ++ usage' :: behind')) :
    r = r' ∧ ascii kind.name = ascii kind'.name ∧ usage = usage' ∧ behind = behind' := by
  obtain ⟨⟨c, hc, hcapital⟩, hname⟩ := socKeyKinds_text kind hkind
  obtain ⟨⟨c', hc', hcapital'⟩, hname'⟩ := socKeyKinds_text kind' hkind'
  obtain ⟨letters, hletters⟩ := List.head?_eq_some_iff.1 hc
  obtain ⟨letters', hletters'⟩ := List.head?_eq_some_iff.1 hc'
  have hsplit := h
  rw [hletters, hletters', List.cons_append, List.cons_append] at hsplit
  obtain ⟨hroot, hfirst, hbehind⟩ := Framing.delimited_inj rootKeyTypeText_small
    rootKeyTypeText_small hcapital hcapital' hsplit
  have hnames : ascii kind.name ++ usage :: behind = ascii kind'.name ++ usage' :: behind' := by
    rw [hletters, hletters', List.cons_append, List.cons_append, hfirst, hbehind]
  obtain ⟨hequal, hrest⟩ := Framing.delimited_inj hname hname' (by simpa using husage)
    (by simpa using husage') hnames
  exact ⟨rootKeyTypeText_inj hroot, hequal, hrest⟩

theorem SocParsed.rootKeyTypeText_eq (h : SocParsed payload) :
    (if 5 ≤ payload.containerVersion then rootKeyTypeText payload.rootKeyType else []) =
      rootKeyTypeText payload.rootKeyType := by
  split
  · rfl
  · rename_i hversion
    rw [h.rootKeyType (UInt8.not_le.1 hversion)]
    rfl

theorem SocParsed.socAad_eq (h : SocParsed payload) : socAad alg payload =
    alg ++ (payload.containerVersion :: (rootKeyTypeText payload.rootKeyType ++
      (payload.keyTypeString ++ payload.keyUsage ::
        ((if payload.keyUsage = keyOnly then [payload.decryptedKeyUsage] else []) ++
          (payload.iv.toList ++ (payload.keyLadderInputs.c1.toList ++
            (payload.keyLadderInputs.c2.toList ++ (payload.keyLadderInputs.c3.toList ++
              (payload.entitledTaIds.map (·.map lowerCase)).flatten)))))))) := by
  simp only [socAad, h.rootKeyTypeText_eq, List.append_assoc, List.cons_append, List.nil_append]

theorem vector_inj {v v' : Vector UInt8 n} {behind behind' : List UInt8}
    (h : v.toList ++ behind = v'.toList ++ behind') : v = v' ∧ behind = behind' := by
  obtain ⟨hv, hbehind⟩ := List.append_inj h (by simp)
  exact ⟨Vector.toList_inj.1 hv, hbehind⟩

theorem convertUuid_of_lowerCase {taIds taIds' : List (List UInt8)}
    (h : taIds.map (·.map lowerCase) = taIds'.map (·.map lowerCase)) (uuid : SaUuid) :
    taIds.map (fun taId => convertUuid taId uuid) =
      taIds'.map fun taId => convertUuid taId uuid := by
  have hconvert := congrArg (List.map fun taId => convertUuid taId uuid) h
  simpa only [List.map_map, Function.comp_def, convertUuid_lowerCase] using hconvert

/-- Each member can be read off the AAD of a payload that was parsed and passed the checks. -/
theorem socAad_inj (hparsed : SocParsed payload) (hparsed' : SocParsed payload')
    (hname : NamesKeyType payload) (hname' : NamesKeyType payload')
    (hchecked : AadChecked memory alg payload) (hchecked' : AadChecked memory' alg' payload')
    (h : socAad alg payload = socAad alg' payload') : SameAuthenticated payload payload' := by
  rw [hparsed.socAad_eq, hparsed'.socAad_eq, hchecked.alg, hchecked'.alg] at h
  obtain ⟨hversion, h⟩ := List.cons.inj (List.append_cancel_left h)
  obtain ⟨kind, hkind, hkeyType⟩ := hname
  obtain ⟨kind', hkind', hkeyType'⟩ := hname'
  rw [hkeyType, hkeyType'] at h
  obtain ⟨hroot, hnames, husage, h⟩ :=
    names_inj hkind hkind' hchecked.keyUsage.2 hchecked'.keyUsage.2 h
  -- a usage that is not read is zero
  have hdecrypted : payload.decryptedKeyUsage = payload'.decryptedKeyUsage ∧
      payload.iv.toList ++ (payload.keyLadderInputs.c1.toList ++
        (payload.keyLadderInputs.c2.toList ++ (payload.keyLadderInputs.c3.toList ++
          (payload.entitledTaIds.map (·.map lowerCase)).flatten))) =
      payload'.iv.toList ++ (payload'.keyLadderInputs.c1.toList ++
        (payload'.keyLadderInputs.c2.toList ++ (payload'.keyLadderInputs.c3.toList ++
          (payload'.entitledTaIds.map (·.map lowerCase)).flatten))) := by
    by_cases hkey : payload.keyUsage = keyOnly
    · rw [← husage, if_pos hkey, if_pos hkey] at h
      exact List.cons.inj h
    · have hkey' : payload'.keyUsage ≠ keyOnly := by
        rw [← husage]
        exact hkey
      rw [if_neg hkey, if_neg hkey'] at h
      exact ⟨by rw [hparsed.decryptedKeyUsage hkey, hparsed'.decryptedKeyUsage hkey'], h⟩
  obtain ⟨hdecrypted, h⟩ := hdecrypted
  obtain ⟨hiv, h⟩ := vector_inj h
  obtain ⟨hc1, h⟩ := vector_inj h
  obtain ⟨hc2, h⟩ := vector_inj h
  obtain ⟨hc3, h⟩ := vector_inj h
  have hwidth {taIds : List (List UInt8)} (htaIds : ∀ taId ∈ taIds, taId.length = uuidLength) :
      ∀ taId ∈ taIds.map (·.map lowerCase), taId.length = uuidLength := by
    simpa using htaIds
  have htaIds := Framing.flatten_inj (by decide : 0 < uuidLength) (hwidth hparsed.entitledTaIds)
    (hwidth hparsed'.entitledTaIds) h
  exact {
    containerVersion := hversion
    rootKeyType := hroot
    keyTypeString := by rw [hkeyType, hkeyType', hnames]
    keyUsage := husage
    decryptedKeyUsage := hdecrypted
    iv := hiv
    keyLadderInputs := by
      rw [KeyLadderInputs.mk.injEq]
      exact ⟨hc1, hc2, hc3⟩
    entitledTaIds := htaIds
    uuids := convertUuid_of_lowerCase htaIds noMatch }

/-- The AAD says all that was parsed: payloads with one AAD are read in one way. -/
theorem buildAad_binds (hp : parsePayload libraries unwritten fields = .ok payload)
    (hp' : parsePayload libraries' unwritten' fields' = .ok payload')
    (hname : NamesKeyType payload) (hname' : NamesKeyType payload')
    (haad : buildAad memory alg payload = .ok aad)
    (haad' : buildAad memory' alg' payload' = .ok aad) : SameAuthenticated payload payload' := by
  obtain ⟨hchecked, _, h⟩ := buildAad_eq_ok.1 haad
  obtain ⟨hchecked', _, h'⟩ := buildAad_eq_ok.1 haad'
  exact socAad_inj (parsePayload_parsed hp) (parsePayload_parsed hp') hname hname' hchecked
    hchecked' (h.symm.trans h')

end Binding

/-- The payload for an AES key that one TA is entitled to. -/
def entitledPayload (taId : List UInt8) : SocKcPayload where
  containerVersion := 4
  rootKeyType := .undefined
  keyTypeString := ascii "AES-128"
  encryptedKey := List.replicate 16 0
  iv := .replicate 12 0
  keyUsage := 3
  decryptedKeyUsage := 0
  entitledTaIds := [taId]
  keyLadderInputs := ⟨.replicate 16 0, .replicate 16 0, .replicate 16 0⟩

def entitledFields (taId : List UInt8) : List (List UInt8 × JsonValue) :=
  (jsonValueAsMap (aesPayload [(ascii "entitledTaIds", .array [.string taId])])).getD []

/-- Two spellings of a TA ID. -/
theorem buildAad_binds_spellings :
    let small := ascii "abcdef01-2345-6789-abcd-ef0123456789"
    let capital := ascii "ABCDEF01-2345-6789-ABCD-EF0123456789"
    entitledPayload small ≠ entitledPayload capital ∧
      SameAuthenticated (entitledPayload small) (entitledPayload capital) := by
  intro small capital
  have hparse : parsePayload (plainLibraries [] fun _ => none) zeroMemory (entitledFields small) =
      .ok (entitledPayload small) := by
    decide +kernel
  have hparse' : parsePayload (plainLibraries [] fun _ => none) zeroMemory
      (entitledFields capital) = .ok (entitledPayload capital) := by
    decide +kernel
  have haad : buildAad zeroMemory (ascii "A128GCM") (entitledPayload small) =
      .ok (socAad (ascii "A128GCM") (entitledPayload small)) := by
    decide +kernel
  have haad' : buildAad zeroMemory (ascii "A128GCM") (entitledPayload capital) =
      .ok (socAad (ascii "A128GCM") (entitledPayload small)) := by
    decide +kernel
  have hname (taId : List UInt8) : NamesKeyType (entitledPayload taId) :=
    ⟨⟨"AES-128", .symmetric, 16, .aesSubtype, none⟩, List.mem_cons_self, rfl⟩
  exact ⟨by decide +kernel, buildAad_binds hparse hparse' (hname small) (hname capital) haad haad'⟩

end TaSecureApi
