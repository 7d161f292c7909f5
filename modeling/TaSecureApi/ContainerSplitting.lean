import TaSecureApi.ContainerBinding

namespace TaSecureApi
set_option autoImplicit true

/-- `memchr`: the position of a dot among some characters from a position on. -/
def memchrDot (inp : List UInt8) (start length : Nat) : Option Nat :=
  (((inp.drop start).take length).findIdx? (· = 46)).map (start + ·)

/-- Where the parts of a container begin, and their lengths. The header begins where the input does.
-/
structure ContainerParts where
  headerB64Length : Nat
  payloadB64 : Nat
  payloadB64Length : Nat
  macB64 : Nat
  macB64Length : Nat

/-- The pointers and lengths in `unpack_typej` and `unpack_soc_kc`. -/
def scanContainer (inp : List UInt8) : Option ContainerParts := do
  let headerB64End ← memchrDot inp 0 inp.length
  let payloadB64 := headerB64End + 1
  guard (payloadB64 < inp.length)
  let payloadB64End ← memchrDot inp payloadB64 (inp.length - payloadB64)
  let macB64 := payloadB64End + 1
  guard (macB64 < inp.length)
  pure ⟨headerB64End, payloadB64, payloadB64End - payloadB64, macB64, inp.length - macB64⟩

def unpackScanned (bioRead : BioRead) (inp : List UInt8) : Option Unpacked := do
  let parts ← scanContainer inp
  let headerB64 := inp.take parts.headerB64Length
  let payloadB64 := (inp.drop parts.payloadB64).take parts.payloadB64Length
  let macB64 := (inp.drop parts.macB64).take parts.macB64Length
  let header ← unpackPart bioRead headerB64
  let payload ← unpackPart bioRead payloadB64
  let mac ← unpackPart bioRead macB64
  pure ⟨headerB64, payloadB64, header, payload, mac⟩

/-- A container is put together of its parts: three texts with dots between them, each decoded
alone, and no dot in the first two. -/
structure SplitInto (bioRead : BioRead) (inp macB64 : List UInt8) (unpacked : Unpacked) : Prop where
  whole : inp = unpacked.headerB64 ++ [46] ++ unpacked.payloadB64 ++ [46] ++ macB64
  header_no_dot : 46 ∉ unpacked.headerB64
  payload_no_dot : 46 ∉ unpacked.payloadB64
  mac_text : macB64 ≠ []
  header : unpackPart bioRead unpacked.headerB64 = some unpacked.header
  payload : unpackPart bioRead unpacked.payloadB64 = some unpacked.payload
  mac : unpackPart bioRead macB64 = some unpacked.mac

section Splitting

variable {bioRead : BioRead} {inp text : List UInt8} {unpacked : Unpacked}

theorem splitDot_nil : splitDot [] = none := rfl

theorem splitDot_cons (c : UInt8) (text : List UInt8) : splitDot (c :: text) =
    if c = 46 then some ([], text)
    else (splitDot text).map fun parts => (c :: parts.1, parts.2) := by
  simp only [splitDot, List.span_eq_takeWhile_dropWhile]
  by_cases hc : c = 46
  · simp [hc]
  · simp only [List.takeWhile_cons, List.dropWhile_cons, hc, not_false_eq_true, decide_true,
      if_true,
      if_false, ne_eq]
    cases text.dropWhile (fun c => decide (¬ c = 46)) <;> rfl

theorem splitDot_eq_some {before behind : List UInt8} :
    splitDot text = some (before, behind) ↔ text = before ++ 46 :: behind ∧ 46 ∉ before := by
  induction text generalizing before behind with
  | nil => simp [splitDot_nil]
  | cons c text ih =>
    rw [splitDot_cons]
    by_cases hc : c = 46
    · subst hc
      cases before with
      | nil => simp
      | cons d before =>
        simp only [if_true, Option.some.injEq, Prod.mk.injEq, reduceCtorEq, false_and, false_iff]
        intro ⟨h, hdot⟩
        obtain ⟨rfl, _⟩ := List.cons.inj h
        exact hdot List.mem_cons_self
    · cases before with
      | nil => simp [hc]
      | cons d before =>
        rw [if_neg hc, Option.map_eq_some_iff, List.cons_append]
        constructor
        · intro ⟨⟨b, b'⟩, hsplit, h⟩
          obtain ⟨htext, hdot⟩ := ih.1 hsplit
          cases h
          refine ⟨by rw [htext], fun h => ?_⟩
          obtain h | h := List.mem_cons.1 h
          · exact hc h.symm
          · exact hdot h
        · intro ⟨h, hdot⟩
          obtain ⟨rfl, htext⟩ := List.cons.inj h
          exact ⟨(before, behind), ih.2 ⟨htext, fun h => hdot (List.mem_cons_of_mem _ h)⟩, rfl⟩

theorem splitDot_eq (text : List UInt8) : splitDot text =
    (text.findIdx? (· = 46)).map fun i => (text.take i, text.drop (i + 1)) := by
  induction text with
  | nil => rfl
  | cons c text ih =>
    rw [splitDot_cons, ih, List.findIdx?_cons]
    by_cases hc : c = 46
    · simp [hc]
    · simp [hc, Function.comp_def]

theorem memchrDot_eq (start : Nat) : memchrDot inp start (inp.length - start) =
    ((inp.drop start).findIdx? (· = 46)).map (start + ·) := by
  rw [memchrDot, List.take_of_length_le (by rw [List.length_drop])]

theorem unpackContainer_eq_some : unpackContainer bioRead inp = some unpacked ↔
    ∃ macB64, SplitInto bioRead inp macB64 unpacked := by
  simp only [unpackContainer, Option.bind_eq_bind, Option.bind_eq_some_iff, Prod.exists,
    splitDot_eq_some, Option.guard_eq_some', Option.pure_def, Option.some.injEq, exists_const]
  constructor
  · intro ⟨headerB64, rest, ⟨hinp, hheader⟩, _, payloadB64, macB64, ⟨hrest, hpayload⟩, hmac,
      header, hh, payload, hp, mac, hm, heq⟩
    subst heq
    exact ⟨macB64, by simp [hinp, hrest], hheader, hpayload, hmac, hh, hp, hm⟩
  · intro ⟨macB64, h⟩
    refine ⟨unpacked.headerB64, unpacked.payloadB64 ++ 46 :: macB64, ⟨?_, h.header_no_dot⟩, ?_,
      unpacked.payloadB64, macB64, ⟨rfl, h.payload_no_dot⟩, h.mac_text, unpacked.header, h.header,
      unpacked.payload, h.payload, unpacked.mac, h.mac, rfl⟩
    · rw [h.whole]
      simp
    · simp

theorem unpackScanned_eq : unpackScanned bioRead inp = unpackContainer bioRead inp := by
  have hstart : memchrDot inp 0 (inp.length - 0) =
      ((inp.drop 0).findIdx? (· = 46)).map (0 + ·) := memchrDot_eq 0
  rw [Nat.sub_zero, List.drop_zero] at hstart
  simp only [unpackScanned, scanContainer, unpackContainer, Option.bind_eq_bind, hstart,
    memchrDot_eq, splitDot_eq]
  cases hi : inp.findIdx? (· = 46) with
  | none => rfl
  | some i =>
    simp only [Option.map_some, Option.bind_some, Nat.zero_add]
    by_cases hrest : i + 1 < inp.length
    · have hne : inp.drop (i + 1) ≠ [] := by simpa using hrest
      simp only [hrest, hne, guard, if_true, not_false_eq_true, ne_eq]
      cases hj : (inp.drop (i + 1)).findIdx? (· = 46) with
      | none => rfl
      | some j =>
        have hpayload : i + 1 + j - (i + 1) = j := by omega
        have hmacB64 : i + 1 + (j + 1) = i + 1 + j + 1 := by omega
        have htake : (inp.drop (i + 1 + j + 1)).take (inp.length - (i + 1 + j + 1)) =
            inp.drop (i + 1 + j + 1) :=
          List.take_of_length_le (by rw [List.length_drop])
        simp only [Option.map_some, Option.bind_some, List.drop_drop, hpayload, hmacB64]
        by_cases hmac : i + 1 + j + 1 < inp.length
        · have hne : inp.drop (i + 1 + j + 1) ≠ [] := by simpa using hmac
          simp only [hmac, hne, if_true, not_false_eq_true, Option.pure_def, Option.bind_some,
            htake]
        · have hnil : inp.drop (i + 1 + j + 1) = [] := by simpa using hmac
          simp only [hmac, hnil, if_false, not_true_eq_false]
          rfl
    · have hnil : inp.drop (i + 1) = [] := by simpa using hrest
      simp [hrest, hnil]

end Splitting

/-- The MAC of a Type-J container is that of its text in front of the last dot, and its fields are
read from what the payload in that text decodes to. -/
def MacCovers (libraries : Libraries) (inp : List UInt8) (storedKeyMac : StoredKey)
    (fields : List (List UInt8 × JsonValue)) : Prop :=
  ∃ text macB64 unpacked mac, inp = text ++ [46] ++ macB64 ∧
    SplitInto libraries.bioRead inp macB64 unpacked ∧
    text = unpacked.headerB64 ++ [46] ++ unpacked.payloadB64 ∧
    libraries.hmacSha256 storedKeyMac.key text = .ok mac ∧ unpacked.mac = mac.toList ∧
    jsonValueAsMap (libraries.jsonParseBytes unpacked.payload) = some fields

/-- The AAD of a SoC container is made of the members that are read from what the header and the
payload in its text decode to, and the MAC part is the beginning of the tag for it. -/
def AadCovers (libraries : Libraries) (unwritten : Unwritten) (inp : List UInt8) : Prop :=
  ∃ macB64 unpacked headerFields payloadFields alg payload wrappingKey,
    SplitInto libraries.bioRead inp macB64 unpacked ∧
    jsonValueAsMap (libraries.jsonParseBytes unpacked.header) = some headerFields ∧
    parseHeader headerFields = .ok alg ∧
    jsonValueAsMap (libraries.jsonParseBytes unpacked.payload) = some payloadFields ∧
    parsePayload libraries unwritten payloadFields = .ok payload ∧
    buildAad unwritten alg payload = .ok (socAad alg payload) ∧
    otpHwKeyLadder libraries
      (if payload.rootKeyType = .undefined then .unique else payload.rootKeyType)
      payload.keyLadderInputs = .ok wrappingKey ∧
    unpacked.mac ≠ [] ∧
    unpacked.mac <+: (socTag libraries payload (socAad alg payload) wrappingKey).toList

/-- Containers that have one AAD have one text. -/
def AadCoversText (libraries : Libraries) (unwritten : Unwritten) (inp : List UInt8) : Prop :=
  ∀ inp' unpacked unpacked' payload payload' aad wrappingKey wrappingKey',
    SocTagged libraries unwritten inp unpacked payload aad wrappingKey →
    SocTagged libraries unwritten inp' unpacked' payload' aad wrappingKey' →
    unpacked.headerB64 = unpacked'.headerB64 ∧ unpacked.payloadB64 = unpacked'.payloadB64

section Authenticated

variable {libraries : Libraries} {unwritten : Unwritten} {inp : List UInt8}
  {storedKeyMac : StoredKey} {fields : List (List UInt8 × JsonValue)}
  {parameters : Option SaImportParametersSoc} {k : Option StoredKey}

theorem typejFields_covers (h : typejFields libraries inp storedKeyMac = .ok fields) :
    MacCovers libraries inp storedKeyMac fields := by
  obtain ⟨unpacked, mac, hunpack, hhmac, _, hmac⟩ := typejFields_authentic h
  obtain ⟨macB64, hsplit⟩ := unpackContainer_eq_some.1 hunpack
  simp only [typejFields, bind_eq_ok, demandSome_eq_ok, hunpack, Option.some.injEq,
    exists_eq_left', demand_eq_ok, exists_const] at h
  refine ⟨_, macB64, unpacked, mac, ?_, hsplit, rfl, hhmac, hmac, h.2⟩
  exact hsplit.whole

theorem socKcUnwrap_covers (h : socKcUnwrap libraries unwritten inp parameters = some (.ok, k)) :
    AadCovers libraries unwritten inp := by
  obtain ⟨unpacked, payload, aad, wrappingKey, ⟨hunpack, ⟨alg, hparse, haad⟩, hladder⟩, _, _,
    hne, hmac⟩ := socKcUnwrap_eq_ok.1 h
  obtain ⟨macB64, hsplit⟩ := unpackContainer_eq_some.1 hunpack
  simp only [socKcParse, bind_eq_ok, demandSome_eq_ok, pure, Except.pure, Except.ok.injEq,
    Prod.mk.injEq] at hparse
  obtain ⟨headerFields, hheader, _, halg, payloadFields, hfields, _, hpayload, rfl, rfl⟩ := hparse
  obtain ⟨_, _, rfl⟩ := buildAad_eq_ok.1 haad
  refine ⟨macB64, unpacked, headerFields, payloadFields, _, _, wrappingKey, hsplit, hheader, halg,
    hfields, hpayload, haad, hladder, List.length_pos_iff.1 (Nat.pos_of_ne_zero hne), ?_⟩
  rw [hmac]
  exact List.take_prefix _ _

end Authenticated

/-- Both containers are taken apart in one way, at their first two dots, without a loss. What the
MAC of a Type-J container covers is its text, and what the AAD of a SoC container covers are the
members that are read from its text. -/
theorem container_splitting (libraries : Libraries) (unwritten : Unwritten) (inp : List UInt8) :
    unpackTypej libraries.bioRead inp = unpackScanned libraries.bioRead inp ∧
    unpackSocKc libraries.bioRead inp = unpackScanned libraries.bioRead inp ∧
    (∀ unpacked, unpackScanned libraries.bioRead inp = some unpacked ↔
      ∃ macB64, SplitInto libraries.bioRead inp macB64 unpacked) ∧
    (∀ storedKeyMac fields, typejFields libraries inp storedKeyMac = .ok fields →
      MacCovers libraries inp storedKeyMac fields) ∧
    ∀ parameters k, socKcUnwrap libraries unwritten inp parameters = some (.ok, k) →
      AadCovers libraries unwritten inp := by
  refine ⟨unpackScanned_eq.symm, unpackScanned_eq.symm, fun unpacked => ?_,
    fun _ _ => typejFields_covers, fun _ _ => socKcUnwrap_covers⟩
  rw [unpackScanned_eq]
  exact unpackContainer_eq_some

def aesUnpacked (payload : JsonValue) : Unpacked where
  headerB64 := encodeBase64Url (renderJson socHeader)
  payloadB64 := encodeBase64Url (renderJson payload)
  header := renderJson socHeader
  payload := renderJson payload
  mac := List.replicate 16 0

/-- A member that is not read changes the text of a SoC container and not its AAD. -/
theorem container_text_not_covered :
    ¬ ∀ libraries unwritten inp, AadCoversText libraries unwritten inp := by
  intro h
  let plain := aesPayload []
  let noted := aesPayload [(ascii "note", .integer 1)]
  let libraries := plainLibraries [socHeader, plain, noted] fun _ => none
  let payload : SocKcPayload := ⟨4, .undefined, ascii "AES-128", List.replicate 16 0,
    .replicate 12 0, 3, 0, [], ⟨.replicate 16 0, .replicate 16 0, .replicate 16 0⟩⟩
  have haad : buildAad zeroMemory (ascii "A128GCM") payload =
      .ok (socAad (ascii "A128GCM") payload) := by
    decide +kernel
  have hladder : otpHwKeyLadder libraries .unique payload.keyLadderInputs =
      .ok (List.replicate 16 0) := by
    decide +kernel
  have hplain : SocTagged libraries zeroMemory (renderContainer socHeader plain
      (List.replicate 16 0)) (aesUnpacked plain) payload (socAad (ascii "A128GCM") payload)
      (List.replicate 16 0) :=
    ⟨by decide +kernel, ⟨ascii "A128GCM", by decide +kernel, haad⟩, hladder⟩
  have hnoted : SocTagged libraries zeroMemory (renderContainer socHeader noted
      (List.replicate 16 0)) (aesUnpacked noted) payload (socAad (ascii "A128GCM") payload)
      (List.replicate 16 0) :=
    ⟨by decide +kernel, ⟨ascii "A128GCM", by decide +kernel, haad⟩, hladder⟩
  have htext := (h _ _ _ _ _ _ _ _ _ _ _ hplain hnoted).2
  exact absurd (congrArg List.length htext) (by decide +kernel)

end TaSecureApi
