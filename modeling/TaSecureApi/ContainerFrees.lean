import TaSecureApi.ContainerBlocks
import TaSecureApi.ContainerSplitting

namespace TaSecureApi.Import
set_option autoImplicit true
open Blocks

/-- The import frees every block that it allocates exactly once before it returns. -/
def GivesUpOnce (call : Call α) : Prop :=
  call.result ≠ .error .undefined → FreedOnce call.events

def parts : List Block := [.header, .payload, .mac]

/-- The three parts of a container, which is cut at its first two dots. -/
def Cut (inp headerB64 payloadB64 macB64 : List UInt8) : Prop :=
  inp = headerB64 ++ [46] ++ payloadB64 ++ [46] ++ macB64 ∧ 46 ∉ headerB64 ∧ 46 ∉ payloadB64 ∧
    macB64 ≠ []

def PartMalformed (bioRead : BioRead) (inp : List UInt8) : Prop :=
  ∃ headerB64 payloadB64 macB64, Cut inp headerB64 payloadB64 macB64 ∧
    (unpackPart bioRead headerB64 = none ∨ unpackPart bioRead payloadB64 = none ∨
      unpackPart bioRead macB64 = none)

section Members

variable (libraries : Libraries) (unwritten : Unwritten) (fields : List (List UInt8 × JsonValue))

def TextMalformed (key : String) (place : ContainerPlace) (good : List UInt8 → Prop) : Prop :=
  ∃ text, jsonKeyValueFind key fields = some (.string text) ∧
    ∀ bytes, decodeMember libraries.bioRead unwritten place (.string text) false = some bytes →
      ¬ good bytes

def ContentKeyMalformed : Prop :=
  TextMalformed libraries unwritten fields "contentKey" .contentKey fun _ => True

def IvTextMalformed : Prop :=
  TextMalformed libraries unwritten fields "contentKeyTransportIv" .contentKeyTransportIv
    fun iv => iv.length = 16

def IvMalformed (algorithm : JsonValue) : Prop :=
  (∃ contentKey, TaSecureApi.typejContentKey libraries unwritten fields = .ok contentKey) ∧
    (∃ length, jsonKeyValueFind "contentKeyLength" fields = some length) ∧
    parseCipherAlgorithm (jsonValueAsString 0 algorithm).2 ∈ [some .aesCbc, some .aesCbcPkcs7] ∧
    IvTextMalformed libraries unwritten fields

/-- What the unwrap of a Type-J container frees twice, by the version of the container. -/
def KeyMalformed : Prop :=
  let version := (jsonKeyValueFind "contentKeyContainerVersion" fields).elim 1 jsonValueAsInteger
  (version = 1 ∧ ContentKeyMalformed libraries unwritten fields) ∨
    (version = 2 ∨ version = 3) ∧ ∃ algorithm,
      jsonKeyValueFind "contentKeyTransportAlgorithm" fields = some algorithm ∧
      (ContentKeyMalformed libraries unwritten fields ∨
        IvMalformed libraries unwritten fields algorithm)

end Members

/-- A part of the container, its content key or its initialization vector is reached and malformed.
-/
def TypejMalformed (libraries : Libraries) (unwritten : Unwritten) (inp : List UInt8)
    (storedKeyMac : StoredKey) : Prop :=
  PartMalformed libraries.bioRead inp ∨ ∃ fields rights,
    typejFields libraries inp storedKeyMac = .ok fields ∧
    TaSecureApi.typejFieldsToRights libraries unwritten fields = .ok rights ∧
    KeyMalformed libraries unwritten fields

/-- The encrypted key of a SoC container is reached, and does not decode. -/
def EncryptedKeyMalformed (libraries : Libraries) (unwritten : Unwritten)
    (fields : List (List UInt8 × JsonValue)) : Prop :=
  (∃ version, jsonKeyValueFind "containerVersion" fields = some version ∧
    ∃ rootKeyType, parseRootKeyType unwritten fields (castUint8 (jsonValueAsInteger version)) =
      .ok rootKeyType) ∧
    (∃ keyType, jsonKeyValueFind "keyType" fields = some keyType ∧
      ∃ text, (jsonValueAsString 0 keyType).2 = some text) ∧
    ∃ encryptedKey, jsonKeyValueFind "encryptedKey" fields = some encryptedKey ∧
      decodeMember libraries.bioRead unwritten .encryptedKey encryptedKey false = none

/-- The payload of a SoC container is reached, and its encrypted key is malformed. -/
def SocMalformed (libraries : Libraries) (unwritten : Unwritten) (inp : List UInt8) : Prop :=
  ∃ unpacked, TaSecureApi.unpackSocKc libraries.bioRead inp = some unpacked ∧
    ∃ header, jsonValueAsMap (libraries.jsonParseBytes unpacked.header) = some header ∧
    ∃ alg, parseHeader header = .ok alg ∧
    ∃ fields, jsonValueAsMap (libraries.jsonParseBytes unpacked.payload) = some fields ∧
    EncryptedKeyMalformed libraries unwritten fields

section Parts

variable {bioRead : BioRead} {inp : List UInt8} {headerB64 payloadB64 macB64 : List UInt8}
  {decode : Block → Option (List UInt8) → Call (List UInt8)}

def decodeParts (decode : Block → Option (List UInt8) → Call (List UInt8))
    (header payload mac : Option (List UInt8))
    (headerB64 payloadB64 : List UInt8) : Call Unpacked :=
  onFailure (freeingOwn [.header, .payload, .mac]) do
    let header ← decode .header header
    let payload ← decode .payload payload
    let mac ← decode .mac mac
    pure ⟨headerB64, payloadB64, header, payload, mac⟩

theorem unpackContainer_eq : unpackContainer bioRead decode inp = (do
    let (headerB64, inp) ← lift (demandSome .invalidKeyFormat (splitDot inp))
    lift (demand (inp ≠ []) .invalidKeyFormat)
    let (payloadB64, macB64) ← lift (demandSome .invalidKeyFormat (splitDot inp))
    lift (demand (macB64 ≠ []) .invalidKeyFormat)
    decodeParts decode (unpackPart bioRead headerB64) (unpackPart bioRead payloadB64)
      (unpackPart bioRead macB64) headerB64 payloadB64) := by
  simp only [unpackContainer, onFailure_lift_bind]
  rfl

theorem cut_iff : Cut inp headerB64 payloadB64 macB64 ↔
    ∃ behind, splitDot inp = some (headerB64, behind) ∧ behind ≠ [] ∧
      splitDot behind = some (payloadB64, macB64) ∧ macB64 ≠ [] := by
  simp only [splitDot_eq_some]
  constructor
  · intro ⟨hinp, hheader, hpayload, hmac⟩
    exact ⟨payloadB64 ++ 46 :: macB64, ⟨by simpa using hinp, hheader⟩, by simp,
      ⟨rfl, hpayload⟩, hmac⟩
  · intro ⟨behind, ⟨hinp, hheader⟩, _, ⟨hbehind, hpayload⟩, hmac⟩
    exact ⟨by simp [hinp, hbehind], hheader, hpayload, hmac⟩

theorem unpackContainer_cases (bioRead : BioRead)
    (decode : Block → Option (List UInt8) → Call (List UInt8)) (inp : List UInt8) :
    (unpackContainer bioRead decode inp = refuse ∧ ∀ h p m, ¬ Cut inp h p m) ∨
    ∃ headerB64 payloadB64 macB64, Cut inp headerB64 payloadB64 macB64 ∧
      unpackContainer bioRead decode inp = decodeParts decode (unpackPart bioRead headerB64)
        (unpackPart bioRead payloadB64) (unpackPart bioRead macB64) headerB64 payloadB64 := by
  simp only [unpackContainer_eq, cut_iff]
  cases splitDot inp with
  | none => exact .inl ⟨rfl, by simp⟩
  | some parts =>
    obtain ⟨headerB64, behind⟩ := parts
    by_cases hbehind : behind = []
    · exact .inl ⟨by simp [demand, demandSome, hbehind, refuse], by simp [hbehind]⟩
    · cases hsplit : splitDot behind with
      | none =>
        exact .inl ⟨by simp [demand, demandSome, hbehind, hsplit, refuse], by simp [hsplit]⟩
      | some parts =>
        obtain ⟨payloadB64, macB64⟩ := parts
        by_cases hmac : macB64 = []
        · exact .inl ⟨by simp [demand, demandSome, hbehind, hsplit, hmac, refuse], by
            simp [hsplit, hmac]⟩
        · exact .inr ⟨headerB64, payloadB64, macB64, ⟨behind, rfl, hbehind, hsplit, hmac⟩, by
            simp [demand, demandSome, hbehind, hsplit, hmac]⟩

theorem partMalformed_iff (h : Cut inp headerB64 payloadB64 macB64) : PartMalformed bioRead inp ↔
    unpackPart bioRead headerB64 = none ∨ unpackPart bioRead payloadB64 = none ∨
      unpackPart bioRead macB64 = none := by
  constructor
  · intro ⟨headerB64', payloadB64', macB64', h', hnone⟩
    obtain ⟨behind, hfirst, _, hsecond, _⟩ := cut_iff.1 h
    obtain ⟨behind', hfirst', _, hsecond', _⟩ := cut_iff.1 h'
    obtain ⟨rfl, rfl⟩ := Prod.mk.inj (Option.some.inj (hfirst.symm.trans hfirst'))
    obtain ⟨rfl, rfl⟩ := Prod.mk.inj (Option.some.inj (hsecond.symm.trans hsecond'))
    exact hnone
  · intro hnone
    exact ⟨_, _, _, h, hnone⟩

/-- A part that does not decode is freed where that is found, and again with the other ones. -/
theorem decodeParts_typej (header payload mac : Option (List UInt8))
    (headerB64 payloadB64 : List UInt8) : (∃ unpacked,
      decodeParts decodeOrFree header payload mac headerB64 payloadB64 =
        ⟨.ok unpacked, parts.map .alloc⟩ ∧ ¬ (header = none ∨ payload = none ∨ mac = none)) ∨
    ∃ events, decodeParts decodeOrFree header payload mac headerB64 payloadB64 =
      ⟨.error (.status .invalidKeyFormat), events⟩ ∧ ¬ FreedOnce events ∧
        (header = none ∨ payload = none ∨ mac = none) := by
  cases header with
  | none => exact .inr ⟨[.alloc .header, .free .header, .free .header], rfl, by decide, .inl rfl⟩
  | some header =>
    cases payload with
    | none =>
      exact .inr ⟨[.alloc .header, .alloc .payload, .free .payload, .free .header, .free .payload],
        rfl, by decide, .inr (.inl rfl)⟩
    | some payload =>
      cases mac with
      | none =>
        exact .inr ⟨[.alloc .header, .alloc .payload, .alloc .mac, .free .mac, .free .header,
          .free .payload, .free .mac], rfl, by decide, .inr (.inr rfl)⟩
      | some mac => exact .inl ⟨_, rfl, by simp⟩

theorem decodeParts_soc (header payload mac : Option (List UInt8)) : (∃ unpacked,
      decodeParts decodeInto header payload mac headerB64 payloadB64 =
        ⟨.ok unpacked, parts.map .alloc⟩) ∨
    ∃ events, decodeParts decodeInto header payload mac headerB64 payloadB64 =
      ⟨.error (.status .invalidKeyFormat), events⟩ ∧ FreedOnce events ∧ Confined parts events := by
  cases header with
  | none => exact .inr ⟨[.alloc .header, .free .header], rfl, by decide, by decide⟩
  | some header =>
    cases payload with
    | none =>
      exact .inr ⟨[.alloc .header, .alloc .payload, .free .header, .free .payload], rfl, by decide,
        by decide⟩
    | some payload =>
      cases mac with
      | none =>
        exact .inr ⟨parts.map .alloc ++ parts.map .free, rfl, by decide, by decide⟩
      | some mac => exact .inl ⟨_, rfl⟩

theorem unpackTypej_cases (bioRead : BioRead) (inp : List UInt8) :
    (unpackTypej bioRead inp = refuse ∧ ¬ PartMalformed bioRead inp) ∨
    (∃ events, unpackTypej bioRead inp = ⟨.error (.status .invalidKeyFormat), events⟩ ∧
      ¬ FreedOnce events ∧ PartMalformed bioRead inp) ∨
    ∃ unpacked, unpackTypej bioRead inp = ⟨.ok unpacked, parts.map .alloc⟩ ∧
      ¬ PartMalformed bioRead inp := by
  obtain ⟨hrefuse, hnone⟩ | ⟨headerB64, payloadB64, macB64, hcut, hparts⟩ :=
    unpackContainer_cases bioRead decodeOrFree inp
  · exact .inl ⟨hrefuse, fun ⟨_, _, _, hcut, _⟩ => hnone _ _ _ hcut⟩
  · rw [unpackTypej, hparts, partMalformed_iff hcut]
    obtain ⟨unpacked, heq, hgood⟩ | ⟨events, heq, hfreed, hbad⟩ :=
      decodeParts_typej (unpackPart bioRead headerB64) (unpackPart bioRead payloadB64)
        (unpackPart bioRead macB64) headerB64 payloadB64
    · exact .inr (.inr ⟨unpacked, heq, hgood⟩)
    · exact .inr (.inl ⟨events, heq, hfreed, hbad⟩)

theorem unpackSocKc_cases (bioRead : BioRead) (inp : List UInt8) : (∃ events,
      unpackSocKc bioRead inp = ⟨.error (.status .invalidKeyFormat), events⟩ ∧ FreedOnce events ∧
        Confined parts events) ∨
    ∃ unpacked, unpackSocKc bioRead inp = ⟨.ok unpacked, parts.map .alloc⟩ := by
  obtain ⟨hrefuse, _⟩ | ⟨headerB64, payloadB64, macB64, _, hparts⟩ :=
    unpackContainer_cases bioRead decodeInto inp
  · exact .inl ⟨[], hrefuse, freedOnce_nil, confined_nil⟩
  · rw [unpackSocKc, hparts]
    exact (decodeParts_soc _ _ _).symm

end Parts

section Rules

variable {α α' : Type} {blocks blocks' : List Block} {malformed malformed' : Prop}

/-- A part of an import that is about some blocks, and that frees each of them exactly once if and
only if nothing is malformed. -/
structure FreesUnless (call : Call α) (blocks : List Block) (malformed : Prop) : Prop where
  confined : Confined blocks call.events
  givesUp : GivesUpOnce call ↔ ¬ malformed

theorem FreesUnless.good {call : Call α} (events : List (Event Block))
    (hevents : call.events = events) (hconfined : Confined blocks events)
    (hfreed : FreedOnce events)
    (hgood : ¬ malformed) : FreesUnless call blocks malformed where
  confined := hevents ▸ hconfined
  givesUp := iff_of_true (fun _ => hevents ▸ hfreed) hgood

theorem FreesUnless.bad {call : Call α} (events : List (Event Block))
    (hcall : call = ⟨.error (.status status), events⟩) (hconfined : Confined blocks events)
    (hfreed : ¬ FreedOnce events) (hbad : malformed) : FreesUnless call blocks malformed where
  confined := hcall ▸ hconfined
  givesUp := by
    subst hcall
    exact iff_of_false (fun h => hfreed (h nofun)) (not_not_intro hbad)

theorem FreesUnless.congr {call : Call α} (h : FreesUnless call blocks malformed)
    (heq : malformed ↔ malformed') : FreesUnless call blocks malformed' :=
  ⟨h.confined, h.givesUp.trans (not_congr heq)⟩

theorem FreesUnless.lift_bind {y : Except Stop α} {f : α → Call α'} {malformed : α → Prop}
    (h : ∀ a, y = .ok a → FreesUnless (f a) blocks (malformed a)) :
    FreesUnless (lift y >>= f) blocks (∃ a, y = .ok a ∧ malformed a) := by
  cases y with
  | error e => exact .good [] rfl confined_nil freedOnce_nil (by simp)
  | ok a =>
    rw [lift_ok_bind]
    simpa only [Except.ok.injEq, exists_eq_left'] using h a rfl

theorem FreesUnless.bind {x : Call α} {f : α → Call α'} {malformed : α → Prop}
    (hx : FreesUnless x blocks False)
    (hf : ∀ a, x.result = .ok a → FreesUnless (f a) blocks' (malformed a))
    (hdisjoint : ∀ block ∈ blocks, block ∉ blocks') :
    FreesUnless (x >>= f) (blocks ++ blocks') (∃ a, x.result = .ok a ∧ malformed a) := by
  have hgivesUp := hx.givesUp.2 not_false
  cases hresult : x.result with
  | error e =>
    rw [bind_of_error hresult]
    refine ⟨fun event h => List.mem_append_left _ (hx.confined event h), iff_of_true ?_ (by simp)⟩
    intro hreturns
    apply hgivesUp
    rw [hresult]
    intro heq
    cases heq
    exact hreturns rfl
  | ok a =>
    have h := hf a hresult
    have hfreed : FreedOnce x.events := hgivesUp (by rw [hresult]; nofun)
    rw [bind_of_ok hresult]
    constructor
    · apply confined_append
      · exact fun event hevent => List.mem_append_left _ (hx.confined event hevent)
      · exact fun event hevent => List.mem_append_right _ (h.confined event hevent)
    · simp only [GivesUpOnce, freedOnce_append hx.confined h.confined hdisjoint, hfreed, true_and,
        Except.ok.injEq, exists_eq_left']
      exact h.givesUp

theorem FreesUnless.bind_quiet {call : Call α} {f : α → Call α'}
    (h : FreesUnless call blocks False) (hf : ∀ a, (f a).events = []) :
    FreesUnless (call >>= f) blocks False := by
  have hquiet (a : α) : FreesUnless (f a) [] False :=
    .good [] (hf a) confined_nil freedOnce_nil not_false
  simpa using h.bind (fun a _ => hquiet a) (by simp)

end Rules

section KeyBlocks

variable {libraries : Libraries} {unwritten : Unwritten} {fields : List (List UInt8 × JsonValue)}
  {rights : SaRights} {storedKeyEncryption : StoredKey}

/-- A call that decodes a text into a new block, if it comes to that, and frees the block where the
text is malformed. -/
def DecodesInto (call : Call (List UInt8)) (block : Block) (malformed : Prop) : Prop :=
  (call = refuse ∧ ¬ malformed) ∨
    (call = ⟨.error (.status .invalidKeyFormat), [.alloc block, .free block]⟩ ∧ malformed) ∨
    ∃ bytes, call = ⟨.ok bytes, [.alloc block]⟩ ∧ ¬ malformed

theorem decodesInto_member (libraries : Libraries) (unwritten : Unwritten)
    (fields : List (List UInt8 × JsonValue)) (key : String) (place : ContainerPlace) (block : Block)
    (good : List UInt8 → Prop) [DecidablePred good] :
    DecodesInto (do
      let field ← lift (requiredField key fields)
      let _ ← lift (demandSome .invalidKeyFormat (jsonValueAsString 0 field).2)
      decodeOrFree block ((decodeMember libraries.bioRead unwritten place field false).filter
        fun bytes => good bytes)) block
      (TextMalformed libraries unwritten fields key place good) := by
  unfold DecodesInto TextMalformed requiredField
  cases jsonKeyValueFind key fields with
  | none => exact .inl ⟨rfl, by simp⟩
  | some field =>
    cases field with
    | string text =>
      simp only [jsonValueAsString, demandSome, lift_ok_bind, Option.some.injEq,
        JsonValue.string.injEq, exists_eq_left']
      cases decodeMember libraries.bioRead unwritten place (.string text) false with
      | none => exact .inr (.inl ⟨rfl, by simp⟩)
      | some bytes =>
        by_cases hgood : good bytes
        · rw [Option.filter_some_pos (by simpa using hgood)]
          exact .inr (.inr ⟨bytes, rfl, by simpa using hgood⟩)
        · rw [Option.filter_some_neg (by simpa using hgood)]
          exact .inr (.inl ⟨rfl, by simpa using hgood⟩)
    | _ => exact .inl ⟨rfl, by simp⟩

theorem decodesInto_contentKey (libraries : Libraries) (unwritten : Unwritten)
    (fields : List (List UInt8 × JsonValue)) :
    DecodesInto (typejContentKey libraries unwritten fields) .contentKey
      (ContentKeyMalformed libraries unwritten fields) := by
  have hfilter (decoded : Option (List UInt8)) : decoded.filter (fun _ => true) = decoded := by
    cases decoded <;> rfl
  have h := decodesInto_member libraries unwritten fields "contentKey" .contentKey .contentKey
    fun _ => True
  simp only [decide_true, hfilter] at h
  exact h

theorem decodesInto_iv (libraries : Libraries) (unwritten : Unwritten)
    (fields : List (List UInt8 × JsonValue)) : DecodesInto (typejIv libraries unwritten fields) .iv
      (IvTextMalformed libraries unwritten fields) :=
  decodesInto_member libraries unwritten fields "contentKeyTransportIv" .contentKeyTransportIv .iv
    fun iv => iv.length = 16

theorem unwrapKeyV1_frees : FreesUnless
    (unwrapKeyV1 libraries unwritten fields rights storedKeyEncryption) [.contentKey, .iv]
    (ContentKeyMalformed libraries unwritten fields) := by
  have hquiet (contentKey : List UInt8) : (do
      lift (demand (contentKey.length % 16 = 0) .invalidKeyFormat)
      let storedKey ← lift (unwrapAesEcb libraries contentKey rights false storedKeyEncryption)
      pure (SaStatus.ok, some storedKey) : Call _).events = [] :=
    events_lift_bind fun _ _ => events_lift_bind fun _ _ => rfl
  unfold unwrapKeyV1
  obtain ⟨hcall, hgood⟩ | ⟨hcall, hbad⟩ | ⟨contentKey, hcall, hgood⟩ :=
    decodesInto_contentKey libraries unwritten fields
  · rw [hcall]
    exact .good [] rfl confined_nil freedOnce_nil hgood
  · rw [hcall]
    exact .bad [.alloc .contentKey, .free .contentKey, .free .contentKey] rfl (by decide)
      (by decide) hbad
  · have hevents := events_bind_quiet (x := typejContentKey libraries unwritten fields)
      fun contentKey _ => hquiet contentKey
    rw [hcall] at hevents ⊢
    apply FreesUnless.good [.alloc .contentKey, .free .contentKey] _ (by decide) (by decide) hgood
    rw [events_freeingOwn, hevents]
    rfl

/-- What `unwrap_key_v2` does behind the content key. -/
def unwrapSized (libraries : Libraries) (unwritten : Unwritten)
    (fields : List (List UInt8 × JsonValue)) (rights : SaRights) (storedKeyEncryption : StoredKey)
    (cipherAlgorithm : Option SaCipherAlgorithm) (contentKey : List UInt8) :
    Call (SaStatus × Option StoredKey) := do
  let lengthField ← lift (requiredField "contentKeyLength" fields)
  let contentKeyLength := (jsonValueAsInteger lengthField % 2 ^ 64).toNat
  let storedKey ← unwrapContentKey libraries unwritten fields rights storedKeyEncryption
    cipherAlgorithm contentKey
  pure (if storedKey.key.length ≠ contentKeyLength then .invalidKeyFormat else .ok, some storedKey)

theorem unwrapKeyV2_eq : unwrapKeyV2 libraries unwritten fields rights storedKeyEncryption = (do
    let algorithmField ← lift (requiredField "contentKeyTransportAlgorithm" fields)
    freeingOwn [.contentKey, .iv] do
      let contentKey ← typejContentKey libraries unwritten fields
      unwrapSized libraries unwritten fields rights storedKeyEncryption
        (parseCipherAlgorithm (jsonValueAsString 0 algorithmField).2) contentKey) := by
  rw [unwrapKeyV2, freeingOwn_lift_bind]
  rfl

theorem unwrapWithIv_cases (unwrap : List UInt8 → Except Stop StoredKey)
    (f : StoredKey → SaStatus × Option StoredKey) :
    let call := (do
      let iv ← typejIv libraries unwritten fields
      lift (unwrap iv)) >>= fun storedKey => pure (f storedKey)
    (call.events = [] ∨ call.events = [.alloc .iv]) ∧ ¬ IvTextMalformed libraries unwritten fields ∨
      call = ⟨.error (.status .invalidKeyFormat), [.alloc .iv, .free .iv]⟩ ∧
        IvTextMalformed libraries unwritten fields := by
  dsimp only
  obtain ⟨hcall, hgood⟩ | ⟨hcall, hbad⟩ | ⟨iv, hcall, hgood⟩ :=
    decodesInto_iv libraries unwritten fields
  · rw [hcall]
    exact .inl ⟨.inl rfl, hgood⟩
  · rw [hcall]
    exact .inr ⟨rfl, hbad⟩
  · rw [hcall]
    refine .inl ⟨.inr ?_, hgood⟩
    rw [bind_assoc, events_bind_quiet]
    intro iv _
    exact events_lift_bind fun _ _ => rfl

theorem unwrapSized_cases (libraries : Libraries) (unwritten : Unwritten)
    (fields : List (List UInt8 × JsonValue)) (rights : SaRights) (storedKeyEncryption : StoredKey)
    (cipherAlgorithm : Option SaCipherAlgorithm) (contentKey : List UInt8) :
    let call := unwrapSized libraries unwritten fields rights storedKeyEncryption cipherAlgorithm
      contentKey
    let malformed := (∃ length, jsonKeyValueFind "contentKeyLength" fields = some length) ∧
      cipherAlgorithm ∈ [some .aesCbc, some .aesCbcPkcs7] ∧
      IvTextMalformed libraries unwritten fields
    (call.events = [] ∨ call.events = [.alloc .iv]) ∧ ¬ malformed ∨
      call = ⟨.error (.status .invalidKeyFormat), [.alloc .iv, .free .iv]⟩ ∧ malformed := by
  unfold unwrapSized requiredField
  cases jsonKeyValueFind "contentKeyLength" fields with
  | none => exact .inl ⟨.inl rfl, by simp⟩
  | some lengthField =>
    have hcbc {algorithm : SaCipherAlgorithm}
        (halgorithm : some algorithm ∈ [some .aesCbc, some .aesCbcPkcs7]) :
        ((∃ length, some lengthField = some length) ∧
          some algorithm ∈ [some .aesCbc, some .aesCbcPkcs7] ∧
          IvTextMalformed libraries unwritten fields) =
            IvTextMalformed libraries unwritten fields := by
      simp only [halgorithm, Option.some.injEq, exists_eq', true_and]
    simp only [demandSome, lift_ok_bind]
    cases cipherAlgorithm with
    | none => exact .inl ⟨.inl rfl, by simp⟩
    | some algorithm =>
      cases algorithm with
      | aesEcb => exact .inl ⟨.inl (events_lift_bind fun _ _ => rfl), by simp⟩
      | aesEcbPkcs7 => exact .inl ⟨.inl (events_lift_bind fun _ _ => rfl), by simp⟩
      | aesCbc =>
        rw [hcbc (by decide)]
        exact unwrapWithIv_cases _ _
      | aesCbcPkcs7 =>
        rw [hcbc (by decide)]
        exact unwrapWithIv_cases _ _
      | _ => exact .inl ⟨.inl rfl, by simp⟩

theorem requiredField_eq_ok {key : String} {field : JsonValue} :
    requiredField key fields = .ok field ↔ jsonKeyValueFind key fields = some field :=
  demandSome_eq_ok

theorem unwrapKeyV2_frees : FreesUnless
    (unwrapKeyV2 libraries unwritten fields rights storedKeyEncryption) [.contentKey, .iv]
    (∃ algorithm, jsonKeyValueFind "contentKeyTransportAlgorithm" fields = some algorithm ∧
      (ContentKeyMalformed libraries unwritten fields ∨
        IvMalformed libraries unwritten fields algorithm)) := by
  simp only [unwrapKeyV2_eq, ← requiredField_eq_ok]
  apply FreesUnless.lift_bind
  intro algorithmField _
  have hresult : (typejContentKey libraries unwritten fields).result =
      TaSecureApi.typejContentKey libraries unwritten fields := result_typejContentKey
  unfold IvMalformed
  obtain ⟨hcall, hgood⟩ | ⟨hcall, hbad⟩ | ⟨contentKey, hcall, hgood⟩ :=
    decodesInto_contentKey libraries unwritten fields
  · rw [hcall] at hresult ⊢
    apply FreesUnless.good [] rfl confined_nil freedOnce_nil
    rw [← hresult]
    intro h
    obtain h | ⟨⟨contentKey, h⟩, _⟩ := h
    · exact hgood h
    · cases h
  · rw [hcall]
    exact .bad [.alloc .contentKey, .free .contentKey, .free .contentKey] rfl (by decide)
      (by decide) (.inl hbad)
  · rw [hcall] at hresult ⊢
    rw [bind_of_ok rfl]
    obtain ⟨hevents, hgood'⟩ | ⟨hcall', hbad⟩ :=
      unwrapSized_cases libraries unwritten fields rights storedKeyEncryption
        (parseCipherAlgorithm (jsonValueAsString 0 algorithmField).2) contentKey
    · obtain hevents | hevents := hevents
      · apply FreesUnless.good [.alloc .contentKey, .free .contentKey] _ (by decide) (by decide)
          (not_or_intro hgood fun h => hgood' h.2)
        rw [hevents]
        rfl
      · apply FreesUnless.good [.alloc .contentKey, .alloc .iv, .free .contentKey, .free .iv] _
          (by decide) (by decide) (not_or_intro hgood fun h => hgood' h.2)
        rw [hevents]
        rfl
    · rw [hcall']
      exact .bad [.alloc .contentKey, .alloc .iv, .free .iv, .free .contentKey, .free .iv] rfl
        (by decide) (by decide) (.inr ⟨⟨contentKey, hresult.symm⟩, hbad⟩)

theorem unwrapKeyVersion_frees : FreesUnless
    (unwrapKeyVersion libraries unwritten fields rights storedKeyEncryption) [.contentKey, .iv]
    (KeyMalformed libraries unwritten fields) := by
  unfold unwrapKeyVersion KeyMalformed
  dsimp only
  generalize (jsonKeyValueFind "contentKeyContainerVersion" fields).elim 1 jsonValueAsInteger = v
  by_cases h1 : v = 1
  · simpa [h1] using unwrapKeyV1_frees
  by_cases h2 : v = 2
  · simpa [h2] using unwrapKeyV2_frees
  by_cases h3 : v = 3
  · simpa [h3, unwrapKeyV3] using unwrapKeyV2_frees
  rw [if_neg h1, if_neg h2, if_neg h3]
  exact .good [] rfl confined_nil freedOnce_nil (by simp [h1, h2, h3])

end KeyBlocks

section RightsBlocks

variable {libraries : Libraries} {unwritten : Unwritten} {fields : List (List UInt8 × JsonValue)}

/-- The bytes of the rights are freed when they are malformed or when they have been read. -/
theorem typejRights_events : (typejRights libraries unwritten fields).events = [] ∨
    (typejRights libraries unwritten fields).events =
      [.alloc .rightsBytes, .free .rightsBytes] := by
  unfold typejRights
  apply events_lift_bind_or
  intro keyId _
  apply events_lift_bind_or
  intro keyIdText _
  apply events_lift_bind_or
  intro _ _
  apply events_lift_bind_or
  intro rightsField _
  apply events_lift_bind_or
  intro _ _
  cases decodeMember libraries.bioRead unwritten .contentKeyRights rightsField false with
  | none => exact .inr rfl
  | some rightsBytes =>
    refine .inr (congrArg (_ :: _ :: ·) ?_)
    refine events_lift_bind fun _ _ => events_lift_bind fun _ _ => events_lift_bind fun _ _ => ?_
    refine events_lift_bind fun _ _ => events_lift_bind fun _ _ => events_lift_bind fun _ _ => ?_
    rfl

/-- A loop over the TA IDs that frees the array where it fails with a status. -/
def FreesArray (call : Call α) : Prop :=
  call = ⟨.error (.status .invalidKeyFormat), [.free .taIds]⟩ ∨
    call.events = [] ∧ ∀ status, call.result ≠ .error (.status status)

theorem FreesArray.bind_pure {call : Call α} (h : FreesArray call) (f : α → α') :
    FreesArray (call >>= fun a => pure (f a)) := by
  obtain h | ⟨hevents, hresult⟩ := h
  · subst h
    exact .inl rfl
  · refine .inr ⟨by rw [events_bind_quiet fun _ _ => rfl, hevents], fun status => ?_⟩
    rw [result_bind]
    cases hcall : call.result with
    | error e =>
      intro heq
      obtain rfl := Except.error.inj heq
      exact hresult status hcall
    | ok a => nofun

theorem convertTaIds_frees (i : Nat) (values : List JsonValue) :
    FreesArray (convertTaIds unwritten i values) := by
  induction values generalizing i with
  | nil => exact .inr ⟨rfl, by simp [convertTaIds]⟩
  | cons value values ih =>
    rw [convertTaIds]
    dsimp only
    split
    · exact .inl rfl
    · cases (jsonValueAsString (unwritten.length (.taId i)) value).2 with
      | none => exact .inr ⟨rfl, by simp⟩
      | some taId => exact (ih (i + 1)).bind_pure _

theorem copyTaIds_frees (i : Nat) (values : List JsonValue) :
    FreesArray (copyTaIds unwritten i values) := by
  induction values generalizing i with
  | nil => exact .inr ⟨rfl, by simp [copyTaIds]⟩
  | cons value values ih =>
    rw [copyTaIds]
    dsimp only
    split
    · exact .inl rfl
    · cases (jsonValueAsString (unwritten.length (.taId i)) value).2 with
      | none => exact .inr ⟨rfl, by simp⟩
      | some taId =>
        dsimp only
        split
        · exact .inr ⟨rfl, by simp⟩
        · exact (ih (i + 1)).bind_pure _

theorem FreesArray.array {call : Call α} (h : FreesArray call) (f : α → α') :
    FreesUnless (do
      alloc .taIds
      let a ← call
      free .taIds
      pure (f a)) [.taIds] False := by
  obtain rfl | ⟨hevents, hresult⟩ := h
  · exact .good [.alloc .taIds, .free .taIds] rfl (by decide) (by decide) not_false
  · cases hcall : call.result with
    | ok a =>
      refine .good [.alloc .taIds, .free .taIds] ?_ (by decide) (by decide) not_false
      rw [events_alloc_bind, bind_of_ok hcall, hevents]
      rfl
    | error e =>
      cases e with
      | status status => exact absurd hcall (hresult status)
      | undefined =>
        rw [bind_of_error hcall, hevents]
        have hconfined : Confined [.taIds] [Event.alloc Block.taIds] := by decide
        exact ⟨hconfined, iff_of_true (fun h => absurd rfl h) not_false⟩

theorem typejAllowedTas_frees : FreesUnless (typejAllowedTas unwritten fields) [.taIds] False := by
  unfold typejAllowedTas
  cases jsonKeyValueFind "entitledTaIds" fields with
  | none => exact .good [] rfl confined_nil freedOnce_nil not_false
  | some value =>
    dsimp only
    cases jsonValueAsArray (unwritten.length .entitledTaIds) value with
    | mk length values =>
      cases values with
      | none =>
        refine .good [] (events_lift_bind fun _ _ => ?_) confined_nil freedOnce_nil not_false
        split
        · rfl
        · rfl
      | some values =>
        dsimp only
        by_cases hlong : maxNumAllowedTaIds < length
        · rw [if_pos hlong]
          exact .good [.alloc .taIds, .free .taIds] rfl (by decide) (by decide) not_false
        · rw [if_neg hlong]
          exact (convertTaIds_frees 0 values).array _

theorem parseEntitledTaIds_frees :
    FreesUnless (parseEntitledTaIds unwritten fields) [.taIds] False := by
  unfold parseEntitledTaIds
  cases jsonKeyValueFind "entitledTaIds" fields with
  | none => exact .good [] rfl confined_nil freedOnce_nil not_false
  | some value =>
    dsimp only
    cases (jsonValueAsArray 0 value).2 with
    | none => exact .good [] rfl confined_nil freedOnce_nil not_false
    | some values => exact (copyTaIds_frees 0 values).array id

theorem typejFieldsToRights_frees :
    FreesUnless (typejFieldsToRights libraries unwritten fields) [.rightsBytes, .taIds] False := by
  have hrights : FreesUnless (typejRights libraries unwritten fields) [.rightsBytes] False := by
    obtain hevents | hevents := typejRights_events
    · exact .good [] hevents confined_nil freedOnce_nil not_false
    · exact .good [.alloc .rightsBytes, .free .rightsBytes] hevents (by decide) (by decide)
        not_false
  have hallowedTas (rights : SaRights) : FreesUnless (do
      let allowedTas ← typejAllowedTas unwritten fields
      pure { rights with allowedTas := allowedTas }) [.taIds] False :=
    typejAllowedTas_frees.bind_quiet fun _ => rfl
  exact (hrights.bind (fun rights _ => hallowedTas rights) (by decide)).congr (by simp)

end RightsBlocks

section Calls

variable {libraries : Libraries} {unwritten : Unwritten} {inp : List UInt8}
  {fields : List (List UInt8 × JsonValue)} {storedKeyMac storedKeyEncryption : StoredKey}

theorem givesUp_enclosed {body : Call α} {blocks : List Block} {malformed : Prop}
    (h : FreesUnless body blocks malformed) (hdisjoint : ∀ block ∈ parts, block ∉ blocks) :
    GivesUpOnce (⟨body.result, parts.map .alloc ++ (body.events ++ parts.map .free)⟩ : Call α) ↔
      ¬ malformed := by
  rw [← h.givesUp]
  unfold GivesUpOnce
  rw [← List.append_assoc, freedOnce_enclosed (by decide) h.confined hdisjoint]

theorem typejUnwrap_givesUp :
    GivesUpOnce (typejUnwrap libraries unwritten inp storedKeyMac storedKeyEncryption) ↔
      ¬ TypejMalformed libraries unwritten inp storedKeyMac := by
  have hresult : (unpackTypej libraries.bioRead inp).result =
      demandSome .invalidKeyFormat (TaSecureApi.unpackTypej libraries.bioRead inp) :=
    result_unpackContainer fun _ _ => result_decodeOrFree
  unfold typejUnwrap TypejMalformed
  obtain ⟨hcall, hgood⟩ | ⟨events, hcall, hfreed, hbad⟩ | ⟨unpacked, hcall, hgood⟩ :=
    unpackTypej_cases libraries.bioRead inp
  · have hfields : typejFields libraries inp storedKeyMac =
        .error (.status .invalidKeyFormat) := by
      rw [typejFields, ← hresult, hcall]
      rfl
    rw [hcall]
    exact iff_of_true (fun _ => freedOnce_nil) (by simp [hgood, hfields])
  · rw [hcall]
    exact iff_of_false (fun h => hfreed (h (by simp))) (not_not_intro (.inl hbad))
  · have hunpack : TaSecureApi.unpackTypej libraries.bioRead inp = some unpacked := by
      rw [← demandSome_eq_ok, ← hresult, hcall]
    rw [hcall, bind_of_ok rfl]
    refine (givesUp_enclosed (.lift_bind fun _ _ => .lift_bind fun fields _ =>
      typejFieldsToRights_frees.bind (fun rights _ => unwrapKeyVersion_frees) (by decide))
      (by decide)).trans (not_congr ?_)
    simp only [result_typejFieldsToRights, demand_eq_ok, demandSome_eq_ok, hgood, false_or,
      typejFields, bind_eq_ok, hunpack, Option.some.injEq, exists_eq_left']
    constructor
    · rintro ⟨_, hverified, fields, hmap, rights, hrights, hbad⟩
      exact ⟨fields, rights, ⟨(), hverified, hmap⟩, hrights, hbad⟩
    · rintro ⟨fields, rights, ⟨_, hverified, hmap⟩, hrights, hbad⟩
      exact ⟨(), hverified, fields, hmap, rights, hrights, hbad⟩

theorem parsePayloadKey_cases (libraries : Libraries) (unwritten : Unwritten)
    (fields : List (List UInt8 × JsonValue)) :
    (∃ stop, parsePayloadKey libraries unwritten fields = lift (.error stop)) ∧
      ¬ EncryptedKeyMalformed libraries unwritten fields ∨
    parsePayloadKey libraries unwritten fields =
      ⟨.error (.status .invalidKeyFormat), [.alloc .encryptedKey, .free .encryptedKey]⟩ ∧
      EncryptedKeyMalformed libraries unwritten fields ∨
    (parsePayloadKey libraries unwritten fields).events = [.alloc .encryptedKey] ∧
      ¬ EncryptedKeyMalformed libraries unwritten fields := by
  unfold parsePayloadKey EncryptedKeyMalformed requiredField
  cases jsonKeyValueFind "containerVersion" fields with
  | none => exact .inl ⟨⟨_, rfl⟩, by simp⟩
  | some version =>
    simp only [demandSome, lift_ok_bind, Option.some.injEq, exists_eq_left']
    cases parseRootKeyType unwritten fields (castUint8 (jsonValueAsInteger version)) with
    | error stop => exact .inl ⟨⟨_, rfl⟩, by simp⟩
    | ok rootKeyType =>
      cases jsonKeyValueFind "keyType" fields with
      | none => exact .inl ⟨⟨_, rfl⟩, by simp⟩
      | some keyType =>
        simp only [lift_ok_bind, Option.some.injEq, exists_eq_left', Except.ok.injEq, exists_eq',
          true_and]
        cases (jsonValueAsString 0 keyType).2 with
        | none => exact .inl ⟨⟨_, rfl⟩, by simp⟩
        | some text =>
          cases jsonKeyValueFind "encryptedKey" fields with
          | none => exact .inl ⟨⟨_, rfl⟩, by simp⟩
          | some encryptedKey =>
            simp only [lift_ok_bind, Option.some.injEq, exists_eq_left', exists_eq', true_and]
            cases decodeMember libraries.bioRead unwritten .encryptedKey encryptedKey false with
            | none => exact .inr (.inl ⟨rfl, rfl⟩)
            | some bytes =>
              refine .inr (.inr ⟨congrArg (_ :: ·) ?_, by simp⟩)
              exact events_lift_bind fun _ _ => events_lift_bind fun _ _ =>
                events_lift_bind fun _ _ => rfl

/-- What is done with the parts, between their allocation and the end of `soc_kc_unwrap`. -/
def socEnclosed (body : Call α) : Call α :=
  freeingOwn [.encryptedKey] ⟨body.result, parts.map .alloc ++ (body.events ++ parts.map .free)⟩

theorem socEnclosed_lift_bind {y : Except Stop α} {f : α → Call α'} {malformed : α → Prop}
    (h : ∀ a, y = .ok a → (GivesUpOnce (socEnclosed (f a)) ↔ ¬ malformed a)) :
    GivesUpOnce (socEnclosed (lift y >>= f)) ↔ ¬ ∃ a, y = .ok a ∧ malformed a := by
  cases y with
  | error stop =>
    have hfreed : FreedOnce (parts.map .alloc ++ ([] ++ parts.map .free) ++ []) := by decide
    exact iff_of_true (fun _ => hfreed) (by simp)
  | ok a =>
    rw [lift_ok_bind]
    simpa only [Except.ok.injEq, exists_eq_left'] using h a rfl

theorem socEnclosed_key {f : SocKcKey → Call α} (hf : ∀ key, FreesUnless (f key) [.taIds] False) :
    GivesUpOnce (socEnclosed (parsePayloadKey libraries unwritten fields >>= f)) ↔
      ¬ EncryptedKeyMalformed libraries unwritten fields := by
  obtain ⟨⟨stop, hcall⟩, hgood⟩ | ⟨hcall, hbad⟩ | ⟨hevents, hgood⟩ :=
    parsePayloadKey_cases libraries unwritten fields
  · rw [hcall]
    have hfreed : FreedOnce (parts.map .alloc ++ ([] ++ parts.map .free) ++ []) := by decide
    exact iff_of_true (fun _ => hfreed) hgood
  · rw [hcall]
    have hfreed : ¬ FreedOnce (parts.map .alloc ++
        ([.alloc .encryptedKey, .free .encryptedKey] ++ parts.map .free) ++
        [.free .encryptedKey]) := by decide
    exact iff_of_false (fun h => hfreed (h nofun)) (not_not_intro hbad)
  · cases hresult : (parsePayloadKey libraries unwritten fields).result with
    | error stop =>
      have hfreed : FreedOnce (parts.map .alloc ++
        ([.alloc .encryptedKey] ++ parts.map .free) ++ [.free .encryptedKey]) := by decide
      rw [bind_of_error hresult, hevents]
      exact iff_of_true (fun _ => hfreed) hgood
    | ok key =>
      rw [bind_of_ok hresult, hevents]
      refine iff_of_true (fun hreturns => ?_) hgood
      have hfreed : FreedOnce (f key).events := (hf key).givesUp.2 not_false hreturns
      have hnodup : (parts ++ [Block.encryptedKey]).Nodup := by decide
      have henclosed := (freedOnce_enclosed hnodup (hf key).confined (by decide)).2 hfreed
      simpa [socEnclosed, freeingOwn, freeing] using henclosed

theorem socEnclosed_payload (libraries : Libraries) (unwritten : Unwritten)
    (fields : List (List UInt8 × JsonValue)) (verify : SocKcPayload → Except Stop α) :
    GivesUpOnce (socEnclosed (parsePayload libraries unwritten fields >>= fun payload =>
      lift (verify payload))) ↔ ¬ EncryptedKeyMalformed libraries unwritten fields := by
  simp only [parsePayload, bind_assoc]
  refine socEnclosed_key fun key => parseEntitledTaIds_frees.bind_quiet fun _ => ?_
  exact events_lift_bind fun _ _ => events_lift_bind fun _ _ => events_lift_bind fun _ _ => rfl

theorem socKcUnwrap_givesUp {parameters : Option SaImportParametersSoc} :
    GivesUpOnce (socKcUnwrap libraries unwritten inp parameters) ↔
      ¬ SocMalformed libraries unwritten inp := by
  have hresult : (unpackSocKc libraries.bioRead inp).result =
      demandSome .invalidKeyFormat (TaSecureApi.unpackSocKc libraries.bioRead inp) :=
    result_unpackContainer fun _ _ => result_decodeInto
  unfold socKcUnwrap SocMalformed
  obtain ⟨events, hcall, hfreed, hconfined⟩ | ⟨unpacked, hcall⟩ :=
    unpackSocKc_cases libraries.bioRead inp
  · rw [hcall] at hresult ⊢
    have hother : .alloc Block.encryptedKey ∉ events := fun h =>
      absurd (hconfined _ h) (by decide : Block.encryptedKey ∉ parts)
    refine iff_of_true (fun _ => ?_) ?_
    · rw [bind_of_error rfl]
      simpa [hother] using hfreed
    · intro ⟨unpacked, hunpack, _⟩
      rw [hunpack] at hresult
      cases hresult
  · have hunpack : TaSecureApi.unpackSocKc libraries.bioRead inp = some unpacked := by
      rw [← demandSome_eq_ok, ← hresult, hcall]
    rw [hcall, bind_of_ok rfl]
    have henclosed := socEnclosed_lift_bind
      (y := demandSome .invalidKeyFormat
        (jsonValueAsMap (libraries.jsonParseBytes unpacked.header)))
      fun headerFields _ => socEnclosed_lift_bind (y := parseHeader headerFields) fun alg _ =>
        socEnclosed_lift_bind (y := demandSome .invalidKeyFormat
          (jsonValueAsMap (libraries.jsonParseBytes unpacked.payload))) fun fields _ =>
            socEnclosed_payload libraries unwritten fields fun payload =>
              decryptKeyAndVerifyMac libraries unwritten alg payload unpacked.mac parameters
    refine henclosed.trans (not_congr ?_)
    simp only [demandSome_eq_ok, hunpack, Option.some.injEq, exists_eq_left']

end Calls

/-- An import frees each of its blocks exactly once, unless something that it decodes is malformed:
that is freed where it is found, and again at the end. -/
theorem container_frees (libraries : Libraries) (unwritten : Unwritten) (inp : List UInt8)
    (storedKeyMac storedKeyEncryption : StoredKey) (parameters : Option SaImportParametersSoc) :
    (GivesUpOnce (typejUnwrap libraries unwritten inp storedKeyMac storedKeyEncryption) ↔
      ¬ TypejMalformed libraries unwritten inp storedKeyMac) ∧
    (GivesUpOnce (socKcUnwrap libraries unwritten inp parameters) ↔
      ¬ SocMalformed libraries unwritten inp) :=
  ⟨typejUnwrap_givesUp, socKcUnwrap_givesUp⟩

/-- The payload of a Type-J container whose key is encrypted in CBC mode, with an initialization
vector of 12 bytes. -/
def shortIvPayload : JsonValue :=
  let time : JsonValue := .string (ascii "1970-01-01T00:00:00Z")
  .map [(ascii "contentKeyId", .string (ascii "key")),
    (ascii "contentKeyRights", .string (ascii "AA==")),
    (ascii "contentKeyUsage", .integer 1), (ascii "contentKeyNotBefore", time),
    (ascii "contentKeyNotOnOrAfter", time), (ascii "contentKeyCacheable", .bool false),
    (ascii "contentKeyContainerVersion", .integer 2),
    (ascii "contentKeyTransportAlgorithm", .string (ascii "aesCbcNone")),
    (ascii "contentKey", .string (List.replicate 22 65 ++ [61, 61])),
    (ascii "contentKeyLength", .integer 8),
    (ascii "contentKeyTransportIv", .string (List.replicate 16 65))]

/-- An initialization vector of 12 bytes is freed twice. -/
theorem iv_freed_twice : ¬ ∀ libraries unwritten inp storedKeyMac storedKeyEncryption parameters,
    GivesUpOnce (typejUnwrap libraries unwritten inp storedKeyMac storedKeyEncryption) ∧
      GivesUpOnce (socKcUnwrap libraries unwritten inp parameters) := by
  intro h
  let storedKey : StoredKey :=
    ⟨⟨⟨0, 0, 0, 0, [], .replicate 64 0⟩, .symmetric, .zero, 16⟩, List.replicate 16 0⟩
  let libraries := plainLibraries [shortIvPayload] fun _ => none
  let inp := renderContainer (.map []) shortIvPayload (List.replicate 32 0)
  let call := typejUnwrap libraries zeroMemory inp storedKey storedKey
  have hreturns : call.result = .error (.status .invalidKeyFormat) := by decide +kernel
  have hfreed : FreedOnce call.events :=
    (h libraries zeroMemory inp storedKey storedKey none).1 (by rw [hreturns]; decide)
  have hcount : call.events.count (.free .iv) = 2 := by decide +kernel
  have halloc : .alloc .iv ∈ call.events := by decide +kernel
  exact absurd (hfreed .iv halloc) (by rw [hcount]; decide)

end TaSecureApi.Import
