import TaSecureApi.ProviderSignature

namespace TaSecureApi
set_option autoImplicit true

/-- The calls on a context; `sig` is the size of the buffer for the signature, or none without a
buffer. -/
inductive SignatureCall (Pkey : Type)
  | signInit (key : Option (ProviderKeyData Pkey)) (params : Option SignatureCtxParams)
  | digestSignInit (mdname : Option String) (key : Option (ProviderKeyData Pkey))
      (params : Option SignatureCtxParams)
  | digestSignUpdate (data : Option (List UInt8))
  | sign (sig : Option Nat) (tbs : List UInt8)
  | digestSignFinal (sig : Option Nat)
  | digestSign (sig : Option Nat) (tbs : List UInt8)

def MdSettable (library : SignatureLibrary MdCtx Pkey) (properties : OsslParam String) :
    OsslParam String → Prop
  | .absent => True
  | .invalid => False
  | .value name => (ProviderSignatureContext.setMd.fetched library properties name).isSome

def PadModeSettable : OsslParam PadMode → Prop
  | .absent => True
  | .invalid => False
  | .value mode =>
    mode.signatureValue = some rsaPkcs1Padding ∨ mode.signatureValue = some rsaPkcs1PssPadding

structure SignatureCtxParams.Settable (library : SignatureLibrary MdCtx Pkey)
    (params : SignatureCtxParams) : Prop where
  digest : MdSettable library params.digestProps params.digest
  padMode : PadModeSettable params.padMode
  mgf1Digest : MdSettable library params.mgf1DigestProps params.mgf1Digest
  pssSaltlen : params.pssSaltlen ≠ .invalid

namespace ProviderSignatureContext

variable {MdCtx Pkey : Type} {library : SignatureLibrary MdCtx Pkey}
  {c : ProviderSignatureContext MdCtx Pkey}

theorem setMd_result {update : EvpDigest → ProviderSignatureContext MdCtx Pkey}
    (properties name : OsslParam String) :
    (c.setMd library update properties name).result = true ↔
      MdSettable library properties name := by
  cases name with
  | absent => exact iff_of_true rfl trivial
  | invalid => exact iff_of_false Bool.false_ne_true id
  | value name =>
    rw [setMd, MdSettable]
    cases setMd.fetched library properties name with
    | none => exact iff_of_false Bool.false_ne_true Bool.false_ne_true
    | some md => exact iff_of_true rfl rfl

theorem setPadMode_result (mode : OsslParam PadMode) :
    (c.setPadMode mode).result = true ↔ PadModeSettable mode := by
  cases mode with
  | absent => exact iff_of_true rfl trivial
  | invalid => exact iff_of_false Bool.false_ne_true id
  | value mode =>
    rw [setPadMode, PadModeSettable]
    cases mode.signatureValue with
    | none => exact iff_of_false Bool.false_ne_true (by rintro (h | h) <;> cases h)
    | some value =>
      rw [Option.some.injEq, Option.some.injEq]
      dsimp only
      split_ifs with h
      · exact iff_of_true rfl h
      · exact iff_of_false Bool.false_ne_true h

theorem setPssSaltlen_result (length : OsslParam SaltLength) :
    (c.setPssSaltlen length).result = true ↔ length ≠ .invalid := by
  cases length with
  | absent | value => exact iff_of_true rfl nofun
  | invalid => exact iff_of_false nofun (absurd rfl)

theorem setCtxParams_result (params : Option SignatureCtxParams) :
    (c.setCtxParams library params).result = true ↔
      ∀ p, params = some p → p.Settable library := by
  cases params with
  | none =>
    refine iff_of_true rfl ?_
    intro p hp
    cases hp
  | some params =>
    simp only [setCtxParams, ProviderResult.andThen_result, setMd_result, setPadMode_result,
      setPssSaltlen_result, Option.some.injEq, forall_eq']
    constructor
    · rintro ⟨hdigest, hpadMode, hmgf1Digest, hpssSaltlen⟩
      exact ⟨hdigest, hpadMode, hmgf1Digest, hpssSaltlen⟩
    · intro h
      exact ⟨h.digest, h.padMode, h.mgf1Digest, h.pssSaltlen⟩

theorem setMd_induct {P : ProviderSignatureContext MdCtx Pkey → Prop}
    {update : EvpDigest → ProviderSignatureContext MdCtx Pkey} (h : P c)
    (hupdate : ∀ md, P (update md))
    (properties name : OsslParam String) : P (c.setMd library update properties name).context := by
  cases name with
  | absent | invalid => exact h
  | value name =>
    rw [setMd]
    split
    · exact h
    · exact hupdate _

theorem setPadMode_induct {P : ProviderSignatureContext MdCtx Pkey → Prop} (h : P c)
    (hupdate : ∀ mode, P { c with paddingMode := mode }) (mode : OsslParam PadMode) :
    P (c.setPadMode mode).context := by
  cases mode with
  | absent | invalid => exact h
  | value mode =>
    rw [setPadMode]
    split
    · exact h
    · dsimp only
      split_ifs <;> exact hupdate _

theorem setPssSaltlen_induct {P : ProviderSignatureContext MdCtx Pkey → Prop} (h : P c)
    (hupdate : ∀ length, P { c with pssSaltLength := length }) (length : OsslParam SaltLength) :
    P (c.setPssSaltlen length).context := by
  cases length with
  | absent | invalid => exact h
  | value length => exact hupdate _

theorem setCtxParams_rest_induct {P : ProviderSignatureContext MdCtx Pkey → Prop} (h : P c)
    (hpad : ∀ d mode, P d → P { d with paddingMode := mode })
    (hmgf1 : ∀ d md, P d → P { d with mgf1Md := some md })
    (hsalt : ∀ d length, P d → P { d with pssSaltLength := length }) (params : SignatureCtxParams) :
    P ((c.setPadMode params.padMode).andThen fun c =>
      (setMd library c (fun md => { c with mgf1Md := some md }) params.mgf1DigestProps
        params.mgf1Digest).andThen fun c => setPssSaltlen c params.pssSaltlen).context := by
  apply ProviderResult.andThen_induct
  · exact setPadMode_induct h (fun _ => hpad c _ h) _
  intro c₁ h₁
  apply ProviderResult.andThen_induct
  · exact setMd_induct h₁ (fun _ => hmgf1 c₁ _ h₁) _ _
  intro c₂ h₂
  exact setPssSaltlen_induct h₂ (fun _ => hsalt c₂ _ h₂) _

theorem setCtxParams_keyData (params : Option SignatureCtxParams) :
    (c.setCtxParams library params).context.keyData = c.keyData := by
  cases params with
  | none => rfl
  | some params =>
    rw [setCtxParams]
    let P (d : ProviderSignatureContext MdCtx Pkey) : Prop := d.keyData = c.keyData
    have hset (md : EvpDigest) : P { c with evpMd := some md } := rfl
    apply ProviderResult.andThen_induct (P := P)
    · exact setMd_induct (P := P) rfl hset _ _
    intro c₁ h₁
    exact setCtxParams_rest_induct (P := P) h₁ (fun _ _ => id) (fun _ _ => id)
      (fun _ _ => id) params

theorem setCtxParams_evpMd {params : SignatureCtxParams} (hdigest : params.digest = .value name)
    (h : (c.setCtxParams library (some params)).result = true) :
    (c.setCtxParams library (some params)).context.evpMd =
      setMd.fetched library params.digestProps name := by
  have hset := (setCtxParams_result (some params)).1 h params rfl
  have hfetched := hset.digest
  rw [hdigest, MdSettable, Option.isSome_iff_exists] at hfetched
  obtain ⟨md, hmd⟩ := hfetched
  rw [setCtxParams] at h ⊢
  rw [ProviderResult.andThen_context h, hmd]
  let P (d : ProviderSignatureContext MdCtx Pkey) : Prop := d.evpMd = some md
  have hfirst : P (setMd library c (fun md => { c with evpMd := some md }) params.digestProps
      params.digest).context := by
    rw [hdigest, setMd, hmd]
    rfl
  exact setCtxParams_rest_induct hfirst (fun _ _ => id) (fun _ _ => id) (fun _ _ => id) params

/-- Whether the digest of `signature_digest_sign_init` can be had for a key. -/
def DigestBinds (library : SignatureLibrary MdCtx Pkey) (key : ProviderKeyData Pkey)
    (mdname : Option String) (params : Option SignatureCtxParams) : Prop :=
  if key.isEd then mdname.getD "" = ""
  else ∃ name md, mdname = some name ∧ library.mdFetch name "" = some md ∧
    (library.digestInit md params).isSome

/-- The context is bound to the digest of a call, and ready for its updates. -/
def BoundToDigest (library : SignatureLibrary MdCtx Pkey) (key : ProviderKeyData Pkey)
    (mdname : Option String) (params : Option SignatureCtxParams)
    (d : ProviderSignatureContext MdCtx Pkey) : Prop :=
  if key.isEd then mdname.getD "" = "" ∧ d.evpMd = none
  else ∃ name md ctx, mdname = some name ∧ library.mdFetch name "" = some md ∧
    library.digestInit md params = some ctx ∧ d.evpMd = some md ∧ d.evpMdCtx = some ctx

theorem bindDigest_isSome {key : ProviderKeyData Pkey} :
    (c.bindDigest library key mdname params).isSome ↔ DigestBinds library key mdname params := by
  rw [bindDigest, DigestBinds]
  split_ifs with hed hname
  · exact iff_of_false nofun hname
  · exact iff_of_true rfl (not_not.1 hname)
  · constructor
    · intro h
      obtain ⟨d, hd⟩ := Option.isSome_iff_exists.1 h
      obtain ⟨name, hname, hd⟩ := Option.bind_eq_some_iff.1 hd
      obtain ⟨md, hmd, hd⟩ := Option.bind_eq_some_iff.1 hd
      obtain ⟨ctx, hctx, -⟩ := Option.bind_eq_some_iff.1 hd
      exact ⟨name, md, hname, hmd, Option.isSome_iff_exists.2 ⟨ctx, hctx⟩⟩
    · rintro ⟨name, md, hname, hmd, hctx⟩
      obtain ⟨ctx, hctx⟩ := Option.isSome_iff_exists.1 hctx
      rw [hname, Option.bind_eq_bind, Option.bind_some, hmd, Option.bind_eq_bind, Option.bind_some,
        hctx]
      rfl

theorem bindDigest_bound {key : ProviderKeyData Pkey} {d : ProviderSignatureContext MdCtx Pkey}
    (h : c.bindDigest library key mdname params = some d) :
    d.keyData = c.keyData ∧ d.BoundToDigest library key mdname params := by
  rw [bindDigest] at h
  rw [BoundToDigest]
  split_ifs at h ⊢ with hed hname
  · cases h
    exact ⟨rfl, not_not.1 hname, rfl⟩
  · obtain ⟨name, hname, h⟩ := Option.bind_eq_some_iff.1 h
    obtain ⟨md, hmd, h⟩ := Option.bind_eq_some_iff.1 h
    obtain ⟨ctx, hctx, h⟩ := Option.bind_eq_some_iff.1 h
    cases h
    exact ⟨rfl, name, md, ctx, hname, hmd, hctx, rfl, rfl⟩

theorem digestBound_isSome {key : ProviderKeyData Pkey} :
    (c.digestBound library key mdname params).isSome ↔
      (∀ p, params = some p → p.Settable library) ∧ DigestBinds library key mdname params := by
  rw [digestBound, signInit]
  split_ifs with hinit
  · rw [bindDigest_isSome, and_iff_right ((setCtxParams_result params).1 hinit)]
  · exact iff_of_false nofun fun h => hinit ((setCtxParams_result params).2 h.1)

theorem digestBound_bound {key : ProviderKeyData Pkey} {d : ProviderSignatureContext MdCtx Pkey}
    (h : c.digestBound library key mdname params = some d) :
    d.keyData = some key ∧ d.BoundToDigest library key mdname params := by
  obtain ⟨-, hbind⟩ := Option.ite_none_right_eq_some.1 h
  obtain ⟨hkey, hbound⟩ := bindDigest_bound hbind
  exact ⟨hkey.trans (setCtxParams_keyData params), hbound⟩

theorem digestSign_cases (sig : Option Nat) (tbs : List UInt8) :
    (∃ siglen, c.digestSign library sig tbs = { c.refused with siglen := siglen }) ∨
      (∃ key length, sig = none ∧ c.keyData = some key ∧
        library.saCryptoSignLength key.privateKey .eddsa = .ok length ∧
          c.digestSign library sig tbs = ⟨true, c, some length, []⟩) ∨
      ∃ key sigsize signature, sig = some sigsize ∧ c.keyData = some key ∧
        library.saCryptoSign key.privateKey .eddsa sigsize tbs = .ok signature ∧
          c.digestSign library sig tbs = ⟨true, c, some signature.length, signature⟩ := by
  rw [digestSign]
  cases hkey : c.keyData with
  | none => exact .inl ⟨none, rfl⟩
  | some key =>
    dsimp only
    split_ifs
    · exact .inl ⟨none, rfl⟩
    · cases sig with
      | none =>
        dsimp only
        cases hlength : library.saCryptoSignLength key.privateKey .eddsa with
        | error => exact .inl ⟨none, rfl⟩
        | ok length => exact .inr (.inl ⟨key, length, rfl, rfl, hlength, rfl⟩)
      | some sigsize =>
        dsimp only
        cases hsignature : library.saCryptoSign key.privateKey .eddsa sigsize tbs with
        | error => exact .inl ⟨some sigsize, rfl⟩
        | ok signature => exact .inr (.inr ⟨key, sigsize, signature, rfl, rfl, hsignature, rfl⟩)

section OneShot

variable {key : ProviderKeyData Pkey} {tbs : List UInt8}

theorem digestSign_key (hkey : c.keyData = some key)
    (hresult : (c.digestSign library sig tbs).result = true) : key.privateKeyHeader.type = .ec ∨
      key.privateKeyHeader.typeParameters.isCurve isEdcurve := by
  simp only [digestSign, hkey] at hresult
  split_ifs at hresult with hrefuses
  · cases hresult
  · simpa [or_iff_not_imp_left] using hrefuses

theorem digestSign_length (hkey : c.keyData = some key)
    (hcurve : key.privateKeyHeader.type = .ec ∨
      key.privateKeyHeader.typeParameters.isCurve isEdcurve)
    (hlength : library.saCryptoSignLength key.privateKey .eddsa = .ok length) :
    c.digestSign library none tbs = ⟨true, c, some length, []⟩ := by
  have hsigns : ¬ (key.privateKeyHeader.type ≠ .ec ∧
      !key.privateKeyHeader.typeParameters.isCurve isEdcurve) := by
    simpa [or_iff_not_imp_left] using hcurve
  simp only [digestSign, hkey, if_neg hsigns, hlength]

theorem digestSign_signature {sigsize : Nat} (hkey : c.keyData = some key)
    (hcurve : key.privateKeyHeader.type = .ec ∨
      key.privateKeyHeader.typeParameters.isCurve isEdcurve)
    (hmade : library.saCryptoSign key.privateKey .eddsa sigsize tbs = .ok made) :
    c.digestSign library (some sigsize) tbs = ⟨true, c, some made.length, made⟩ := by
  have hsigns : ¬ (key.privateKeyHeader.type ≠ .ec ∧
      !key.privateKeyHeader.typeParameters.isCurve isEdcurve) := by
    simpa [or_iff_not_imp_left] using hcurve
  simp only [digestSign, hkey, if_neg hsigns, hmade]

end OneShot

end ProviderSignatureContext

namespace SignatureCall

variable {MdCtx Pkey : Type} (library : SignatureLibrary MdCtx Pkey)
  (c : ProviderSignatureContext MdCtx Pkey)

def apply : SignatureCall Pkey → Option (SignatureReply MdCtx Pkey)
  | .signInit key params =>
    let init := c.signInit library key params
    some ⟨init.result, init.context, none, []⟩
  | .digestSignInit mdname key params =>
    let init := c.digestSignInit library mdname key params
    some ⟨init.result, init.context, none, []⟩
  | .digestSignUpdate data => c.digestSignUpdate library data
  | .sign sig tbs => some (c.sign library sig tbs)
  | .digestSignFinal sig => c.digestSignFinal library sig
  | .digestSign sig tbs => some (c.digestSign library sig tbs)

def sigsize : SignatureCall Pkey → Nat
  | .sign sig _ | .digestSignFinal sig | .digestSign sig _ => sig.getD 0
  | _ => 0

/-- A call with a buffer for the signature. -/
def Signs : SignatureCall Pkey → Prop
  | .sign sig _ | .digestSignFinal sig | .digestSign sig _ => sig ≠ none
  | _ => False

def Queries : SignatureCall Pkey → Prop
  | .sign sig _ | .digestSignFinal sig | .digestSign sig _ => sig = none
  | _ => False

def Succeeded (reply : SignatureReply MdCtx Pkey) : SignatureCall Pkey → Prop
  | .signInit key params =>
    ∃ k, key = some k ∧ reply.context.keyData = some k ∧
      ∀ p name, params = some p → p.digest = .value name → reply.context.evpMd =
        ProviderSignatureContext.setMd.fetched library p.digestProps name
  | .digestSignInit mdname key params =>
    ∃ k, key = some k ∧ reply.context.keyData = some k ∧
      reply.context.BoundToDigest library k mdname params
  | .digestSignUpdate data =>
    ∃ bytes, data = some bytes ∧
      (bytes = [] ∨ ∃ ctx ctx', c.evpMdCtx = some ctx ∧
        library.digestUpdate ctx bytes = some ctx' ∧ reply.context.evpMdCtx = some ctx')
  | .sign (some _) tbs => c.signature library tbs = some reply.written
  | .digestSignFinal (some _) =>
    ∃ ctx md ctx', c.evpMdCtx = some ctx ∧ library.digestFinal ctx = some (md, ctx') ∧
      { c with evpMdCtx := some ctx' }.signature library md = some reply.written
  | .sign none _ | .digestSignFinal none =>
    ∃ length, c.signatureLength library = some length ∧ reply.siglen = some length
  | .digestSign (some sigsize) tbs =>
    ∃ key, c.keyData = some key ∧
      library.saCryptoSign key.privateKey .eddsa sigsize tbs = .ok reply.written
  | .digestSign none _ =>
    ∃ key length, c.keyData = some key ∧
      library.saCryptoSignLength key.privateKey .eddsa = .ok length ∧ reply.siglen = some length

/-- The call is defined, it writes no more than there is room for, and it returns 1 only if it
succeeded, with the length of what it wrote. -/
def Behaves (call : SignatureCall Pkey) : Prop :=
  ∃ reply, call.apply library c = some reply ∧ reply.written.length ≤ call.sigsize ∧
    (reply.result = true → call.Succeeded library c reply ∧
      (call.Signs → reply.siglen = some reply.written.length))

/-- What the client library makes of some data fits the buffer, for an EC key in its encoding. -/
def SignatureFits (tbs : List UInt8) (sigsize : Nat) : Prop :=
  ∀ key request signature encoded, c.keyData = some key →
    c.signRequest library key = some request →
      library.saCryptoSign key.privateKey request maxSignatureLength tbs = .ok signature →
        ProviderSignatureContext.encodeSignature library key signature = some encoded →
          encoded.length ≤ sigsize

/-- The condition on a call and the context before it. -/
def Sound : SignatureCall Pkey → Prop
  | .digestSignInit mdname key params =>
    ∀ k, key = some k → (∀ p, params = some p → p.Settable library) ∧
      ProviderSignatureContext.DigestBinds library k mdname params
  | .digestSignUpdate (some (_ :: _)) => c.evpMdCtx ≠ none
  | .sign (some sigsize) tbs => SignatureFits library c tbs sigsize
  | .digestSignFinal (some sigsize) =>
    ∃ ctx, c.evpMdCtx = some ctx ∧ ∀ md ctx', library.digestFinal ctx = some (md, ctx') →
      SignatureFits library { c with evpMdCtx := some ctx' } md sigsize
  | .digestSignFinal none =>
    c.evpMd ≠ none ∨ ∀ key, c.keyData = some key → c.signRequest library key = none
  | _ => True

variable {library} {c}

theorem signature_eq_some {tbs signature : List UInt8} :
    c.signature library tbs = some signature ↔
      ∃ key request made, c.keyData = some key ∧ c.signRequest library key = some request ∧
        library.saCryptoSign key.privateKey request maxSignatureLength tbs = .ok made ∧
          ProviderSignatureContext.encodeSignature library key made = some signature := by
  constructor
  · intro h
    obtain ⟨key, hkey, h⟩ := Option.bind_eq_some_iff.1 h
    obtain ⟨request, hrequest, h⟩ := Option.bind_eq_some_iff.1 h
    split at h
    next made hmade => exact ⟨key, request, made, hkey, hrequest, hmade, h⟩
    next => cases h
  · rintro ⟨key, request, made, hkey, hrequest, hmade, h⟩
    simp only [ProviderSignatureContext.signature, hkey, hrequest, Option.bind_eq_bind,
      Option.bind_some, hmade, h]

theorem signatureFits_iff {tbs : List UInt8} {sigsize : Nat} :
    SignatureFits library c tbs sigsize ↔
      ∀ signature, c.signature library tbs = some signature → signature.length ≤ sigsize := by
  constructor
  · intro h signature hsignature
    obtain ⟨key, request, made, hkey, hrequest, hmade, hencode⟩ := signature_eq_some.1 hsignature
    exact h key request made signature hkey hrequest hmade hencode
  · intro h key request made signature hkey hrequest hmade hencode
    exact h signature (signature_eq_some.2 ⟨key, request, made, hkey, hrequest, hmade, hencode⟩)

theorem not_behaves_of_undefined {call : SignatureCall Pkey}
    (happly : call.apply library c = none) :
    ¬ Behaves library c call := by
  rintro ⟨reply, hreply, -⟩
  rw [happly] at hreply
  cases hreply

theorem behaves_of_refused {call : SignatureCall Pkey} {d : ProviderSignatureContext MdCtx Pkey}
    (happly : call.apply library c = some { d.refused with siglen := siglen }) :
    Behaves library c call :=
  ⟨_, happly, Nat.zero_le _, nofun⟩

theorem signInit_behaves (key : Option (ProviderKeyData Pkey))
    (params : Option SignatureCtxParams) :
    Behaves library c (.signInit key params) := by
  refine ⟨_, rfl, Nat.zero_le _, ?_⟩
  intro hresult
  cases key with
  | none => cases hresult
  | some key =>
    refine ⟨⟨key, rfl, ProviderSignatureContext.setCtxParams_keyData params, ?_⟩, nofun⟩
    intro p name hparams hdigest
    cases hparams
    exact ProviderSignatureContext.setCtxParams_evpMd hdigest hresult

theorem digestSignInit_behaves_iff (mdname : Option String) (key : Option (ProviderKeyData Pkey))
    (params : Option SignatureCtxParams) :
    Behaves library c (.digestSignInit mdname key params) ↔
      Sound library c (.digestSignInit mdname key params) := by
  cases key with
  | none =>
    refine iff_of_true ⟨_, rfl, Nat.zero_le _, nofun⟩ ?_
    intro k hk
    cases hk
  | some key =>
    simp only [Sound, Option.some.injEq, forall_eq']
    rw [← ProviderSignatureContext.digestBound_isSome (c := c), Behaves, apply,
      ProviderSignatureContext.digestSignInit]
    cases hbound : c.digestBound library key mdname params with
    | none =>
      refine iff_of_false ?_ nofun
      rintro ⟨reply, hreply, -, hsucceeded⟩
      cases hreply
      obtain ⟨⟨k, -, hkey, -⟩, -⟩ := hsucceeded rfl
      cases hkey
    | some d =>
      refine iff_of_true ?_ rfl
      obtain ⟨hkey, hdigest⟩ := ProviderSignatureContext.digestBound_bound hbound
      exact ⟨_, rfl, Nat.zero_le _, fun _ => ⟨⟨key, rfl, hkey, hdigest⟩, nofun⟩⟩

theorem digestSignUpdate_behaves_iff (data : Option (List UInt8)) :
    Behaves library c (.digestSignUpdate data) ↔ Sound library c (.digestSignUpdate data) := by
  rcases data with _ | _ | ⟨byte, data⟩
  · exact iff_of_true ⟨_, rfl, Nat.zero_le _, fun h => by cases h⟩ trivial
  · refine iff_of_true ⟨_, rfl, Nat.zero_le _, fun _ => ⟨⟨[], rfl, .inl rfl⟩, ?_⟩⟩ trivial
    intro h
    cases h
  · cases hctx : c.evpMdCtx with
    | none =>
      have happly : apply library c (.digestSignUpdate (some (byte :: data))) = none := by
        change c.evpMdCtx.bind _ = none
        rw [hctx, Option.bind_none]
      exact iff_of_false (not_behaves_of_undefined happly) fun h => h hctx
    | some ctx =>
      refine iff_of_true ?_ fun h => by cases hctx.symm.trans h
      cases hupdate : library.digestUpdate ctx (byte :: data) with
      | none =>
        have happly : apply library c (.digestSignUpdate (some (byte :: data))) =
            some c.refused := by
          change c.evpMdCtx.bind _ = some c.refused
          rw [hctx, Option.bind_some, hupdate]
        exact behaves_of_refused happly
      | some ctx' =>
        have happly : apply library c (.digestSignUpdate (some (byte :: data))) =
            some ⟨true, { c with evpMdCtx := some ctx' }, none, []⟩ := by
          change c.evpMdCtx.bind _ = some _
          rw [hctx, Option.bind_some, hupdate]
        refine ⟨_, happly, Nat.zero_le _, fun _ =>
          ⟨⟨byte :: data, rfl, .inr ⟨ctx, ctx', hctx, hupdate, rfl⟩⟩, ?_⟩⟩
        intro h
        cases h

theorem query_behaves {call : SignatureCall Pkey}
    (happly : call.apply library c = some (c.sign library none tbs))
    (hcall : (∃ tbs, call = .sign none tbs) ∨ call = .digestSignFinal none) :
    Behaves library c call := by
  rw [ProviderSignatureContext.sign] at happly
  cases hlength : c.signatureLength library with
  | none =>
    rw [hlength] at happly
    exact behaves_of_refused happly
  | some length =>
    rw [hlength] at happly
    refine ⟨_, happly, Nat.zero_le _, fun _ => ?_⟩
    rcases hcall with ⟨tbs, rfl⟩ | rfl
    · exact ⟨⟨length, hlength, rfl⟩, fun h => (h rfl).elim⟩
    · exact ⟨⟨length, hlength, rfl⟩, fun h => (h rfl).elim⟩

theorem buffered_behaves_iff {call : SignatureCall Pkey} {d : ProviderSignatureContext MdCtx Pkey}
    {sigsize : Nat}
    (happly : call.apply library c = some (d.sign library (some sigsize) tbs))
    (hsize : call.sigsize = sigsize)
    (hsucceeded : ∀ reply : SignatureReply MdCtx Pkey,
      d.signature library tbs = some reply.written → Succeeded library c reply call) :
    Behaves library c call ↔ SignatureFits library d tbs sigsize := by
  rw [ProviderSignatureContext.sign] at happly
  rw [signatureFits_iff]
  cases hsignature : d.signature library tbs with
  | none =>
    rw [hsignature] at happly
    exact iff_of_true (behaves_of_refused happly) nofun
  | some signature =>
    rw [hsignature] at happly
    constructor
    · rintro ⟨reply, hreply, hlength, -⟩ w hw
      cases happly.symm.trans hreply
      cases hw
      exact hsize ▸ hlength
    · intro hfits
      have hle : signature.length ≤ call.sigsize := hsize ▸ hfits signature rfl
      exact ⟨_, happly, hle, fun _ => ⟨hsucceeded _ hsignature, fun _ => rfl⟩⟩

theorem sign_behaves_iff (sig : Option Nat) (tbs : List UInt8) :
    Behaves library c (.sign sig tbs) ↔ Sound library c (.sign sig tbs) := by
  cases sig with
  | none => exact iff_of_true (query_behaves rfl (.inl ⟨tbs, rfl⟩)) trivial
  | some sigsize => exact buffered_behaves_iff rfl rfl fun _ => id

theorem digestSignFinal_behaves_iff (sig : Option Nat) :
    Behaves library c (.digestSignFinal sig) ↔ Sound library c (.digestSignFinal sig) := by
  cases sig with
  | none =>
    have happly : apply library c (.digestSignFinal none) =
        if c.evpMd = none ∧ (c.keyData.bind (c.signRequest library)).isSome then none
        else some (c.sign library none []) := rfl
    split_ifs at happly with hmissing
    · obtain ⟨hmd, hrequest⟩ := hmissing
      refine iff_of_false (not_behaves_of_undefined happly) ?_
      rintro (hsome | hnone)
      · exact hsome hmd
      · obtain ⟨request, hrequest⟩ := Option.isSome_iff_exists.1 hrequest
        obtain ⟨key, hkey, hrequest⟩ := Option.bind_eq_some_iff.1 hrequest
        rw [hnone key hkey] at hrequest
        cases hrequest
    · refine iff_of_true (query_behaves happly (.inr rfl)) ?_
      rcases not_and_or.1 hmissing with hmd | hrequest
      · exact .inl hmd
      · refine .inr fun key hkey => ?_
        rw [hkey, Option.bind_some, Option.not_isSome_iff_eq_none] at hrequest
        exact hrequest
  | some sigsize =>
    cases hctx : c.evpMdCtx with
    | none =>
      have happly : apply library c (.digestSignFinal (some sigsize)) = none := by
        change c.evpMdCtx.bind _ = none
        rw [hctx, Option.bind_none]
      refine iff_of_false (not_behaves_of_undefined happly) ?_
      rintro ⟨ctx, hsome, -⟩
      cases hctx.symm.trans hsome
    | some ctx =>
      cases hfinal : library.digestFinal ctx with
      | none =>
        have happly : apply library c (.digestSignFinal (some sigsize)) = some c.refused := by
          change c.evpMdCtx.bind _ = some c.refused
          rw [hctx, Option.bind_some, hfinal]
        refine iff_of_true (behaves_of_refused happly) ⟨ctx, hctx, fun md ctx' h => ?_⟩
        cases hfinal.symm.trans h
      | some digest =>
        obtain ⟨md, ctx'⟩ := digest
        have happly : apply library c (.digestSignFinal (some sigsize)) =
            some ({ c with evpMdCtx := some ctx' }.sign library (some sigsize) md) := by
          change c.evpMdCtx.bind _ = some _
          rw [hctx, Option.bind_some, hfinal]
        rw [buffered_behaves_iff happly rfl fun _ h => ⟨ctx, md, ctx', hctx, hfinal, h⟩]
        constructor
        · intro hfits
          refine ⟨ctx, hctx, fun md' ctx'' h => ?_⟩
          cases hfinal.symm.trans h
          exact hfits
        · rintro ⟨ctx₁, hctx₁, hfits⟩
          cases hctx.symm.trans hctx₁
          exact hfits md ctx' hfinal

theorem digestSign_behaves (sig : Option Nat) (tbs : List UInt8) :
    Behaves library c (.digestSign sig tbs) := by
  rw [Behaves, apply]
  rcases ProviderSignatureContext.digestSign_cases sig tbs with
    ⟨siglen, hreply⟩ | ⟨key, length, rfl, hkey, hlength, hreply⟩ |
      ⟨key, sigsize, signature, rfl, hkey, hsignature, hreply⟩
  · exact ⟨_, congrArg some hreply, Nat.zero_le _, nofun⟩
  · exact ⟨_, congrArg some hreply, Nat.zero_le _, fun _ =>
      ⟨⟨key, length, hkey, hlength, rfl⟩, fun h => (h rfl).elim⟩⟩
  · have hle := library.saCryptoSign_le _ _ _ _ _ hsignature
    exact ⟨_, congrArg some hreply, hle, fun _ => ⟨⟨key, hkey, hsignature⟩, fun _ => rfl⟩⟩

theorem behaves_iff_sound (call : SignatureCall Pkey) :
    Behaves library c call ↔ Sound library c call := by
  cases call with
  | signInit key params => exact iff_of_true (signInit_behaves key params) trivial
  | digestSignInit mdname key params => exact digestSignInit_behaves_iff mdname key params
  | digestSignUpdate data => exact digestSignUpdate_behaves_iff data
  | sign sig tbs => exact sign_behaves_iff sig tbs
  | digestSignFinal sig => exact digestSignFinal_behaves_iff sig
  | digestSign sig tbs => exact iff_of_true (digestSign_behaves sig tbs) trivial

end SignatureCall

end TaSecureApi
