import TaSecureApi.ProviderSignatureCalls

namespace TaSecureApi
set_option autoImplicit true

/-- The client library reports one length for a key, and reports it where it makes a signature. One
by ECDSA has this length, that of two numbers for P-521 at most, and a key for EdDSA makes none. -/
structure SignatureLibrary.ReportsLengths (library : SignatureLibrary MdCtx Pkey) : Prop where
  single : ∀ key request request' length length',
    library.saCryptoSignLength key request = .ok length →
    library.saCryptoSignLength key request' = .ok length' → length = length'
  reports : ∀ key request capacity inp signature,
    library.saCryptoSign key request capacity inp = .ok signature →
      ∃ length, library.saCryptoSignLength key request = .ok length
  ecdsa : ∀ key digest capacity inp signature,
    library.saCryptoSign key (.ecdsa digest) capacity inp = .ok signature →
      signature.length ≤ 2 * 66 ∧
        library.saCryptoSignLength key (.ecdsa digest) = .ok signature.length
  eddsa : ∀ key digest length capacity inp signature,
    library.saCryptoSignLength key .eddsa = .ok length →
      library.saCryptoSign key (.ecdsa digest) capacity inp ≠ .ok signature

namespace SignatureCall

/-- The lengths of two calls: the one without a buffer reports at least what the other writes with
the same key. -/
def QueryBounds (library : SignatureLibrary MdCtx Pkey) (c c' : ProviderSignatureContext MdCtx Pkey)
    (call call' : SignatureCall Pkey) : Prop :=
  call.Queries → call'.Signs → c.keyData = c'.keyData → ∀ reply reply',
    call.apply library c = some reply → call'.apply library c' = some reply' →
      reply.result = true → reply'.result = true →
        ∃ length, reply.siglen = some length ∧ reply'.written.length ≤ length

/-- The contexts and the calls of a sequence of calls, up to one that is undefined. -/
def trace (library : SignatureLibrary MdCtx Pkey) (c : ProviderSignatureContext MdCtx Pkey) :
    List (SignatureCall Pkey) → List (ProviderSignatureContext MdCtx Pkey × SignatureCall Pkey)
  | [] => []
  | call :: calls =>
    (c, call) :: ((call.apply library c).map fun reply => trace library reply.context calls).getD []

/-- All calls of a sequence behave, and what one of them writes is within every length that a call
reports for its key. -/
structure RunBehaves (library : SignatureLibrary MdCtx Pkey) (calls : List (SignatureCall Pkey)) :
    Prop where
  behaves : ∀ e ∈ trace library signatureNewctx calls, Behaves library e.1 e.2
  bounds : ∀ e ∈ trace library signatureNewctx calls, ∀ c query,
    QueryBounds library c e.1 query e.2

/-- A signature that the client library makes has at most the length that it reports. -/
def WithinReported (library : SignatureLibrary MdCtx Pkey) (key : SaKey) (request : SignRequest)
    (capacity : Nat) (inp : List UInt8) : Prop :=
  ∀ made length, library.saCryptoSign key request capacity inp = .ok made →
    library.saCryptoSignLength key request = .ok length → made.length ≤ length

/-- What `signature_sign` has an RSA key make is within the length that is reported. -/
def SignatureReported (library : SignatureLibrary MdCtx Pkey)
    (c : ProviderSignatureContext MdCtx Pkey) (tbs : List UInt8) : Prop :=
  ∀ key request, c.keyData = some key → key.privateKeyHeader.type ≠ .ec →
    c.signRequest library key = some request →
      WithinReported library key.privateKey request maxSignatureLength tbs

/-- The condition on the length of the signature of a call. -/
def Reported (library : SignatureLibrary MdCtx Pkey) (c : ProviderSignatureContext MdCtx Pkey) :
    SignatureCall Pkey → Prop
  | .sign (some _) tbs => SignatureReported library c tbs
  | .digestSignFinal (some _) =>
    ∀ ctx md ctx', c.evpMdCtx = some ctx → library.digestFinal ctx = some (md, ctx') →
      SignatureReported library c md
  | .digestSign (some sigsize) tbs =>
    ∀ key, c.keyData = some key → key.privateKeyHeader.type = .ec ∨
      key.privateKeyHeader.typeParameters.isCurve isEdcurve →
        WithinReported library key.privateKey .eddsa sigsize tbs
  | _ => True

/-- Each call of a sequence is sound, with a signature within the length that is reported. -/
def SoundRun (library : SignatureLibrary MdCtx Pkey) (calls : List (SignatureCall Pkey)) : Prop :=
  ∀ e ∈ trace library signatureNewctx calls, Sound library e.1 e.2 ∧ Reported library e.1 e.2

end SignatureCall

theorem length_ecEncodeSignature_le {signature : List UInt8} (h : signature.length ≤ 2 * 66) :
    (ecEncodeSignature signature).length ≤ signature.length + 9 := by
  let half := signature.length / 2
  have hnumber (bytes : List UInt8) :
      (Der.integer (Der.bigEndian (bytes.take half))).length ≤ half + 3 := by
    apply Der.length_integer_le
    · calc
        Der.bigEndian (bytes.take half) < 256 ^ (bytes.take half).length := Der.bigEndian_lt _
        _ ≤ 256 ^ half := Nat.pow_le_pow_right (by decide) (List.length_take_le half bytes)
    · omega
  have hr := hnumber signature
  have hs := hnumber (signature.drop half)
  have hcontents : (Der.integer (Der.bigEndian (signature.take half)) ++
      Der.integer (Der.bigEndian ((signature.drop half).take half))).length ≤
        2 * half + 6 := by
    rw [List.length_append]
    omega
  have hencoded : (ecEncodeSignature signature).length ≤
      (Der.integer (Der.bigEndian (signature.take half)) ++
        Der.integer (Der.bigEndian ((signature.drop half).take half))).length + 3 :=
    Der.length_item_le (Nat.lt_of_le_of_lt hcontents (by omega : 2 * half + 6 < 256))
  exact hencoded.trans (by omega)

namespace SignatureCall

variable {MdCtx Pkey : Type} {library : SignatureLibrary MdCtx Pkey}
  {c c' : ProviderSignatureContext MdCtx Pkey} {reply reply' : SignatureReply MdCtx Pkey}

theorem signRequest_ec {key : ProviderKeyData Pkey} (hec : key.privateKeyHeader.type = .ec)
    (h : c.signRequest library key = some request) : ∃ digest, request = .ecdsa digest := by
  rw [ProviderSignatureContext.signRequest, hec] at h
  dsimp only at h
  split_ifs at h
  cases h
  exact ⟨_, rfl⟩

/-- A signature of the client library with a key, in its encoding, that is within the length that is
reported. -/
def WritesMade (library : SignatureLibrary MdCtx Pkey) (key : ProviderKeyData Pkey)
    (written : List UInt8) : Prop :=
  ∃ request capacity inp made,
    (key.privateKeyHeader.type = .ec → ∃ digest, request = .ecdsa digest) ∧
      library.saCryptoSign key.privateKey request capacity inp = .ok made ∧
        ProviderSignatureContext.encodeSignature library key made = some written ∧
          (key.privateKeyHeader.type ≠ .ec →
            WithinReported library key.privateKey request capacity inp)

theorem writesMade_of_signature {tbs : List UInt8} (h : c.signature library tbs = some signature)
    (hreported : SignatureReported library c tbs) :
    ∃ key, c.keyData = some key ∧ WritesMade library key signature := by
  obtain ⟨key, request, made, hkey, hrequest, hmade, hencode⟩ := signature_eq_some.1 h
  exact ⟨key, hkey, request, maxSignatureLength, tbs, made, fun hec => signRequest_ec hec hrequest,
    hmade, hencode, fun hec => hreported key request hkey hec hrequest⟩

theorem written_of_signs {call : SignatureCall Pkey} (h : Behaves library c call)
    (hreported : Reported library c call) (hsigns : call.Signs)
    (happly : call.apply library c = some reply) (hresult : reply.result = true) :
    ∃ key, c.keyData = some key ∧ (WritesMade library key reply.written ∨
      ∃ capacity inp, library.saCryptoSign key.privateKey .eddsa capacity inp = .ok reply.written ∧
        WithinReported library key.privateKey .eddsa capacity inp) := by
  obtain ⟨_, hreply, -, hsucceeded⟩ := h
  cases happly.symm.trans hreply
  have hsucceeded := (hsucceeded hresult).1
  cases call with
  | signInit | digestSignInit | digestSignUpdate => exact hsigns.elim
  | sign sig tbs =>
    obtain ⟨sigsize, rfl⟩ := Option.ne_none_iff_exists'.1 hsigns
    obtain ⟨key, hkey, hmade⟩ := writesMade_of_signature hsucceeded hreported
    exact ⟨key, hkey, .inl hmade⟩
  | digestSignFinal sig =>
    obtain ⟨sigsize, rfl⟩ := Option.ne_none_iff_exists'.1 hsigns
    obtain ⟨ctx, md, ctx', hctx, hfinal, hsignature⟩ := hsucceeded
    obtain ⟨key, hkey, hmade⟩ :=
      writesMade_of_signature hsignature (hreported ctx md ctx' hctx hfinal)
    exact ⟨key, hkey, .inl hmade⟩
  | digestSign sig tbs =>
    obtain ⟨sigsize, rfl⟩ := Option.ne_none_iff_exists'.1 hsigns
    obtain ⟨key, hkey, hsignature⟩ := hsucceeded
    refine ⟨key, hkey, .inr ⟨sigsize, tbs, hsignature, hreported key hkey ?_⟩⟩
    cases happly
    exact ProviderSignatureContext.digestSign_key hkey hresult

/-- A length that the client library reports for the key of a context. -/
def Reports (library : SignatureLibrary MdCtx Pkey) (key : ProviderKeyData Pkey) (siglen : Nat) :
    Prop :=
  (∃ request length, library.saCryptoSignLength key.privateKey request = .ok length ∧
      siglen = ProviderSignatureContext.queryLength key length) ∨
    library.saCryptoSignLength key.privateKey .eddsa = .ok siglen

theorem reports_of_signatureLength (h : c.signatureLength library = some length) :
    ∃ key, c.keyData = some key ∧ Reports library key length := by
  obtain ⟨key, hkey, h⟩ := Option.bind_eq_some_iff.1 h
  obtain ⟨request, -, h⟩ := Option.bind_eq_some_iff.1 h
  split at h
  next length hlength =>
    cases h
    exact ⟨key, hkey, .inl ⟨request, length, hlength, rfl⟩⟩
  next => cases h

theorem Succeeded.reported {call : SignatureCall Pkey} (h : Succeeded library c reply call)
    (hqueries : call.Queries) :
    ∃ key siglen, c.keyData = some key ∧ reply.siglen = some siglen ∧
      Reports library key siglen := by
  cases call with
  | signInit | digestSignInit | digestSignUpdate => exact hqueries.elim
  | sign sig tbs =>
    cases hqueries
    obtain ⟨length, hlength, hsiglen⟩ := h
    obtain ⟨key, hkey, hreports⟩ := reports_of_signatureLength hlength
    exact ⟨key, length, hkey, hsiglen, hreports⟩
  | digestSignFinal sig =>
    cases hqueries
    obtain ⟨length, hlength, hsiglen⟩ := h
    obtain ⟨key, hkey, hreports⟩ := reports_of_signatureLength hlength
    exact ⟨key, length, hkey, hsiglen, hreports⟩
  | digestSign sig tbs =>
    cases hqueries
    obtain ⟨key, length, hkey, hlength, hsiglen⟩ := h
    exact ⟨key, length, hkey, hsiglen, .inr hlength⟩

theorem WithinReported.le (hlengths : library.ReportsLengths) {key : SaKey}
    (h : WithinReported library key request capacity inp)
    (hmade : library.saCryptoSign key request capacity inp = .ok made)
    (hlength : library.saCryptoSignLength key request' = .ok length) : made.length ≤ length := by
  obtain ⟨length', hlength'⟩ := hlengths.reports _ _ _ _ _ hmade
  rw [hlengths.single _ _ _ _ _ hlength hlength']
  exact h made length' hmade hlength'

theorem written_le_reported (hlengths : library.ReportsLengths) {key : ProviderKeyData Pkey}
    {siglen : Nat} {written : List UInt8} (hwrites : WritesMade library key written)
    (hreports : Reports library key siglen) : written.length ≤ siglen := by
  obtain ⟨request, capacity, inp, made, hecdsa, hmade, hencode, hwithin⟩ := hwrites
  rw [ProviderSignatureContext.encodeSignature] at hencode
  split_ifs at hencode with hec
  · cases hencode
    obtain ⟨digest, rfl⟩ := hecdsa hec
    obtain ⟨hnumbers, hmadeLength⟩ := hlengths.ecdsa _ _ _ _ _ hmade
    have hadded := length_ecEncodeSignature_le hnumbers
    rcases hreports with ⟨request', length, hlength, rfl⟩ | hlength
    · have hle := hlengths.single _ _ _ _ _ hmadeLength hlength
      rw [ProviderSignatureContext.queryLength, if_pos hec]
      omega
    · exact absurd hmade (hlengths.eddsa _ _ _ _ _ _ hlength)
  · cases hencode
    rcases hreports with ⟨request', length, hlength, rfl⟩ | hlength
    · rw [ProviderSignatureContext.queryLength, if_neg hec]
      exact (hwithin hec).le hlengths hmade hlength
    · exact (hwithin hec).le hlengths hmade hlength

theorem eddsa_le_reported (hlengths : library.ReportsLengths) {key : ProviderKeyData Pkey}
    {siglen : Nat} {written : List UInt8}
    (hmade : library.saCryptoSign key.privateKey .eddsa capacity inp = .ok written)
    (hwithin : WithinReported library key.privateKey .eddsa capacity inp)
    (hreports : Reports library key siglen) : written.length ≤ siglen := by
  rcases hreports with ⟨request, length, hlength, rfl⟩ | hlength
  · have hle := hwithin.le hlengths hmade hlength
    rw [ProviderSignatureContext.queryLength]
    split_ifs
    · omega
    · exact hle
  · exact hwithin.le hlengths hmade hlength

theorem queryBounds {query call : SignatureCall Pkey} (hlengths : library.ReportsLengths)
    (hquery : Behaves library c query) (h : Behaves library c' call)
    (hreported : Reported library c' call) : QueryBounds library c c' query call := by
  intro hqueries hsigns hsame reply reply' happly happly' hresult hresult'
  obtain ⟨_, hreply, -, hsucceeded⟩ := hquery
  cases happly.symm.trans hreply
  obtain ⟨key, siglen, hkey, hsiglen, hreports⟩ := (hsucceeded hresult).1.reported hqueries
  obtain ⟨key', hkey', hwritten⟩ := written_of_signs h hreported hsigns happly' hresult'
  cases hkey.symm.trans (hsame.trans hkey')
  refine ⟨siglen, hsiglen, ?_⟩
  rcases hwritten with hmade | ⟨capacity, inp, hmade, hwithin⟩
  · exact written_le_reported hlengths hmade hreports
  · exact eddsa_le_reported hlengths hmade hwithin hreports

theorem queryBounds_of_undefined {query call : SignatureCall Pkey}
    (happly : query.apply library c = none) : QueryBounds library c c' query call := by
  intro _ _ _ reply reply' hreply
  rw [happly] at hreply
  cases hreply

theorem query_cases {query : SignatureCall Pkey} (hqueries : query.Queries) :
    query.apply library c = none ∨ Behaves library c query := by
  cases query with
  | signInit | digestSignInit | digestSignUpdate => exact hqueries.elim
  | sign sig tbs =>
    cases hqueries
    exact .inr ((behaves_iff_sound _).2 trivial)
  | digestSignFinal sig =>
    cases hqueries
    have happly : apply library c (.digestSignFinal none) =
        if c.evpMd = none ∧ (c.keyData.bind (c.signRequest library)).isSome then none
        else some (c.sign library none []) := rfl
    split_ifs at happly
    · exact .inl happly
    · exact .inr (query_behaves happly (.inr rfl))
  | digestSign sig tbs => exact .inr ((behaves_iff_sound _).2 trivial)

theorem signatureReported_of_bounds {call : SignatureCall Pkey}
    {d : ProviderSignatureContext MdCtx Pkey} {sigsize : Nat}
    (h : ∀ c' query, QueryBounds library c' c query call) (hsigns : call.Signs)
    (happly : call.apply library c = some (d.sign library (some sigsize) tbs))
    (hsame : d.keyData = c.keyData) : SignatureReported library d tbs := by
  intro key request hkey hec hrequest made length hmade hlength
  have hlengthReply : d.sign library none [] = ⟨true, d, some length, []⟩ := by
    simp only [ProviderSignatureContext.sign, ProviderSignatureContext.signatureLength, hkey,
      hrequest, Option.bind_eq_bind, Option.bind_some, hlength,
      ProviderSignatureContext.queryLength, hec, if_false]
  have hsignature : d.signature library tbs = some made :=
    signature_eq_some.2 ⟨key, request, made, hkey, hrequest, hmade, by
      rw [ProviderSignatureContext.encodeSignature, if_neg hec]⟩
  have hreply : d.sign library (some sigsize) tbs = ⟨true, d, some made.length, made⟩ := by
    simp only [ProviderSignatureContext.sign, hsignature]
  obtain ⟨length', hsiglen, hle⟩ := h d (.sign none []) rfl hsigns hsame _ _
    (congrArg some hlengthReply) (happly.trans (congrArg some hreply)) rfl rfl
  cases hsiglen
  exact hle

/-- What a call writes is within all lengths for its key just when its signature is within the
length that is reported. -/
theorem bounds_iff_reported {call : SignatureCall Pkey} (hlengths : library.ReportsLengths)
    (h : Behaves library c call) :
    (∀ c' query, QueryBounds library c' c query call) ↔ Reported library c call := by
  constructor
  · intro hbounds
    cases call with
    | signInit | digestSignInit | digestSignUpdate => trivial
    | sign sig tbs =>
      cases sig with
      | none => trivial
      | some sigsize => exact signatureReported_of_bounds hbounds nofun rfl rfl
    | digestSignFinal sig =>
      cases sig with
      | none => trivial
      | some sigsize =>
        intro ctx md ctx' hctx hfinal
        let d : ProviderSignatureContext MdCtx Pkey := { c with evpMdCtx := some ctx' }
        have happly : apply library c (.digestSignFinal (some sigsize)) =
            some (d.sign library (some sigsize) md) := by
          change c.evpMdCtx.bind _ = some _
          rw [hctx, Option.bind_some, hfinal]
        exact signatureReported_of_bounds (d := d) hbounds nofun happly rfl
    | digestSign sig tbs =>
      cases sig with
      | none => trivial
      | some sigsize =>
        intro key hkey hcurve made length hmade hlength
        have hquery : c.digestSign library none [] = ⟨true, c, some length, []⟩ :=
          ProviderSignatureContext.digestSign_length hkey hcurve hlength
        have hreply := ProviderSignatureContext.digestSign_signature hkey hcurve hmade
        obtain ⟨length', hsiglen, hle⟩ := hbounds c (.digestSign none []) rfl nofun rfl _ _
          (congrArg some hquery) (congrArg some hreply) rfl rfl
        cases hsiglen
        exact hle
  · intro hreported c' query hqueries
    have hcases : query.apply library c' = none ∨ Behaves library c' query := query_cases hqueries
    rcases hcases with happly | hquery
    · exact queryBounds_of_undefined happly hqueries
    · exact queryBounds hlengths hquery h hreported hqueries

/-- Along every sequence of calls from a new context: the calls behave just when each of them is
sound, with a signature within the length that is reported. -/
theorem runBehaves_iff {MdCtx Pkey : Type} (library : SignatureLibrary MdCtx Pkey)
    (hlengths : library.ReportsLengths) (calls : List (SignatureCall Pkey)) :
    RunBehaves library calls ↔ SoundRun library calls := by
  constructor
  · intro h e he
    exact ⟨(behaves_iff_sound e.2).1 (h.behaves e he),
      (bounds_iff_reported hlengths (h.behaves e he)).1 (h.bounds e he)⟩
  · intro h
    have hbehaves (e) (he : e ∈ trace library signatureNewctx calls) : Behaves library e.1 e.2 :=
      (behaves_iff_sound e.2).2 (h e he).1
    exact ⟨hbehaves, fun e he => (bounds_iff_reported hlengths (hbehaves e he)).2 (h e he).2⟩

def signingLength (key : SaKey) : SignRequest → Except SaStatus Nat
  | .rsaPkcs1v15 _ | .rsaPss _ => if key = 7 then .ok 256 else .error .invalidKeyType
  | .ecdsa _ => if key = 8 then .ok 64 else .error .invalidKeyType
  | .eddsa => .error .invalidKeyType

theorem signingLength_eq_ok {request : SignRequest} (h : signingLength key request = .ok length) :
    length = if key = 7 then 256 else 64 := by
  cases request with
  | rsaPkcs1v15 _ | rsaPss _ =>
    rw [signingLength] at h
    split_ifs at h ⊢
    cases h
    rfl
  | ecdsa _ =>
    rw [signingLength] at h
    split_ifs at h with hkey
    cases h
    rw [hkey]
    rfl
  | eddsa => cases h

/-- A client library that has these two keys and signs 32 bytes. The context of a digest is what was
written to it, and the digest is one of zeros. -/
def signingLibrary : SignatureLibrary (List UInt8) Unit where
  mdFetch name _ := (digestAlgorithmFromName name).map .sa
  mdGetSize _ := 32
  digestInit _ _ := some []
  digestUpdate ctx data := some (ctx ++ data)
  digestFinal ctx := some (List.replicate 32 0, ctx)
  pkeySize _ := 256
  pkeyBits _ := 2048
  ecdsaSigNew := true
  saCryptoSignLength := signingLength
  saCryptoSign key request capacity inp :=
    match signingLength key request with
    | .ok length =>
      if length ≤ capacity ∧ inp.length = 32 then .ok (List.replicate length 1)
      else .error .invalidParameter
    | .error status => .error status
  saCryptoSign_le key request capacity inp signature := by
    intro hsignature
    split at hsignature
    · split_ifs at hsignature with h
      cases hsignature
      simpa using h.1
    · cases hsignature

theorem length_signingLibrary
    (h : signingLibrary.saCryptoSign key request capacity inp = .ok signature) :
    signingLength key request = .ok signature.length := by
  simp only [signingLibrary] at h
  split at h
  next length hlength =>
    split_ifs at h
    cases h
    rw [hlength, List.length_replicate]
  next => cases h

theorem signingLibrary_reportsLengths : signingLibrary.ReportsLengths where
  single key request request' length length' h h' :=
    (signingLength_eq_ok h).trans (signingLength_eq_ok h').symm
  reports _ _ _ _ signature hsignature := ⟨signature.length, length_signingLibrary hsignature⟩
  ecdsa key digest capacity inp signature hsignature := by
    have hlength := length_signingLibrary hsignature
    refine ⟨?_, hlength⟩
    rw [signingLength] at hlength
    split_ifs at hlength
    have hlength : 64 = signature.length := Except.ok.inj hlength
    omega
  eddsa _ _ _ _ _ _ hlength := nomatch hlength

theorem signingLibrary_reported (c : ProviderSignatureContext (List UInt8) Unit)
    (call : SignatureCall Unit) : Reported signingLibrary c call := by
  have hwithin (key request capacity inp) :
      WithinReported signingLibrary key request capacity inp := by
    intro made length hmade hlength
    cases (length_signingLibrary hmade).symm.trans hlength
    exact Nat.le_refl _
  cases call with
  | signInit | digestSignInit | digestSignUpdate => trivial
  | sign sig tbs =>
    cases sig with
    | none => trivial
    | some sigsize => exact fun _ _ _ _ _ => hwithin _ _ _ _
  | digestSignFinal sig =>
    cases sig with
    | none => trivial
    | some sigsize => exact fun _ _ _ _ _ _ _ _ _ _ => hwithin _ _ _ _
  | digestSign sig tbs =>
    cases sig with
    | none => trivial
    | some sigsize => exact fun _ _ _ => hwithin _ _ _ _

def rsaKeyData : ProviderKeyData Unit :=
  ⟨1, .rsa, 7, ⟨.rsa, .curve none, 256⟩, some (), true⟩

def ecKeyData : ProviderKeyData Unit :=
  ⟨1, .ec, 8, ⟨.ec, .curve (some .nistP256), 32⟩, some (), true⟩

/-- A signature of a text with the RSA key, and one of a digest with the EC key, each after the call
for its length. -/
def signingCalls : List (SignatureCall Unit) :=
  [.digestSignInit (some "SHA256") (some rsaKeyData) none, .digestSignUpdate (some [1]),
    .digestSignFinal none, .digestSignFinal (some 256), .signInit (some ecKeyData) none,
    .sign none (List.replicate 32 0), .sign (some 73) (List.replicate 32 0)]

/-- The context for the text, of which some is written, and the one with the EC key. -/
def signingContext (keyData : ProviderKeyData Unit) (text : List UInt8) :
    ProviderSignatureContext (List UInt8) Unit :=
  ⟨some keyData, some text, some (.sa .sha256), none, rsaPkcs1Padding, rsaPssSaltlenAuto⟩

theorem trace_signing : trace signingLibrary signatureNewctx signingCalls =
    (signatureNewctx :: signingContext rsaKeyData [] :: (List.replicate 3
      (signingContext rsaKeyData [1]) ++ List.replicate 2 (signingContext ecKeyData [1]))).zip
        signingCalls := by
  rfl

theorem soundRun_signing : SoundRun signingLibrary signingCalls := by
  intro e he
  refine ⟨?_, signingLibrary_reported e.1 e.2⟩
  revert e
  rw [trace_signing]
  have hrsa : (signingContext rsaKeyData [1]).signature signingLibrary (List.replicate 32 0) =
      some (List.replicate 256 1) := by
    decide +kernel
  have hec : ((signingContext ecKeyData [1]).signature signingLibrary (List.replicate 32 0)).map
      List.length = some 70 := by
    decide +kernel
  simp only [signingCalls, List.replicate, List.nil_append, List.cons_append, List.zip_cons_cons,
    List.zip_nil_left, List.forall_mem_cons, List.not_mem_nil, false_implies, implies_true,
    and_true]
  refine ⟨?_, nofun, .inl nofun, ⟨[1], rfl, ?_⟩, trivial, trivial, ?_⟩
  · intro key hkey
    cases hkey
    refine ⟨by simp, ?_⟩
    rw [ProviderSignatureContext.DigestBinds, if_neg (by decide)]
    exact ⟨"SHA256", .sa .sha256, rfl, by decide +kernel, rfl⟩
  · rintro md ctx ⟨⟩
    rw [signatureFits_iff]
    intro signature hsignature
    cases hrsa.symm.trans hsignature
    rw [List.length_replicate]
  · change SignatureFits signingLibrary _ (List.replicate 32 0) 73
    rw [signatureFits_iff]
    intro signature hsignature
    rw [hsignature] at hec
    have hlength : signature.length = 70 := Option.some.inj hec
    omega

theorem runBehaves_signing : RunBehaves signingLibrary signingCalls ∧
    (trace signingLibrary signatureNewctx signingCalls).map (fun e =>
      (e.2.apply signingLibrary e.1).map fun reply => reply.written.length) =
        [some 0, some 0, some 0, some 256, some 0, some 0, some 70] :=
  ⟨(runBehaves_iff signingLibrary signingLibrary_reportsLengths signingCalls).2 soundRun_signing,
    by decide +kernel⟩

/-- An initialization for a digest that there is not returns 1. -/
theorem not_runBehaves :
    ¬ ∀ calls : List (SignatureCall Unit), RunBehaves signingLibrary calls := by
  intro h
  have hinit := (h [.digestSignInit (some "MD5-SHA3") (some rsaKeyData) none]).behaves _ (.head _)
  have hsound := (digestSignInit_behaves_iff _ _ _).1 hinit
  obtain ⟨-, hdigest⟩ := hsound rsaKeyData rfl
  obtain ⟨name, md, hname, hmd, -⟩ := hdigest
  cases hname
  have hnone : signingLibrary.mdFetch "MD5-SHA3" "" = none := by decide +kernel
  cases hnone.symm.trans hmd

end SignatureCall

end TaSecureApi
