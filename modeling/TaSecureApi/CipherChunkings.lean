import TaSecureApi.CipherBytes

namespace TaSecureApi
set_option autoImplicit true

variable {Ctx : Type}

/-- The contexts of OpenSSL that encrypt and decrypt are mutually inverse: of two that are paired,
the one decrypts what the other has encrypted, and ends with success if it expects a part of the tag
that the other has made, or where there are no tags. A tag has at least one byte. -/
structure EvpBytes.Inverse (evp : EvpBytes Ctx) (aead : Bool) where
  Paired : Ctx → Ctx → Prop
  Expects : Ctx → List UInt8 → Prop
  negative : ∀ mode context inp inl, inl < 0 → (evp.update mode context inp inl).1 = none
  update : ∀ e d inp inl out e', Paired e d → 0 ≤ inl → inl ≤ inp.length →
    evp.update .encrypt e inp inl = (some out, e') → out.length = inl ∧
    ∃ d', evp.update .decrypt d out inl = (some (inp.take inl.toNat), d') ∧ Paired e' d' ∧
      ∀ tag, Expects d tag → Expects d' tag
  final : ∀ e d rest e', Paired e d → evp.final .encrypt e = (some rest, e') → rest = [] ∧
    ((aead → ∃ made n, evp.getTag e' = some made ∧ Expects d (made.toList.take n)) →
      ∃ d', evp.final .decrypt d = (some [], d'))
  setTag : ∀ e d tag, aead → Paired e d → tag ≠ [] → tag.length ≤ 16 →
    ∃ d', evp.setTag d tag = some d' ∧ Paired e d' ∧ Expects d' tag
  setTag_nil : ∀ d, evp.setTag d [] = none

/-- A message that is cut into chunks, each with the place of its call, and the tag buffer. -/
structure ChunkedMessage where
  chunks : List (CallPlace × List UInt8)
  lastPlace : CallPlace
  last : List UInt8
  tag : List UInt8

def ChunkedMessage.bytes (m : ChunkedMessage) : List UInt8 :=
  (m.chunks.map Prod.snd).flatten ++ m.last

namespace SymmetricCipher

def processStep (evp : EvpBytes Ctx) (c : SymmetricCipher Ctx) (chunk : CallPlace × List UInt8) :
    Except SaStatus (List UInt8 × SymmetricCipher Ctx) :=
  match c.process evp chunk.1 chunk.2 with
  | .error status => .error status
  | .ok ((_, written), c) => .ok (written, c)

/-- Calls of `ta_sa_crypto_cipher_process` and one of `ta_sa_crypto_cipher_process_last`, with what
each has written. -/
def processMessage (evp : EvpBytes Ctx) (c : SymmetricCipher Ctx) (m : ChunkedMessage) :
    Except SaStatus (List (List UInt8) × LastOutput) :=
  match Lockstep.run (processStep evp) c m.chunks with
  | .error status => .error status
  | .ok (outs, c) =>
    match c.processLast evp m.lastPlace m.last m.tag with
    | .error status => .error status
    | .ok (output, _) => .ok (outs, output)

/-- A cipher that encrypts, and one that decrypts what it has encrypted. -/
structure Counterparts {evp : EvpBytes Ctx} (inverse : evp.Inverse aead)
    (e d : SymmetricCipher Ctx) : Prop where
  encrypts : e.context.cipherMode = .encrypt
  decrypts : d.context.cipherMode = .decrypt
  algorithm : d.context.cipherAlgorithm = e.context.cipherAlgorithm
  stream : e.context.cipherAlgorithm.isStream
  aead : aead = e.context.cipherAlgorithm.isAead
  paired : inverse.Paired e.context.evpCipher d.context.evpCipher

end SymmetricCipher

/-- The places of a decryption have room for the lengths of a message, and the rights for it. -/
structure DecryptionPermitted (d : SymmetricCipher Ctx) (m : ChunkedMessage)
    (places : List CallPlace) (lastPlace : CallPlace) : Prop where
  chunks : List.Forall₂ (fun chunk place => ∃ found, place.Permits d chunk.2.length chunk.2.length
    found) m.chunks places
  last : ∃ found, lastPlace.Permits d m.last.length m.last.length found

/-- What was encrypted in some chunks has the lengths of these, and is decrypted in the same chunks
to the same bytes. -/
def SameChunks (evp : EvpBytes Ctx) (d : SymmetricCipher Ctx) (m : ChunkedMessage)
    (places : List CallPlace) (lastPlace : CallPlace) (outs : List (List UInt8))
    (output : LastOutput) : Prop :=
  List.Forall₂ (fun chunk out => out.length = chunk.2.length) m.chunks outs ∧
  output.written.length = m.last.length ∧
  ∃ back lastBack, d.processMessage evp ⟨places.zip outs, lastPlace, output.written, output.tag⟩ =
      .ok (back, lastBack) ∧ back.flatten ++ lastBack.written = m.bytes

/-- The lengths that are decrypted as they are encrypted. -/
structure ChunkedMessage.Fits (m : ChunkedMessage) (algorithm : SaCipherAlgorithm) : Prop where
  chunks : ∀ chunk ∈ m.chunks, chunk.2.length < 2 ^ 31
  last : m.last.length < 2 ^ 31
  block : algorithm = .aesCtr ∨ algorithm = .chacha20 → m.last.length ≤ aesBlockSize
  tag : algorithm = .aesGcm → m.tag ≠ []

section Rules

variable {evp : EvpBytes Ctx} {aead : Bool} {inverse : evp.Inverse aead}
  {c c' e e' d d' : SymmetricCipher Ctx} {place : CallPlace} {m : ChunkedMessage}

theorem SymmetricCipher.Alike.refl (c : SymmetricCipher Ctx) : c.Alike c := ⟨rfl, rfl, rfl⟩

theorem SymmetricCipher.Alike.withEvp (h : c.Alike c') (evpCipher : Ctx) :
    c.Alike { c' with context := c'.context.withEvp evpCipher } :=
  ⟨h.algorithm, h.mode, h.rights⟩

theorem processRequiredLength_stream (h : algorithm.isStream = true) :
    processRequiredLength algorithm keySize n padding = n := by
  cases algorithm with
  | aesCtr | aesGcm | chacha20 | chacha20Poly1305 => rfl
  | _ => cases h

theorem processLastRequiredLength_stream (h : algorithm.isStream = true) :
    processLastRequiredLength algorithm n = n := by
  cases algorithm with
  | aesCtr | aesGcm | chacha20 | chacha20Poly1305 => rfl
  | _ => cases h

theorem isSymmetric_of_stream {algorithm : SaCipherAlgorithm} (h : algorithm.isStream = true) :
    algorithm.isSymmetric = true := by
  cases algorithm with
  | rsaPkcs1v15 | rsaOaep | ecElgamal => cases h
  | _ => rfl

namespace SymmetricCipher

theorem processStep_eq_ok (hstream : c.context.cipherAlgorithm.isStream) :
    c.processStep evp (place, bytes) = .ok (written, c') ↔
      (∃ found, place.Permits c bytes.length bytes.length found) ∧
      ∃ evpCipher, evp.update c.context.cipherMode c.context.evpCipher bytes
        (castInt bytes.length) = (some written, evpCipher) ∧
        c' = { c with context := c.context.withEvp evpCipher } := by
  have hprocess : c.processStep evp (place, bytes) = .ok (written, c') ↔
      c.process evp place bytes = .ok ((written.length, written), c') := by
    unfold processStep
    cases h : c.process evp place bytes with
    | error status => exact ⟨nofun, nofun⟩
    | ok r =>
      obtain ⟨⟨reported, written'⟩, c''⟩ := r
      obtain ⟨-, -, -, rfl, -⟩ := process_eq_ok.1 h
      constructor
      · intro h'
        cases h'
        rfl
      · intro h'
        obtain ⟨houtput, rfl⟩ := Prod.mk.inj (Except.ok.inj h')
        obtain ⟨-, rfl⟩ := Prod.mk.inj houtput
        rfl
  rw [hprocess, process_eq_ok, processRequiredLength_stream hstream,
    and_iff_right (isSymmetric_of_stream hstream), and_iff_right (Or.inl hstream),
    and_iff_right rfl]

theorem run_alike (hstream : c.context.cipherAlgorithm.isStream)
    (h : Lockstep.run (processStep evp) c chunks = .ok (outs, c')) : c.Alike c' := by
  refine (Lockstep.run_forall₂ (S := fun _ _ => True) (I := c.Alike) ?_ (.refl c) h).2
  rintro c₁ ⟨place, bytes⟩ written c₂ halike hstep
  have hstream' : c₁.context.cipherAlgorithm.isStream := by
    rw [halike.algorithm]
    exact hstream
  obtain ⟨-, evpCipher, -, rfl⟩ := (processStep_eq_ok hstream').1 hstep
  exact ⟨trivial, halike.withEvp evpCipher⟩

theorem processMessage_eq_ok : c.processMessage evp m = .ok (outs, output) ↔ ∃ c' c'',
    Lockstep.run (processStep evp) c m.chunks = .ok (outs, c') ∧
    c'.processLast evp m.lastPlace m.last m.tag = .ok (output, c'') := by
  unfold processMessage
  cases hrun : Lockstep.run (processStep evp) c m.chunks with
  | error status => exact ⟨nofun, fun ⟨_, _, h, _⟩ => nomatch h⟩
  | ok r =>
    obtain ⟨outs', c'⟩ := r
    dsimp only
    cases hlast : c'.processLast evp m.lastPlace m.last m.tag with
    | error status =>
      refine ⟨nofun, fun ⟨_, _, h, hlast'⟩ => ?_⟩
      cases h
      rw [hlast] at hlast'
      cases hlast'
    | ok r' =>
      obtain ⟨output', c''⟩ := r'
      constructor
      · rintro ⟨⟩
        exact ⟨c', c'', rfl, hlast⟩
      · rintro ⟨_, _, h, hlast'⟩
        cases h
        rw [hlast] at hlast'
        cases hlast'
        rfl

theorem Counterparts.step (h : Counterparts inverse e d)
    (hstep : e.processStep evp (place, bytes) = .ok (out, e')) :
    (out.length : Int) = castInt bytes.length ∧ e.Alike e' ∧ ∃ evpCipher,
      evp.update .decrypt d.context.evpCipher out (castInt bytes.length) =
        (some (bytes.take (castInt bytes.length).toNat), evpCipher) ∧
      Counterparts inverse e' { d with context := d.context.withEvp evpCipher } ∧
      ∀ tag, inverse.Expects d.context.evpCipher tag → inverse.Expects evpCipher tag := by
  obtain ⟨-, evpCipher, hupdate, rfl⟩ := (processStep_eq_ok h.stream).1 hstep
  rw [h.encrypts] at hupdate
  have hpos : 0 ≤ castInt bytes.length := by
    by_contra hneg
    have hnone := inverse.negative .encrypt e.context.evpCipher bytes _ (Int.not_le.1 hneg)
    rw [hupdate] at hnone
    cases hnone
  obtain ⟨hlength, evpCipher', hback, hpaired, hexpects⟩ :=
    inverse.update _ _ _ _ _ _ h.paired hpos (castInt_le bytes.length) hupdate
  exact ⟨hlength, (Alike.refl e).withEvp _, evpCipher', hback,
    ⟨h.encrypts, h.decrypts, h.algorithm, h.stream, h.aead, hpaired⟩, hexpects⟩

theorem tagLength_le_of_last (h : lastLengthsAllowed algorithm mode n tagLength)
    (haead : algorithm.isAead) : tagLength ≤ 16 := by
  cases algorithm with
  | aesGcm => exact (of_decide_eq_true h).2
  | chacha20Poly1305 => exact Nat.le_of_eq (of_decide_eq_true h)
  | _ => cases haead

/-- What a last chunk that is encrypted leaves. -/
structure LastEncrypted (inverse : evp.Inverse aead) (e d : SymmetricCipher Ctx)
    (bytes tag : List UInt8) (output : LastOutput) : Prop where
  length : (output.written.length : Int) = castInt bytes.length
  lengths : lastLengthsAllowed e.context.cipherAlgorithm .encrypt bytes.length tag.length
  tagLength : e.context.cipherAlgorithm.isAead → output.tag.length = tag.length
  back : ∀ start,
    (if e.context.cipherAlgorithm.isAead then inverse.Paired e.context.evpCipher start ∧
      inverse.Expects start output.tag else start = d.context.evpCipher) →
    ∃ middle last, evp.update .decrypt start output.written (castInt bytes.length) =
        (some (bytes.take (castInt bytes.length).toNat), middle) ∧
      evp.final .decrypt middle = (some [], last)

theorem Counterparts.lastEncrypted (h : Counterparts inverse e d)
    (hlast : e.processLast evp place bytes tag = .ok (output, e')) :
    LastEncrypted inverse e d bytes tag output := by
  obtain ⟨-, hlengths, -, start, hbefore, last, ⟨hreported, first, middle, rest, hupdate, hfinal,
    hwritten⟩, hafter, -⟩ := processLast_eq_ok.1 hlast
  rw [h.encrypts] at hupdate hfinal hlengths
  have hstart : start = e.context.evpCipher := by
    rw [TagBefore, if_neg (fun hn => by rw [h.encrypts] at hn; cases hn.1)] at hbefore
    exact hbefore
  subst hstart
  have hpos : 0 ≤ castInt bytes.length := by
    by_contra hneg
    have hnone := inverse.negative .encrypt e.context.evpCipher bytes _ (Int.not_le.1 hneg)
    rw [hupdate] at hnone
    cases hnone
  have hupdates := fun d hpaired =>
    inverse.update _ d _ _ _ _ hpaired hpos (castInt_le bytes.length)
    hupdate
  obtain ⟨hlength, d₁, -, hpaired₁, -⟩ := hupdates _ h.paired
  obtain ⟨rfl, -⟩ := inverse.final _ d₁ _ _ hpaired₁ hfinal
  rw [List.append_nil] at hwritten
  have hafter' : if e.context.cipherAlgorithm.isAead then ∃ made, evp.getTag last = some made ∧
      output.tag = made.toList.take tag.length else output.tag = tag := by
    rw [TagAfter, h.encrypts] at hafter
    simpa only [true_and] using hafter
  refine ⟨hwritten ▸ hlength, hlengths, fun haead => ?_, fun start hstart => ?_⟩
  · rw [if_pos haead] at hafter'
    obtain ⟨made, -, htag⟩ := hafter'
    rw [htag, List.length_take, Vector.length_toList,
      Nat.min_eq_left (tagLength_le_of_last hlengths haead)]
  · have hpaired : inverse.Paired e.context.evpCipher start := by
      split_ifs at hstart with haead
      · exact hstart.1
      · exact hstart ▸ h.paired
    obtain ⟨-, d₂, hback, hpaired₂, hexpects⟩ := hupdates start hpaired
    obtain ⟨-, hfinal'⟩ := inverse.final _ d₂ _ _ hpaired₂ hfinal
    obtain ⟨d₃, hend⟩ := hfinal' fun haead => by
      rw [h.aead] at haead
      rw [if_pos haead] at hafter' hstart
      obtain ⟨made, hmade, htag⟩ := hafter'
      exact ⟨made, tag.length, hmade, htag ▸ hexpects _ hstart.2⟩
    exact ⟨d₂, d₃, hwritten ▸ hback, hend⟩

theorem LastEncrypted.lengths_decrypt (h : LastEncrypted inverse e d bytes tag output)
    (hstream : e.context.cipherAlgorithm.isStream) :
    lastLengthsAllowed e.context.cipherAlgorithm .decrypt bytes.length output.tag.length := by
  have hlengths := h.lengths
  have htagLength := h.tagLength
  cases halg : e.context.cipherAlgorithm with
  | aesGcm | chacha20Poly1305 =>
    rw [halg] at hlengths htagLength
    rw [htagLength rfl]
    exact hlengths
  | aesCtr | chacha20 => rfl
  | _ =>
    rw [halg] at hstream
    cases hstream

/-- A counterpart takes a last chunk, if it takes its length and the tag is not empty. -/
theorem LastEncrypted.decrypted (h : LastEncrypted inverse e d bytes tag output)
    (hc : Counterparts inverse e d)
    (hpermits : ∃ found, place.Permits d bytes.length bytes.length found)
    (hlength : bytes.length < 2 ^ 31) (hallowed : d.context.lastAllowed bytes.length)
    (htag : e.context.cipherAlgorithm.isAead → tag ≠ []) :
    ∃ lastBack d', d.processLast evp place output.written output.tag = .ok (lastBack, d') ∧
      lastBack.written = bytes := by
  have hsame : output.written.length = bytes.length := by
    have hcast := h.length
    rw [castInt_of_lt hlength] at hcast
    omega
  have hstream : d.context.cipherAlgorithm.isStream := hc.algorithm ▸ hc.stream
  have hlengths : lastLengthsAllowed d.context.cipherAlgorithm d.context.cipherMode
      output.written.length output.tag.length := by
    rw [hc.algorithm, hc.decrypts, hsame]
    exact h.lengths_decrypt hc.stream
  have hbefore : ∃ start, TagBefore evp d.context output.tag start ∧
      if e.context.cipherAlgorithm.isAead then inverse.Paired e.context.evpCipher start ∧
        inverse.Expects start output.tag else start = d.context.evpCipher := by
    simp only [TagBefore, hc.decrypts, hc.algorithm, true_and]
    split_ifs with haead
    · have hlong := h.tagLength haead
      have hne : output.tag ≠ [] := by
        intro hnil
        rw [hnil] at hlong
        exact htag haead (List.length_eq_zero_iff.1 hlong.symm)
      have hle : output.tag.length ≤ 16 := hlong ▸ tagLength_le_of_last h.lengths haead
      exact inverse.setTag _ _ _ (hc.aead ▸ haead) hc.paired hne hle
    · exact ⟨_, rfl, rfl⟩
  obtain ⟨start, hbefore, hstart⟩ := hbefore
  obtain ⟨middle, last, hupdate, hfinal⟩ := h.back start hstart
  rw [castInt_of_lt hlength, Int.toNat_natCast, List.take_length] at hupdate
  refine ⟨⟨bytes.length, bytes, output.tag⟩, _,
    processLast_eq_ok.2 ⟨?_, hlengths, ?_, start, hbefore,
    last, ⟨rfl, bytes, middle, [], ?_, ?_, (List.append_nil bytes).symm⟩, ?_, rfl⟩, rfl⟩
  · rw [processLastRequiredLength_stream hstream, hsame]
    exact hpermits
  · rw [hsame]
    exact hallowed
  · rw [hc.decrypts, hsame, castInt_of_lt hlength]
    exact hupdate
  · rw [hc.decrypts]
    exact hfinal
  · rw [TagAfter, if_neg (fun hn => by rw [hc.decrypts] at hn; cases hn.1)]

theorem Counterparts.run_lengths (hc : Counterparts inverse e d)
    (hrun : Lockstep.run (processStep evp) e chunks = .ok (outs, e')) :
    List.Forall₂ (fun chunk out => (out.length : Int) = castInt chunk.2.length) chunks outs ∧
      ∃ d', Counterparts inverse e' d' := by
  refine Lockstep.run_forall₂ (I := fun e => ∃ d, Counterparts inverse e d) ?_ ⟨d, hc⟩ hrun
  rintro e₁ ⟨place, bytes⟩ out e₂ ⟨d₁, hc₁⟩ hstep
  obtain ⟨hlength, -, evpCipher, -, hc₂, -⟩ := hc₁.step hstep
  exact ⟨hlength, _, hc₂⟩

/-- Chunks whose lengths are below `2 ^ 31` are decrypted in lockstep with their encryption. -/
theorem Counterparts.run_back (hc : Counterparts inverse e d)
    (hlengths : ∀ chunk ∈ chunks, chunk.2.length < 2 ^ 31)
    (hpermits : List.Forall₂ (fun chunk place => ∃ found,
      CallPlace.Permits place d chunk.2.length chunk.2.length found) chunks places)
    (hrun : Lockstep.run (processStep evp) e chunks = .ok (outs, e')) :
    ∃ d', Lockstep.run (processStep evp) d (places.zip outs) = .ok (chunks.map Prod.snd, d') ∧
      Counterparts inverse e' d' ∧ d.Alike d' := by
  have hstep : ∀ e₁ d₁ chunk out e₂ place,
      Counterparts inverse e₁ d₁ ∧ d.Alike d₁ → (chunk.2.length < 2 ^ 31 ∧ ∃ found,
        CallPlace.Permits place d chunk.2.length chunk.2.length found) →
      processStep evp e₁ chunk = .ok (out, e₂) →
      ∃ back d₂, processStep evp d₁ (place, out) = .ok (back, d₂) ∧ chunk.2 = back ∧
        Counterparts inverse e₂ d₂ ∧ d.Alike d₂ := by
    rintro e₁ d₁ ⟨place, bytes⟩ out e₂ place' ⟨hc₁, halike⟩ ⟨hlength, found, hpermits⟩ hstep
    obtain ⟨hout, -, evpCipher, hupdate, hc₂, -⟩ := hc₁.step hstep
    rw [castInt_of_lt hlength] at hout hupdate
    have hsame : out.length = bytes.length := Int.ofNat_inj.1 hout
    have hstream : d₁.context.cipherAlgorithm.isStream := hc₁.algorithm ▸ hc₁.stream
    rw [Int.toNat_natCast, List.take_length] at hupdate
    refine ⟨bytes, _, (processStep_eq_ok hstream).2 ⟨⟨found, ?_⟩, evpCipher, ?_, rfl⟩, rfl, hc₂,
      halike.withEvp evpCipher⟩
    · rw [hsame]
      exact hpermits.congr halike
    · rw [hc₁.decrypts, hsame, castInt_of_lt hlength]
      exact hupdate
  obtain ⟨backs, d', hback, hbacks, hc', halike⟩ := Lockstep.run_lockstep hstep ⟨hc, .refl d⟩
    ((List.forall₂_and_left _ _).2 ⟨hlengths, hpermits⟩) hrun
  have hsame : chunks.map Prod.snd = backs :=
    List.forall₂_eq_eq_eq (α := List UInt8) ▸ List.forall₂_map_left_iff.2 hbacks
  exact ⟨d', hsame ▸ hback, hc', halike⟩

end SymmetricCipher

theorem ChunkedMessage.Fits.lastAllowed (h : m.Fits algorithm) (hstream : algorithm.isStream)
    (hlengths : lastLengthsAllowed algorithm mode m.last.length tagLength) :
    decryptLastLengthAllowed algorithm m.last.length := by
  have hblock : algorithm ≠ .chacha20Poly1305 → m.last.length ≤ aesBlockSize := by
    intro hne
    cases algorithm with
    | aesCtr => exact h.block (.inl rfl)
    | chacha20 => exact h.block (.inr rfl)
    | aesGcm => exact (of_decide_eq_true hlengths).1
    | chacha20Poly1305 => exact absurd rfl hne
    | _ => cases hstream
  exact decide_eq_true fun hn => absurd (hblock hn.1) (Nat.not_le.2 hn.2)

theorem ChunkedMessage.Fits.tag_ne_nil (h : m.Fits algorithm) (haead : algorithm.isAead)
    (hlengths : lastLengthsAllowed algorithm mode n m.tag.length) : m.tag ≠ [] := by
  cases algorithm with
  | aesGcm => exact h.tag rfl
  | chacha20Poly1305 =>
    have hlength : m.tag.length = 16 := of_decide_eq_true hlengths
    intro hnil
    rw [hnil] at hlength
    cases hlength
  | _ => cases haead

/-- Encrypted chunks are decrypted in the same chunks, if and only if their lengths are such that
the decryption takes them too. -/
theorem sameChunks_iff {outs : List (List UInt8)} (hc : SymmetricCipher.Counterparts inverse e d)
    (hpermitted : DecryptionPermitted d m places lastPlace)
    (haccepted : e.processMessage evp m = .ok (outs, output)) :
    SameChunks evp d m places lastPlace outs output ↔ m.Fits e.context.cipherAlgorithm := by
  obtain ⟨e', e'', hrun, hlast⟩ := SymmetricCipher.processMessage_eq_ok.1 haccepted
  obtain ⟨hlengths, d₁, hc₁⟩ := hc.run_lengths hrun
  have halgorithm := (SymmetricCipher.run_alike hc.stream hrun).algorithm
  have hlastEncrypted := hc₁.lastEncrypted hlast
  constructor
  · rintro ⟨hsame, hlastSame, back, lastBack, hback, -⟩
    obtain ⟨d', d'', hrunBack, hlastBack⟩ := SymmetricCipher.processMessage_eq_ok.1 hback
    have halike := SymmetricCipher.run_alike (hc.algorithm ▸ hc.stream) hrunBack
    have hmode : d'.context.cipherMode = .decrypt := halike.mode.trans hc.decrypts
    have halgorithm' : d'.context.cipherAlgorithm = e.context.cipherAlgorithm :=
      halike.algorithm.trans hc.algorithm
    obtain ⟨-, -, hallowed, start, hbefore, -⟩ := SymmetricCipher.processLast_eq_ok.1 hlastBack
    refine ⟨fun chunk hchunk => ?_, ?_, fun hblock => ?_, fun hgcm hnil => ?_⟩
    · obtain ⟨out, hcast, hlength⟩ := Lockstep.exists_output hlengths hsame hchunk
      rw [← castInt_eq_iff, ← hcast, hlength]
    · rw [← castInt_eq_iff, ← hlastEncrypted.length, hlastSame]
    · rw [SymmetricContext.lastAllowed, hmode, halgorithm'] at hallowed
      dsimp only at hallowed
      have hle := of_decide_eq_true hallowed
      rw [hlastSame] at hle
      by_contra hlong
      refine hle ⟨?_, Nat.not_le.1 hlong⟩
      rcases hblock with halg | halg
      · rw [halg]
        decide
      · rw [halg]
        decide
    · rw [TagBefore, if_pos ⟨hmode, by rw [halgorithm', hgcm]; rfl⟩] at hbefore
      have hlong := hlastEncrypted.tagLength (by rw [halgorithm, hgcm]; rfl)
      rw [hnil] at hlong
      dsimp only at hbefore
      rw [List.length_eq_zero_iff.1 hlong, inverse.setTag_nil] at hbefore
      cases hbefore
  · intro hfits
    obtain ⟨d', hrunBack, hc', halike⟩ := hc.run_back hfits.chunks hpermitted.chunks hrun
    have hlastEncrypted' := hc'.lastEncrypted hlast
    obtain ⟨found, hpermits⟩ := hpermitted.last
    have hfits' : m.Fits e'.context.cipherAlgorithm := halgorithm ▸ hfits
    have hallowed : d'.context.lastAllowed m.last.length := by
      rw [SymmetricContext.lastAllowed, hc'.decrypts, hc'.algorithm]
      exact hfits'.lastAllowed hc'.stream hlastEncrypted'.lengths
    obtain ⟨lastBack, d'', hlastBack, hwritten⟩ := hlastEncrypted'.decrypted hc'
      ⟨found, hpermits.congr halike⟩ hfits.last hallowed
      fun haead => hfits'.tag_ne_nil haead hlastEncrypted'.lengths
    refine ⟨?_, ?_, _, lastBack, SymmetricCipher.processMessage_eq_ok.2
      ⟨d', d'', hrunBack, hlastBack⟩, ?_⟩
    · refine ((List.forall₂_and_left _ _).2 ⟨hfits.chunks, hlengths⟩).imp fun _ _ hchunk => ?_
      have hcast := hchunk.2
      rw [castInt_of_lt hchunk.1] at hcast
      exact Int.ofNat_inj.1 hcast
    · have hcast := hlastEncrypted.length
      rw [castInt_of_lt hfits.last] at hcast
      exact Int.ofNat_inj.1 hcast
    · rw [hwritten]
      rfl

end Rules

/-- A context of `xorEvp`: its position, a check of the encrypted bytes so far, and the tag that was
set. -/
structure XorContext where
  position : Nat
  check : UInt8
  expected : Option (List UInt8)

namespace XorContext

def tag (c : XorContext) : Vector UInt8 16 := .replicate 16 c.check

def change (stream : Nat → UInt8) (c : XorContext) (bytes : List UInt8) : List UInt8 :=
  bytes.mapIdx fun i byte => byte ^^^ stream (c.position + i)

def advance (c : XorContext) (encrypted : List UInt8) : XorContext :=
  { c with
    position := c.position + encrypted.length
    check := encrypted.foldl (· ^^^ ·) c.check }

def Verified (c : XorContext) : Prop :=
  ∃ expected ∈ c.expected, expected = c.tag.toList.take expected.length

instance (c : XorContext) : Decidable c.Verified :=
  inferInstanceAs (Decidable (∃ expected ∈ c.expected, _))

theorem length_change : (change stream c bytes).length = bytes.length :=
  List.length_mapIdx

theorem change_change (hposition : d.position = e.position) :
    change stream d (change stream e bytes) = bytes := by
  refine List.ext_getElem (by simp only [length_change]) fun i hi hi' => ?_
  simp only [change, List.getElem_mapIdx, hposition]
  rw [UInt8.xor_assoc, UInt8.xor_self, UInt8.xor_zero]

end XorContext

/-- Ciphers that change each byte by one of a stream, with or without tags. -/
def xorEvp (aead : Bool) (stream : Nat → UInt8) : EvpBytes XorContext where
  update mode c inp inl :=
    if inl < 0 then (none, c)
    else
      let bytes := inp.take inl.toNat
      let out := c.change stream bytes
      (some out, c.advance (match mode with | .encrypt => out | .decrypt => bytes))
  final mode c := if aead ∧ mode = .decrypt ∧ ¬ c.Verified then (none, c) else (some [], c)
  getTag c := some c.tag
  setTag c tag := if tag = [] then none else some { c with expected := some tag }

def xorInverse (aead : Bool) (stream : Nat → UInt8) : (xorEvp aead stream).Inverse aead where
  Paired e d := d.position = e.position ∧ d.check = e.check
  Expects d tag := d.expected = some tag
  negative mode c inp inl h := by
    simp only [xorEvp, if_pos h]
  update := by
    rintro e d inp inl out e' ⟨hposition, hcheck⟩ hpos hle hupdate
    simp only [xorEvp, if_neg (Int.not_lt.2 hpos)] at hupdate ⊢
    cases hupdate
    have hlength : ((e.change stream (inp.take inl.toNat)).length : Int) = inl := by
      rw [XorContext.length_change, List.length_take]
      omega
    have htake : (e.change stream (inp.take inl.toNat)).take inl.toNat =
        e.change stream (inp.take inl.toNat) := List.take_of_length_le (by omega)
    rw [htake, XorContext.change_change hposition]
    refine ⟨hlength, _, rfl, ⟨?_, ?_⟩, fun _ => id⟩
    · exact congrArg (· + _) hposition
    · exact congrArg (List.foldl _ · _) hcheck
  final := by
    rintro e d rest e' ⟨-, hcheck⟩ hfinal
    have hencrypt : (xorEvp aead stream).final .encrypt e = (some [], e) := if_neg nofun
    rw [hencrypt] at hfinal
    cases hfinal
    refine ⟨rfl, fun htag => ⟨d, if_neg fun h => ?_⟩⟩
    obtain ⟨haead, -, hverified⟩ := h
    obtain ⟨made, n, hmade, hexpected⟩ := htag haead
    obtain rfl : e.tag = made := Option.some.inj hmade
    have hsame : d.tag = e.tag := congrArg (Vector.replicate 16) hcheck
    refine hverified ⟨_, hexpected, ?_⟩
    rw [hsame, List.take_eq_take_iff, List.length_take]
    omega
  setTag e d tag _ hpaired hne _ := ⟨_, if_neg hne, hpaired, rfl⟩
  setTag_nil _ := rfl

/-- A clear buffer with room for a hundred bytes, at a time without video outputs. -/
def clearPlace : CallPlace where
  world _ := ⟨0, some ⟨0, 0, 0, 0, 0, true⟩⟩
  svps _ := .error .invalidParameter
  out := .clear 1000 100 0
  inp := .clear 2000 100 0

def xorSession (algorithm : SaCipherAlgorithm) (mode : SaCipherMode) :
    SymmetricCipher XorContext where
  context := ⟨algorithm, mode, 0, 0, none⟩
  keyRights := ⟨BitVec.allOnes 64, 0#64, 0, 2 ^ 63, [allMatch], .replicate 64 0⟩

def lastChunk : ChunkedMessage := ⟨[], clearPlace, List.replicate 17 7, []⟩

theorem lastChunk_not_sameChunks : ¬ ∀ (Ctx : Type) (evp : EvpBytes Ctx) (aead : Bool)
    (inverse : evp.Inverse aead) (e d : SymmetricCipher Ctx) (m : ChunkedMessage)
    (places : List CallPlace) (lastPlace : CallPlace) (outs : List (List UInt8))
    (output : LastOutput), SymmetricCipher.Counterparts inverse e d →
    DecryptionPermitted d m places lastPlace → e.processMessage evp m = .ok (outs, output) →
    SameChunks evp d m places lastPlace outs output := by
  intro h
  have hc : SymmetricCipher.Counterparts (xorInverse false UInt8.ofNat)
      (xorSession .aesCtr .encrypt) (xorSession .aesCtr .decrypt) :=
    ⟨rfl, rfl, rfl, rfl, rfl, rfl, rfl⟩
  have hpermitted : DecryptionPermitted (xorSession .aesCtr .decrypt) lastChunk [] clearPlace :=
    ⟨.nil, _, rfl, by decide⟩
  have haccepted : (xorSession .aesCtr .encrypt).processMessage (xorEvp false UInt8.ofNat)
      lastChunk = .ok ([], ⟨17, (List.range 17).map fun i => 7 ^^^ UInt8.ofNat i, []⟩) := rfl
  have hsame := h XorContext _ false _ _ _ _ _ _ _ _ hc hpermitted haccepted
  exact absurd (((sameChunks_iff hc hpermitted haccepted).1 hsame).block (.inl rfl)) (by decide)

/-- Encryption and decryption take the same chunks, if and only if for each message that is
encrypted all lengths fit an `int`, the last chunk of a stream without tags has at most one block,
and the tag of AES-GCM is not empty. -/
theorem chunkings_same_iff (evp : EvpBytes Ctx) (inverse : evp.Inverse aead)
    (e d : SymmetricCipher Ctx) (m : ChunkedMessage) (places : List CallPlace)
    (lastPlace : CallPlace) :
    (∀ outs output, SymmetricCipher.Counterparts inverse e d →
      DecryptionPermitted d m places lastPlace → e.processMessage evp m = .ok (outs, output) →
      SameChunks evp d m places lastPlace outs output) ↔
    (∀ outs output, SymmetricCipher.Counterparts inverse e d →
      DecryptionPermitted d m places lastPlace → e.processMessage evp m = .ok (outs, output) →
      m.Fits e.context.cipherAlgorithm) := by
  refine forall_congr' fun outs => forall_congr' fun output => ?_
  exact forall_congr' fun hc => forall_congr' fun hpermitted => forall_congr' fun haccepted =>
    sameChunks_iff hc hpermitted haccepted

/-- A message for AES-GCM in three chunks, with a tag buffer of twelve bytes. -/
def gcmMessage : ChunkedMessage :=
  ⟨[(clearPlace, [1, 2, 3]), (clearPlace, [4])], clearPlace, [5, 6], .replicate 12 0⟩

/-- The message is decrypted in its chunks, and its tag is the right one. -/
theorem chunkings_same_gcm :
    SameChunks (xorEvp true UInt8.ofNat) (xorSession .aesGcm .decrypt) gcmMessage
      [clearPlace, clearPlace] clearPlace [[1, 3, 1], [7]] ⟨2, [1, 3], .replicate 12 6⟩ := by
  have hc : SymmetricCipher.Counterparts (xorInverse true UInt8.ofNat)
      (xorSession .aesGcm .encrypt) (xorSession .aesGcm .decrypt) :=
    ⟨rfl, rfl, rfl, rfl, rfl, rfl, rfl⟩
  have hplace (n : Nat) (hn : n ≤ 6) :
      ∃ found, clearPlace.Permits (xorSession .aesGcm .decrypt) n n found := by
    interval_cases n <;> exact ⟨_, rfl, by decide⟩
  have hpermitted : DecryptionPermitted (xorSession .aesGcm .decrypt) gcmMessage
      [clearPlace, clearPlace] clearPlace :=
    ⟨.cons (hplace 3 (by decide)) (.cons (hplace 1 (by decide)) .nil), hplace 2 (by decide)⟩
  refine (chunkings_same_iff _ (xorInverse true UInt8.ofNat) (xorSession .aesGcm .encrypt) _
    gcmMessage _ _).2 (fun _ _ _ _ _ => ?_) _ _ hc hpermitted rfl
  exact ⟨by decide, by decide, by decide, by decide⟩

end TaSecureApi
