import TaSecureApi.Cenc

namespace TaSecureApi
set_option autoImplicit true

variable {Ctx : Type}

def require (condition : Prop) [Decidable condition] (status : SaStatus) : Except SaStatus Unit :=
  if condition then .ok () else .error status

/-- A pointer that must not be `NULL`. -/
def requireNonNull (pointer : Option α) : Except SaStatus α :=
  pointer.elim (.error .nullParameter) .ok

/-- The check for overlapping buffers of one length; buffers that touch overlap. -/
def overlaps (outBytes inBytes length : Nat) : Prop :=
  (outBytes ≥ inBytes ∧ outBytes ≤ inBytes + length) ∨
  (outBytes + length ≥ inBytes ∧ outBytes + length ≤ inBytes + length) ∨
  (inBytes ≥ outBytes ∧ inBytes ≤ outBytes + length) ∨
  (inBytes + length ≥ outBytes ∧ inBytes + length ≤ outBytes + length)

instance : Decidable (overlaps a b n) := by unfold overlaps; infer_instance

def verifySample (client : Client Ctx) (reading : Reading) (sample : SaSample) :
    Except SaStatus Unit := do
  let _ ← requireNonNull sample.iv
  require (sample.ivLength = aesBlockSize) .invalidParameter
  let subsampleLengths ← requireNonNull sample.subsampleLengths
  require (1 ≤ subsampleLengths.length) .invalidParameter
  let out ← requireNonNull sample.out
  let inp ← requireNonNull sample.inp
  require (¬ (sample.cryptByteBlock = 0 ∧ sample.skipByteBlock ≠ 0)) .invalidParameter
  let cipher ← (client.ciphers sample.context).mapError fun _ => .invalidParameter
  require (cipher.cipherMode = .decrypt) .invalidParameter
  require (rightsAllowedDecrypt cipher.keyRights .symmetric reading) .operationNotAllowed
  require (out.isClear ∨ out.isSvp) .invalidParameter
  require (inp.isClear ∨ inp.isSvp) .invalidParameter
  require (cipher.cipherAlgorithm = .aesCtr ∨ cipher.cipherAlgorithm = .aesCbc) .invalidParameter
  require (¬ (out.isClear ∧ ¬ inp.isClear)) .invalidParameter
  require (¬ (out.isClear ∧ ¬ rightsAllowedClear cipher.keyRights)) .operationNotAllowed
  let requiredLength := cencGetRequiredLength subsampleLengths
  require (requiredLength ≠ cencOverflow) .invalidParameter
  let outBytes ← convertBuffer client requiredLength out
  let inBytes ← convertBuffer client requiredLength inp
  require (¬ overlaps outBytes inBytes requiredLength) .invalidParameter

theorem require_eq_ok {c : Prop} [Decidable c] : require c e = .ok u ↔ c := by
  unfold require
  split_ifs with h
  · exact ⟨fun _ => h, fun _ => rfl⟩
  · exact ⟨fun h' => (by cases h'), fun h' => absurd h' h⟩

theorem requireNonNull_eq_ok {pointer : Option α} : requireNonNull pointer = .ok a ↔
    pointer = some a := by
  cases pointer with
  | none => exact ⟨fun h => (by cases h), fun h => (by cases h)⟩
  | some b => simp [requireNonNull]

theorem bind_eq_error {α β ε : Type} {x : Except ε α} {f : α → Except ε β} {e : ε} :
    (x >>= f) = .error e ↔ x = .error e ∨ ∃ a, x = .ok a ∧ f a = .error e := by
  cases x with
  | error e' =>
    constructor
    · exact fun h => .inl (Except.error.inj h ▸ rfl)
    · exact fun h => h.elim (fun h => Except.error.inj h ▸ rfl) fun ⟨_, h, _⟩ => nomatch h
  | ok a => exact ⟨fun h => .inr ⟨a, rfl, h⟩, fun h => h.elim nofun fun ⟨_, rfl, h⟩ => h⟩

theorem requireNonNull_eq_error {α : Type} {pointer : Option α}
    (h : requireNonNull pointer = .error status) : status ≠ .ok := by
  cases pointer with
  | none =>
    obtain rfl := Except.error.inj h
    nofun
  | some b => cases h

theorem require_eq_error {c : Prop} [Decidable c] {e : SaStatus} (h : require c e = .error status)
    (he : e ≠ .ok) : status ≠ .ok := by
  unfold require at h
  split_ifs at h
  obtain rfl := Except.error.inj h
  exact he

theorem bind_eq_ok {x : Except ε α} {f : α → Except ε β} : (x >>= f) = .ok b ↔
    ∃ a, x = .ok a ∧ f a = .ok b := by
  cases x with
  | error e => exact ⟨fun h => (by cases h), fun ⟨a, h, _⟩ => (by cases h)⟩
  | ok a => exact ⟨fun h => ⟨a, rfl, h⟩, fun ⟨_, rfl, h⟩ => h⟩

/-- What a sample that is accepted has. -/
structure Verified (client : Client Ctx) (reading : Reading) (sample : SaSample)
    (cipher : Cipher Ctx) (subsampleLengths : List SaSubsampleLength) (out inp : SaBuffer)
    (outBytes inBytes : Nat) : Prop where
  ivFound : sample.iv.isSome
  lengthsFound : sample.subsampleLengths = some subsampleLengths
  outFound : sample.out = some out
  inFound : sample.inp = some inp
  cipherFound : client.ciphers sample.context = .ok cipher
  mode : cipher.cipherMode = .decrypt
  rights : rightsAllowedDecrypt cipher.keyRights .symmetric reading
  outType : out.isClear ∨ out.isSvp
  inType : inp.isClear ∨ inp.isSvp
  algorithm : cipher.cipherAlgorithm = .aesCtr ∨ cipher.cipherAlgorithm = .aesCbc
  clear : out.isClear → rightsAllowedClear cipher.keyRights
  noOverflow : cencGetRequiredLength subsampleLengths ≠ cencOverflow
  outRange : convertBuffer client (cencGetRequiredLength subsampleLengths) out = .ok outBytes
  inRange : convertBuffer client (cencGetRequiredLength subsampleLengths) inp = .ok inBytes
  apart : ¬ overlaps outBytes inBytes (cencGetRequiredLength subsampleLengths)

theorem verifySample_ok {client : Client Ctx} (h : verifySample client reading sample = .ok ()) :
    ∃ cipher subsampleLengths out inp outBytes inBytes,
      Verified client reading sample cipher subsampleLengths out inp outBytes inBytes := by
  simp only [verifySample, bind_eq_ok, require_eq_ok, requireNonNull_eq_ok, exists_and_left,
    exists_const] at h
  obtain ⟨iv, hiv, -, subsampleLengths, hlengths, -, out, hout, inp, hinp, -, cipher, hcipher,
    hmode,
    hrights, houtType, hinType, halg, -, hclear, hrequired, outBytes, houtBytes, inBytes, hinBytes,
    hapart⟩ := h
  have hc : client.ciphers sample.context = .ok cipher := by
    cases hl : client.ciphers sample.context with
    | error e => rw [hl] at hcipher; cases hcipher
    | ok c => rw [hl] at hcipher; cases hcipher; rfl
  refine ⟨cipher, subsampleLengths, out, inp, outBytes, inBytes, ?_⟩
  exact {
    ivFound := by simp [hiv]
    lengthsFound := hlengths
    outFound := hout
    inFound := hinp
    cipherFound := hc
    mode := hmode
    rights := hrights
    outType := houtType
    inType := hinType
    algorithm := halg
    clear := fun ho => by_contra fun hn => hclear ⟨ho, hn⟩
    noOverflow := hrequired
    outRange := houtBytes
    inRange := hinBytes
    apart := hapart }

theorem Verified.of_setup {client : Client Ctx} {setup : CencSetup Ctx}
    (hv : Verified client reading sample cipher subsamples out inp outBytes inBytes)
    (hs : cencSetup client sample = .ok (setup, subsamples')) :
    subsamples' = subsamples ∧ setup.cipherAlgorithm = cipher.cipherAlgorithm ∧
      setup.context.cipherAlgorithm = cipher.cipherAlgorithm ∧
      setup.context.cipherMode = cipher.cipherMode ∧ setup.outBytes = outBytes ∧
      setup.inBytes = inBytes ∧ sample.iv = some setup.iv ∧
      setup.cryptByteBlock = sample.cryptByteBlock ∧
      setup.skipByteBlock = sample.skipByteBlock := by
  obtain ⟨iv, hiv⟩ := Option.isSome_iff_exists.1 hv.ivFound
  unfold cencSetup at hs
  rw [hv.cipherFound, hv.lengthsFound, hv.outFound, hv.inFound, hiv] at hs
  dsimp only at hs
  rw [if_neg hv.noOverflow, hv.outRange, hv.inRange] at hs
  dsimp only at hs
  cases hc : cipher.symmetricContext with
  | none => rw [hc] at hs; cases hs
  | some context =>
    rw [hc] at hs
    cases hs
    obtain ⟨ha, hm⟩ := cipher.agrees context hc
    exact ⟨rfl, rfl, ha, hm, rfl, rfl, hiv, rfl, rfl⟩

theorem Verified.ranges {client : Client Ctx}
    (hv : Verified client reading sample cipher subsamples out inp outBytes inBytes) :
    outBytes ≠ 0 ∧ inBytes ≠ 0 ∧ cencGetRequiredLength subsamples < 2 ^ 63 ∧
      (outBytes + cencGetRequiredLength subsamples < inBytes ∨
        inBytes + cencGetRequiredLength subsamples < outBytes) := by
  obtain ⟨hout, hlt⟩ := convertBuffer_range hv.outType hv.outRange
  obtain ⟨hin, hlt'⟩ := convertBuffer_range hv.inType hv.inRange
  have hapart := hv.apart
  unfold overlaps at hapart
  exact ⟨hout, hin, by omega, by omega⟩

/-- A client with one cipher, for AES-CTR decryption with a key that allows everything, behind the
handle 0. -/
def ctrClient : Client (BitVec (64 + 64) × Nat) where
  ciphers handle := if handle = 0 then
      .ok {
        cipherAlgorithm := .aesCtr
        cipherMode := .decrypt
        keyRights := ⟨BitVec.allOnes 64, 0#64, 0, 2 ^ 63, [], .replicate 64 0⟩
        symmetricContext := some ⟨.aesCtr, .decrypt, (0, 0)⟩
        agrees := by rintro _ ⟨⟩; exact ⟨rfl, rfl⟩ }
    else .error .invalidParameter
  svps _ := .error .invalidParameter

/-- A sample of that client, of bytes from the address 1000 to the address 2000. -/
def ctrSample (counter : BitVec 64) (subsampleLengths : List SaSubsampleLength) : SaSample where
  iv := some ⟨0, counter⟩
  ivLength := 16
  cryptByteBlock := 0
  skipByteBlock := 0
  subsampleLengths := some subsampleLengths
  context := 0
  out := some (.clear 2000 500 0)
  inp := some (.clear 1000 500 0)

def noOutputs : Reading := ⟨0, some ⟨0, 0, 0, 0, 0, true⟩⟩

example : verifySample ctrClient noOutputs (ctrSample 7 [⟨3, 20⟩, ⟨0, 30⟩]) = .ok () := by decide

end TaSecureApi
