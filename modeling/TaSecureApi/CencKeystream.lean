import TaSecureApi.CencBounds
import Mathlib.Order.Interval.Finset.Nat
import Mathlib.Data.Nat.Count

namespace TaSecureApi
set_option autoImplicit true
open Wp CounterMode

variable {Ctx : Type} {ε : Type} {evp : Evp Ctx} {setup : CencSetup Ctx} {s s' s'' : CencState Ctx}

/-- What one key stream makes of some bytes, of which it decrypts those that are flagged, in order,
and copies the others. -/
def oneKeystream (flag : Nat → Bool) (key input : Nat → UInt8) (i : Nat) : UInt8 :=
  if flag i then input i ^^^ key (Nat.count (fun j => flag j) i) else input i

/-- Byte `j` of some protected data is one that is encrypted: all of it without a pattern, and else
the stripes of `crypt` blocks that alternate with stripes of `skip` blocks, up to the last whole
block. -/
def inStripe (crypt skip p j : Nat) : Bool :=
  crypt = 0 || (j < p / 16 * 16 && j / 16 % (crypt + skip) < crypt)

/-- Byte `i` of a sample is one that is encrypted. -/
def encryptedByte (crypt skip : Nat) : List SaSubsampleLength → Nat → Bool
  | [], _ => false
  | subsample :: rest, i =>
    if i < subsample.bytesOfClearData then false
    else if i < subsample.bytesOfClearData + subsample.bytesOfProtectedData then
      inStripe crypt skip subsample.bytesOfProtectedData (i - subsample.bytesOfClearData)
    else encryptedByte crypt skip rest
      (i - subsample.bytesOfClearData - subsample.bytesOfProtectedData)

/-- The key stream of the sample, of which only the counter half of the IV moves. -/
def CencSetup.key (setup : CencSetup Ctx) (block : BitVec (64 + 64) → Nat → UInt8) : Nat → UInt8 :=
  splitStream 16 block setup.iv.nonce setup.iv.counter

/-- The counter of the block that byte `e` of the key stream is in. -/
def CencSetup.counterAt (setup : CencSetup Ctx) (e : Nat) : BitVec 64 :=
  setup.iv.counter + BitVec.ofNat 64 (e / 16)

/-- A context in CTR mode that has gone `n` bytes on from byte `e` of the key stream, as OpenSSL
counts. -/
structure Ahead (C : evp.Ctr) (setup : CencSetup Ctx) (block : BitVec (64 + 64) → Nat → UInt8)
    (e n : Nat) (s : CencState Ctx) : Prop where
  algorithm : s.context.cipherAlgorithm = .aesCtr
  mode : s.context.cipherMode = .decrypt
  nonce : s.iv.nonce = setup.iv.nonce
  keyed : C.block s.context.evpCipher = block
  stream : ∀ i, C.stream s.context.evpCipher i =
    wideStream 16 block (setup.iv.nonce ++ setup.counterAt e) (e % 16 + n + i)

/-- A memory in which a range is another one XORed with a key stream, and the rest is as it was. -/
structure Xored (memory memory' : Memory) (out inp n : Nat) (key : Nat → UInt8) : Prop where
  inside : ∀ i < n, memory' (out + i) = memory (inp + i) ^^^ key i
  outside : ∀ a, (a < out ∨ out + n ≤ a) → memory' a = memory a

section Pieces

variable {C : evp.Ctr} {block : BitVec (64 + 64) → Nat → UInt8}

theorem Xored.nil (memory : Memory) (out inp : Nat) (key : Nat → UInt8) :
    Xored memory memory out inp 0 key := ⟨fun i hi => absurd hi (by omega), fun _ _ => rfl⟩

theorem Xored.append {m m' m'' : Memory} (h : Xored m m' out inp a key)
    (h' : Xored m' m'' (out + a) (inp + a) b key') (hkey : ∀ i < b, key' i = key (a + i))
    (hapart : out + (a + b) ≤ inp ∨ inp + (a + b) ≤ out) :
    Xored m m'' out inp (a + b) key where
  inside i hi := by
    by_cases hlt : i < a
    · rw [h'.outside _ (by omega), h.inside i hlt]
    · obtain ⟨j, rfl⟩ := Nat.exists_eq_add_of_le (not_lt.1 hlt)
      have hj := h'.inside j (by omega)
      rw [Nat.add_assoc, Nat.add_assoc] at hj
      rw [hj, hkey j (by omega), h.outside _ (by omega)]
  outside x hx := by rw [h'.outside x (by omega), h.outside x (by omega)]

theorem counterAt_add (setup : CencSetup Ctx) (e n : Nat) :
    setup.counterAt (e + n) = setup.counterAt e + BitVec.ofNat 64 ((e % 16 + n) / 16) := by
  have hdiv : (e + n) / 16 = e / 16 + (e % 16 + n) / 16 := by omega
  rw [CencSetup.counterAt, CencSetup.counterAt, ofNat_add_ofNat, hdiv]

theorem Ahead.key (h : Ahead C setup block e 0 s)
    (hc : (setup.counterAt e).toNat + (e % 16 + i) / 16 < 2 ^ 64) :
    C.stream s.context.evpCipher i = setup.key block (e + i) := by
  rw [h.stream, Nat.add_zero (e % 16), wideStream_eq_split hc, CencSetup.key, CencSetup.counterAt,
    splitStream_resume _ _ (by decide)]

theorem Ahead.resume (h : Ahead C setup block e n s)
    (hc : (setup.counterAt e).toNat + (e % 16 + n) / 16 < 2 ^ 64) :
    Ahead C setup block (e + n) 0 s where
  algorithm := h.algorithm
  mode := h.mode
  nonce := h.nonce
  keyed := h.keyed
  stream i := by
    have hmod : (e + n) % 16 = (e % 16 + n) % 16 := by omega
    rw [h.stream, Nat.add_zero ((e + n) % 16), counterAt_add, hmod,
      wideStream_resume (by decide) hc]

theorem contextDecrypt_keystream (hsized : evp.Sized) (h : Ahead C setup block e 0 s)
    (hn : n < 2 ^ 31) (hapart : out + n ≤ inp ∨ inp + n ≤ out)
    (hc : ∀ i < n, (setup.counterAt e).toNat + (e % 16 + i) / 16 < 2 ^ 64) :
    wp (contextDecrypt evp out inp n)
      (fun length s' => length = n ∧
        Xored s.memory s'.memory out inp n (fun i => setup.key block (e + i)) ∧
        Ahead C setup block e n s' ∧ s'.iv = s.iv ∧ s'.encByteCount = s.encByteCount)
      (fun _ _ => True) s := by
  have hcast := castInt_of_lt hn
  apply wp_contextDecrypt
  · intro _ hs
    rw [hcast] at hs ⊢
    obtain ⟨hblock, hstream, hin, hrest⟩ := C.update _ _ _ _ n hapart hs
    refine ⟨?_, ⟨fun i hi => ?_, hrest⟩, ?_, rfl, rfl⟩
    · rw [hsized _ _ _ _ _ (by omega) hs, castSize_natCast (by omega)]
    · exact (hin i hi).trans (by rw [h.key (hc i hi)])
    · exact {
        algorithm := h.algorithm
        mode := h.mode
        nonce := h.nonce
        keyed := hblock.trans h.keyed
        stream := fun i => by
          rw [hstream, h.stream, Nat.add_zero (e % 16), Nat.add_assoc (e % 16)] }
  · exact fun _ _ _ _ => trivial

theorem contextSetIv_keystream (h : Ahead C setup block e n s)
    (hcounter : s.iv.counter = setup.counterAt e') (he' : e' % 16 = 0) :
    wp (contextSetIv evp)
      (fun _ s' => Ahead C setup block e' 0 s' ∧ s'.iv = s.iv ∧ s'.memory = s.memory ∧
        s'.encByteCount = s.encByteCount)
      (fun _ _ => True) s := by
  apply wp_contextSetIv h.mode (by rw [h.algorithm]; rfl)
  · intro hs
    obtain ⟨hblock, hstream⟩ := C.init _ _ hs
    refine ⟨?_, rfl, rfl, rfl⟩
    exact {
      algorithm := h.algorithm
      mode := h.mode
      nonce := h.nonce
      keyed := hblock.trans h.keyed
      stream := fun i => by
        rw [hstream, h.keyed, h.nonce, hcounter, he', Nat.zero_add 0, Nat.zero_add i]
        rfl }
  · exact fun _ _ _ => trivial

/-- What one piece of a call leaves, from byte `e` of the key stream on. -/
structure Moved (C : evp.Ctr) (setup : CencSetup Ctx) (block : BitVec (64 + 64) → Nat → UInt8)
    (e n out inp : Nat) (s s' : CencState Ctx) : Prop where
  ahead : Ahead C setup block (e + n) 0 s'
  memory : Xored s.memory s'.memory out inp n (fun i => setup.key block (e + i))
  encByteCount : s.encByteCount + n < 2 ^ 64 → s'.encByteCount = s.encByteCount + n

theorem Moved.append (h : Moved C setup block e a out inp s s')
    (h' : Moved C setup block (e + a) b (out + a) (inp + a) s' s'')
    (hapart : out + (a + b) ≤ inp ∨ inp + (a + b) ≤ out) :
    Moved C setup block e (a + b) out inp s s'' where
  ahead := Nat.add_assoc e a b ▸ h'.ahead
  memory := h.memory.append h'.memory (fun i _ => by rw [Nat.add_assoc]) hapart
  encByteCount hlt := by rw [h'.encByteCount (by rw [h.encByteCount (by omega)]; omega),
    h.encByteCount (by omega), Nat.add_assoc]

theorem decryptBlocks_keystream (hsized : evp.Sized) (h : Ahead C setup block e 0 s)
    (hn : n < 2 ^ 31) (hapart : out + n ≤ inp ∨ inp + n ≤ out)
    (hc : ∀ i < n, (setup.counterAt e).toNat + (e % 16 + i) / 16 < 2 ^ 64)
    (hend : (e + n) % 16 = 0)
    (hcounter : s.iv.counter + BitVec.ofNat 64 blocks = setup.counterAt (e + n)) :
    wp (decryptBlocks evp out inp n blocks)
      (fun length s' => length = n ∧ Moved C setup block e n out inp s s' ∧
        s'.iv.counter = setup.counterAt (e + n))
      (fun _ _ => True) s := by
  simp only [decryptBlocks, wp_bind]
  apply (contextDecrypt_keystream hsized h hn hapart hc).mono
  · rintro length s₁ ⟨rfl, hxor, h₁, hiv, henc⟩
    simp only [wp_bind, wp_modify, CencState.addCounter]
    have h₁' : Ahead C setup block e length { s₁ with
        iv := { s₁.iv with counter := s₁.iv.counter + BitVec.ofNat 64 blocks } } :=
      ⟨h₁.algorithm, h₁.mode, h₁.nonce, h₁.keyed, h₁.stream⟩
    apply wp.mono (contextSetIv_keystream h₁' (by rw [hiv]; exact hcounter) hend)
    · rintro - s₂ ⟨h₂, hiv₂, hmem₂, henc₂⟩
      simp only [wp_bind, wp_modify, wp_pure, CencState.addEncByteCount]
      refine ⟨trivial,
        ⟨⟨h₂.algorithm, h₂.mode, h₂.nonce, h₂.keyed, h₂.stream⟩, ?_, fun hlt => ?_⟩, ?_⟩
      · rw [hmem₂]
        exact hxor
      · dsimp only at henc₂ ⊢
        rw [henc₂, henc, sizeAdd_of_lt hlt]
      · rw [hiv₂, hiv]
        exact hcounter
    · exact fun _ _ hf => hf
  · exact fun _ _ hf => hf

theorem decryptRest_keystream (hsized : evp.Sized) (h : Ahead C setup block e 0 s)
    (ha : a ≤ n) (hlt : n < 2 ^ 64) (hn : n - a < 2 ^ 31)
    (hapart : out + n ≤ inp ∨ inp + n ≤ out)
    (hc : (setup.counterAt e).toNat + (e % 16 + (n - a)) / 16 < 2 ^ 64) :
    wp (decryptRest evp out inp n a lead full)
      (fun _ s' => Moved C setup block e (n - a) (out + a) (inp + a) s s')
      (fun _ _ => True) s := by
  simp only [decryptRest, wp_bind, wp_subtract]
  rw [sizeSub_of_le ha hlt]
  have h₀ : Ahead C setup block e 0 { s with log := .subtract n a :: s.log } :=
    ⟨h.algorithm, h.mode, h.nonce, h.keyed, h.stream⟩
  apply (contextDecrypt_keystream hsized h₀ hn (by omega)
    fun i hi => by
      have := Nat.div_le_div_right (c := 16) (show e % 16 + i ≤ e % 16 + (n - a) by omega)
      omega).mono
  · rintro length s₁ ⟨rfl, hxor, h₁, hiv, henc⟩
    simp only [wp_bind, wp_modify, CencState.addCounter, CencState.addEncByteCount]
    have hr := h₁.resume hc
    refine ⟨⟨hr.algorithm, hr.mode, hr.nonce, hr.keyed, hr.stream⟩, hxor, fun hlt' => ?_⟩
    dsimp only at henc ⊢
    rw [henc, sizeAdd_of_lt hlt']
  · exact fun _ _ hf => hf

theorem counterAt_toNat (setup : CencSetup Ctx) (e n : Nat) :
    (setup.counterAt (e + n)).toNat =
      ((setup.counterAt e).toNat + (e % 16 + n) / 16) % 2 ^ 64 := by
  rw [counterAt_add, BitVec.toNat_add, BitVec.toNat_ofNat, Nat.add_mod_mod]

theorem blocksBeforeRollover_eq (counter : BitVec 64) :
    blocksBeforeRollover counter = (2 ^ 64 - counter.toNat) % 2 ^ 64 := by
  have := counter.isLt
  unfold blocksBeforeRollover sizeAdd sizeSub
  omega

theorem leadingPartialBlockSize_eq : leadingPartialBlockSize e = (16 - e % 16) % 16 := by
  unfold leadingPartialBlockSize aesBlockSize
  split_ifs <;> omega

theorem decryptLeadingPartialBlock_keystream (hsized : evp.Sized)
    (h : Ahead C setup block e 0 s) (hlead : lead = (16 - e % 16) % 16)
    (hapart : out + lead ≤ inp ∨ inp + lead ≤ out)
    (hcounter : s.iv.counter = setup.counterAt e) :
    wp (decryptLeadingPartialBlock evp out inp lead)
      (fun length s' => length = lead ∧ Moved C setup block e lead out inp s s' ∧
        s'.iv.counter = setup.counterAt (e + lead))
      (fun _ _ => True) s := by
  simp only [decryptLeadingPartialBlock, wp_ite, wp_pure]
  constructor
  · intro hpos
    apply decryptBlocks_keystream hsized h (by omega) hapart
    · intro i hi
      have := (setup.counterAt e).isLt
      omega
    · omega
    · have hone : (e % 16 + lead) / 16 = 1 := by omega
      rw [hcounter, counterAt_add, hone]
  · intro hzero
    obtain rfl : lead = 0 := by omega
    exact ⟨rfl, ⟨h, .nil _ _ _ _, fun _ => rfl⟩, hcounter⟩

theorem decryptToRollover_keystream (hsized : evp.Sized) (h : Ahead C setup block e 0 s)
    (hlead : lead = (16 - e % 16) % 16)
    (hapart : out + (lead + min before full * 16) ≤ inp ∨
      inp + (lead + min before full * 16) ≤ out)
    (hcounter : s.iv.counter = setup.counterAt e) (hblocks : min before full * 16 < 2 ^ 31)
    (hc : ∀ i < min before full * 16, (setup.counterAt (e + lead)).toNat + i / 16 < 2 ^ 64) :
    wp (decryptToRollover evp out inp lead full before)
      (fun r s' => r.1 = lead + min before full * 16 ∧
        Moved C setup block e (lead + min before full * 16) out inp s s')
      (fun _ _ => True) s := by
  simp only [decryptToRollover, wp_bind]
  apply (decryptLeadingPartialBlock_keystream hsized h hlead (by omega) hcounter).mono
  · rintro length s₁ ⟨rfl, h₁, hcounter₁⟩
    have hmod : (e + length) % 16 = 0 := by omega
    simp only [wp_ite, wp_bind, wp_pure]
    constructor
    · intro hpos
      have hdiv : ((e + length) % 16 + min before full * 16) / 16 = min before full := by omega
      apply wp.mono (decryptBlocks_keystream hsized h₁.ahead hblocks
        (by omega) (by rw [hmod]; simpa using hc) (by omega)
        (by rw [hcounter₁, counterAt_add setup (e + length), hdiv]))
      · rintro len s₂ ⟨rfl, h₂, -⟩
        simp only [wp_bind, wp_subtract, wp_pure]
        refine ⟨sizeAdd_of_lt (by omega), ?_⟩
        have h₃ := h₁.append h₂ hapart
        exact ⟨⟨h₃.ahead.algorithm, h₃.ahead.mode, h₃.ahead.nonce, h₃.ahead.keyed,
          h₃.ahead.stream⟩, h₃.memory, h₃.encByteCount⟩
      · exact fun _ _ hf => hf
    · intro hzero
      have hmin : min before full * 16 = 0 := by omega
      rw [hmin, Nat.add_zero]
      exact ⟨rfl, h₁⟩
  · exact fun _ _ hf => hf

/-- A call that keeps to the one key stream, where the counter of byte `e` is `t`: its pieces are
short enough, and either no rollover is seen and none comes, or the code takes the branch for a
rollover with the right counter, for a call that is not shorter than the pending block, and where
the full blocks after that block do not go past the rollover. -/
def KeystreamOk (t counter : BitVec 64) (e n : Nat) : Prop :=
  PiecesOk (rollsOver .aesCtr e counter n) n (leadingPartialBlockSize e) (fullBlocks e n)
    (blocksBeforeRollover counter) ∧
  if rollsOver .aesCtr e counter n then
    counter = t ∧ leadingPartialBlockSize e ≤ n ∧
    ¬ (0 < leadingPartialBlockSize e ∧ 2 ≤ blocksBeforeRollover counter ∧
      blocksBeforeRollover counter ≤ fullBlocks e n)
  else leadingPartialBlockSize e ≤ n →
    t.toNat + fullBlocks e n + (if leadingPartialBlockSize e > 0 then 1 else 0) < 2 ^ 64

theorem counter_toRollover (hT : T < 2 ^ 64) (hbefore : before = (2 ^ 64 - T) % 2 ^ 64)
    (hlead : L = if lead > 0 then 1 else 0)
    (hpast : ¬ (0 < lead ∧ 2 ≤ before ∧ before ≤ full)) (hi : i < min before full * 16) :
    (T + L) % 2 ^ 64 + i / 16 < 2 ^ 64 := by
  have hblock : i / 16 < min before full := by omega
  by_cases hpos : lead > 0
  · rw [if_pos hpos] at hlead
    omega
  · rw [if_neg hpos] at hlead
    omega

theorem counter_behind (hT : T < 2 ^ 64) (hbefore : before = (2 ^ 64 - T) % 2 ^ 64)
    (hlead : L = if lead > 0 then 1 else 0)
    (hpast : ¬ (0 < lead ∧ 2 ≤ before ∧ before ≤ full)) (hfull : full < 2 ^ 60)
    (hrest : rest / 16 = full - min before full) :
    (T + (L + min before full)) % 2 ^ 64 + rest / 16 < 2 ^ 64 := by
  rw [hrest]
  by_cases hpos : lead > 0
  · rw [if_pos hpos] at hlead
    omega
  · rw [if_neg hpos] at hlead
    omega

/-- The bytes before the rollover are among those of the call, and whole blocks behind them are
left. -/
theorem toRollover_le (before : Nat) (hle : lead ≤ n) (hfull : full = (n - lead) / 16) :
    lead + min before full * 16 ≤ n ∧
      (n - (lead + min before full * 16)) / 16 = full - min before full := by
  have hmin := Nat.min_le_right before full
  omega

theorem pending_blocks (hlead : lead = (16 - e % 16) % 16) :
    (e % 16 + lead) / 16 = if lead > 0 then 1 else 0 := by
  split_ifs <;> omega

theorem decryptLoop_keystream (hsized : evp.Sized) (h : Ahead C setup block e 0 s)
    (hn : n < 2 ^ 63) (hlt : e + n < 2 ^ 64)
    (hapart : out + n ≤ inp ∨ inp + n ≤ out)
    (hok : KeystreamOk (setup.counterAt e) s.iv.counter e n) :
    wp (decryptLoop evp out inp n (leadingPartialBlockSize e) (fullBlocks e n)
        (blocksBeforeRollover s.iv.counter) (rollsOver .aesCtr e s.iv.counter n))
      (fun _ s' => Moved C setup block e n out inp s s')
      (fun _ _ => True) s := by
  obtain ⟨hpieces, hroll⟩ := hok
  have hlead := leadingPartialBlockSize_eq (e := e)
  have hfull : leadingPartialBlockSize e ≤ n →
      fullBlocks e n = (n - leadingPartialBlockSize e) / 16 := by
    intro hle
    rw [fullBlocks, sizeSub_of_le hle (by omega)]
    rfl
  simp only [decryptLoop, wp_ite, wp_bind, wp_pure]
  refine ⟨fun hpos => ⟨fun hr => ?_, fun hr => ?_⟩, fun hzero => ?_⟩
  · rw [PiecesOk, if_pos hr] at hpieces
    rw [if_pos hr] at hroll
    obtain ⟨hcounter, hle, hpast⟩ := hroll
    obtain ⟨hblocks, hrest⟩ := hpieces
    have hbefore : blocksBeforeRollover s.iv.counter =
        (2 ^ 64 - (setup.counterAt e).toNat) % 2 ^ 64 := by
      rw [blocksBeforeRollover_eq, hcounter]
    have hT := (setup.counterAt e).isLt
    have hfull := hfull hle
    generalize leadingPartialBlockSize e = lead at *
    generalize blocksBeforeRollover s.iv.counter = before at *
    generalize fullBlocks e n = full at *
    have hfull60 : full < 2 ^ 60 := by omega
    have hpending := pending_blocks hlead
    obtain ⟨htaken, hleft⟩ := toRollover_le before hle hfull
    apply wp.mono (decryptToRollover_keystream hsized h hlead (by omega) hcounter
      hblocks fun i hi => by
        rw [counterAt_toNat]
        exact counter_toRollover hT hbefore hpending hpast hi)
    · rintro ⟨b, left⟩ s₁ ⟨hb, h₁⟩
      obtain rfl : b = lead + min before full * 16 := hb
      simp only [wp_ite, wp_pure]
      refine ⟨fun hgt => ?_, fun hge => ?_⟩
      · have hblock : (e + (lead + min before full * 16)) % 16 = 0 := by omega
        have hdiv : (e % 16 + (lead + min before full * 16)) / 16 =
            (e % 16 + lead) / 16 + min before full := by omega
        apply wp.mono (decryptRest_keystream hsized h₁.ahead (by omega) (by omega)
          (by omega) hapart (by
            rw [counterAt_toNat, hblock, hdiv, Nat.zero_add]
            exact counter_behind hT hbefore hpending hpast hfull60 hleft))
        · intro _ s₂ h₂
          have h₃ := h₁.append h₂ (by rwa [Nat.add_sub_cancel' htaken])
          rwa [Nat.add_sub_cancel' htaken] at h₃
        · exact fun _ _ hf => hf
      · obtain hb : lead + min before full * 16 = n := by omega
        exact hb ▸ h₁
    · exact fun _ _ hf => hf
  · rw [PiecesOk, if_neg hr] at hpieces
    rw [if_neg hr] at hroll
    have hT := (setup.counterAt e).isLt
    apply wp.mono (decryptRest_keystream hsized h (Nat.zero_le n) (by omega) (by omega)
      hapart (by
        by_cases hle : leadingPartialBlockSize e ≤ n
        · have hsum := hroll hle
          rw [hfull hle] at hsum
          split_ifs at hsum <;> omega
        · omega))
    · exact fun _ _ h' => h'
    · exact fun _ _ hf => hf
  · obtain rfl : n = 0 := by omega
    exact ⟨h, .nil _ _ _ _, fun _ => rfl⟩

end Pieces

/-- No call of `decrypt`, or one that keeps to the key stream in the state before it. -/
def CencEvent.OnKeystream (setup : CencSetup Ctx) : CencEvent → Prop
  | call encByteCount counter n =>
    KeystreamOk (setup.counterAt encByteCount) counter encByteCount n
  | _ => True

def CallsOnKeystream (setup : CencSetup Ctx) (log : List CencEvent) : Prop :=
  ∀ event ∈ log, event.OnKeystream setup

section Flags

variable {flag : Nat → Bool}

theorem count_add_of_clear (h : ∀ i < n, flag (k + i) = false) :
    Nat.count (fun j => flag j) (k + n) = Nat.count (fun j => flag j) k := by
  induction n with
  | zero => rfl
  | succ n ih =>
    rw [← Nat.add_assoc, Nat.count_succ, ih fun i hi => h i (by omega), if_neg (by
      rw [h n (by omega)]
      exact Bool.false_ne_true), Nat.add_zero]

theorem count_add_of_encrypted (h : ∀ i < n, flag (k + i) = true) :
    Nat.count (fun j => flag j) (k + n) = Nat.count (fun j => flag j) k + n := by
  induction n with
  | zero => rfl
  | succ n ih =>
    rw [← Nat.add_assoc, Nat.count_succ, ih fun i hi => h i (by omega), if_pos (h n (by omega)),
      Nat.add_assoc]

end Flags

/-- The bytes before an offset are as the one key stream makes them, and the next ones to decrypt
get the bytes of the stream that are due. -/
structure Done (C : evp.Ctr) (setup : CencSetup Ctx) (memory : Memory) (flag : Nat → Bool)
    (length k : Nat) (s : CencState Ctx) : Prop where
  encByteCount : s.encByteCount = Nat.count (fun j => flag j) k
  ahead : Ahead C setup (C.block setup.context.evpCipher) (Nat.count (fun j => flag j) k) 0 s
  input : ∀ i < length, s.memory (setup.inBytes + i) = memory (setup.inBytes + i)
  output : ∀ i < k, s.memory (setup.outBytes + i) =
    oneKeystream flag (setup.key (C.block setup.context.evpCipher))
      (fun j => memory (setup.inBytes + j)) i

/-- The same as far as no call of `decrypt` has failed, and the calls so far keep to the key stream.
-/
structure KeystreamInv (C : evp.Ctr) (setup : CencSetup Ctx) (memory : Memory)
    (flag : Nat → Bool) (length k : Nat) (s : CencState Ctx) : Prop where
  offset : s.offset = k
  algorithm : s.context.cipherAlgorithm = .aesCtr
  mode : s.context.cipherMode = .decrypt
  bounded : s.encByteCount < 2 ^ 64
  ended : setup.cryptByteBlock = 0 → openCalls s.log = 0
  done : openCalls s.log = 0 → CallsOnKeystream setup s.log → Done C setup memory flag length k s

/-- A sample whose ranges are apart, in CTR mode. -/
structure CencSetup.Apart (setup : CencSetup Ctx) (length : Nat) : Prop where
  algorithm : setup.cipherAlgorithm = .aesCtr
  outNonNull : setup.outBytes ≠ 0
  inNonNull : setup.inBytes ≠ 0
  length_lt : length < 2 ^ 63
  apart : setup.outBytes + length < setup.inBytes ∨ setup.inBytes + length < setup.outBytes

section Sample

variable {C : evp.Ctr} {memory : Memory} {flag : Nat → Bool} {length : Nat}

def Flagged (flag : Nat → Bool) (length : Nat) (value : Bool) (k n : Nat) : Prop :=
  k + n ≤ length ∧ ∀ i < n, flag (k + i) = value

theorem Done.copied (ha : setup.Apart length) (h : Done C setup memory flag length k s)
    (hf : Flagged flag length false k n) : Done C setup memory flag length (k + n) { s with
      memory := memcpy s.memory (setup.outBytes + k) (setup.inBytes + k) n
      offset := k + n
      log := .access (setup.inBytes + k) (setup.outBytes + k) n :: s.log } := by
  obtain ⟨hle, hclear⟩ := hf
  have hapart := ha.apart
  have hcount := count_add_of_clear hclear
  refine ⟨by rw [hcount]; exact h.encByteCount, ?_, fun i hi => ?_, fun i hi => ?_⟩
  · rw [hcount]
    exact ⟨h.ahead.algorithm, h.ahead.mode, h.ahead.nonce, h.ahead.keyed, h.ahead.stream⟩
  · have hnot : ¬ (setup.outBytes + k ≤ setup.inBytes + i ∧
        setup.inBytes + i < setup.outBytes + k + n) := by omega
    simp only [memcpy, if_neg hnot]
    exact h.input i hi
  · by_cases hlt : i < k
    · have hnot : ¬ (setup.outBytes + k ≤ setup.outBytes + i ∧
          setup.outBytes + i < setup.outBytes + k + n) := by omega
      simp only [memcpy, if_neg hnot]
      exact h.output i hlt
    · obtain ⟨j, rfl⟩ := Nat.exists_eq_add_of_le (not_lt.1 hlt)
      have hin : setup.outBytes + k ≤ setup.outBytes + (k + j) ∧
          setup.outBytes + (k + j) < setup.outBytes + k + n := by omega
      have haddr : setup.inBytes + k + (setup.outBytes + (k + j) - (setup.outBytes + k)) =
          setup.inBytes + (k + j) := by omega
      simp only [memcpy, if_pos hin, haddr, oneKeystream, hclear j (by omega)]
      exact h.input (k + j) (by omega)

theorem Done.moved (ha : setup.Apart length) (h : Done C setup memory flag length k s)
    (hf : Flagged flag length true k n)
    (hm : Moved C setup (C.block setup.context.evpCipher) (Nat.count (fun j => flag j) k) n
      (setup.outBytes + k) (setup.inBytes + k) s s')
    (hlt : s.encByteCount + n < 2 ^ 64) : Done C setup memory flag length (k + n) s' := by
  obtain ⟨hle, henc⟩ := hf
  have hapart := ha.apart
  have hcount := count_add_of_encrypted henc
  refine ⟨?_, by rw [hcount]; exact hm.ahead, fun i hi => ?_, fun i hi => ?_⟩
  · rw [hcount, hm.encByteCount hlt, h.encByteCount]
  · rw [hm.memory.outside _ (by omega)]
    exact h.input i hi
  · by_cases hlt : i < k
    · rw [hm.memory.outside _ (by omega)]
      exact h.output i hlt
    · obtain ⟨j, rfl⟩ := Nat.exists_eq_add_of_le (not_lt.1 hlt)
      have hj := hm.memory.inside j (by omega)
      rw [Nat.add_assoc, Nat.add_assoc, h.input _ (by omega)] at hj
      have hbefore : Nat.count (fun j => flag j) (k + j) = Nat.count (fun j => flag j) k + j :=
        count_add_of_encrypted fun i hi => henc i (by omega)
      rw [hj]
      simp only [oneKeystream, henc j (by omega), if_true, hbefore]

/-- After a call whose bytes were decrypted, which are behind the offset then. -/
theorem KeystreamInv.called_moved (h : KeystreamInv C setup memory flag length k s)
    (he : Extends CencEvent.Silent (s.called n) s')
    (hdone : openCalls s.log = 0 → CallsOnKeystream setup s.log →
      CencEvent.OnKeystream setup (.call s.encByteCount s.iv.counter n) →
        Done C setup memory flag length (k + n) s') :
    KeystreamInv C setup memory flag length (k + n)
      (CencState.addOffset n { s' with
        log := .advanced n s.encByteCount s'.encByteCount :: s'.log }) where
  offset := congrArg (· + n) (he.offset.trans h.offset)
  algorithm := he.algorithm.trans h.algorithm
  mode := he.mode.trans h.mode
  bounded := he.bounded h.bounded
  ended hfull := (congrArg (· - 1) he.openCalls_eq).trans (h.ended hfull)
  done := by
    intro hended hc
    -- the calls before this one, and this one
    have hsub := fun e hm => hc e (.tail _ (he.log_subset hm))
    have hcall := hsub _ (.tail _ (.tail _ (.head _)))
    have hcalls : CallsOnKeystream setup s.log := fun e hm =>
      hsub e (.tail _ (.tail _ (.tail _ hm)))
    have hd := hdone ((congrArg (· - 1) he.openCalls_eq).symm.trans hended) hcalls hcall
    exact ⟨hd.encByteCount, ⟨hd.ahead.algorithm, hd.ahead.mode, hd.ahead.nonce,
      hd.ahead.keyed, hd.ahead.stream⟩, hd.input, hd.output⟩

/-- After a call that has failed in a pattern, which stays open. -/
theorem KeystreamInv.called_failed (h : KeystreamInv C setup memory flag length k s)
    (he : Extends CencEvent.Silent (s.called n) s') (hpattern : setup.cryptByteBlock ≠ 0) :
    KeystreamInv C setup memory flag length k s' ∧ openCalls s'.log ≠ 0 := by
  have hopen : openCalls s'.log = openCalls s.log + 1 := he.openCalls_eq
  have hne : openCalls s'.log ≠ 0 := hopen ▸ Nat.succ_ne_zero _
  exact ⟨⟨he.offset.trans h.offset, he.algorithm.trans h.algorithm, he.mode.trans h.mode,
    he.bounded h.bounded, fun hfull => absurd hfull hpattern, fun hended => absurd hended hne⟩,
    hne⟩

/-- A call of `decrypt` that keeps to the key stream makes its bytes, and one that fails stays open.
-/
theorem KeystreamInv.decrypt (hsized : evp.Sized) (ha : setup.Apart length)
    (h : KeystreamInv C setup memory flag length k s) (hf : Flagged flag length true k n) :
    wp (decryptProtected evp setup n)
      (fun _ s' => KeystreamInv C setup memory flag length (k + n) s')
      (fun _ s' => setup.cryptByteBlock ≠ 0 →
        KeystreamInv C setup memory flag length k s' ∧ openCalls s'.log ≠ 0) s := by
  obtain ⟨hle, henc⟩ := id hf
  have hlen := ha.length_lt
  have hapart := ha.apart
  have hout := ha.outNonNull
  have hinp := ha.inNonNull
  have hcount : Nat.count (fun j => flag j) k ≤ k := Nat.count_le _
  rw [wp_decryptProtected, wp_decrypt, ha.algorithm, h.offset]
  have hstream : s.context.cipherAlgorithm.isStream := by rw [h.algorithm]; rfl
  have hable : Able (s.called n) (setup.outBytes + k) (setup.inBytes + k) :=
    ⟨h.mode, by change s.context.cipherAlgorithm.takesIv; rw [h.algorithm]; rfl, by omega,
      by omega⟩
  have hsilent (lead full before : Nat) (rollover : Bool) :
      wp (decryptLoop evp (setup.outBytes + k) (setup.inBytes + k) n lead full before rollover)
        (fun _ s' => Extends CencEvent.Silent (s.called n) s')
        (fun _ s' => Extends CencEvent.Silent (s.called n) s' ∧ ¬ evp.NeverFails) (s.called n) :=
    decryptLoop_silent hable (.inl hstream) (show n < 2 ^ 64 by omega)
  by_cases hok : openCalls s.log = 0 ∧ CallsOnKeystream setup s.log ∧
      CencEvent.OnKeystream setup (.call s.encByteCount s.iv.counter n)
  · have hdone := h.done hok.1 hok.2.1
    have hd₀ : Done C setup memory flag length k (s.called n) := by
      have h₁ := hdone.ahead
      exact ⟨hdone.encByteCount, ⟨h₁.algorithm, h₁.mode, h₁.nonce, h₁.keyed, h₁.stream⟩,
        hdone.input, hdone.output⟩
    have hahead := hd₀.ahead
    rw [← hdone.encByteCount] at hahead
    apply wp.mono ((hsilent _ _ _ _).and (decryptLoop_keystream hsized hahead
      (by omega) (by rw [hdone.encByteCount]; omega) (by omega) hok.2.2))
    · rintro - s' ⟨he, hm⟩
      refine h.called_moved he fun _ _ _ => ?_
      rw [hdone.encByteCount] at hm
      exact hd₀.moved ha hf hm (by rw [hd₀.encByteCount]; omega)
    · rintro e s' ⟨⟨he, -⟩, -⟩
      exact h.called_failed he
  · apply wp.mono (hsilent _ _ _ _)
    · intro _ s' he
      exact h.called_moved he fun hended hcalls hcall => absurd ⟨hended, hcalls, hcall⟩ hok
    · rintro e s' ⟨he, -⟩
      exact h.called_failed he

theorem KeystreamInv.copyClear (ha : setup.Apart length)
    (h : KeystreamInv C setup memory flag length k s)
    (hf : openCalls s.log = 0 → Flagged flag length false k n) :
    wp (copyClear (ε := ε) setup n)
      (fun _ s' => KeystreamInv C setup memory flag length (k + n) s') (fun _ _ => False) s := by
  rw [wp_copyClear, h.offset]
  refine ⟨fun hpos => ?_, fun hzero => ?_⟩
  · exact {
      offset := rfl
      algorithm := h.algorithm
      mode := h.mode
      bounded := h.bounded
      ended := h.ended
      done := fun hended hc =>
        (h.done hended fun e hm => hc e (.tail _ hm)).copied ha (hf hended) }
  · obtain rfl : n = 0 := by omega
    exact h

theorem KeystreamInv.status (h : KeystreamInv C setup memory flag length k s)
    (status : SaStatus) : KeystreamInv C setup memory flag length k { s with status := status } :=
  ⟨h.offset, h.algorithm, h.mode, h.bounded, h.ended, fun hended hc =>
    have hd := h.done hended hc
    ⟨hd.encByteCount, ⟨hd.ahead.algorithm, hd.ahead.mode, hd.ahead.nonce, hd.ahead.keyed,
      hd.ahead.stream⟩, hd.input, hd.output⟩⟩

theorem KeystreamInv.keeps (hsized : evp.Sized) (ha : setup.Apart length) :
    Keeps evp setup length (KeystreamInv C setup memory flag length) (fun _ => True)
      (Flagged flag length false) (Flagged flag length true) where
  stop _ _ _ := trivial
  status _ _ status h := h.status status
  copy k n s hf h := (h.copyClear ha fun _ => hf).mono (fun _ _ h' => h') fun _ _ h' => h'.elim
  decrypt k n s hf h := by
    apply (h.decrypt hsized ha hf).mono
    · exact fun _ _ h' => h'
    · intro e s' h'
      refine ⟨trivial, fun hpattern m status _ => ?_⟩
      obtain ⟨hinv, hopen⟩ := h' hpattern
      apply ((hinv.status status).copyClear ha fun hended => absurd hended hopen).mono
      · exact fun _ _ h'' => h''
      · exact fun _ _ h'' => h''.elim
  restart k s hcbc := by rw [ha.algorithm] at hcbc; cases hcbc

theorem pattern_block (hmod : q % 16 = 0) (hq : q / 16 % period = 0) :
    (q + i) / 16 % period = i / 16 % period := by
  have hdiv : (q + i) / 16 = q / 16 + i / 16 := by omega
  rw [hdiv, Nat.add_mod, hq, Nat.zero_add, Nat.mod_mod]

theorem inStripe_crypt (hmod : q % 16 = 0) (hq : q / 16 % (crypt + skip) = 0)
    (hi : i < crypt * 16) (hlast : q + i < p / 16 * 16) : inStripe crypt skip p (q + i) = true := by
  have hblock : i / 16 % (crypt + skip) = i / 16 := Nat.mod_eq_of_lt (by omega)
  rw [inStripe, pattern_block hmod hq, hblock, decide_eq_true hlast, Bool.true_and,
    decide_eq_true (by omega : i / 16 < crypt), Bool.or_true]

theorem inStripe_skip (hc : 0 < crypt) (hmod : q % 16 = 0) (hq : q / 16 % (crypt + skip) = 0)
    (hfrom : crypt * 16 ≤ i) (hto : i < (crypt + skip) * 16) :
    inStripe crypt skip p (q + i) = false := by
  have hblock : i / 16 % (crypt + skip) = i / 16 := Nat.mod_eq_of_lt (by omega)
  rw [inStripe, pattern_block hmod hq, hblock, decide_eq_false hc.ne', Bool.false_or,
    decide_eq_false (by omega : ¬ i / 16 < crypt), Bool.and_false]

theorem inStripe_tail (hc : 0 < crypt) (hj : p / 16 * 16 ≤ j) :
    inStripe crypt skip p j = false := by
  rw [inStripe, decide_eq_false hc.ne', decide_eq_false (by omega : ¬ j < p / 16 * 16)]
  rfl

theorem stripe_of_lt (h : block < 2 ^ 60) : stripe block left =
    min (block * 16) (left / 16 * 16) := by
  rw [stripe, aesBlockSize, Nat.mod_eq_of_lt (by omega)]

/-- The stripes of the loop are those of the pattern: byte `q` of the protected data, where the loop
stands, begins a pattern, as long as a whole block is left. -/
theorem stripesPlanned_flagged {p : Nat} (hle : b + p ≤ length)
    (hflag : ∀ j < p, flag (b + j) = inStripe setup.cryptByteBlock setup.skipByteBlock p j)
    (hc : 0 < setup.cryptByteBlock) (hcrypt : setup.cryptByteBlock < 2 ^ 60)
    (hskip : setup.skipByteBlock < 2 ^ 60) (hsum : q + l = p) (hmod : 16 ≤ p → q % 16 = 0)
    (hperiod : 16 ≤ l → q / 16 % (setup.cryptByteBlock + setup.skipByteBlock) = 0) :
    StripesPlanned setup (Flagged flag length false) (Flagged flag length true) fuel (b + q)
      l := by
  have htail : l < 16 → Flagged flag length false (b + q) l := by
    intro hlt
    refine ⟨by omega, fun i hi => ?_⟩
    rw [Nat.add_assoc, hflag _ (by omega)]
    exact inStripe_tail hc (by omega)
  induction fuel generalizing q l with
  | zero => exact htail
  | succ fuel ih =>
    by_cases hge : l ≥ aesBlockSize
    · have hge' : 16 ≤ l := hge
      have hq := hperiod hge'
      have hmod := hmod (by omega)
      have hskipped : (if setup.skipByteBlock > 0 then
          stripe setup.skipByteBlock (l - stripe setup.cryptByteBlock l) else 0) =
            min (setup.skipByteBlock * 16)
              ((l - stripe setup.cryptByteBlock l) / 16 * 16) := by
        split_ifs
        · exact stripe_of_lt hskip
        · omega
      rw [StripesPlanned, if_pos hge]
      dsimp only
      rw [hskipped, stripe_of_lt hcrypt]
      generalize setup.cryptByteBlock = crypt at *
      generalize setup.skipByteBlock = skip at *
      generalize hblock : min (crypt * 16) (l / 16 * 16) = block at *
      generalize hskips : min (skip * 16) ((l - block) / 16 * 16) = skipped at *
      refine ⟨fun _ => ⟨by omega, fun i hi => ?_⟩, ⟨by omega, fun i hi => ?_⟩, ?_⟩
      · rw [Nat.add_assoc, hflag _ (by omega)]
        exact inStripe_crypt hmod hq (by omega) (by omega)
      · rw [Nat.add_assoc, Nat.add_assoc, hflag _ (by omega)]
        exact inStripe_skip hc hmod hq (by omega) (by omega)
      · have hnext := ih (q := q + (block + skipped)) (l := l - block - skipped) (by omega)
          (fun _ => by omega) (fun hrest => ?_) (fun hlt => ⟨by omega, fun i hi => ?_⟩)
        · rwa [← Nat.add_assoc, ← Nat.add_assoc] at hnext
        · have hdiv : (q + (block + skipped)) / 16 = q / 16 + (crypt + skip) := by omega
          rw [hdiv, Nat.add_mod_right, hq]
        · rw [Nat.add_assoc, hflag _ (by omega)]
          exact inStripe_tail hc (by omega)
    · rw [StripesPlanned, if_neg hge]
      exact htail (by unfold aesBlockSize at hge; omega)

theorem samplePlanned_flagged (ha : setup.Apart length)
    (hflag : ∀ i < totalLength subsamples, flag (k + i) =
      encryptedByte setup.cryptByteBlock setup.skipByteBlock subsamples i)
    (hcrypt : setup.cryptByteBlock < 2 ^ 60) (hskip : setup.skipByteBlock < 2 ^ 60)
    (hle : k + totalLength subsamples ≤ length) :
    SamplePlanned setup (Flagged flag length false) (Flagged flag length true) k subsamples := by
  induction subsamples generalizing k with
  | nil => trivial
  | cons subsample rest ih =>
    obtain ⟨clear, p⟩ := subsample
    have htotal : totalLength (⟨clear, p⟩ :: rest) = clear + p + totalLength rest := by
      simp [totalLength]
    have hprotected : ∀ j < p, flag (k + clear + j) =
        inStripe setup.cryptByteBlock setup.skipByteBlock p j := by
      intro j hj
      have hnot : ¬ clear + j < clear := by omega
      have hin : clear + j < clear + p := by omega
      rw [Nat.add_assoc, hflag _ (by omega), encryptedByte]
      dsimp only
      rw [if_neg hnot, if_pos hin, Nat.add_sub_cancel_left]
    rw [SamplePlanned]
    dsimp only
    refine ⟨⟨by omega, fun i hi => ?_⟩, fun _ => ?_, ih (fun i hi => ?_) (by omega)⟩
    · rw [hflag _ (by omega), encryptedByte, if_pos hi]
    · unfold ProtectedPlanned
      split_ifs with hfull
      · have hall : ∀ j < p, flag (k + clear + j) = true := by
          intro j hj
          rw [hprotected j hj, inStripe, decide_eq_true hfull, Bool.true_or]
        have hne : ¬ setup.cipherAlgorithm = .aesCbc := by rw [ha.algorithm]; decide
        unfold FullPlanned
        rw [if_neg hne]
        exact ⟨⟨by omega, hall⟩, by omega, fun i hi => absurd hi (Nat.not_lt_zero i)⟩
      · exact stripesPlanned_flagged (b := k + clear) (q := 0) (by omega) hprotected
          (Nat.pos_of_ne_zero hfull)
          hcrypt hskip (Nat.zero_add p) (fun _ => rfl) fun _ => Nat.zero_mod _
    · have hnot : ¬ clear + (p + i) < clear := by omega
      have hnot' : ¬ clear + (p + i) < clear + p := by omega
      have hsub : clear + (p + i) - clear - p = i := by omega
      have heq := hflag (clear + (p + i)) (by omega)
      rw [encryptedByte] at heq
      dsimp only at heq
      rw [if_neg hnot, if_neg hnot', hsub] at heq
      rw [Nat.add_assoc, Nat.add_assoc]
      exact heq

end Sample

theorem Verified.isApart {client : Client Ctx}
    (hv : Verified client reading sample cipher subsamples out inp outBytes inBytes)
    (hs : cencSetup client sample = .ok (setup, subsamples))
    (hctr : setup.cipherAlgorithm = .aesCtr) :
    setup.Apart (cencGetRequiredLength subsamples) := by
  obtain ⟨-, -, -, -, hout, hin, -⟩ := hv.of_setup hs
  obtain ⟨houtNe, hinNe, hlt, hapart⟩ := hv.ranges
  subst hout hin
  exact ⟨hctr, houtNe, hinNe, hlt, hapart⟩

/-- The restart at the IV of the sample. -/
theorem KeystreamInv.start {evp : Evp Ctx} (C : evp.Ctr) {setup : CencSetup Ctx}
    (memory : Memory) (flag : Nat → Bool) (length : Nat)
    (halg : setup.context.cipherAlgorithm = .aesCtr)
    (hmode : setup.context.cipherMode = .decrypt) :
    wp (contextSetIv evp) (fun _ s' => KeystreamInv C setup memory flag length 0 s')
      (fun _ _ => True) (setup.start memory) := by
  apply wp_contextSetIv hmode (by
    change setup.context.cipherAlgorithm.takesIv
    rw [halg]
    rfl)
  · intro hinit
    obtain ⟨hblock, hstream⟩ := C.init _ _ hinit
    refine ⟨rfl, halg, hmode, by simp [CencSetup.start], fun _ => rfl, fun _ _ => ?_⟩
    refine ⟨(Nat.count_zero _).symm, ?_, fun _ _ => rfl, fun i hi => absurd hi (by omega)⟩
    rw [Nat.count_zero]
    refine ⟨halg, hmode, rfl, hblock, fun i => ?_⟩
    have hzero : setup.counterAt 0 = setup.iv.counter := BitVec.add_zero _
    rw [hstream, hzero, Nat.zero_mod, Nat.zero_add 0, Nat.zero_add i]
    rfl
  · exact fun _ _ _ => trivial

instance (t counter : BitVec 64) (e n : Nat) : Decidable (KeystreamOk t counter e n) := by
  unfold KeystreamOk
  infer_instance

instance (setup : CencSetup Ctx) : DecidablePred (CencEvent.OnKeystream setup)
  | .call .. => inferInstanceAs (Decidable (KeystreamOk _ _ _ _))
  | .access .. => inferInstanceAs (Decidable True)
  | .subtract .. => inferInstanceAs (Decidable True)
  | .advanced .. => inferInstanceAs (Decidable True)

instance (setup : CencSetup Ctx) (log : List CencEvent) :
    Decidable (CallsOnKeystream setup log) := inferInstanceAs (Decidable (∀ e ∈ log, _))

/-- A block function that tells blocks with different nonces or counters apart. -/
def nonceBlock (block : BitVec (64 + 64)) (i : Nat) : UInt8 :=
  UInt8.ofNat (100 * (block.toNat / 2 ^ 64) + block.toNat % 2 ^ 64 + i)

def ctrStripesSample (crypt skip : Nat) (counter : BitVec 64)
    (subsampleLengths : List SaSubsampleLength) : SaSample :=
  { ctrSample counter subsampleLengths with cryptByteBlock := crypt, skipByteBlock := skip }

def ctrStripesSetup (crypt skip : Nat) (counter : BitVec 64) :
    CencSetup (BitVec (64 + 64) × Nat) :=
  { ctrSetup counter with cryptByteBlock := crypt, skipByteBlock := skip }

end TaSecureApi
