import TaSecureApi.Status
import TaSecureApi.Lib.CounterMode

namespace TaSecureApi
set_option autoImplicit true

inductive SaCipherAlgorithm
  | aesEcb
  | aesEcbPkcs7
  | aesCbc
  | aesCbcPkcs7
  | aesCtr
  | aesGcm
  | rsaPkcs1v15
  | rsaOaep
  | ecElgamal
  | chacha20
  | chacha20Poly1305
  deriving DecidableEq, Repr

inductive SaCipherMode
  | decrypt
  | encrypt
  deriving DecidableEq, Repr

def aesBlockSize : Nat := 16

/-- Bytes by address; the address 0 is `NULL`. -/
abbrev Memory := Nat → UInt8

/-- An IV of AES block size: an eight byte nonce and an eight byte counter, both big-endian. -/
structure Iv where
  nonce : BitVec 64
  counter : BitVec 64
  deriving DecidableEq, Repr

/-- What `EVP_DecryptUpdate` leaves behind. -/
structure EvpUpdate (Ctx : Type) where
  succeeded : Bool
  context : Ctx
  memory : Memory
  outl : Int

/-- The calls of OpenSSL, on contexts that are its own. -/
structure Evp (Ctx : Type) where
  decryptUpdate (context : Ctx) (memory : Memory) (out inp : Nat) (inl : Int) : EvpUpdate Ctx
  decryptInit (context : Ctx) (iv : Iv) : Bool × Ctx
  encryptInit (context : Ctx) (iv : Iv) : Bool × Ctx

structure SymmetricContext (Ctx : Type) where
  cipherAlgorithm : SaCipherAlgorithm
  cipherMode : SaCipherMode
  evpCipher : Ctx

/-- The cast of a `size_t` to `int`. -/
def castInt (n : Nat) : Int := (BitVec.ofNat 32 n).toInt

/-- The conversion of an `int` to `size_t`. -/
def castSize (i : Int) : Nat := (i % 2 ^ 64).toNat

theorem castInt_of_lt {n : Nat} (h : n < 2 ^ 31) : castInt n = n := by
  rw [castInt, BitVec.toInt_eq_toNat_cond, BitVec.toNat_ofNat, Nat.mod_eq_of_lt (by omega)]
  rw [if_pos (by omega)]

theorem castInt_lt (n : Nat) : castInt n < 2 ^ 31 := by
  have hmod : (BitVec.ofNat 32 n).toNat = n % 2 ^ 32 := BitVec.toNat_ofNat n 32
  rw [castInt, BitVec.toInt_eq_toNat_cond, hmod]
  split_ifs <;> omega

theorem castInt_eq_iff {n : Nat} : castInt n = n ↔ n < 2 ^ 31 := by
  constructor
  · intro h
    have hlt := castInt_lt n
    omega
  · exact castInt_of_lt

theorem castInt_le (n : Nat) : castInt n ≤ n := by
  have hmod : (BitVec.ofNat 32 n).toNat = n % 2 ^ 32 := BitVec.toNat_ofNat n 32
  rw [castInt, BitVec.toInt_eq_toNat_cond, hmod]
  split_ifs
  · omega
  · omega

theorem castSize_natCast {n : Nat} (h : n < 2 ^ 64) : castSize n = n := by
  unfold castSize
  omega

def SaCipherAlgorithm.isStream : SaCipherAlgorithm → Bool
  | aesCtr | aesGcm | chacha20 | chacha20Poly1305 => true
  | _ => false

variable {Ctx : Type}

/-- With the length that `out_length` ends with. -/
def symmetricContextDecrypt (evp : Evp Ctx) (context : SymmetricContext Ctx) (memory : Memory)
    (out inp inLength : Nat) : Except SaStatus Nat × SymmetricContext Ctx × Memory :=
  if context.cipherMode ≠ .decrypt then (.error .invalidParameter, context, memory)
  else if out = 0 then (.error .nullParameter, context, memory)
  else if inp = 0 then (.error .nullParameter, context, memory)
  else if ¬ context.cipherAlgorithm.isStream ∧ inLength % aesBlockSize ≠ 0 then
    (.error .invalidParameter, context, memory)
  else
    let update := evp.decryptUpdate context.evpCipher memory out inp (castInt inLength)
    let context := { context with evpCipher := update.context }
    if update.succeeded then (.ok (castSize update.outl), context, update.memory)
    else (.error .internalError, context, update.memory)

def symmetricContextSetIv (evp : Evp Ctx) (context : SymmetricContext Ctx) (iv : Iv)
    (ivLength : Nat) : Except SaStatus Unit × SymmetricContext Ctx :=
  match context.cipherAlgorithm with
  | .aesCbc | .aesCbcPkcs7 | .aesCtr =>
    if ivLength ≠ aesBlockSize then (.error .invalidParameter, context)
    else
      let (succeeded, evpCipher) :=
        match context.cipherMode with
        | .encrypt => evp.encryptInit context.evpCipher iv
        | .decrypt => evp.decryptInit context.evpCipher iv
      let context := { context with evpCipher := evpCipher }
      if succeeded then (.ok (), context) else (.error .internalError, context)
  | _ => (.error .invalidParameter, context)

namespace Evp

/-- An update that succeeds reports the bytes it was given. -/
def Sized (evp : Evp Ctx) : Prop :=
  ∀ context memory out inp inl, 0 ≤ inl →
    (evp.decryptUpdate context memory out inp inl).succeeded →
    (evp.decryptUpdate context memory out inp inl).outl = inl

structure NeverFails (evp : Evp Ctx) : Prop where
  update : ∀ context memory out inp inl, (evp.decryptUpdate context memory out inp inl).succeeded
  init : ∀ context iv, (evp.decryptInit context iv).1

/-- No call fails, and every update reports the length it was given. -/
structure Total (evp : Evp Ctx) : Prop extends NeverFails evp where
  length : ∀ context memory out inp inl,
    (evp.decryptUpdate context memory out inp inl).outl = inl

/-- How a context in CTR mode behaves: it has a block function and the bytes of key stream that
come next. An update goes on in the stream, also within a block, a restart begins it at the given
block, and the stream counts its blocks in all 128 bits. -/
structure Ctr (evp : Evp Ctx) where
  block : Ctx → BitVec (64 + 64) → Nat → UInt8
  stream : Ctx → Nat → UInt8
  init : ∀ context iv, (evp.decryptInit context iv).1 →
    block (evp.decryptInit context iv).2 = block context ∧
    stream (evp.decryptInit context iv).2 =
      CounterMode.wideStream aesBlockSize (block context) (iv.nonce ++ iv.counter)
  update : ∀ context memory out inp (n : Nat), (out + n ≤ inp ∨ inp + n ≤ out) →
    (evp.decryptUpdate context memory out inp n).succeeded →
    block (evp.decryptUpdate context memory out inp n).context = block context ∧
    (∀ i, stream (evp.decryptUpdate context memory out inp n).context i = stream context (n + i)) ∧
    (∀ i < n, (evp.decryptUpdate context memory out inp n).memory (out + i) =
      memory (inp + i) ^^^ stream context i) ∧
    (∀ a, (a < out ∨ out + n ≤ a) →
      (evp.decryptUpdate context memory out inp n).memory a = memory a)

/-- AES-CTR with a block function for AES: a context is the first block and the bytes used. -/
def ctr (block : BitVec (64 + 64) → Nat → UInt8) : Evp (BitVec (64 + 64) × Nat) where
  decryptUpdate context memory out inp inl :=
    let n := inl.toNat
    { succeeded := true
      context := (context.1, context.2 + n)
      memory := fun a =>
        if out ≤ a ∧ a < out + n then
          memory (inp + (a - out)) ^^^
            CounterMode.wideStream aesBlockSize block context.1 (context.2 + (a - out))
        else memory a
      outl := inl }
  decryptInit _ iv := (true, (iv.nonce ++ iv.counter, 0))
  encryptInit _ iv := (true, (iv.nonce ++ iv.counter, 0))

theorem ctr_total (block : BitVec (64 + 64) → Nat → UInt8) : (ctr block).Total where
  update _ _ _ _ _ := rfl
  init _ _ := rfl
  length _ _ _ _ _ := rfl

theorem Total.sized {evp : Evp Ctx} (h : evp.Total) : evp.Sized :=
  fun _ _ _ _ _ _ _ => h.length _ _ _ _ _

def ctrMode (block : BitVec (64 + 64) → Nat → UInt8) : (ctr block).Ctr where
  block _ := block
  stream context i := CounterMode.wideStream aesBlockSize block context.1 (context.2 + i)
  init context iv _ := by
    refine ⟨rfl, ?_⟩
    funext i
    simp [ctr]
  update context memory out inp n hapart _ := by
    refine ⟨rfl, fun i => ?_, fun i hi => ?_, fun a ha => ?_⟩
    · simp [ctr, Nat.add_assoc]
    · simp [ctr, hi]
    · have hout : ¬ (out ≤ a ∧ a < out + n) := by omega
      simp [ctr, hout]

end Evp

end TaSecureApi
