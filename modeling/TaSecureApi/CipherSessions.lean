import TaSecureApi.Symmetric
import TaSecureApi.TaTypes

namespace TaSecureApi
set_option autoImplicit true

/-- A handle of a key. `INVALID_HANDLE` is `none` where there can be one. -/
abbrev SaKey := Nat

/-- The parameters of `sa_crypto_cipher_init` beside algorithm, mode and key. -/
inductive CipherInitParameters
  | none
  | aesCbc (iv : List UInt8)
  | aesCtr (ctr : List UInt8)
  | chacha20 (counter nonce : List UInt8)
  | aesGcm (iv aad : List UInt8)
  | chacha20Poly1305 (nonce aad : List UInt8)
  deriving DecidableEq

/-- The parameters that are filled in from the bytes of an IV, for the algorithms that there are. -/
def cipherInitParameters (iv : List UInt8) (ivLength : Nat) (aad : List UInt8) :
    SaCipherAlgorithm → Option CipherInitParameters
  | .aesEcb | .aesEcbPkcs7 => some .none
  | .aesCbc | .aesCbcPkcs7 => some (.aesCbc (iv.take ivLength))
  | .aesCtr => some (.aesCtr (iv.take ivLength))
  | .chacha20 => some (.chacha20 (iv.take chacha20CounterLength)
      ((iv.drop chacha20CounterLength).take chacha20NonceLength))
  | .aesGcm => some (.aesGcm (iv.take ivLength) aad)
  | .chacha20Poly1305 => some (.chacha20Poly1305 (iv.take ivLength) aad)
  | .rsaPkcs1v15 | .rsaOaep | .ecElgamal => Option.none

def SaCipherAlgorithm.isAead : SaCipherAlgorithm → Bool
  | aesGcm | chacha20Poly1305 => true
  | _ => false

/-- The bytes that `sa_crypto_cipher_process` takes at once, or multiples of. -/
def SaCipherAlgorithm.blockSize : SaCipherAlgorithm → Nat
  | aesEcb | aesEcbPkcs7 | aesCbc | aesCbcPkcs7 => aesBlockSize
  | _ => 1

/-- The algorithms whose last bytes go through `sa_crypto_cipher_process` too. -/
def SaCipherAlgorithm.isUnpadded : SaCipherAlgorithm → Bool
  | aesEcb | aesCbc => true
  | _ => false

/-- The algorithms that give at once what they make of the bytes that they take. -/
def SaCipherAlgorithm.isImmediate : SaCipherAlgorithm → Bool
  | aesEcb | aesCbc | aesCtr | chacha20 => true
  | _ => false

theorem SaCipherAlgorithm.isImmediate_of_unpadded {algorithm : SaCipherAlgorithm}
    (h : algorithm.isUnpadded = true) : algorithm.isImmediate = true := by
  cases algorithm <;> first | rfl | cases h

theorem cipherInitParameters_aad {algorithm : SaCipherAlgorithm} (h : algorithm.isAead = false) :
    cipherInitParameters iv ivLength aad algorithm =
      cipherInitParameters iv ivLength aad' algorithm := by
  cases algorithm <;> first | rfl | cases h

structure CipherStart where
  cipherAlgorithm : SaCipherAlgorithm
  cipherMode : SaCipherMode
  key : SaKey
  parameters : CipherInitParameters
  deriving DecidableEq

/-- The calls on contexts that are the client library's own. Those that process are given the room
in the output, and end with the bytes that were written, the last one also with the tag. -/
structure CipherApi (Session : Type) where
  init (start : CipherStart) : Except SaStatus Session
  process (session : Session) (room : Nat) (input : List UInt8) :
    Except SaStatus (List UInt8) × Session
  processLast (session : Session) (room : Nat) (input : List UInt8) (tag : Option (List UInt8)) :
    Except SaStatus (List UInt8 × List UInt8) × Session

/-- What a context was made of, was given and gave. -/
structure Transcript where
  start : CipherStart
  input : List UInt8
  output : List UInt8
  deriving DecidableEq

variable {Session : Type}

/-- How the calls compute a cipher: what they give for whole blocks, and what they give last, make
up what the cipher gives for all the bytes at once. -/
structure CipherApi.Computes (api : CipherApi Session) where
  cipher : CipherStart → List UInt8 → List UInt8
  tag : CipherStart → List UInt8 → List UInt8
  transcript : Session → Transcript
  init : ∀ start session, api.init start = .ok session → transcript session = ⟨start, [], []⟩
  process : ∀ session room input output session',
    (transcript session).start.cipherAlgorithm.blockSize ∣ input.length →
    api.process session room input = (.ok output, session') →
    transcript session' = ⟨(transcript session).start, (transcript session).input ++ input,
      (transcript session).output ++ output⟩
  status : ∀ session room input, (api.process session room input).1 ≠ .error .ok
  aligned : ∀ session room input output session',
    api.process session room input = (.ok output, session') →
    (transcript session).start.cipherAlgorithm.blockSize ∣ input.length
  processLast : ∀ session room input given output tag' session',
    api.processLast session room input given = (.ok (output, tag'), session') →
    (transcript session).output ++ output =
        cipher (transcript session).start ((transcript session).input ++ input) ∧
      ((transcript session).start.cipherAlgorithm.isAead →
        tag' = tag (transcript session).start ((transcript session).input ++ input))
  immediate : ∀ session, (transcript session).start.cipherAlgorithm.isImmediate →
    (transcript session).output = cipher (transcript session).start (transcript session).input

section Bytewise

variable (f : CipherStart → UInt8 → UInt8)

/-- A cipher that changes every byte for itself, with a tag of zeros, and keeps the bytes. -/
def bytewiseCipher : CipherApi (CipherStart × List UInt8) where
  init start := .ok (start, [])
  process session room input :=
    if room < input.length ∨ ¬session.1.cipherAlgorithm.blockSize ∣ input.length then
      (.error .invalidParameter, session)
    else (.ok (input.map (f session.1)), session.1, session.2 ++ input)
  processLast session room input _ :=
    if room < input.length then (.error .invalidParameter, session)
    else (.ok (input.map (f session.1), List.replicate maxGcmTagLength 0), session.1,
      session.2 ++ input)

def bytewiseComputes : (bytewiseCipher f).Computes where
  cipher start input := input.map (f start)
  tag _ _ := List.replicate maxGcmTagLength 0
  transcript session := ⟨session.1, session.2, session.2.map (f session.1)⟩
  init start session h := by
    cases h
    rfl
  process session room input output session' _ h := by
    simp only [bytewiseCipher] at h
    split_ifs at h
    · cases h
    · obtain ⟨houtput, rfl⟩ := Prod.mk.inj h
      cases houtput
      simp only [List.map_append]
  status session room input := by
    simp only [bytewiseCipher]
    split_ifs <;> simp
  aligned session room input output session' h := by
    simp only [bytewiseCipher] at h
    split_ifs at h with hroom
    · cases h
    · exact not_not.1 (not_or.1 hroom).2
  processLast session room input given output tag' session' h := by
    simp only [bytewiseCipher] at h
    split_ifs at h
    · cases h
    · obtain ⟨hlast, rfl⟩ := Prod.mk.inj h
      obtain ⟨rfl, rfl⟩ := Prod.mk.inj (Except.ok.inj hlast)
      exact ⟨List.map_append.symm, fun _ => rfl⟩
  immediate _ _ := rfl

end Bytewise

def identityCipher : CipherApi (CipherStart × List UInt8) := bytewiseCipher fun _ byte => byte

def identityComputes : identityCipher.Computes := bytewiseComputes fun _ byte => byte

end TaSecureApi
