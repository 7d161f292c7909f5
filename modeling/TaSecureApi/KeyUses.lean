import TaSecureApi.CryptoCommands
import TaSecureApi.KeyRuns
import TaSecureApi.CommonEncryption
import TaSecureApi.KeyAncestry

namespace TaSecureApi
set_option autoImplicit true
open Wp Transition

/-- Before every use of a key, the same command has found that the rights of the key have the usage
flag and that the time lies in their window. -/
def Covered : List KeyEvent → Prop
  | [] => True
  | .allowed _ _ _ :: log => Covered log
  | .used flag rights :: log =>
    (∃ reading, .allowed flag rights reading ∈ log ∧ rightsAllowedUsage flag rights reading) ∧
      Covered log

def ChecksUses (command : Command α) : Prop :=
  ∀ clock, wp command (fun _ s => Covered s.log) (fun _ _ => True) ⟨clock, []⟩

theorem Covered.used_allowed (h : rightsAllowedUsage flag rights reading = true)
    (hlog : Covered log) :
    Covered (.used flag rights :: .allowed flag rights reading :: log) :=
  ⟨⟨reading, List.mem_cons_self, h⟩, hlog⟩

section KeyCommands

variable {world : World} {store : KeyStore} {pkcs8 : Pkcs8}
  {opened : List UInt8 → Except SaStatus (List UInt8)}

theorem keyDeriveFrom_checks :
    ChecksUses (keyDeriveFrom supports world store callerUuid rights parent parameters kdf) := by
  intro clock
  simp only [keyDeriveFrom, wp_bind, wp_ofExcept, implies_true, and_true]
  intro _ _
  apply wp_keyStoreUnwrap
  · intro p _ _ _
    simp only [wp_bind, checkDerive, wp_checkRights, wp_check, wp_useKey, wp_ofExcept,
      implies_true, and_true]
    intro hderive _ _ _ _ _ _
    exact .used_allowed hderive trivial
  · intro _ _
    trivial

theorem keyUnwrapWith_checks : ChecksUses
    (keyUnwrapWith supports world store pkcs8 callerUuid request parameters opened) := by
  intro clock
  simp only [keyUnwrapWith, wp_bind, wp_ofExcept, implies_true, and_true]
  intro _ _
  apply wp_keyStoreUnwrap
  · intro p _ _ _
    simp only [wp_bind, checkUnwrap, wp_checkRights, wp_check, wp_useKey, wp_ofExcept,
      implies_true, and_true]
    intro hunwrap _ _ _ _ _
    exact .used_allowed hunwrap trivial
  · intro _ _
    trivial

theorem taSaKeyUnwrapRsa_checks : ChecksUses
    (taSaKeyUnwrapRsa world store pkcs8 callerUuid request inLength opened) := by
  intro clock
  simp only [taSaKeyUnwrapRsa, wp_bind, wp_check, implies_true, and_true]
  intro _
  apply wp_keyStoreUnwrap
  · intro p _ _ _
    simp only [wp_bind, checkUnwrap, wp_checkRights, wp_check, wp_useKey, wp_ofExcept,
      implies_true, and_true]
    intro _ hunwrap _ _ _ _ _
    exact .used_allowed hunwrap trivial
  · intro _ _
    trivial

theorem taSaKeyUnwrapEc_checks : ChecksUses (taSaKeyUnwrapEc world store pkcs8 callerUuid request
    parameters inLength offset keyLength opened) := by
  intro clock
  simp only [taSaKeyUnwrapEc, wp_bind, wp_check, wp_ofExcept, implies_true, and_true]
  intro _ _ _
  apply wp_keyStoreUnwrap
  · intro p _ _ _
    simp only [wp_bind, checkUnwrap, wp_checkRights, wp_check, wp_useKey, wp_ofExcept,
      implies_true, and_true]
    intro hunwrap _ _ _
    exact .used_allowed hunwrap trivial
  · intro _ _
    trivial

theorem keyExchangeWith_checks : ChecksUses
    (keyExchangeWith supports world store callerUuid rights privateKey derive) := by
  intro clock
  simp only [keyExchangeWith, wp_bind]
  apply wp_keyStoreUnwrap
  · intro p _ _ _
    simp only [wp_bind, checkExchange, wp_checkRights, wp_check, wp_useKey, wp_ofExcept,
      implies_true, and_true]
    intro hexchange _ _ _
    exact .used_allowed hexchange trivial
  · intro _ _
    trivial

theorem taSaKeyDeriveNetflix_checks :
    ChecksUses (taSaKeyDeriveNetflix world store callerUuid rights kenc khmac kdf) := by
  intro clock
  simp only [taSaKeyDeriveNetflix, wp_bind]
  apply wp_keyStoreUnwrap
  · intro enc _ _ _
    simp only [wp_bind, checkDerive, wp_checkRights, wp_check, implies_true, and_true]
    intro henc _
    apply wp_keyStoreUnwrap
    · intro hmac _ _ _
      simp only [wp_bind, wp_checkRights, wp_check, wp_useKey, wp_ofExcept, implies_true, and_true]
      intro hhmac _ _ _
      exact ⟨⟨_, by simp, hhmac⟩, ⟨_, by simp, henc⟩, trivial⟩
    · intro _ _
      trivial
  · intro _ _
    trivial

theorem taSaKeyExchangeNetflixDh_checks :
    ChecksUses (taSaKeyExchangeNetflixDh world store callerUuid request kdf) := by
  intro clock
  simp only [taSaKeyExchangeNetflixDh, wp_bind]
  apply wp_keyStoreUnwrap
  · intro p _ _ _
    simp only [wp_bind, checkDerive, wp_checkRights, wp_check, implies_true, and_true]
    intro hderive _
    apply wp_keyStoreUnwrap
    · intro privateKey _ _ _
      simp only [wp_bind, checkExchange, wp_checkRights, wp_check, wp_useKey, wp_ofExcept,
        wp_pure, implies_true, and_true]
      intro hexchange _ _ _ _ _ _ _ _ _
      exact ⟨⟨_, by simp, hderive⟩, .used_allowed hexchange trivial⟩
    · intro _ _
      trivial
  · intro _ _
    trivial

variable {σ σ' : KeyState}

/-- The commands that have succeeded have checked the rights of the keys they used. -/
def KeyState.AllCovered (σ : KeyState) : Prop := ∀ log ∈ σ.logs, Covered log

theorem KeyState.create_covered (hI : σ.AllCovered) (h : ChecksUses command) :
    (σ.create command callerUuid requested parent other).AllCovered := by
  unfold create
  split
  · exact hI
  · rename_i child s hrun
    split
    · intro log hlog
      rcases List.mem_cons.1 hlog with rfl | hlog
      · exact (h σ.clock).of_ok hrun
      · exact hI log hlog
    · exact hI

theorem KeyState.exchangeNetflixDh_covered (hI : σ.AllCovered) :
    (σ.exchangeNetflixDh world callerUuid request kdf).AllCovered := by
  unfold exchangeNetflixDh
  dsimp only
  split
  · exact hI
  · rename_i keys s hrun
    split
    · intro log hlog
      rcases List.mem_cons.1 hlog with rfl | hlog
      · exact (taSaKeyExchangeNetflixDh_checks σ.clock).of_ok hrun
      · exact hI log hlog
    · exact hI

theorem KeyState.step_covered (hI : σ.AllCovered) (h : step pkcs8 world σ a = some σ') :
    σ'.AllCovered := by
  cases a with
  | add | remove =>
    cases h
    exact hI
  | deriveRootKeyLadder callerUuid rights parameters ladder =>
    cases h
    apply create_covered hI
    intro clock
    simp only [taSaKeyDeriveRootKeyLadder, wp_bind, wp_ofExcept, implies_true, and_true]
    intro _ _ _ _ _ _
    trivial
  | deriveAnsiX963 | deriveConcat | deriveCmac | deriveHkdf =>
    cases h
    exact create_covered hI keyDeriveFrom_checks
  | deriveNetflix =>
    cases h
    exact create_covered hI taSaKeyDeriveNetflix_checks
  | unwrapAes | unwrapChacha20 =>
    cases h
    exact create_covered hI keyUnwrapWith_checks
  | unwrapRsa =>
    cases h
    exact create_covered hI taSaKeyUnwrapRsa_checks
  | unwrapEc =>
    cases h
    exact create_covered hI taSaKeyUnwrapEc_checks
  | exchangeDh | exchangeEcdh =>
    cases h
    exact create_covered hI keyExchangeWith_checks
  | exchangeNetflixDh =>
    cases h
    exact exchangeNetflixDh_covered hI

end KeyCommands

section UseCommands

variable {Ctx : Type} {world : World} {store : KeyStore} {client : Client Ctx} {cipher : Cipher Ctx}
  {s : CommandState}

theorem taSaCryptoSign_checks :
    ChecksUses (taSaCryptoSign world store callerUuid request key out sign) := by
  intro clock
  simp only [taSaCryptoSign, wp_bind]
  apply wp_keyStoreUnwrap
  · intro storedKey _ _ _
    simp only [wp_bind, checkSign, wp_checkRights, wp_ofExcept, implies_true, and_true]
    intro hsign _ _
    cases out with
    | none => exact trivial
    | some outLength =>
      simp only [wp_bind, wp_check, wp_useKey, wp_ofExcept, implies_true, and_true]
      intro _ _ _ _
      exact .used_allowed hsign trivial
  · intro _ _
    trivial

theorem taSaSvpKeyCheck_checks : ChecksUses (taSaSvpKeyCheck world store client callerUuid key inp
    bytesToProcess expectedLength matchesExpected) := by
  intro clock
  simp only [taSaSvpKeyCheck, wp_bind, wp_ofExcept, wp_check, implies_true, and_true]
  intro _ _ _ _ _ _
  apply wp_keyStoreUnwrap
  · intro storedKey _ _ _
    simp only [wp_bind, checkDecrypt, wp_checkRights, wp_check, wp_useKey, wp_ofExcept,
      implies_true, and_true]
    intro hdecrypt _ _ _ _ _ _ _
    exact .used_allowed (rightsAllowedCipher.usage hdecrypt) trivial
  · intro _ _
    trivial

theorem macInit_checks :
    ChecksUses (taSaCryptoMacInit world store callerUuid key request created) := by
  intro clock
  cases request with
  | hmac parameters =>
    simp only [taSaCryptoMacInit, macInitHmac, wp_bind, wp_ofExcept, implies_true, and_true]
    intro _ _
    apply wp_keyStoreUnwrap
    · intro storedKey _ _ _
      simp only [wp_bind, checkSign, wp_checkRights, wp_check, wp_useKey, wp_ofExcept, wp_pure,
        implies_true, and_true]
      intro hsign _ _ _ _
      exact .used_allowed hsign trivial
    · intro _ _
      trivial
  | cmac =>
    simp only [taSaCryptoMacInit, macInitCmac, wp_bind]
    apply wp_keyStoreUnwrap
    · intro storedKey _ _ _
      simp only [wp_bind, checkSign, wp_checkRights, wp_check, wp_useKey, wp_pure, implies_true,
        and_true]
      intro hsign _ _
      exact .used_allowed hsign trivial
    · intro _ _
      trivial

theorem symmetricCall_covered (hlog : Covered s.log) :
    wp (symmetricCall world cipher call) (fun _ s => Covered s.log) (fun _ _ => True) s := by
  simp only [symmetricCall, checkMode, wp_bind, wp_check, implies_true, and_true]
  intro _
  cases cipher.cipherMode with
  | encrypt =>
    simp only [checkEncrypt, wp_bind, wp_checkRights, wp_useKey, wp_ofExcept, implies_true,
      and_true]
    intro hencrypt _ _
    exact .used_allowed (rightsAllowedCipher.usage hencrypt) hlog
  | decrypt =>
    simp only [checkDecrypt, wp_bind, wp_checkRights, wp_useKey, wp_ofExcept, implies_true,
      and_true]
    intro hdecrypt _ _
    exact .used_allowed (rightsAllowedCipher.usage hdecrypt) hlog

theorem cipherProcessAsymmetric_covered (hlog : Covered s.log) :
    wp (cipherProcessAsymmetric keyType keySizes world cipher keySize outBytes inBytes n call)
      (fun _ s => Covered s.log) (fun _ _ => True) s := by
  simp only [cipherProcessAsymmetric, checkDecrypt, wp_bind, wp_check, wp_checkRights, wp_useKey,
    wp_ofExcept, implies_true, and_true]
  intro _ _ _ _ _ hdecrypt _ _
  exact .used_allowed (rightsAllowedCipher.usage hdecrypt) hlog

theorem cipherProcessSymmetric_covered (hlog : Covered s.log) :
    wp (cipherProcessSymmetric world cipher outBytes inBytes n call)
      (fun _ s => Covered s.log) (fun _ _ => True) s := by
  simp only [cipherProcessSymmetric, wp_bind, wp_check, implies_true, and_true]
  intro _ _ _
  exact symmetricCall_covered hlog

theorem taSaCryptoCipherProcess_checks :
    ChecksUses (taSaCryptoCipherProcess world client request) := by
  intro clock
  simp only [taSaCryptoCipherProcess, wp_bind, wp_ofExcept, implies_true, and_true]
  intro _ _ cipher _
  cases request.out with
  | none => exact trivial
  | some out =>
    simp only [wp_bind, wp_ofExcept, implies_true, and_true]
    intro _ _
    cases cipher.cipherAlgorithm with
    | rsaPkcs1v15 | rsaOaep | ecElgamal => exact cipherProcessAsymmetric_covered trivial
    | _ => exact cipherProcessSymmetric_covered trivial

theorem taSaCryptoCipherProcessLast_checks :
    ChecksUses (taSaCryptoCipherProcessLast world client request) := by
  intro clock
  simp only [taSaCryptoCipherProcessLast, wp_bind, wp_ofExcept, implies_true, and_true]
  intro _ _ cipher _
  cases request.out with
  | none => exact trivial
  | some out =>
    simp only [wp_bind, wp_ofExcept, implies_true, and_true]
    intro _ _
    cases cipher.cipherAlgorithm with
    | aesEcbPkcs7 | aesCbcPkcs7 =>
      simp only [cipherProcessLastAesPkcs7, wp_ite, wp_bind, wp_check, wp_pure, implies_true,
        and_true]
      exact ⟨fun _ => trivial, fun _ _ _ _ _ => symmetricCall_covered trivial⟩
    | aesCtr | chacha20 =>
      simp only [wp_bind, wp_check, implies_true, and_true]
      exact fun _ _ => symmetricCall_covered trivial
    | aesGcm | chacha20Poly1305 =>
      simp only [wp_bind, wp_check, wp_ofExcept, implies_true, and_true]
      intros
      exact symmetricCall_covered trivial
    | _ => exact trivial

end UseCommands

/-- The stores of one client and its memory: the keys with the commands that have succeeded, the
ciphers with the samples that were processed, and the MACs. -/
structure Session (Ctx : Type) where
  client : ClientState Ctx
  keys : KeyState
  macs : MacStore

/-- The requests of a client. The common encryption, a section at a time, the life of ciphers and of
buffers are the actions of `ClientState`, and the creation of keys those of `KeyState`; all other
requests are one action each. `evpCipher` is what a call leaves of the context of OpenSSL. -/
inductive SessionAction (Ctx : Type)
  | client (action : ClientAction Ctx)
  | key (action : KeyAction)
  | cipherProcess (request : ProcessRequest) (evpCipher : Ctx)
  | cipherProcessLast (request : ProcessRequest) (evpCipher : Ctx)
  | sign (request : SignRequest) (key : Nat) (out : Option Nat)
      (sign : List UInt8 → Except SaStatus Nat)
  | svpKeyCheck (key : Nat) (inp : Option SaBuffer) (bytesToProcess : Nat)
      (expectedLength : Option Nat) (matchesExpected : List UInt8 → Bool)
  | macInit (key : Nat) (request : MacRequest) (created : Bool)
  | macProcess (context : Nat) (inIsNull : Bool) (inLength : Nat) (call : Except SaStatus Unit)
  | macProcessKey (context key : Nat) (call : Except SaStatus Unit)
  | macCompute (context : Nat) (out : Option Nat) (call : Except SaStatus Unit)
  | macRelease (context : Nat)

def KeyEvent.isUsed : KeyEvent → Bool
  | used .. => true
  | allowed .. => false

variable {Ctx : Type}

namespace Session

def run (σ : Session Ctx) (command : Command α) : Except SaStatus α × CommandState :=
  command.run.run ⟨σ.keys.clock, []⟩

/-- A command has ended; the events of one that has succeeded are kept. -/
def finish (σ : Session Ctx) : Except SaStatus α × CommandState → Session Ctx
  | (.ok _, s) => { σ with keys := { σ.keys with clock := s.clock, logs := s.log :: σ.keys.logs } }
  | (.error _, s) => { σ with keys := { σ.keys with clock := s.clock } }

def leaveCipher (σ : Session Ctx) (callerUuid : SaUuid) (context : Nat) (evpCipher : Ctx)
    (log : List KeyEvent) : Session Ctx :=
  match cipherStoreAcquireExclusive σ.client.ciphers context callerUuid with
  | .ok (n, _) =>
    if log.any KeyEvent.isUsed then
      { σ with client := { σ.client with ciphers := σ.client.ciphers.setEvpCipher n evpCipher } }
    else σ
  | .error _ => σ

/-- The MAC store with one more MAC; an add that fails leaves the store as it was. -/
def addMac (macs : MacStore) (callerUuid : SaUuid) (mac : Mac) : Except SaStatus MacStore :=
  match objectStoreAdd macs (some mac) (some callerUuid) with
  | (.ok, _, macs) => .ok macs
  | (status, _, _) => .error status

def step (evp : Evp Ctx) (pkcs8 : Pkcs8) (world : World) (callerUuid : SaUuid) (σ : Session Ctx) :
    SessionAction Ctx → Option (Session Ctx)
  | .client action =>
    (ClientState.step evp callerUuid σ.client action).map fun client => { σ with client := client }
  | .key action => (KeyState.step pkcs8 world σ.keys action).map fun keys => { σ with keys := keys }
  | .cipherProcess request evpCipher =>
    let r := σ.run (taSaCryptoCipherProcess world (σ.client.client callerUuid) request)
    some ((σ.leaveCipher callerUuid request.context evpCipher r.2.log).finish r)
  | .cipherProcessLast request evpCipher =>
    let r := σ.run (taSaCryptoCipherProcessLast world (σ.client.client callerUuid) request)
    some ((σ.leaveCipher callerUuid request.context evpCipher r.2.log).finish r)
  | .sign request key out sign =>
    some (σ.finish (σ.run (taSaCryptoSign world σ.keys.store callerUuid request key out sign)))
  | .svpKeyCheck key inp bytesToProcess expectedLength matchesExpected =>
    some (σ.finish (σ.run (taSaSvpKeyCheck world σ.keys.store (σ.client.client callerUuid)
      callerUuid key inp bytesToProcess expectedLength matchesExpected)))
  | .macInit key request created =>
    let r := σ.run (taSaCryptoMacInit world σ.keys.store callerUuid key request created)
    let added := r.1.bind (addMac σ.macs callerUuid)
    some { σ.finish (added, r.2) with macs := added.toOption.getD σ.macs }
  | .macProcess context inIsNull inLength call =>
    some (σ.finish (σ.run (taSaCryptoMacProcess σ.macs callerUuid context inIsNull inLength call)))
  | .macProcessKey context key call =>
    some (σ.finish (σ.run (taSaCryptoMacProcessKey world σ.keys.store σ.macs callerUuid context key
      call)))
  | .macCompute context out call =>
    let r := σ.run (taSaCryptoMacCompute σ.macs callerUuid context out call)
    some { σ.finish r with
      macs := if r.2.log.any KeyEvent.isUsed then macSetDone σ.macs context else σ.macs }
  | .macRelease context => some { σ with macs := (macStoreRemove σ.macs context callerUuid).2 }

end Session

/-- The condition: no request gets to the key of a MAC context, where nothing is checked, and the
sample that is processed next is so with the cipher that was verified. -/
def checksKey (callerUuid : SaUuid) (σ : Session Ctx) : SessionAction Ctx → Bool
  | .client (.process caller) =>
    match σ.client.commands caller with
    | .processing (checked :: _) =>
      match cipherStoreAcquireExclusive σ.client.ciphers checked.sample.context callerUuid with
      | .error _ => true
      | .ok (n, _) => checked.cipher = some n
    | _ => true
  | .macProcess context _ inLength _ =>
    match macStoreAcquireExclusive σ.macs context callerUuid with
    | .error _ => true
    | .ok mac => mac.done || inLength = 0
  | .macProcessKey context _ _ =>
    match macStoreAcquireExclusive σ.macs context callerUuid with
    | .error _ => true
    | .ok mac => mac.done
  | .macCompute context out _ =>
    match macStoreAcquireExclusive σ.macs context callerUuid with
    | .error _ => true
    | .ok mac => mac.done || out.all (· < macRequiredLength mac.macAlgorithm)
  | _ => true

section MacCommands

variable {world : World} {store : KeyStore} {macs : MacStore}

theorem macProcess_checks (h : ∀ mac, macStoreAcquireExclusive macs context callerUuid = .ok mac →
    mac.done = true ∨ inLength = 0) :
    ChecksUses (taSaCryptoMacProcess macs callerUuid context inIsNull inLength call) := by
  intro clock
  simp only [taSaCryptoMacProcess, wp_bind, wp_check, wp_ofExcept, wp_ite, wp_useKey, wp_pure,
    implies_true, and_true]
  intro _ mac hmac hdone
  constructor
  · intro hlength
    rcases h mac hmac with h | h
    · simp [h] at hdone
    · omega
  · intro _
    trivial

theorem macProcessKey_checks (h : ∀ mac,
    macStoreAcquireExclusive macs context callerUuid = .ok mac → mac.done = true) :
    ChecksUses (taSaCryptoMacProcessKey world store macs callerUuid context key call) := by
  intro clock
  simp only [taSaCryptoMacProcessKey, wp_bind, wp_ofExcept, implies_true, and_true]
  intro mac hmac
  apply wp_keyStoreUnwrap
  · intro storedKey _ _ _
    simp only [wp_bind, wp_check, implies_true, and_true]
    intro _ hdone
    simp [h mac hmac] at hdone
  · intro _ _
    trivial

theorem macCompute_checks (h : ∀ mac, macStoreAcquireExclusive macs context callerUuid = .ok mac →
    mac.done = true ∨ out.all (· < macRequiredLength mac.macAlgorithm) = true) :
    ChecksUses (taSaCryptoMacCompute macs callerUuid context out call) := by
  intro clock
  simp only [taSaCryptoMacCompute, wp_bind, wp_ofExcept, implies_true, and_true]
  intro mac hmac
  cases out with
  | none => exact trivial
  | some outLength =>
    simp only [wp_bind, wp_check, implies_true, and_true]
    intro hdone hlength
    rcases h mac hmac with h | h
    · simp [h] at hdone
    · simp only [Option.all_some, decide_eq_true_eq] at h hlength
      omega

end MacCommands

def allowsDecrypt (c : Cipher Ctx) (checked : CheckedSample) : Prop :=
  rightsAllowedUsage .decrypt c.keyRights checked.reading = true

theorem allowsDecrypt_stable : Stable (@allowsDecrypt Ctx) := by
  intro c c' checked _ _ hrights ha
  rw [allowsDecrypt, hrights]
  exact ha

theorem allowsDecrypt_establishes : Establishes (@allowsDecrypt Ctx) := by
  intro client reading sample c n h hfound
  obtain ⟨c', subsampleLengths, out, inp, outBytes, inBytes, hv⟩ := verifySample_ok h
  have hc := hv.cipherFound
  rw [hfound] at hc
  cases hc
  exact rightsAllowedCipher.usage hv.rights

/-- Every command that has succeeded, and every sample that was processed, had its keys checked. -/
structure Session.AllCovered (σ : Session Ctx) : Prop where
  keys : σ.keys.AllCovered
  samples : SampleInvariant allowsDecrypt σ.client

section Steps

variable {evp : Evp Ctx} {pkcs8 : Pkcs8} {world : World} {σ σ' : Session Ctx}

theorem Session.run_covered {command : Command α} (σ : Session Ctx) (h : ChecksUses command)
    (hr : (σ.run command).1 = .ok a) : Covered (σ.run command).2.log := by
  apply (h σ.keys.clock).of_ok (a := a)
  rw [← hr]
  rfl

theorem Session.AllCovered.finish {r : Except SaStatus α × CommandState} (hI : σ.AllCovered)
    (h : ∀ a, r.1 = .ok a → Covered r.2.log) : (σ.finish r).AllCovered := by
  obtain ⟨a | a, s⟩ := r
  · exact ⟨hI.keys, hI.samples⟩
  · constructor
    · intro log hlog
      rcases List.mem_cons.1 hlog with rfl | hlog
      · exact h a rfl
      · exact hI.keys log hlog
    · exact hI.samples

theorem Session.AllCovered.command {command : Command α} (hI : σ.AllCovered)
    (h : ChecksUses command) : (σ.finish (σ.run command)).AllCovered :=
  hI.finish fun _ => σ.run_covered h

theorem Session.leaveCipher_keys (σ : Session Ctx) (callerUuid : SaUuid) (context : Nat)
    (evpCipher : Ctx) (log : List KeyEvent) :
    (σ.leaveCipher callerUuid context evpCipher log).keys = σ.keys := by
  unfold leaveCipher
  split
  · split_ifs <;> rfl
  · rfl

theorem Session.AllCovered.leaveCipher (hI : σ.AllCovered) (callerUuid : SaUuid) (context : Nat)
    (evpCipher : Ctx) (log : List KeyEvent) :
    (σ.leaveCipher callerUuid context evpCipher log).AllCovered := by
  constructor
  · rw [σ.leaveCipher_keys]
    exact hI.keys
  · unfold Session.leaveCipher
    split
    · split_ifs
      · constructor
        · intro caller c hc
          exact (hI.samples.checked caller c hc).extends allowsDecrypt_stable
            (σ.client.ciphers.setEvpCipher_extends _ _)
        · exact hI.samples.log
      · exact hI.samples
    · exact hI.samples

theorem Session.AllCovered.cipherCommand {command : Command α} (hI : σ.AllCovered)
    (h : ChecksUses command) : ((σ.leaveCipher callerUuid context evpCipher
      (σ.run command).2.log).finish (σ.run command)).AllCovered :=
  (hI.leaveCipher callerUuid context evpCipher _).finish fun _ => σ.run_covered h

theorem allowsDecrypt_of_checksKey {action : ClientAction Ctx}
    (hs : checksKey callerUuid σ (.client action) = true) :
    ∀ caller checked todo n c, action = .process caller →
      σ.client.commands caller = .processing (checked :: todo) →
      cipherStoreAcquireExclusive σ.client.ciphers checked.sample.context callerUuid =
        .ok (n, c) → checked.cipher = some n ∨ allowsDecrypt c checked := by
  rintro caller checked todo n c rfl hpc hf
  simp only [checksKey, hpc, hf, decide_eq_true_eq] at hs
  exact .inl hs

theorem Session.step_covered (hI : σ.AllCovered) (hc : checksKey callerUuid σ a = true)
    (h : step evp pkcs8 world callerUuid σ a = some σ') : σ'.AllCovered := by
  cases a with
  | client action =>
    obtain ⟨client, hclient, rfl⟩ := Option.map_eq_some_iff.1 h
    exact ⟨hI.keys, hI.samples.change allowsDecrypt_stable allowsDecrypt_establishes
      (allowsDecrypt_of_checksKey hc) (ClientState.step_change hclient)⟩
  | key action =>
    obtain ⟨keys, hkeys, rfl⟩ := Option.map_eq_some_iff.1 h
    exact ⟨KeyState.step_covered hI.keys hkeys, hI.samples⟩
  | cipherProcess request evpCipher =>
    cases h
    exact hI.cipherCommand taSaCryptoCipherProcess_checks
  | cipherProcessLast request evpCipher =>
    cases h
    exact hI.cipherCommand taSaCryptoCipherProcessLast_checks
  | sign =>
    cases h
    exact hI.command taSaCryptoSign_checks
  | svpKeyCheck =>
    cases h
    exact hI.command taSaSvpKeyCheck_checks
  | macInit key request created =>
    cases h
    have hadded : ∀ macs, (σ.run (taSaCryptoMacInit world σ.keys.store callerUuid key request
        created)).1.bind (addMac σ.macs callerUuid) = .ok macs → Covered (σ.run
          (taSaCryptoMacInit world σ.keys.store callerUuid key request created)).2.log := by
      intro macs hmacs
      obtain ⟨mac, hmac, -⟩ := bind_eq_ok.1 hmacs
      exact σ.run_covered macInit_checks hmac
    have hfinish := hI.finish (r := ⟨_, _⟩) hadded
    exact ⟨hfinish.keys, hfinish.samples⟩
  | macProcess context inIsNull inLength call =>
    cases h
    apply hI.command (macProcess_checks _)
    intro mac hmac
    simpa only [checksKey, hmac, Bool.or_eq_true, decide_eq_true_eq] using hc
  | macProcessKey context key call =>
    cases h
    apply hI.command (macProcessKey_checks _)
    intro mac hmac
    simpa only [checksKey, hmac] using hc
  | macCompute context out call =>
    cases h
    have hchecks : ChecksUses (taSaCryptoMacCompute σ.macs callerUuid context out call) := by
      apply macCompute_checks
      intro mac hmac
      simpa only [checksKey, hmac, Bool.or_eq_true] using hc
    exact ⟨(hI.command hchecks).keys, (hI.command hchecks).samples⟩
  | macRelease context =>
    cases h
    exact ⟨hI.keys, hI.samples⟩

end Steps

/-- Bytes are decrypted only with keys that the same call has found to allow it. -/
def Decryption.Checked (d : Decryption Ctx) : Prop :=
  d.steps.any CencEvent.decrypts → allowsDecrypt d.cipher d.checked

/-- In every run in which no request gets to the key of a MAC context and no sample is processed
with another cipher than the one that was verified: every command that has succeeded, and every
sample that was decrypted, has found the rights of its keys to allow the use, within the same
command and before it. -/
theorem keyUses_covered (evp : Evp Ctx) (pkcs8 : Pkcs8) (world : World) (callerUuid : SaUuid)
    (ciphers : CipherStore Ctx) (svps : Nat → Except SaStatus (Option SvpBuffer)) (memory : Memory)
    (store : KeyStore) (macs : MacStore) (actions : List (SessionAction Ctx)) (σ : Session Ctx)
    (hchecks : Meets (Session.step evp pkcs8 world callerUuid)
      (fun σ a => checksKey callerUuid σ a = true) ⟨.idle ciphers svps memory, .start store, macs⟩
      actions)
    (hrun : exec (Session.step evp pkcs8 world callerUuid)
      ⟨.idle ciphers svps memory, .start store, macs⟩ actions = some σ) :
    (∀ log ∈ σ.keys.logs, Covered log) ∧ ∀ d ∈ σ.client.log, d.Checked := by
  have hI : σ.AllCovered := by
    apply exec_invariant (fun s a s' hI hc ha => Session.step_covered hI hc ha) _ hchecks hrun
    constructor
    · intro log hlog
      cases hlog
    · exact .idle ciphers svps memory
  exact ⟨hI.keys, fun d hd _ => hI.samples.log d hd⟩

def noMacs : MacStore := (objectStoreInit 32).get objectStoreInit_isSome

def emptySession : Session (BitVec (64 + 64) × Nat) :=
  ⟨.idle noCiphers noSvps fun _ => 0, .start noKeys, noMacs⟩

def signKey : StoredKey :=
  ⟨⟨{ allRights with usageFlags := saUsageBitMask .sign ||| saUsageOutputProtectionsMask
                     notOnOrAfter := 10 }, .symmetric, .zero, 16⟩, List.replicate 16 7⟩

def passingTime : World := fun n => { noOutputs with time := 6 * n }

def macRun (a : List (SessionAction (BitVec (64 + 64) × Nat))) :
    List (SessionAction (BitVec (64 + 64) × Nat)) :=
  .key (.add (.ofByte 1) signKey) :: .macInit 31 .cmac true :: a

def KeyEvent.uncovered : List KeyEvent → Bool
  | .used flag rights :: log => !log.any fun event =>
    match event with
    | .allowed flag' rights' _ => flag' = flag && rights' = rights
    | .used _ _ => false
  | _ => false

theorem not_covered_of_uncovered (h : KeyEvent.uncovered log = true) : ¬ Covered log := by
  cases log with
  | nil => cases h
  | cons event log =>
    cases event with
    | allowed => cases h
    | used flag rights =>
      rintro ⟨⟨reading, hmem, -⟩, -⟩
      simp only [KeyEvent.uncovered, Bool.not_eq_true', List.any_eq_false] at h
      exact absurd (h _ hmem) (by simp)

/-- The MAC of some data is computed when the key must not be used any more. -/
theorem keyUses_not_covered : ∃ σ, exec (Session.step constantEvp (fun _ => none) passingTime
      (.ofByte 1)) emptySession (macRun [.macProcess 31 false 5 (.ok ()),
        .sign .eddsa 31 none fun _ => .error .internalError,
        .macCompute 31 (some 16) (.ok ())]) = some σ ∧
    ∃ log ∈ σ.keys.logs, ¬ Covered log := by
  have h : (exec (Session.step constantEvp (fun _ => none) passingTime (.ofByte 1)) emptySession
      (macRun [.macProcess 31 false 5 (.ok ()),
        .sign .eddsa 31 none fun _ => .error .internalError,
        .macCompute 31 (some 16) (.ok ())])).any (fun σ =>
          σ.keys.logs.any KeyEvent.uncovered) = true := by
    decide +kernel
  obtain ⟨σ, hrun, h⟩ := Option.any_eq_true .. |>.1 h
  obtain ⟨log, hlog, h⟩ := List.any_eq_true.1 h
  exact ⟨σ, hrun, log, hlog, not_covered_of_uncovered h⟩

/-- To ask for the length of a MAC uses no key. -/
theorem keyUses_covered_length : ∃ σ, exec (Session.step constantEvp (fun _ => none) passingTime
      (.ofByte 1)) emptySession (macRun [.macCompute 31 none (.ok ())]) = some σ ∧
    σ.keys.logs.length = 2 ∧ ((∀ log ∈ σ.keys.logs, Covered log) ∧
      ∀ d ∈ σ.client.log, d.Checked) := by
  have h : (exec (Session.step constantEvp (fun _ => none) passingTime (.ofByte 1)) emptySession
      (macRun [.macCompute 31 none (.ok ())])).any (fun σ => σ.keys.logs.length = 2) = true := by
    decide +kernel
  obtain ⟨σ, hrun, h⟩ := Option.any_eq_true .. |>.1 h
  refine ⟨σ, hrun, of_decide_eq_true h, ?_⟩
  exact keyUses_covered constantEvp (fun _ => none) passingTime (.ofByte 1) noCiphers noSvps
    (fun _ => 0) noKeys noMacs _ σ (by decide +kernel) hrun

end TaSecureApi
