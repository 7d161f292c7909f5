import TaSecureApi.CipherSessions
import TaSecureApi.Lib.Transition

namespace TaSecureApi
set_option autoImplicit true

/-- One of the ciphers that the engine declares. -/
structure EngineCipher where
  cipherAlgorithm : SaCipherAlgorithm
  keyLength : Nat
  blockSize : Nat
  ivLength : Nat
  deriving DecidableEq

/-- The ciphers of `DECLARE_CIPHER`. -/
def engineCiphers : List EngineCipher := [
  ⟨.aesEcb, 128 / 8, 16, 0⟩,
  ⟨.aesEcb, 256 / 8, 16, 0⟩,
  ⟨.aesCbc, 128 / 8, 16, 16⟩,
  ⟨.aesCbc, 256 / 8, 16, 16⟩,
  ⟨.aesCtr, 128 / 8, 1, 16⟩,
  ⟨.aesCtr, 256 / 8, 1, 16⟩,
  ⟨.aesGcm, 128 / 8, 1, 12⟩,
  ⟨.aesGcm, 256 / 8, 1, 12⟩,
  ⟨.chacha20, 256 / 8, 1, 16⟩,
  ⟨.chacha20Poly1305, 256 / 8, 1, 12⟩]

/-- The memory of the application, as far as keys and IVs are read from it. -/
structure EngineMemory where
  saKey (address : Nat) : SaKey
  bytes (address length : Nat) : List UInt8

/-- `cipher_app_data`, with `none` for `NULL` and for `INVALID_HANDLE`. -/
structure CipherAppData (Session : Type) where
  key : Option Nat
  iv : Option Nat
  mode : SaCipherMode
  cipherAlgorithm : SaCipherAlgorithm
  cipherContext : Option Session
  tag : List UInt8

/-- What `cipher_do_cipher` returns and leaves, with the bytes that it wrote. -/
structure EngineCipherResult (Session : Type) where
  result : Int
  appData : Option (CipherAppData Session)
  out : List UInt8

def SaCipherMode.ofEnc (enc : Bool) : SaCipherMode := if enc then .encrypt else .decrypt

namespace EngineCipher

variable {Session : Type} (api : CipherApi Session) (keyHeader : SaKey → Except SaStatus Nat)
  (cipher : EngineCipher) (memory : EngineMemory)

/-- `cipher_init`, where the memory for the data that the first one makes holds some bytes. -/
def cipherInit (heap : List UInt8) (appData : Option (CipherAppData Session))
    (key iv : Option Nat) (enc : Bool) : Bool × CipherAppData Session :=
  let d := appData.getD ⟨none, none, .ofEnc enc, cipher.cipherAlgorithm, none, heap⟩
  match key with
  | none => (true, { d with iv := iv.or d.iv })
  | some key =>
    let d := { d with key := some key }
    match keyHeader (memory.saKey key) with
    | .error _ => (false, d)
    | .ok size =>
      if cipher.keyLength ≠ size then (false, d) else (true, { d with iv := iv.or d.iv })

/-- The parameters for `sa_crypto_cipher_init`, `none` where that refuses that there is no IV. -/
def parameters (d : CipherAppData Session) (aad : List UInt8) : Option CipherInitParameters :=
  match d.cipherAlgorithm with
  | .aesEcb => some .none
  | algorithm => d.iv.bind fun iv =>
    cipherInitParameters (memory.bytes iv cipher.ivLength) cipher.ivLength aad algorithm

/-- The context of the client library, which the first call makes. -/
def openContext (d : CipherAppData Session) (key : Nat) (aad : List UInt8) :
    Option (CipherAppData Session × Session) :=
  match d.cipherContext with
  | some session => some (d, session)
  | none =>
    match parameters cipher memory d aad with
    | none => none
    | some parameters =>
      match api.init ⟨d.cipherAlgorithm, d.mode, memory.saKey key, parameters⟩ with
      | .error _ => none
      | .ok session => some ({ d with cipherContext := some session }, session)

/-- What a call with an output does: it processes its input, or ends the message. -/
def transform (d : CipherAppData Session) (session : Session) :
    Option (List UInt8) → EngineCipherResult Session
  | some input =>
    match api.process session input.length input with
    | (.ok output, session) =>
      ⟨castInt output.length, some { d with cipherContext := some session }, output⟩
    | (.error _, session) => ⟨-1, some { d with cipherContext := some session }, []⟩
  | none =>
    if d.cipherAlgorithm ≠ .aesCbc ∧ d.cipherAlgorithm ≠ .aesEcb ∧
        d.cipherAlgorithm ≠ .chacha20 then
      match api.processLast session cipher.blockSize [] (some d.tag) with
      | (.ok (output, tag), session) =>
        ⟨castInt output.length, some { d with
          cipherContext := some session
          tag := if d.cipherAlgorithm.isAead then tag else d.tag }, output⟩
      | (.error _, session) => ⟨-1, some { d with cipherContext := some session }, []⟩
    else ⟨0, some d, []⟩

/-- `cipher_do_cipher`, with `none` for an `in` that is `NULL`. -/
def cipherDoCipher (appData : Option (CipherAppData Session)) (out : Bool)
    (input : Option (List UInt8)) : EngineCipherResult Session :=
  match appData with
  | none => ⟨-1, none, []⟩
  | some d =>
    match d.key with
    | none => ⟨-1, some d, []⟩
    | some key =>
      match openContext api cipher memory d key (if out then [] else input.getD []) with
      | none => ⟨-1, some d, []⟩
      | some (d, session) =>
        if out then transform api cipher d session input else ⟨1, some d, []⟩

/-- `cipher_ctrl` for the tag that is got. -/
def cipherCtrlGetTag (appData : Option (CipherAppData Session)) (arg : Nat) :
    Option (List UInt8) :=
  if arg > 16 then none else appData.map fun d => d.tag.take arg

/-- `cipher_ctrl` for a tag that is set, of as many bytes as it is said to have. -/
def cipherCtrlSetTag (appData : Option (CipherAppData Session)) (tag : List UInt8) :
    Option (CipherAppData Session) :=
  if tag.length > 16 then none
  else appData.map fun d =>
    { d with tag := tag ++ List.replicate (maxGcmTagLength - tag.length) 0 }

end EngineCipher

/-- An operation on a context of the engine. -/
inductive EngineCipherOp
  | init (memory : EngineMemory) (heap : List UInt8) (key iv : Option Nat) (enc : Bool)
  | aad (memory : EngineMemory) (data : List UInt8)
  | update (memory : EngineMemory) (data : List UInt8)
  | final (memory : EngineMemory)
  | getTag (arg : Nat)
  | setTag (tag : List UInt8)

/-- How far a message is: only initialised, updated, at its end, or used beyond that. -/
inductive MessagePhase
  | started
  | updated
  | finished
  | over
  deriving DecidableEq

/-- What an application has given, and got, since it last initialised a context. -/
structure EngineGiven where
  key : Option SaKey
  iv : Option (List UInt8)
  mode : SaCipherMode
  aad : List UInt8
  message : List UInt8
  out : List UInt8
  phase : MessagePhase

namespace EngineGiven

variable (g : EngineGiven)

/-- Key and IV stay the ones that were given before, where there are no new ones. -/
def init (cipher : EngineCipher) (memory : EngineMemory) (key iv : Option Nat) (enc : Bool) :
    EngineGiven where
  key := (key.map memory.saKey).or g.key
  iv := (iv.map fun iv => memory.bytes iv cipher.ivLength).or g.iv
  mode := .ofEnc enc
  aad := []
  message := []
  out := []
  phase := .started

def update (data out : List UInt8) : EngineGiven :=
  { g with
    message := g.message ++ data
    out := g.out ++ out
    phase := if g.phase = .started ∨ g.phase = .updated then .updated else .over }

def final (out : List UInt8) : EngineGiven :=
  { g with
    out := g.out ++ out
    phase := if g.phase = .started ∨ g.phase = .updated then .finished else .over }

/-- Settings behind the end of a message are not for that message. -/
def set : EngineGiven := { g with phase := if g.phase = .finished then .over else g.phase }

def start (cipher : EngineCipher) : Option CipherStart :=
  g.key.bind fun key =>
    (cipherInitParameters (g.iv.getD []) cipher.ivLength g.aad cipher.cipherAlgorithm).map
      fun parameters => ⟨cipher.cipherAlgorithm, g.mode, key, parameters⟩

end EngineGiven

/-- A context and what was given to it. -/
structure EngineRun (Session : Type) where
  appData : Option (CipherAppData Session)
  given : EngineGiven

namespace EngineRun

variable {Session : Type} (api : CipherApi Session) (keyHeader : SaKey → Except SaStatus Nat)
  (cipher : EngineCipher)

/-- A context that was never initialised. -/
def new : EngineRun Session := ⟨none, none, none, .encrypt, [], [], [], .started⟩

def call (s : EngineRun Session) (memory : EngineMemory) (out : Bool) (input : Option (List UInt8))
    (given : List UInt8 → EngineGiven) : Option (EngineRun Session) :=
  let r := cipher.cipherDoCipher api memory s.appData out input
  if 0 ≤ r.result then some ⟨r.appData, given r.out⟩ else none

def step (s : EngineRun Session) : EngineCipherOp → Option (EngineRun Session)
  | .init memory heap key iv enc =>
    let r := cipher.cipherInit keyHeader memory heap s.appData key iv enc
    if r.1 then some ⟨some r.2, s.given.init cipher memory key iv enc⟩ else none
  | .aad memory data => s.call api cipher memory false (some data) fun _ =>
    { s.given.set with aad := s.given.aad ++ data }
  | .update memory data => s.call api cipher memory true (some data) (s.given.update data)
  | .final memory => s.call api cipher memory true none s.given.final
  | .getTag arg => (EngineCipher.cipherCtrlGetTag s.appData arg).map fun _ => s
  | .setTag tag => (EngineCipher.cipherCtrlSetTag s.appData tag).map fun d => ⟨some d, s.given.set⟩

/-- The memory behind the key and the IV, when the context is made of them, is what it was when they
were given. -/
def Unchanged (s : EngineRun Session) (memory : EngineMemory) : Prop :=
  ∀ d ∈ s.appData, d.cipherContext.isNone →
    (∀ key ∈ d.key, s.given.key = some (memory.saKey key)) ∧
    ∀ iv ∈ d.iv, s.given.iv = some (memory.bytes iv cipher.ivLength)

/-- An operation of which nothing is ignored: there is no context yet that an initialisation or
additional data would have to change, and the direction is that of the first initialisation. -/
def Keeps (s : EngineRun Session) : EngineCipherOp → Prop
  | .init _ _ _ _ enc => ∀ d ∈ s.appData, d.cipherContext.isNone ∧ d.mode = .ofEnc enc
  | .aad memory data => s.Unchanged cipher memory ∧
    ∀ d ∈ s.appData, d.cipherContext.isNone ∨ data = [] ∨ d.cipherAlgorithm.isAead = false
  | .update memory _ | .final memory => s.Unchanged cipher memory
  | .getTag _ | .setTag _ => True

/-- The output and the tag are those of the cipher that was asked for: the tag and what is still
missing of the output come with the end of the message. -/
structure Computes (comp : api.Computes) (s : EngineRun Session) : Prop where
  updated : s.given.phase = .updated → cipher.cipherAlgorithm.isImmediate →
    ∃ start, s.given.start cipher = some start ∧
      s.given.out = comp.cipher start s.given.message
  finished : s.given.phase = .finished →
    ∃ start, s.given.start cipher = some start ∧
      s.given.out = comp.cipher start s.given.message ∧
      (cipher.cipherAlgorithm.isAead → ∀ arg ≤ 16,
        EngineCipher.cipherCtrlGetTag s.appData arg =
          some ((comp.tag start s.given.message).take arg))

/-- How the data of a context stand to what was given. -/
structure Follows (comp : api.Computes) (d : CipherAppData Session) (g : EngineGiven) : Prop where
  algorithm : d.cipherAlgorithm = cipher.cipherAlgorithm
  mode : d.mode = g.mode
  waiting : d.cipherContext = none →
    g.aad = [] ∧ g.message = [] ∧ g.out = [] ∧ g.phase = .started
  session : ∀ session, d.cipherContext = some session → g.phase = .started ∨ g.phase = .updated →
    ∃ start, g.start cipher = some start ∧ comp.transcript session = ⟨start, g.message, g.out⟩
  finished : g.phase = .finished → ∃ start, g.start cipher = some start ∧
    g.out = comp.cipher start g.message ∧
    (cipher.cipherAlgorithm.isAead → d.tag = comp.tag start g.message)

/-- What holds of every context, initialised or not. -/
structure Inv (comp : api.Computes) (s : EngineRun Session) : Prop where
  new : s.appData = none → s.given.aad = [] ∧ s.given.message = [] ∧ s.given.out = [] ∧
    s.given.phase = .started
  data : ∀ d, s.appData = some d → Follows api cipher comp d s.given

section Proofs

variable {api keyHeader cipher} {comp : api.Computes} {s s' : EngineRun Session}
  {d d' : CipherAppData Session} {g : EngineGiven} {memory : EngineMemory} {session : Session}

theorem start_algorithm (h : g.start cipher = some start) :
    start.cipherAlgorithm = cipher.cipherAlgorithm := by
  obtain ⟨key, -, hmap⟩ := Option.bind_eq_some_iff.1 h
  obtain ⟨p, -, rfl⟩ := Option.map_eq_some_iff.1 hmap
  rfl

theorem parameters_eq {new : List UInt8} (halg : d.cipherAlgorithm = cipher.cipherAlgorithm)
    (hiv : ∀ iv ∈ d.iv, g.iv = some (memory.bytes iv cipher.ivLength))
    (h : cipher.parameters memory d new = some p) :
    cipherInitParameters (g.iv.getD []) cipher.ivLength new cipher.cipherAlgorithm = some p := by
  unfold EngineCipher.parameters at h
  rw [halg] at h
  split at h
  · next hecb =>
    rw [hecb]
    exact h
  · obtain ⟨iv, hd, hp⟩ := Option.bind_eq_some_iff.1 h
    rw [hiv iv hd]
    exact hp

variable (cipher) in
/-- A context with a session that was given what the application has given. -/
def Opened (comp : api.Computes) (session : Session) (g : EngineGiven) : Prop :=
  g.phase = .started ∨ g.phase = .updated → ∃ start, g.start cipher = some start ∧
    comp.transcript session = ⟨start, g.message, g.out⟩

/-- The context that is there already, or is made of key and IV as they were given. -/
theorem openContext_follows {new : List UInt8} (h : Follows api cipher comp d g)
    (hkey : d.cipherContext = none → g.key = some (memory.saKey key) ∧
      ∀ iv ∈ d.iv, g.iv = some (memory.bytes iv cipher.ivLength))
    (hopen : cipher.openContext api memory d key new = some (d', session)) :
    d' = { d with cipherContext := some session } ∧
      Opened cipher comp session
        { g with aad := if d.cipherContext.isNone then new else g.aad } := by
  unfold EngineCipher.openContext at hopen
  cases hsession : d.cipherContext with
  | some session' =>
    rw [hsession] at hopen
    cases hopen
    exact ⟨by rw [← hsession], h.session session hsession⟩
  | none =>
    rw [hsession] at hopen
    dsimp only at hopen
    obtain ⟨-, hmessage, hout, -⟩ := h.waiting hsession
    obtain ⟨hkey, hiv⟩ := hkey hsession
    cases hp : cipher.parameters memory d new with
    | none =>
      rw [hp] at hopen
      cases hopen
    | some p =>
      rw [hp] at hopen
      dsimp only at hopen
      cases hinit : api.init ⟨d.cipherAlgorithm, d.mode, memory.saKey key, p⟩ with
      | error status =>
        rw [hinit] at hopen
        cases hopen
      | ok session' =>
        rw [hinit] at hopen
        cases hopen
        refine ⟨rfl, fun _ => ⟨⟨d.cipherAlgorithm, d.mode, memory.saKey key, p⟩, ?_, ?_⟩⟩
        · have hparameters := parameters_eq h.algorithm hiv hp
          rw [EngineGiven.start, hkey, h.algorithm, h.mode]
          dsimp only [Option.bind_some, Option.isNone_none]
          rw [if_pos rfl, hparameters]
          rfl
        · rw [comp.init _ _ hinit, hmessage, hout]

theorem call_follows {out : Bool} {input : Option (List UInt8)} {gives : List UInt8 → EngineGiven}
    (h : Inv api cipher comp s) (hu : s.Unchanged cipher memory)
    (hcall : s.call api cipher memory out input gives = some s') :
    ∃ d session r, s.appData = some d ∧ Follows api cipher comp d s.given ∧
      Opened cipher comp session { s.given with
        aad :=
          if d.cipherContext.isNone then (if out then [] else input.getD []) else s.given.aad } ∧
      0 ≤ r.result ∧ s' = ⟨r.appData, gives r.out⟩ ∧
      r = if out then cipher.transform api { d with cipherContext := some session } session input
        else ⟨1, some { d with cipherContext := some session }, []⟩ := by
  unfold call at hcall
  dsimp only at hcall
  split_ifs at hcall with hresult
  cases hcall
  generalize hr : cipher.cipherDoCipher api memory s.appData out input = r at hresult ⊢
  unfold EngineCipher.cipherDoCipher at hr
  cases hd : s.appData with
  | none =>
    rw [hd] at hr
    cases hr
    cases hresult
  | some d =>
    rw [hd] at hr
    dsimp only at hr
    cases hkey : d.key with
    | none =>
      rw [hkey] at hr
      cases hr
      cases hresult
    | some key =>
      rw [hkey] at hr
      dsimp only at hr
      cases hopen : cipher.openContext api memory d key (if out then [] else input.getD []) with
      | none =>
        rw [hopen] at hr
        cases hr
        cases hresult
      | some opened =>
        obtain ⟨d', session⟩ := opened
        have hkey' : d.cipherContext = none → s.given.key = some (memory.saKey key) ∧
            ∀ iv ∈ d.iv, s.given.iv = some (memory.bytes iv cipher.ivLength) := fun hnone => by
          obtain ⟨hkeys, hivs⟩ := hu d hd (by rw [hnone]; rfl)
          exact ⟨hkeys key hkey, hivs⟩
        obtain ⟨rfl, hopened⟩ := openContext_follows (h.data d hd) hkey' hopen
        rw [hopen] at hr
        exact ⟨d, session, r, rfl, h.data d hd, hopened, hresult, rfl, hr.symm⟩

theorem opened_given (h : Follows api cipher comp d s.given)
    (hopened : Opened cipher comp session { s.given with
      aad := if d.cipherContext.isNone then [] else s.given.aad }) :
    Opened cipher comp session s.given := by
  cases hnone : d.cipherContext with
  | none =>
    rw [hnone, Option.isNone_none, if_pos rfl, ← (h.waiting hnone).1] at hopened
    exact hopened
  | some session' =>
    rw [hnone] at hopened
    exact hopened

theorem aad_follows {data : List UInt8} (h : Inv api cipher comp s)
    (hkeeps : s.Keeps cipher (.aad memory data))
    (hstep : s.step api keyHeader cipher (.aad memory data) = some s') :
    Inv api cipher comp s' := by
  obtain ⟨hu, hkept⟩ := hkeeps
  have hcall : s.call api cipher memory false (some data) (fun _ =>
      { s.given.set with aad := s.given.aad ++ data }) = some s' := hstep
  obtain ⟨d, session, r, hd, hfollows, hopened, -, rfl, rfl⟩ := call_follows h hu hcall
  refine ⟨nofun, fun d' hd' => ?_⟩
  obtain rfl := Option.some.inj hd'
  have hstart : ∀ phase, ({ s.given with
      aad := if d.cipherContext.isNone then data else s.given.aad
      phase := phase } : EngineGiven).start cipher =
        ({ s.given with aad := s.given.aad ++ data, phase := phase } : EngineGiven).start
          cipher := by
    intro phase
    cases hnone : d.cipherContext with
    | none =>
      rw [(hfollows.waiting hnone).1]
      rfl
    | some session' =>
      rcases hkept d hd with hnone' | rfl | haead
      · rw [hnone] at hnone'
        cases hnone'
      · rw [List.append_nil]
        rfl
      · rw [hfollows.algorithm] at haead
        unfold EngineGiven.start
        dsimp only
        rw [cipherInitParameters_aad haead]
  refine ⟨hfollows.algorithm, hfollows.mode, nofun, fun session' hsession hphase => ?_,
    fun hphase => ?_⟩
  · obtain rfl := Option.some.inj hsession
    have hphase' : s.given.phase = .started ∨ s.given.phase = .updated := by
      revert hphase
      dsimp only [EngineGiven.set]
      split_ifs with hfinished
      · simp
      · exact id
    obtain ⟨start, hstarted, htranscript⟩ := hopened hphase'
    refine ⟨start, ?_, htranscript⟩
    rw [← hstarted]
    exact (hstart _).symm
  · dsimp only [EngineGiven.set] at hphase
    split_ifs at hphase with hfinished
    exact absurd hphase hfinished

theorem update_follows {data : List UInt8} (h : Inv api cipher comp s)
    (hkeeps : s.Keeps cipher (.update memory data))
    (hstep : s.step api keyHeader cipher (.update memory data) = some s') :
    Inv api cipher comp s' := by
  have hcall : s.call api cipher memory true (some data) (s.given.update data) = some s' := hstep
  obtain ⟨d, session, r, hd, hfollows, hopened, hresult, rfl, hr⟩ := call_follows h hkeeps hcall
  replace hopened := opened_given hfollows hopened
  rw [if_pos rfl, EngineCipher.transform] at hr
  cases hprocess : api.process session data.length data with
  | mk output session' =>
    rw [hprocess] at hr
    cases output with
    | error status =>
      rw [hr] at hresult
      cases hresult
    | ok output =>
      obtain rfl := hr
      refine ⟨nofun, fun d' hd' => ?_⟩
      obtain rfl := Option.some.inj hd'
      refine ⟨hfollows.algorithm, hfollows.mode, nofun, fun session'' hsession hphase => ?_,
        fun hphase => ?_⟩
      · obtain rfl := Option.some.inj hsession
        have hphase' : s.given.phase = .started ∨ s.given.phase = .updated := by
          by_contra hover
          dsimp only [EngineGiven.update] at hphase
          rw [if_neg hover] at hphase
          simp at hphase
        obtain ⟨start, hstart, htranscript⟩ := hopened hphase'
        have haligned := comp.aligned _ _ _ _ _ hprocess
        refine ⟨start, hstart, ?_⟩
        rw [comp.process _ _ _ _ _ haligned hprocess, htranscript]
        rfl
      · dsimp only [EngineGiven.update] at hphase
        split_ifs at hphase

theorem final_follows (h : Inv api cipher comp s)
    (hkeeps : s.Keeps cipher (.final memory))
    (hstep : s.step api keyHeader cipher (.final memory) = some s') : Inv api cipher comp s' := by
  have hcall : s.call api cipher memory true none s.given.final = some s' := hstep
  obtain ⟨d, session, r, hd, hfollows, hopened, hresult, rfl, hr⟩ := call_follows h hkeeps hcall
  replace hopened := opened_given hfollows hopened
  have hnot : ∀ out, ¬((s.given.final out).phase = .started ∨
      (s.given.final out).phase = .updated) := by
    intro out
    dsimp only [EngineGiven.final]
    split_ifs <;> simp
  have hbefore : ∀ out, (s.given.final out).phase = .finished →
      s.given.phase = .started ∨ s.given.phase = .updated := by
    intro out hphase
    by_contra hover
    dsimp only [EngineGiven.final] at hphase
    rw [if_neg hover] at hphase
    cases hphase
  rw [if_pos rfl, EngineCipher.transform] at hr
  by_cases hlast : d.cipherAlgorithm ≠ .aesCbc ∧ d.cipherAlgorithm ≠ .aesEcb ∧
      d.cipherAlgorithm ≠ .chacha20
  · rw [if_pos hlast] at hr
    cases hprocess : api.processLast session cipher.blockSize [] (some d.tag) with
    | mk written session' =>
      rw [hprocess] at hr
      cases written with
      | error status =>
        rw [hr] at hresult
        cases hresult
      | ok written =>
        obtain ⟨output, tag⟩ := written
        obtain rfl := hr
        refine ⟨nofun, fun d' hd' => ?_⟩
        obtain rfl := Option.some.inj hd'
        refine ⟨hfollows.algorithm, hfollows.mode, nofun, fun _ _ hphase => (hnot _ hphase).elim,
          fun hphase => ?_⟩
        obtain ⟨start, hstart, htranscript⟩ := hopened (hbefore _ hphase)
        obtain ⟨hout, htag⟩ := comp.processLast _ _ _ _ _ _ _ hprocess
        rw [htranscript, List.append_nil] at hout htag
        refine ⟨start, hstart, hout, fun haead => ?_⟩
        have halg := start_algorithm hstart
        dsimp only
        rw [hfollows.algorithm, if_pos haead]
        exact htag (by rwa [halg])
  · rw [if_neg hlast] at hr
    obtain rfl := hr
    have himmediate : cipher.cipherAlgorithm.isImmediate = true ∧
        cipher.cipherAlgorithm.isAead = false := by
      rw [hfollows.algorithm] at hlast
      revert hlast
      cases cipher.cipherAlgorithm <;> decide
    refine ⟨nofun, fun d' hd' => ?_⟩
    obtain rfl := Option.some.inj hd'
    refine ⟨hfollows.algorithm, hfollows.mode, nofun, fun _ _ hphase => (hnot _ hphase).elim,
      fun hphase => ?_⟩
    obtain ⟨start, hstart, htranscript⟩ := hopened (hbefore _ hphase)
    have halg := start_algorithm hstart
    have hout := comp.immediate session (by rw [htranscript]; exact halg ▸ himmediate.1)
    rw [htranscript] at hout
    refine ⟨start, hstart, (List.append_nil _).trans hout, fun haead => ?_⟩
    rw [himmediate.2] at haead
    cases haead

theorem init_follows {heap : List UInt8} {key iv : Option Nat} {enc : Bool}
    (h : Inv api cipher comp s) (hkeeps : s.Keeps cipher (.init memory heap key iv enc))
    (hstep : s.step api keyHeader cipher (.init memory heap key iv enc) = some s') :
    Inv api cipher comp s' := by
  unfold step at hstep
  dsimp only at hstep
  split_ifs at hstep with hresult
  cases hstep
  refine ⟨nofun, fun d' hd' => ?_⟩
  obtain rfl := Option.some.inj hd'
  have hsame : (cipher.cipherInit keyHeader memory heap s.appData key iv enc).2.cipherAlgorithm =
        cipher.cipherAlgorithm ∧
      (cipher.cipherInit keyHeader memory heap s.appData key iv enc).2.mode = .ofEnc enc ∧
      (cipher.cipherInit keyHeader memory heap s.appData key iv enc).2.cipherContext = none := by
    have hfound : (s.appData.getD
          ⟨none, none, .ofEnc enc, cipher.cipherAlgorithm, none, heap⟩).cipherAlgorithm =
          cipher.cipherAlgorithm ∧
        (s.appData.getD ⟨none, none, .ofEnc enc, cipher.cipherAlgorithm, none, heap⟩).mode =
          .ofEnc enc ∧
        (s.appData.getD
          ⟨none, none, .ofEnc enc, cipher.cipherAlgorithm, none, heap⟩).cipherContext = none := by
      cases hd : s.appData with
      | none => exact ⟨rfl, rfl, rfl⟩
      | some d =>
        obtain ⟨hnone, hmode⟩ := hkeeps d hd
        exact ⟨(h.data d hd).algorithm, hmode, Option.isNone_iff_eq_none.1 hnone⟩
    unfold EngineCipher.cipherInit
    cases key with
    | none => exact hfound
    | some key =>
      dsimp only
      cases keyHeader (memory.saKey key) with
      | error => exact hfound
      | ok size =>
        dsimp only
        split_ifs <;> exact hfound
  obtain ⟨halg, hmode, hnone⟩ := hsame
  exact ⟨halg, hmode, fun _ => ⟨rfl, rfl, rfl, rfl⟩, by simp [hnone], nofun⟩

theorem setTag_follows {tag : List UInt8} (h : Inv api cipher comp s)
    (hstep : s.step api keyHeader cipher (.setTag tag) = some s') : Inv api cipher comp s' := by
  obtain ⟨d', hset, rfl⟩ := Option.map_eq_some_iff.1 hstep
  unfold EngineCipher.cipherCtrlSetTag at hset
  split_ifs at hset
  obtain ⟨d, hd, rfl⟩ := Option.map_eq_some_iff.1 hset
  have hfollows := h.data d hd
  have hphase : s.given.set.phase = .started ∨ s.given.set.phase = .updated →
      s.given.phase = .started ∨ s.given.phase = .updated := by
    dsimp only [EngineGiven.set]
    split_ifs <;> simp
  refine ⟨nofun, fun d' hd' => ?_⟩
  obtain rfl := Option.some.inj hd'
  refine ⟨hfollows.algorithm, hfollows.mode, fun hnone => ?_, fun session hsession hstarted =>
    hfollows.session session hsession (hphase hstarted), fun hfinished => ?_⟩
  · obtain ⟨haad, hmessage, hout, hstarted⟩ := hfollows.waiting hnone
    refine ⟨haad, hmessage, hout, ?_⟩
    dsimp only [EngineGiven.set]
    rw [hstarted, if_neg (by decide)]
  · dsimp only [EngineGiven.set] at hfinished
    split_ifs at hfinished with hnot
    exact absurd hfinished hnot

theorem step_follows {op : EngineCipherOp}
    (h : Inv api cipher comp s) (hkeeps : s.Keeps cipher op)
    (hstep : s.step api keyHeader cipher op = some s') : Inv api cipher comp s' := by
  cases op with
  | init memory heap key iv enc => exact init_follows h hkeeps hstep
  | aad memory data => exact aad_follows h hkeeps hstep
  | update memory data => exact update_follows h hkeeps hstep
  | final memory => exact final_follows h hkeeps hstep
  | getTag arg =>
    obtain ⟨-, -, rfl⟩ := Option.map_eq_some_iff.1 hstep
    exact h
  | setTag tag => exact setTag_follows h hstep

theorem Inv.computes (h : Inv api cipher comp s) : Computes api cipher comp s := by
  have hdata : s.given.phase ≠ .started → ∃ d session, s.appData = some d ∧
      d.cipherContext = some session ∧ Follows api cipher comp d s.given := by
    intro hphase
    cases hd : s.appData with
    | none => exact absurd (h.new hd).2.2.2 hphase
    | some d =>
      have hfollows := h.data d hd
      cases hsession : d.cipherContext with
      | none => exact absurd (hfollows.waiting hsession).2.2.2 hphase
      | some session => exact ⟨d, session, rfl, hsession, hfollows⟩
  refine ⟨fun hphase himmediate => ?_, fun hphase => ?_⟩
  · obtain ⟨d, session, -, hsession, hfollows⟩ := hdata (by rw [hphase]; decide)
    obtain ⟨start, hstart, htranscript⟩ := hfollows.session session hsession (.inr hphase)
    have hout := comp.immediate session (by rwa [htranscript, start_algorithm hstart])
    rw [htranscript] at hout
    exact ⟨start, hstart, hout⟩
  · obtain ⟨d, session, hd, hsession, hfollows⟩ := hdata (by rw [hphase]; decide)
    obtain ⟨start, hstart, hout, htag⟩ := hfollows.finished hphase
    refine ⟨start, hstart, hout, fun haead arg harg => ?_⟩
    rw [EngineCipher.cipherCtrlGetTag, if_neg (by omega), hd, Option.map_some, htag haead]

end Proofs

end EngineRun

/-- However a context is initialised, used and set, output and tag are those of the cipher with the
key, the IV and the direction that were given last, over all the data that came since, where none of
it is ignored. -/
theorem engineCipher_run {Session : Type} (api : CipherApi Session) (comp : api.Computes)
    (keyHeader : SaKey → Except SaStatus Nat) (cipher : EngineCipher) (ops : List EngineCipherOp)
    (s : EngineRun Session)
    (hrun : Transition.exec (EngineRun.step api keyHeader cipher) .new ops = some s)
    (hkeeps : Transition.Meets (EngineRun.step api keyHeader cipher) (EngineRun.Keeps cipher)
      .new ops) : s.Computes api cipher comp := by
  have hnew : EngineRun.Inv api cipher comp (EngineRun.new : EngineRun Session) :=
    ⟨fun _ => ⟨rfl, rfl, rfl, rfl⟩, nofun⟩
  exact (Transition.exec_invariant (fun _ _ _ h hk hs => EngineRun.step_follows h hk hs) hnew hkeeps
    hrun).computes

section Runs

open EngineRun

variable {Session : Type} (cipher : EngineCipher) (s : EngineRun Session)

instance decidableUnchanged (memory : EngineMemory) : Decidable (s.Unchanged cipher memory) :=
  inferInstanceAs (Decidable (∀ d ∈ s.appData, d.cipherContext.isNone → _ ∧ _))

instance decidableEngineKeeps : (op : EngineCipherOp) → Decidable (s.Keeps cipher op)
  | .init _ _ _ _ _ => inferInstanceAs (Decidable (∀ d ∈ s.appData, _ ∧ _))
  | .aad memory _ => inferInstanceAs (Decidable (s.Unchanged cipher memory ∧ ∀ d ∈ s.appData, _))
  | .update memory _ | .final memory => inferInstanceAs (Decidable (s.Unchanged cipher memory))
  | .getTag _ | .setTag _ => inferInstanceAs (Decidable True)

def ctrCipher : EngineCipher := ⟨.aesCtr, 128 / 8, 1, 16⟩

/-- One key, and at every address as many bytes as are asked for, which tell the address. -/
def addressedMemory : EngineMemory :=
  ⟨fun _ => 7, fun address n => List.replicate n (.ofNat address)⟩

/-- A message in two parts, after key and IV were given one after the other. -/
def separateParams : List EngineCipherOp := [
  .init addressedMemory [] none none true,
  .init addressedMemory [] (some 1) none true,
  .init addressedMemory [] none (some 2) true,
  .update addressedMemory [1, 2, 3],
  .update addressedMemory [4, 5],
  .final addressedMemory,
  .getTag 0]

def newIv : List EngineCipherOp := [
  .init addressedMemory [] (some 1) (some 2) true,
  .update addressedMemory [0],
  .init addressedMemory [] none (some 3) true,
  .update addressedMemory [0]]

def counterCipher (start : CipherStart) (byte : UInt8) : UInt8 :=
  match start.parameters with
  | .aesCtr ctr => byte + ctr.headD 0
  | _ => byte

theorem engineCipher_run_separateParams : ∃ s, Transition.exec
      (EngineRun.step identityCipher (fun _ => .ok 16) ctrCipher) .new separateParams = some s ∧
    s.given.phase = .finished ∧ s.Computes identityCipher ctrCipher identityComputes := by
  have hphase : (Transition.exec (EngineRun.step identityCipher (fun _ => .ok 16) ctrCipher) .new
      separateParams).map (fun s => s.given.phase) = some .finished := by decide +kernel
  obtain ⟨s, hs, hfinished⟩ := Option.map_eq_some_iff.1 hphase
  exact ⟨s, hs, hfinished, engineCipher_run identityCipher identityComputes (fun _ => .ok 16)
    ctrCipher separateParams s hs (by decide +kernel)⟩

/-- A new IV is ignored by a context that was used. -/
theorem engineCipher_not_run : ¬∀ {Session : Type} (api : CipherApi Session) (comp : api.Computes)
    (keyHeader : SaKey → Except SaStatus Nat) (cipher : EngineCipher) (ops : List EngineCipherOp)
    (s : EngineRun Session), cipher ∈ engineCiphers →
    Transition.exec (EngineRun.step api keyHeader cipher) .new ops = some s →
    s.Computes api cipher comp := by
  intro h
  have hgiven : (Transition.exec (EngineRun.step (bytewiseCipher counterCipher) (fun _ => .ok 16)
      ctrCipher) .new newIv).map (fun s => (s.given.phase, s.given.out,
        (s.given.start ctrCipher).map fun start => s.given.message.map (counterCipher start))) =
      some (.updated, [2], some [3]) := by decide +kernel
  obtain ⟨s, hs, heq⟩ := Option.map_eq_some_iff.1 hgiven
  obtain ⟨hphase, hrest⟩ := Prod.mk.inj heq
  obtain ⟨hout, hcipher⟩ := Prod.mk.inj hrest
  obtain ⟨start, hstart, heq⟩ := (h (bytewiseCipher counterCipher) (bytewiseComputes counterCipher)
    (fun _ => .ok 16) ctrCipher newIv s (by decide) hs).updated hphase rfl
  rw [hstart] at hcipher
  have hsame : s.given.out = s.given.message.map (counterCipher start) := heq
  have hthree : s.given.message.map (counterCipher start) = [3] := Option.some.inj hcipher
  rw [hout, hthree] at hsame
  cases hsame

end Runs

end TaSecureApi
