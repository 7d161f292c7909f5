import TaSecureApi.ProviderCipher

namespace TaSecureApi
set_option autoImplicit true

variable {Session : Type} {api : CipherApi Session} {outsize : Nat} {input : List UInt8}

namespace UpdateState

variable {u u' : UpdateState Session} {blockSize : Nat}

@[simp] theorem process_position : (u.process api outsize chunk).position = u.position := by
  unfold process
  split <;> rfl

@[simp] theorem process_totalLength :
    (u.process api outsize chunk).totalLength = u.totalLength := by
  unfold process
  split <;> rfl

@[simp] theorem process_remainingBlock :
    (u.process api outsize chunk).remainingBlock = u.remainingBlock := by
  unfold process
  split <;> rfl

theorem pass_block (hpos : u.remainingBlock.length > 0) : u.pass api 16 outsize input =
    { u with
      position := u.position + (16 - u.remainingBlock.length)
      remainingBlock := []
      totalLength := u.totalLength - 16 }.process api outsize
        (u.remainingBlock ++ (input.drop u.position).take (16 - u.remainingBlock.length)) := by
  rw [pass, if_pos hpos]
  rfl

theorem pass_input (h : ¬u.remainingBlock.length > 0) : u.pass api blockSize outsize input =
    { u with
      position := u.position + (input.length - u.position) / blockSize * blockSize
      totalLength := u.totalLength - (input.length - u.position) / blockSize * blockSize }.process
        api outsize ((input.drop u.position).take
          ((input.length - u.position) / blockSize * blockSize)) := by
  rw [pass, if_neg h]
  dsimp only
  rw [if_pos (Nat.mul_mod_left _ _)]

/-- The bytes that are still to be processed are those of the remaining block, and of the input from
the position on. -/
structure Placed (blockSize : Nat) (input : List UInt8) (u : UpdateState Session) : Prop where
  position : u.position ≤ input.length
  total : u.totalLength = u.remainingBlock.length + (input.length - u.position)
  pending : u.remainingBlock.length < blockSize

theorem Placed.start (h : block.length < blockSize) (session : Session) :
    Placed blockSize input (start session block input) :=
  ⟨Nat.zero_le _, rfl, h⟩

theorem Placed.pass (h : Placed blockSize input u) (hsize : blockSize = 16 ∨ blockSize = 1)
    (hge : u.totalLength ≥ blockSize) :
    Placed blockSize input (u.pass api blockSize outsize input) := by
  obtain ⟨hposition, htotal, hpending⟩ := h
  by_cases hpos : u.remainingBlock.length > 0
  · obtain rfl : blockSize = 16 := by omega
    rw [pass_block hpos]
    constructor <;> simp <;> omega
  · have hmul : (input.length - u.position) / blockSize * blockSize ≤ input.length - u.position :=
      Nat.div_mul_le_self _ _
    rw [pass_input hpos]
    constructor <;> simp <;> omega

theorem Placed.loop (h : Placed blockSize input u) (hsize : blockSize = 16 ∨ blockSize = 1)
    (hloop : UpdateState.loop api blockSize outsize input fuel u = some u') :
    Placed blockSize input u' ∧ u'.totalLength < blockSize := by
  induction fuel generalizing u with
  | zero =>
    unfold UpdateState.loop at hloop
    split_ifs at hloop with hge
    cases hloop
    exact ⟨h, by omega⟩
  | succ fuel ih =>
    unfold UpdateState.loop at hloop
    split_ifs at hloop with hge
    · exact ih (h.pass hsize hge) hloop
    · cases hloop
      exact ⟨h, by omega⟩

/-- What the session was given, what is pending and what is left of the input make up a message, in
whole blocks as far as it was given, and the output is what it gave. -/
structure Taken (comp : api.Computes) (start : CipherStart) (message before : List UInt8)
    (input : List UInt8) (u : UpdateState Session) : Prop where
  begun : (comp.transcript u.session).start = start
  message : (comp.transcript u.session).input ++ (u.remainingBlock ++ input.drop u.position) =
    message
  whole : start.cipherAlgorithm.blockSize ∣ (comp.transcript u.session).input.length
  output : (comp.transcript u.session).output = before ++ u.out
  reported : u.totalProcessed = u.out.length

section Taken

variable {comp : api.Computes} {start : CipherStart} {message before : List UInt8}

theorem Taken.process (h : Taken comp start message before input u)
    (hchunk : start.cipherAlgorithm.blockSize ∣ chunk.length)
    (hmessage : chunk ++ (rest ++ input.drop place) = u.remainingBlock ++ input.drop u.position)
    (hok : ({ u with position := place, remainingBlock := rest, totalLength := total }.process api
      outsize chunk).status = .ok) :
    Taken comp start message before input
      ({ u with position := place, remainingBlock := rest, totalLength := total }.process api
        outsize chunk) := by
  unfold UpdateState.process at hok ⊢
  dsimp only at hok ⊢
  cases hprocess : api.process u.session (outsize - u.out.length) chunk with
  | mk result session =>
    cases result with
    | error status =>
      rw [hprocess] at hok
      cases hok
      exact absurd (congrArg Prod.fst hprocess) (comp.status _ _ _)
    | ok output =>
      have htranscript := comp.process u.session _ chunk output session (by rwa [h.begun]) hprocess
      dsimp only
      refine ⟨?_, ?_, ?_, ?_, ?_⟩
      · rw [htranscript]
        exact h.begun
      · rw [htranscript, List.append_assoc, hmessage]
        exact h.message
      · rw [htranscript, List.length_append]
        exact Nat.dvd_add h.whole hchunk
      · rw [htranscript, h.output, List.append_assoc]
      · rw [List.length_append, h.reported]

theorem Taken.pass (h : Taken comp start message before input u)
    (hsize : start.cipherAlgorithm.blockSize = blockSize) (hp : Placed blockSize input u)
    (hblock : blockSize = 16 ∨ blockSize = 1) (hge : u.totalLength ≥ blockSize)
    (hok : (u.pass api blockSize outsize input).status = .ok) :
    Taken comp start message before input (u.pass api blockSize outsize input) := by
  obtain ⟨hposition, htotal, hpending⟩ := hp
  by_cases hpos : u.remainingBlock.length > 0
  · obtain rfl : blockSize = 16 := by omega
    rw [pass_block hpos] at hok ⊢
    refine h.process ?_ ?_ hok
    · rw [hsize, List.length_append, List.length_take, List.length_drop]
      exact ⟨1, by omega⟩
    · rw [List.nil_append, ← List.drop_drop, List.append_assoc, List.take_append_drop]
  · have hmul : (input.length - u.position) / blockSize * blockSize ≤ input.length - u.position :=
      Nat.div_mul_le_self _ _
    have hnil : u.remainingBlock = [] := List.eq_nil_of_length_eq_zero (by omega)
    rw [pass_input hpos] at hok ⊢
    refine h.process ?_ ?_ hok
    · rw [hsize, List.length_take, List.length_drop, Nat.min_eq_left hmul]
      exact Nat.dvd_mul_left _ _
    · rw [hnil, List.nil_append, List.nil_append, ← List.drop_drop, List.take_append_drop]

theorem Taken.loop (h : Taken comp start message before input u)
    (hsize : start.cipherAlgorithm.blockSize = blockSize) (hp : Placed blockSize input u)
    (hblock : blockSize = 16 ∨ blockSize = 1)
    (hok : Processes api blockSize outsize input fuel u)
    (hloop : UpdateState.loop api blockSize outsize input fuel u = some u') :
    Taken comp start message before input u' := by
  induction fuel generalizing u with
  | zero =>
    unfold UpdateState.loop at hloop
    split_ifs at hloop
    cases hloop
    exact h
  | succ fuel ih =>
    unfold UpdateState.loop at hloop
    split_ifs at hloop with hge
    · obtain ⟨hstatus, hrest⟩ := hok hge
      exact ih (h.pass hsize hp hblock hge hstatus) (hp.pass hblock hge) hrest hloop
    · cases hloop
      exact h

end Taken

theorem remainingBlock_loop (hblock : blockSize = 16 ∨ blockSize = 1)
    (hp : Placed blockSize input u)
    (hloop : UpdateState.loop api blockSize outsize input fuel u = some u') :
    u' = u ∨ u'.remainingBlock = [] := by
  induction fuel generalizing u with
  | zero =>
    unfold UpdateState.loop at hloop
    split_ifs at hloop
    cases hloop
    exact .inl rfl
  | succ fuel ih =>
    unfold UpdateState.loop at hloop
    split_ifs at hloop with hge
    · have hnil : (u.pass api blockSize outsize input).remainingBlock = [] := by
        by_cases hpos : u.remainingBlock.length > 0
        · have hpending := hp.pending
          obtain rfl : blockSize = 16 := by omega
          rw [pass_block hpos, process_remainingBlock]
        · rw [pass_input hpos, process_remainingBlock]
          exact List.eq_nil_of_length_eq_zero (Nat.eq_zero_of_not_pos hpos)
      rcases ih (hp.pass hblock hge) hloop with rfl | h
      · exact .inr hnil
      · exact .inr h
    · cases hloop
      exact .inl rfl

end UpdateState

/-- A session that was begun with the parameters of a context, and was given a message up to the
bytes that are pending. -/
structure SessionFed (comp : api.Computes) (c : ProviderCipherContext Session) (session : Session)
    (key : SaKey) (parameters : CipherInitParameters) (message out : List UInt8) : Prop where
  begun : (comp.transcript session).start = ⟨c.cipherAlgorithm, c.mode, key, parameters⟩
  message : (comp.transcript session).input ++ c.remainingBlock = message
  whole : c.cipherAlgorithm.blockSize ∣ (comp.transcript session).input.length
  output : (comp.transcript session).output = out

/-- A context with which additional data and a message were processed to some output. -/
structure Fed (comp : api.Computes) (c : ProviderCipherContext Session)
    (aad message out : List UInt8) : Prop where
  fresh : c.cipherContext = none → aad = [] ∧ message = [] ∧ out = [] ∧ c.remainingBlock = []
  session : ∀ session, c.cipherContext = some session → ∃ key parameters, c.key = some key ∧
    cipherInitParameters c.iv c.ivLength aad c.cipherAlgorithm = some parameters ∧
    SessionFed comp c session key parameters message out

/-- The sizes of a context are those of its algorithm. -/
structure Sized (c : ProviderCipherContext Session) : Prop where
  blockSize : c.blockSize = c.cipherAlgorithm.blockSize
  aead : c.aead = c.cipherAlgorithm.isAead
  pending : c.remainingBlock.length < c.blockSize

theorem SaCipherAlgorithm.blockSize_cases (algorithm : SaCipherAlgorithm) :
    algorithm.blockSize = 16 ∨ algorithm.blockSize = 1 := by
  cases algorithm <;> simp [SaCipherAlgorithm.blockSize, aesBlockSize]

theorem SaCipherAlgorithm.isAead_of_unpadded (algorithm : SaCipherAlgorithm)
    (h : algorithm.isUnpadded = true) : algorithm.isAead = false := by
  cases algorithm <;> first | rfl | cases h

namespace ProviderCipherContext

variable {comp : api.Computes} {c c' : ProviderCipherContext Session}
  {aad message out : List UInt8} {r : CipherResult Session} {key : SaKey}

theorem openSession_fed (h : Fed comp c aad message out) (hkey : c.key = some key)
    (hopen : openSession api c key new = some c') :
    ∃ session parameters, c' = { c with cipherContext := some session } ∧
      cipherInitParameters c.iv c.ivLength (if c.cipherContext.isNone then new else aad)
        c.cipherAlgorithm = some parameters ∧
      SessionFed comp c session key parameters message out := by
  unfold openSession at hopen
  cases hsession : c.cipherContext with
  | some session =>
    rw [hsession] at hopen
    cases hopen
    obtain ⟨key', parameters, hkey', hparameters, hfed⟩ := h.session session hsession
    rw [hkey] at hkey'
    cases hkey'
    exact ⟨session, parameters, by rw [← hsession], hparameters, hfed⟩
  | none =>
    rw [hsession] at hopen
    dsimp only at hopen
    obtain ⟨rfl, rfl, rfl, hblock⟩ := h.fresh hsession
    cases hparameters : cipherInitParameters c.iv c.ivLength new c.cipherAlgorithm with
    | none =>
      rw [hparameters] at hopen
      cases hopen
    | some parameters =>
      rw [hparameters] at hopen
      dsimp only at hopen
      cases hinit : api.init ⟨c.cipherAlgorithm, c.mode, key, parameters⟩ with
      | error status =>
        rw [hinit] at hopen
        cases hopen
      | ok session =>
        rw [hinit] at hopen
        cases hopen
        have htranscript := comp.init _ _ hinit
        refine ⟨session, parameters, rfl, hparameters, ?_, ?_, ?_, ?_⟩
        · rw [htranscript]
        · rw [htranscript, hblock]
          rfl
        · rw [htranscript]
          exact Nat.dvd_zero _
        · rw [htranscript]

theorem update_fed (h : SessionFed comp c session key parameters message out) (hs : Sized c)
    (hkept : input = [] ∨ c.remainingBlock = [] ∨
      c.blockSize ≤ c.remainingBlock.length + input.length)
    (hok : UpdateState.Processes api c.blockSize outsize input
      (c.remainingBlock.length + input.length) (.start session c.remainingBlock input))
    (hr : update api c session outsize input = some r) (hresult : r.result = true) :
    ∃ session', r.context = { c with
        cipherContext := some session'
        remainingBlock := r.context.remainingBlock } ∧
      r.context.remainingBlock.length < c.blockSize ∧ r.outl = r.out.length ∧
      SessionFed comp r.context session' key parameters (message ++ input) (out ++ r.out) := by
  have hblock : c.blockSize = 16 ∨ c.blockSize = 1 := by
    rw [hs.blockSize]
    exact c.cipherAlgorithm.blockSize_cases
  have hplaced : UpdateState.Placed c.blockSize input
      (.start session c.remainingBlock input) := .start hs.pending session
  have htaken : UpdateState.Taken comp ⟨c.cipherAlgorithm, c.mode, key, parameters⟩
      (message ++ input) out input (.start session c.remainingBlock input) := by
    refine ⟨h.begun, ?_, h.whole, ?_, rfl⟩
    · rw [← h.message, List.append_assoc]
      rfl
    · exact h.output.trans (List.append_nil _).symm
  unfold update at hr
  dsimp only at hr
  cases hloop : UpdateState.loop api c.blockSize outsize input
      (UpdateState.start session c.remainingBlock input).totalLength
      (.start session c.remainingBlock input) with
  | none =>
    rw [hloop] at hr
    cases hr
  | some u =>
    rw [hloop] at hr
    dsimp only at hr
    obtain ⟨hplaced', hlt⟩ := hplaced.loop hblock hloop
    have htaken' := htaken.loop hs.blockSize.symm hplaced hblock hok hloop
    have htotal := hplaced'.total
    -- what is left of the input does not meet a block that is still pending
    have hrest : u.remainingBlock ++ input.drop u.position =
        if u.position < input.length then input.drop u.position else u.remainingBlock := by
      split_ifs with hleft
      · have hnil : u.remainingBlock = [] := by
          rcases UpdateState.remainingBlock_loop hblock hplaced hloop with rfl | hnil
          · have hlt' : c.remainingBlock.length + input.length < c.blockSize := hlt
            rcases hkept with rfl | hnil | hge
            · exact absurd hleft (Nat.not_lt_zero _)
            · exact hnil
            · omega
          · exact hnil
        rw [hnil, List.nil_append]
      · rw [List.drop_eq_nil_of_le (by omega), List.append_nil]
    by_cases hstatus : u.status = .ok
    · rw [if_pos hstatus] at hr
      cases hr
      refine ⟨u.session, rfl, ?_, htaken'.reported, htaken'.begun, ?_, htaken'.whole,
        htaken'.output⟩
      · dsimp only
        rw [← hrest, List.length_append, List.length_drop]
        omega
      · dsimp only
        rw [← hrest]
        exact htaken'.message
    · rw [if_neg hstatus] at hr
      cases hr
      cases hresult

theorem final_fed (h : SessionFed comp c session key parameters message out) (hs : Sized c)
    (hresult : (final api c session outsize).result = true) :
    out ++ (final api c session outsize).out =
        comp.cipher ⟨c.cipherAlgorithm, c.mode, key, parameters⟩ message ∧
      (c.cipherAlgorithm.isAead → (final api c session outsize).context.tag =
        comp.tag ⟨c.cipherAlgorithm, c.mode, key, parameters⟩ message) ∧
      (final api c session outsize).outl = (final api c session outsize).out.length := by
  unfold final at hresult ⊢
  by_cases hunpadded : ¬c.cipherAlgorithm.isUnpadded
  · rw [if_pos hunpadded] at hresult ⊢
    cases hlast : api.processLast session outsize c.remainingBlock
        (if c.aead then some c.tag else none) with
    | mk result session' =>
      cases result with
      | error status =>
        rw [hlast] at hresult
        cases hresult
      | ok written =>
        obtain ⟨output, tag⟩ := written
        obtain ⟨hcipher, htag⟩ := comp.processLast _ _ _ _ _ _ _ hlast
        rw [h.begun, h.message] at hcipher htag
        rw [h.output] at hcipher
        refine ⟨hcipher, fun haead => ?_, rfl⟩
        dsimp only
        rw [if_pos (hs.aead.trans haead)]
        exact htag haead
  · have hunpadded' : c.cipherAlgorithm.isUnpadded = true := not_not.1 hunpadded
    rw [if_neg hunpadded] at hresult ⊢
    split_ifs at hresult ⊢ with hpending
    have hnil : c.remainingBlock = [] :=
      List.eq_nil_of_length_eq_zero (Nat.eq_zero_of_not_pos hpending)
    have hcipher := comp.immediate session (by
      rw [h.begun]
      exact SaCipherAlgorithm.isImmediate_of_unpadded hunpadded')
    have hmessage := h.message
    rw [hnil, List.append_nil] at hmessage
    rw [h.begun, h.output, hmessage] at hcipher
    refine ⟨(List.append_nil _).trans hcipher, fun haead => ?_, rfl⟩
    rw [c.cipherAlgorithm.isAead_of_unpadded hunpadded'] at haead
    cases haead

end ProviderCipherContext

/-- The calls of an application between an initialisation and the next. -/
inductive CipherOp
  | aad (data : List UInt8)
  | message (outsize : Nat) (data : List UInt8)
  | final (outsize : Nat)

namespace ProviderCipherContext

section Calls

variable (api : CipherApi Session)

def call (c : ProviderCipherContext Session) : CipherOp → Option (CipherResult Session)
  | .aad data => cipher api c none (some data)
  | .message outsize data => cipher api c (some outsize) (some data)
  | .final outsize => cipher api c (some outsize) none

/-- Calls that all return 1, with the bytes that they wrote and their number as it was reported. -/
def calls (c : ProviderCipherContext Session) :
    List CipherOp → Option (ProviderCipherContext Session × List UInt8 × Nat)
  | [] => some (c, [], 0)
  | op :: ops =>
    match call api c op with
    | none => none
    | some r =>
      if r.result then
        (calls r.context ops).map fun (c', out, outl) => (c', r.out ++ out, r.outl + outl)
      else none

/-- A call that loses nothing: additional data comes before there is a session, an update completes
the block that is pending or finds none, and no call of `sa_crypto_cipher_process` fails in it. -/
def Keeps (c : ProviderCipherContext Session) : CipherOp → Prop
  | .aad data => c.cipherContext.isNone ∨ data = [] ∨ c.cipherAlgorithm.isAead = false
  | .message outsize data =>
    (data = [] ∨ c.remainingBlock = [] ∨ c.blockSize ≤ c.remainingBlock.length + data.length) ∧
    ∀ key ∈ c.key, ∀ c' ∈ openSession api c key [], ∀ session ∈ c'.cipherContext,
      UpdateState.Processes api c.blockSize outsize data (c.remainingBlock.length + data.length)
        (.start session c.remainingBlock data)
  | .final _ => True

/-- The same for all calls, each in the context that the ones before leave. -/
def KeepsAll (c : ProviderCipherContext Session) : List CipherOp → Prop
  | [] => True
  | op :: ops => Keeps api c op ∧ ∀ r ∈ call api c op, KeepsAll r.context ops

end Calls

variable {comp : api.Computes} {c c' : ProviderCipherContext Session}
  {aad message out : List UInt8} {r : CipherResult Session} {key : SaKey}

/-- A context that differs from another one in its session, the block that is pending and the tag
only. -/
structure SameSetup (c c' : ProviderCipherContext Session) : Prop where
  cipherAlgorithm : c'.cipherAlgorithm = c.cipherAlgorithm
  mode : c'.mode = c.mode
  key : c'.key = c.key
  iv : c'.iv = c.iv
  ivLength : c'.ivLength = c.ivLength
  blockSize : c'.blockSize = c.blockSize
  aead : c'.aead = c.aead

theorem SameSetup.trans (h : SameSetup c c') (h' : SameSetup c' c'') : SameSetup c c'' :=
  ⟨h'.cipherAlgorithm.trans h.cipherAlgorithm, h'.mode.trans h.mode, h'.key.trans h.key,
    h'.iv.trans h.iv, h'.ivLength.trans h.ivLength, h'.blockSize.trans h.blockSize,
    h'.aead.trans h.aead⟩

theorem SameSetup.sized (h : SameSetup c c') (hs : Sized c)
    (hpending : c'.remainingBlock.length < c.blockSize) : Sized c' := by
  obtain ⟨halg, -, -, -, -, hblock, haead⟩ := h
  exact ⟨by rw [hblock, hs.blockSize, halg], by rw [haead, hs.aead, halg], by rwa [hblock]⟩

/-- A call that succeeds has a key, and a session that was begun with some additional data. -/
theorem cipher_opened {room : Option Nat} {data : Option (List UInt8)}
    (h : Fed comp c aad message out)
    (hr : cipher api c room data = some r) (hresult : r.result = true) :
    ∃ key session parameters, c.key = some key ∧
      openSession api c key (if room.isNone then data.getD [] else []) =
        some { c with cipherContext := some session } ∧
      cipherInitParameters c.iv c.ivLength (if c.cipherContext.isNone then
        (if room.isNone then data.getD [] else []) else aad) c.cipherAlgorithm =
          some parameters ∧
      SessionFed comp { c with cipherContext := some session } session key parameters message out ∧
      proceed api { c with cipherContext := some session } session room data = some r := by
  unfold cipher at hr
  obtain ⟨key, hkey⟩ : ∃ key, c.key = some key := by
    cases hkey : c.key with
    | none =>
      rw [hkey] at hr
      cases hr
      cases hresult
    | some key => exact ⟨key, rfl⟩
  rw [hkey] at hr
  dsimp only at hr
  cases hopen : openSession api c key (if room.isNone then data.getD [] else []) with
  | none =>
    rw [hopen] at hr
    cases hr
    cases hresult
  | some c' =>
    obtain ⟨session, parameters, rfl, hparameters, hfed⟩ := openSession_fed h hkey hopen
    obtain ⟨hbegun, hmessage, hwhole, houtput⟩ := hfed
    rw [hopen] at hr
    exact ⟨key, session, parameters, hkey, hopen, hparameters,
      ⟨hbegun, hmessage, hwhole, houtput⟩, hr⟩

theorem aad_fed (h : Fed comp c aad [] []) (hs : Sized c) (hkept : Keeps api c (.aad data))
    (hr : call api c (.aad data) = some r) (hresult : r.result = true) :
    SameSetup c r.context ∧ Sized r.context ∧ r.out = [] ∧ r.outl = 0 ∧
      Fed comp r.context (aad ++ data) [] [] := by
  obtain ⟨key, session, parameters, hkey, -, hparameters, hfed, hcall⟩ := cipher_opened h hr hresult
  obtain rfl := Option.some.inj hcall
  have hsame : SameSetup c { c with cipherContext := some session } :=
    ⟨rfl, rfl, rfl, rfl, rfl, rfl, rfl⟩
  have hall : cipherInitParameters c.iv c.ivLength (aad ++ data) c.cipherAlgorithm =
      some parameters := by
    rw [← hparameters]
    cases hsession : c.cipherContext with
    | none =>
      obtain ⟨rfl, -⟩ := h.fresh hsession
      rfl
    | some session =>
      rcases hkept with hnone | rfl | haead
      · rw [hsession] at hnone
        cases hnone
      · rw [List.append_nil]
        rfl
      · exact cipherInitParameters_aad haead
  refine ⟨hsame, hsame.sized hs hs.pending, rfl, rfl, nofun, fun session' hsession => ?_⟩
  obtain rfl := Option.some.inj hsession
  exact ⟨key, parameters, hkey, hall, hfed⟩

theorem message_fed (h : Fed comp c aad message out) (hs : Sized c)
    (hkept : Keeps api c (.message outsize data))
    (hr : call api c (.message outsize data) = some r) (hresult : r.result = true) :
    SameSetup c r.context ∧ Sized r.context ∧ r.outl = r.out.length ∧
      Fed comp r.context aad (message ++ data) (out ++ r.out) := by
  obtain ⟨key, session, parameters, hkey, hopen, hparameters, hfed, hcall⟩ :=
    cipher_opened h hr hresult
  obtain ⟨session', hcontext, hpending, houtl, hfed'⟩ := update_fed hfed ⟨hs.1, hs.2, hs.3⟩ hkept.1
    (hkept.2 key hkey _ hopen session rfl) hcall hresult
  have hsame : SameSetup c r.context := by
    rw [hcontext]
    exact ⟨rfl, rfl, rfl, rfl, rfl, rfl, rfl⟩
  refine ⟨hsame, hsame.sized hs hpending, houtl, fun hnone => ?_, fun session'' hsession => ?_⟩
  · rw [hcontext] at hnone
    cases hnone
  · have hsession' : r.context.cipherContext = some session' := by rw [hcontext]
    rw [hsession'] at hsession
    cases hsession
    refine ⟨key, parameters, hsame.key.trans hkey, ?_, hfed'⟩
    rw [hsame.iv, hsame.ivLength, hsame.cipherAlgorithm, ← hparameters]
    cases hnone : c.cipherContext with
    | none =>
      obtain ⟨rfl, -⟩ := h.fresh hnone
      rfl
    | some session => rfl

/-- An output, and the tag of the context after it, that are those of a single call for some
additional data and a message. -/
def Computes (comp : api.Computes) (c c' : ProviderCipherContext Session)
    (aad message out : List UInt8) : Prop :=
  ∃ key parameters, c.key = some key ∧
    cipherInitParameters c.iv c.ivLength aad c.cipherAlgorithm = some parameters ∧
    out = comp.cipher ⟨c.cipherAlgorithm, c.mode, key, parameters⟩ message ∧
    (c.cipherAlgorithm.isAead →
      c'.tag = comp.tag ⟨c.cipherAlgorithm, c.mode, key, parameters⟩ message)

theorem Computes.of_same (h : Computes comp c c'' aad message out) (hs : SameSetup c' c) :
    Computes comp c' c'' aad message out := by
  obtain ⟨key, parameters, hkey, hparameters, hout, htag⟩ := h
  rw [hs.cipherAlgorithm, hs.mode] at hout htag
  rw [hs.iv, hs.ivLength, hs.cipherAlgorithm] at hparameters
  exact ⟨key, parameters, hs.key.symm.trans hkey, hparameters, hout, htag⟩

theorem final_computes (h : Fed comp c aad message out) (hs : Sized c)
    (hr : call api c (.final outsize) = some r) (hresult : r.result = true) :
    Computes comp c r.context aad message (out ++ r.out) ∧ r.outl = r.out.length := by
  obtain ⟨key, session, parameters, hkey, -, hparameters, hfed, hcall⟩ := cipher_opened h hr hresult
  obtain rfl := Option.some.inj hcall
  obtain ⟨hout, htag, houtl⟩ := final_fed hfed ⟨hs.1, hs.2, hs.3⟩ hresult
  refine ⟨⟨key, parameters, hkey, ?_, hout, htag⟩, houtl⟩
  rw [← hparameters]
  cases hnone : c.cipherContext with
  | none =>
    obtain ⟨rfl, -⟩ := h.fresh hnone
    rfl
  | some session => rfl

theorem calls_cons (h : calls api c (op :: ops) = some (c', out, outl)) :
    ∃ r out' outl', call api c op = some r ∧ r.result = true ∧
      calls api r.context ops = some (c', out', outl') ∧ out = r.out ++ out' ∧
      outl = r.outl + outl' := by
  unfold calls at h
  cases hr : call api c op with
  | none =>
    rw [hr] at h
    cases h
  | some r =>
    rw [hr] at h
    dsimp only at h
    split_ifs at h with hresult
    obtain ⟨⟨c'', out', outl'⟩, hrest, heq⟩ := Option.map_eq_some_iff.1 h
    cases heq
    exact ⟨r, out', outl', rfl, hresult, hrest, rfl, rfl⟩

/-- The calls of an application that processes some additional data and a message, each in parts. -/
def chunks (aads : List (List UInt8)) (messages : List (Nat × List UInt8)) (outsize : Nat) :
    List CipherOp :=
  aads.map .aad ++ (messages.map (fun message => .message message.1 message.2) ++ [.final outsize])

theorem calls_messages {messages : List (Nat × List UInt8)} (h : Fed comp c aad message out)
    (hs : Sized c)
    (hcalls : calls api c (messages.map (fun message => .message message.1 message.2) ++
      [.final outsize]) = some (c', out', outl))
    (hkept : KeepsAll api c (messages.map (fun message => .message message.1 message.2) ++
      [.final outsize])) :
    Computes comp c c' aad (message ++ (messages.map Prod.snd).flatten) (out ++ out') ∧
      outl = out'.length := by
  induction messages generalizing c message out out' outl with
  | nil =>
    obtain ⟨r, out₂, outl₂, hr, hresult, hnil, rfl, rfl⟩ := calls_cons hcalls
    cases hnil
    obtain ⟨hcomputes, houtl⟩ := final_computes h hs hr hresult
    rw [List.append_nil, houtl]
    exact ⟨by simpa using hcomputes, rfl⟩
  | cons first rest ih =>
    obtain ⟨outsize₁, data⟩ := first
    obtain ⟨r, out₂, outl₂, hr, hresult, hrest, rfl, rfl⟩ := calls_cons hcalls
    obtain ⟨hsame, hsized, houtl, hfed⟩ := message_fed h hs hkept.1 hr hresult
    obtain ⟨hcomputes, houtl₂⟩ := ih hfed hsized hrest (hkept.2 r hr)
    rw [List.append_assoc, List.append_assoc] at hcomputes
    refine ⟨hcomputes.of_same hsame, ?_⟩
    rw [houtl, houtl₂, List.length_append]

theorem calls_chunks (h : Fed comp c aad [] []) (hs : Sized c)
    (hcalls : calls api c (chunks aads messages outsize) = some (c', out, outl))
    (hkept : KeepsAll api c (chunks aads messages outsize)) :
    Computes comp c c' (aad ++ aads.flatten) (messages.map Prod.snd).flatten out ∧
      outl = out.length := by
  induction aads generalizing c aad out outl with
  | nil =>
    rw [List.flatten_nil, List.append_nil]
    exact calls_messages h hs hcalls hkept
  | cons first rest ih =>
    obtain ⟨r, out₂, outl₂, hr, hresult, hrest, rfl, rfl⟩ := calls_cons hcalls
    obtain ⟨hsame, hsized, hout, houtl, hfed⟩ := aad_fed h hs hkept.1 hr hresult
    obtain ⟨hcomputes, houtl₂⟩ := ih hfed hsized hrest (hkept.2 r hr)
    rw [List.append_assoc] at hcomputes
    rw [hout, houtl, List.nil_append, Nat.zero_add]
    exact ⟨hcomputes.of_same hsame, houtl₂⟩

/-- A context of one of the ciphers, whatever was done with it. -/
structure Of (cipher : ProviderCipher) (c : ProviderCipherContext Session) : Prop where
  sized : Sized c
  ivLength : c.ivLength = cipher.ivLength
  chacha20 : c.cipherAlgorithm = .chacha20 → cipher.ivLength = 16

section Of

variable {providerCipher : ProviderCipher} {library : KeyLibrary}

theorem Of.newctx (h : providerCipher ∈ saProviderCiphers) :
    Of providerCipher (cipherNewctx providerCipher : ProviderCipherContext Session) := by
  have hall : ∀ cipher ∈ saProviderCiphers, cipher.blockSize = cipher.cipherAlgorithm.blockSize ∧
      cipher.aead = cipher.cipherAlgorithm.isAead ∧ 0 < cipher.blockSize ∧
      (cipher.cipherAlgorithm = .chacha20 → cipher.ivLength = 16) := by decide
  obtain ⟨hblock, haead, hpos, hchacha⟩ := hall _ h
  exact ⟨⟨hblock, haead, hpos⟩, rfl, hchacha⟩

/-- A context in which neither the session nor the buffers changed, nor the sizes of the
algorithm. -/
structure SameBuffers (c c' : ProviderCipherContext Session) : Prop where
  cipherContext : c'.cipherContext = c.cipherContext
  mode : c'.mode = c.mode
  iv : c'.iv = c.iv
  ivLength : c'.ivLength = c.ivLength
  blockSize : c'.blockSize = c.blockSize
  aead : c'.aead = c.aead
  remainingBlock : c'.remainingBlock = c.remainingBlock
  size : c'.cipherAlgorithm.blockSize = c.cipherAlgorithm.blockSize
  isAead : c'.cipherAlgorithm.isAead = c.cipherAlgorithm.isAead
  chacha20 : c'.cipherAlgorithm = .chacha20 → c.cipherAlgorithm = .chacha20

theorem SameBuffers.refl (c : ProviderCipherContext Session) : SameBuffers c c :=
  ⟨rfl, rfl, rfl, rfl, rfl, rfl, rfl, rfl, rfl, id⟩

theorem SameBuffers.trans (h : SameBuffers c c') (h' : SameBuffers c' c'') : SameBuffers c c'' :=
  ⟨h'.cipherContext.trans h.cipherContext, h'.mode.trans h.mode, h'.iv.trans h.iv,
    h'.ivLength.trans h.ivLength,
    h'.blockSize.trans h.blockSize, h'.aead.trans h.aead,
    h'.remainingBlock.trans h.remainingBlock, h'.size.trans h.size, h'.isAead.trans h.isAead,
    fun halg => h.chacha20 (h'.chacha20 halg)⟩

theorem Of.congr (h : Of providerCipher c) (hs : SameBuffers c c') : Of providerCipher c' := by
  obtain ⟨⟨hblock, haead, hpending⟩, hiv, hchacha⟩ := h
  refine ⟨⟨?_, ?_, ?_⟩, hs.ivLength.trans hiv, fun halg => hchacha (hs.chacha20 halg)⟩
  · rw [hs.blockSize, hs.size, hblock]
  · rw [hs.aead, hs.isAead, haead]
  · rwa [hs.blockSize, hs.remainingBlock]

theorem setPadding_same (padding : OsslParam Nat) :
    SameBuffers c (c.setPadding padding).context := by
  have hpadding : ∀ padded (algorithm : SaCipherAlgorithm),
      (algorithm.withPadding padded).blockSize = algorithm.blockSize ∧
      (algorithm.withPadding padded).isAead = algorithm.isAead ∧
      (algorithm.withPadding padded = .chacha20 → algorithm = .chacha20) := by
    intro padded algorithm
    cases padded <;> cases algorithm <;> decide
  cases padding with
  | absent | invalid => exact .refl c
  | value padded =>
    obtain ⟨hblock, haead, hchacha⟩ := hpadding (decide (padded ≠ 0)) c.cipherAlgorithm
    exact ⟨rfl, rfl, rfl, rfl, rfl, rfl, rfl, hblock, haead, hchacha⟩

theorem setTag_same (tag : OsslParam (List UInt8)) : SameBuffers c (c.setTag tag).context := by
  cases tag with
  | absent | invalid => exact .refl c
  | value tag =>
    rw [setTag]
    split_ifs
    · exact .refl c
    · exact ⟨rfl, rfl, rfl, rfl, rfl, rfl, rfl, rfl, rfl, id⟩

theorem setKey_same (key : OsslParam SaKey) : SameBuffers c (setKey library c key).context := by
  cases key with
  | absent | invalid => exact .refl c
  | value key =>
    rw [setKey]
    cases library.keyHeader key with
    | error => exact .refl c
    | ok size =>
      dsimp only
      split_ifs
      · exact .refl c
      · exact ⟨rfl, rfl, rfl, rfl, rfl, rfl, rfl, rfl, rfl, id⟩

theorem setCtxParams_same (params : Option CipherCtxParams) :
    SameBuffers c (setCtxParams library c params).context := by
  cases params with
  | none => exact .refl c
  | some params =>
    refine ProviderResult.andThen_induct (setPadding_same params.padding) fun c₁ h₁ => ?_
    refine ProviderResult.andThen_induct (h₁.trans (setTag_same params.aeadTag)) fun c₂ h₂ => ?_
    refine ProviderResult.andThen_induct (h₂.trans (setKey_same params.saKey)) fun c₃ h₃ => ?_
    refine h₃.trans ?_
    cases params.saKeyDelete <;> exact ⟨rfl, rfl, rfl, rfl, rfl, rfl, rfl, rfl, rfl, id⟩

theorem importKey_same (key : Option (List UInt8)) :
    SameBuffers c (importKey library c key).context := by
  cases key with
  | none => exact .refl c
  | some bytes =>
    rw [importKey]
    cases library.keyImport bytes with
    | error => exact .refl c
    | ok key =>
      dsimp only
      cases library.keyHeader key with
      | error => exact ⟨rfl, rfl, rfl, rfl, rfl, rfl, rfl, rfl, rfl, id⟩
      | ok size =>
        dsimp only
        split_ifs <;> exact ⟨rfl, rfl, rfl, rfl, rfl, rfl, rfl, rfl, rfl, id⟩

theorem Of.reset (h : Of providerCipher c) (mode : SaCipherMode) :
    Of providerCipher ({ c with mode := mode, cipherContext := none } :
      ProviderCipherContext Session) := by
  obtain ⟨⟨hblock, haead, hpending⟩, hiv, hchacha⟩ := h
  exact ⟨⟨hblock, haead, hpending⟩, hiv, hchacha⟩

theorem Of.copyIv (h : Of providerCipher c) (iv : Option (List UInt8)) :
    Of providerCipher (copyIv c iv).context := by
  cases iv with
  | none => exact h
  | some iv =>
    obtain ⟨⟨hblock, haead, hpending⟩, hiv, hchacha⟩ := h
    rw [ProviderCipherContext.copyIv]
    split_ifs <;> exact ⟨⟨hblock, haead, hpending⟩, hiv, hchacha⟩

theorem Of.init (h : Of providerCipher c) (key iv : Option (List UInt8))
    (params : Option CipherCtxParams) (mode : SaCipherMode) :
    Of providerCipher (init library c key iv params mode).context := by
  refine ProviderResult.andThen_induct ((h.reset mode).copyIv iv) fun c₁ h₁ => ?_
  refine ProviderResult.andThen_induct (h₁.congr (importKey_same key)) fun c₂ h₂ => ?_
  exact h₂.congr (setCtxParams_same params)

theorem update_pending (hs : Sized c) (hr : update api c session outsize input = some r) :
    SameSetup c r.context ∧ r.context.remainingBlock.length < c.blockSize := by
  have hblock : c.blockSize = 16 ∨ c.blockSize = 1 := by
    rw [hs.blockSize]
    exact c.cipherAlgorithm.blockSize_cases
  unfold update at hr
  dsimp only at hr
  cases hloop : UpdateState.loop api c.blockSize outsize input
      (UpdateState.start session c.remainingBlock input).totalLength
      (.start session c.remainingBlock input) with
  | none =>
    rw [hloop] at hr
    cases hr
  | some u =>
    rw [hloop] at hr
    dsimp only at hr
    have hstart : UpdateState.Placed c.blockSize input (.start session c.remainingBlock input) :=
      .start hs.pending session
    obtain ⟨hplaced, hlt⟩ := hstart.loop hblock hloop
    have htotal := hplaced.total
    have hpending := hplaced.pending
    have hrest : (if u.position < input.length then input.drop u.position
        else u.remainingBlock).length < c.blockSize := by
      split_ifs
      · rw [List.length_drop]
        omega
      · exact hpending
    by_cases hstatus : u.status = .ok
    · rw [if_pos hstatus] at hr
      cases hr
      exact ⟨⟨rfl, rfl, rfl, rfl, rfl, rfl, rfl⟩, hrest⟩
    · rw [if_neg hstatus] at hr
      cases hr
      exact ⟨⟨rfl, rfl, rfl, rfl, rfl, rfl, rfl⟩, hrest⟩

theorem final_pending (hs : Sized c) : SameSetup c (final api c session outsize).context ∧
    (final api c session outsize).context.remainingBlock.length < c.blockSize := by
  unfold final
  by_cases hunpadded : ¬c.cipherAlgorithm.isUnpadded
  · rw [if_pos hunpadded]
    split <;> exact ⟨⟨rfl, rfl, rfl, rfl, rfl, rfl, rfl⟩, hs.pending⟩
  · rw [if_neg hunpadded]
    split_ifs <;> exact ⟨⟨rfl, rfl, rfl, rfl, rfl, rfl, rfl⟩, hs.pending⟩

theorem openSession_same (hopen : openSession api c key new = some c') :
    SameSetup c c' ∧ c'.remainingBlock = c.remainingBlock := by
  unfold openSession at hopen
  split at hopen
  · cases hopen
    exact ⟨⟨rfl, rfl, rfl, rfl, rfl, rfl, rfl⟩, rfl⟩
  · split at hopen
    · cases hopen
    · split at hopen
      · cases hopen
      · cases hopen
        exact ⟨⟨rfl, rfl, rfl, rfl, rfl, rfl, rfl⟩, rfl⟩

theorem Of.cipher {room : Option Nat} {data : Option (List UInt8)} (h : Of providerCipher c)
    (hr : cipher api c room data = some r) : Of providerCipher r.context := by
  have hof : ∀ c', SameSetup c c' → c'.remainingBlock.length < c.blockSize →
      Of providerCipher c' := fun c' hsame hpending =>
    ⟨hsame.sized h.sized hpending, hsame.ivLength.trans h.ivLength,
      fun halg => h.chacha20 (hsame.cipherAlgorithm ▸ halg)⟩
  unfold ProviderCipherContext.cipher at hr
  split at hr
  · cases hr
    exact h
  · dsimp only at hr
    split at hr
    · cases hr
      exact h
    · next hopen =>
      obtain ⟨hsame, hblock⟩ := openSession_same hopen
      have hpending := h.sized.pending
      rw [← hblock] at hpending
      have hsized := hsame.sized h.sized hpending
      split at hr
      · cases hr
        exact hof _ hsame hpending
      · cases room with
        | none =>
          cases hr
          exact hof _ hsame hpending
        | some outsize =>
          cases data with
          | none =>
            cases hr
            obtain ⟨hsame', hpending'⟩ := final_pending hsized
            exact hof _ (hsame.trans hsame') (hsame.blockSize ▸ hpending')
          | some data =>
            obtain ⟨hsame', hpending'⟩ := update_pending hsized hr
            exact hof _ (hsame.trans hsame') (hsame.blockSize ▸ hpending')

theorem Of.after (h : Of providerCipher c) (hafter : after api c ops = some c') :
    Of providerCipher c' := by
  induction ops generalizing c with
  | nil =>
    cases hafter
    exact h
  | cons op ops ih =>
    obtain ⟨c₁, hstep, hrest⟩ := Option.bind_eq_some_iff.1 hafter
    refine ih ?_ hrest
    cases op with
    | init library key iv params mode =>
      cases hstep
      exact h.init key iv params mode
    | setCtxParams library params =>
      cases hstep
      exact h.congr (setCtxParams_same params)
    | cipher outsize input =>
      obtain ⟨r, hr, rfl⟩ := Option.map_eq_some_iff.1 hstep
      exact h.cipher hr

theorem after_sets {sets : List (Option CipherCtxParams)}
    (hafter : ProviderCipherContext.after api c (sets.map (.setCtxParams library)) = some c') :
    SameBuffers c c' := by
  induction sets generalizing c with
  | nil =>
    cases hafter
    exact .refl _
  | cons params sets ih =>
    exact (setCtxParams_same params).trans (ih hafter)

theorem init_ok {c : ProviderCipherContext Session} {iv : List UInt8}
    {params : Option CipherCtxParams} {mode : SaCipherMode} {bytes : Option (List UInt8)}
    (h : (init library c bytes (some iv) params mode).result = true) :
    SameBuffers { c with mode := mode, cipherContext := none, iv := iv ++ c.iv.drop iv.length }
      (init library c bytes (some iv) params mode).context := by
  unfold init at h ⊢
  obtain ⟨hcopy, hrest⟩ := ProviderResult.andThen_result.1 h
  rw [ProviderResult.andThen_context h]
  obtain ⟨himport, -⟩ := ProviderResult.andThen_result.1 hrest
  rw [ProviderResult.andThen_context hrest]
  refine .trans ?_ ((importKey_same bytes).trans (setCtxParams_same params))
  unfold ProviderCipherContext.copyIv at hcopy ⊢
  dsimp only at hcopy ⊢
  split_ifs at hcopy ⊢
  · cases hcopy
  · exact .refl _

theorem cipherInitParameters_append {iv rest : List UInt8} (h : algorithm = .chacha20 →
    iv.length = 16) : cipherInitParameters (iv ++ rest) iv.length aad algorithm =
      cipherInitParameters iv iv.length aad algorithm := by
  cases algorithm with
  | chacha20 =>
    have hlength := h rfl
    have hcounter : chacha20CounterLength = 4 := rfl
    have hnonce : chacha20NonceLength = 12 := rfl
    simp only [cipherInitParameters, hcounter, hnonce]
    rw [List.take_append_of_le_length (by omega), List.drop_append_of_le_length (by omega),
      List.take_append_of_le_length (by rw [List.length_drop]; omega)]
  | _ => simp [cipherInitParameters]

end Of

end ProviderCipherContext

section Decidable

variable (api)

instance UpdateState.decidableProcesses (blockSize outsize : Nat) (input : List UInt8) :
    (fuel : Nat) → (u : UpdateState Session) →
      Decidable (UpdateState.Processes api blockSize outsize input fuel u)
  | 0, _ => inferInstanceAs (Decidable True)
  | fuel + 1, u =>
    have := decidableProcesses blockSize outsize input fuel (u.pass api blockSize outsize input)
    inferInstanceAs (Decidable (_ → _ ∧ _))

instance ProviderCipherContext.decidableKeeps (c : ProviderCipherContext Session) :
    (op : CipherOp) → Decidable (Keeps api c op)
  | .aad _ => inferInstanceAs (Decidable (_ ∨ _ ∨ _))
  | .message _ _ => inferInstanceAs (Decidable (_ ∧ ∀ _ ∈ _, _))
  | .final _ => inferInstanceAs (Decidable True)

instance ProviderCipherContext.decidableKeepsAll (c : ProviderCipherContext Session) :
    (ops : List CipherOp) → Decidable (KeepsAll api c ops)
  | [] => inferInstanceAs (Decidable True)
  | op :: ops =>
    have : DecidablePred fun r : CipherResult Session => KeepsAll api r.context ops :=
      fun r => decidableKeepsAll r.context ops
    inferInstanceAs (Decidable (_ ∧ ∀ r ∈ call api c op, KeepsAll api r.context ops))

end Decidable

open ProviderCipherContext in
/-- A context of any of the ciphers, after any use, that is initialised with an IV, perhaps with
other settings behind it, computes the cipher however data and message are cut, where no bytes were
pending before and every call keeps what it is given. -/
theorem providerCipher_chunks (api : CipherApi Session) (comp : api.Computes)
    (library : KeyLibrary) (providerCipher : ProviderCipher) (history : List ProviderCipherOp)
    (before c c' : ProviderCipherContext Session) (key : Option (List UInt8)) (iv : List UInt8)
    (params : Option CipherCtxParams) (mode : SaCipherMode) (sets : List (Option CipherCtxParams))
    (aads : List (List UInt8)) (messages : List (Nat × List UInt8)) (outsize outl : Nat)
    (out : List UInt8) (hcipher : providerCipher ∈ saProviderCiphers)
    (hhistory : after api (cipherNewctx providerCipher) history = some before)
    (hinit : (init library before key (some iv) params mode).result = true)
    (hiv : iv.length = providerCipher.ivLength)
    (hsets : after api (init library before key (some iv) params mode).context
      (sets.map (.setCtxParams library)) = some c)
    (hcalls : calls api c (chunks aads messages outsize) = some (c', out, outl))
    (hpending : before.remainingBlock = [])
    (hkept : KeepsAll api c (chunks aads messages outsize)) :
    ∃ k parameters, c.key = some k ∧
      cipherInitParameters iv providerCipher.ivLength aads.flatten c.cipherAlgorithm =
        some parameters ∧
      out = comp.cipher ⟨c.cipherAlgorithm, c.mode, k, parameters⟩
        (messages.map Prod.snd).flatten ∧
      (c.cipherAlgorithm.isAead → c'.tag =
        comp.tag ⟨c.cipherAlgorithm, c.mode, k, parameters⟩ (messages.map Prod.snd).flatten) ∧
      outl = out.length := by
  have hsame := (init_ok hinit).trans (after_sets hsets)
  have hof : Of providerCipher c := by
    refine Of.congr ?_ hsame
    obtain ⟨⟨hblock, haead, hlt⟩, hivLength, hchacha⟩ := (Of.newctx hcipher).after hhistory
    exact ⟨⟨hblock, haead, hlt⟩, hivLength, hchacha⟩
  have hfresh : Fed comp c [] [] [] := by
    refine ⟨fun _ => ⟨rfl, rfl, rfl, hsame.remainingBlock.trans hpending⟩, fun session h => ?_⟩
    rw [hsame.cipherContext] at h
    cases h
  obtain ⟨⟨k, parameters, hkey, hparameters, hout, htag⟩, houtl⟩ :=
    calls_chunks hfresh hof.sized hcalls hkept
  refine ⟨k, parameters, hkey, ?_, hout, htag, houtl⟩
  rw [hof.ivLength, hsame.iv, ← hiv, cipherInitParameters_append fun halg =>
    hiv.trans (hof.chacha20 halg), hiv] at hparameters
  exact hparameters

section Runs

open ProviderCipherContext

def ecbCipher : ProviderCipher := ⟨.aesEcbPkcs7, 128 / 8, aesBlockSize, aesBlockSize, false⟩

def shortKeys : KeyLibrary := ⟨fun _ => .ok 5, fun _ => .ok 16⟩

def unpaddedEcb : ProviderResult (ProviderCipherContext (CipherStart × List UInt8)) :=
  init shortKeys (cipherNewctx ecbCipher) (some (List.replicate 16 1)) (some (List.replicate 16 0))
    (some ⟨.value 0, .absent, .absent, .absent⟩) .encrypt

def unpaddedEcbCalls (messages : List (Nat × List UInt8)) :
    Option (ProviderCipherContext (CipherStart × List UInt8) × List UInt8 × Nat) :=
  calls identityCipher unpaddedEcb.context (chunks [] messages 100)

def completing : List (Nat × List UInt8) :=
  [(100, List.replicate 3 1), (100, List.replicate 20 2), (100, List.replicate 9 3)]

def losing : List (Nat × List UInt8) :=
  [(100, List.replicate 8 1), (100, List.replicate 7 2), (100, List.replicate 9 3),
    (100, List.replicate 8 4), (100, List.replicate 7 5), (100, List.replicate 9 6)]

theorem providerCipher_chunks_completing :
    ∃ c' out outl, unpaddedEcbCalls completing = some (c', out, outl) ∧
      out = (completing.map Prod.snd).flatten := by
  have hsome : (unpaddedEcbCalls completing).isSome = true := by decide +kernel
  obtain ⟨⟨c', out, outl⟩, hcalls⟩ := Option.isSome_iff_exists.1 hsome
  have hkept : KeepsAll identityCipher unpaddedEcb.context (chunks [] completing 100) := by
    decide +kernel
  obtain ⟨k, parameters, -, -, hout, -⟩ :=
    providerCipher_chunks identityCipher identityComputes shortKeys
    ecbCipher [] (cipherNewctx ecbCipher) unpaddedEcb.context c' (some (List.replicate 16 1))
    (List.replicate 16 0) (some ⟨.value 0, .absent, .absent, .absent⟩) .encrypt [] [] completing 100
    outl out (by simp [ecbCipher, saProviderCiphers]) rfl (by decide +kernel) (by decide) rfl hcalls
    rfl hkept
  exact ⟨c', out, outl, hcalls, hout⟩

/-- Bytes are lost where an update does not complete the block that is pending. -/
theorem providerCipher_not_chunks : ¬∀ {Session : Type} (api : CipherApi Session)
    (comp : api.Computes) (library : KeyLibrary) (providerCipher : ProviderCipher)
    (history : List ProviderCipherOp) (before c c' : ProviderCipherContext Session)
    (key : Option (List UInt8)) (iv : List UInt8) (params : Option CipherCtxParams)
    (mode : SaCipherMode) (sets : List (Option CipherCtxParams)) (aads : List (List UInt8))
    (messages : List (Nat × List UInt8)) (outsize outl : Nat) (out : List UInt8),
    providerCipher ∈ saProviderCiphers →
    after api (cipherNewctx providerCipher) history = some before →
    (init library before key (some iv) params mode).result = true →
    iv.length = providerCipher.ivLength →
    after api (init library before key (some iv) params mode).context
      (sets.map (.setCtxParams library)) = some c →
    calls api c (chunks aads messages outsize) = some (c', out, outl) →
    ∃ k parameters, c.key = some k ∧
      cipherInitParameters iv providerCipher.ivLength aads.flatten c.cipherAlgorithm =
        some parameters ∧
      out = comp.cipher ⟨c.cipherAlgorithm, c.mode, k, parameters⟩
        (messages.map Prod.snd).flatten ∧
      (c.cipherAlgorithm.isAead → c'.tag =
        comp.tag ⟨c.cipherAlgorithm, c.mode, k, parameters⟩ (messages.map Prod.snd).flatten) ∧
      outl = out.length := by
  intro h
  have hlength : (unpaddedEcbCalls losing).map (fun r => r.2.1.length) = some 32 := by
    decide +kernel
  obtain ⟨⟨c', out, outl⟩, hcalls, hout⟩ := Option.map_eq_some_iff.1 hlength
  obtain ⟨k, parameters, -, -, hcipher, -⟩ := h identityCipher identityComputes shortKeys
    ecbCipher [] (cipherNewctx ecbCipher) unpaddedEcb.context c' (some (List.replicate 16 1))
    (List.replicate 16 0) (some ⟨.value 0, .absent, .absent, .absent⟩) .encrypt [] [] losing 100
    outl out (by simp [ecbCipher, saProviderCiphers]) rfl (by decide +kernel) (by decide) rfl hcalls
  rw [hcipher] at hout
  have hmessage : (losing.map Prod.snd).flatten.length = 48 := by decide +kernel
  exact absurd (hmessage.symm.trans hout) (by decide)

end Runs

end TaSecureApi
