import TaSecureApi.TaInvoke
import TaSecureApi.Lib.Records

namespace TaSecureApi
set_option autoImplicit true
open Layout

/-- An entry of `params` with its type and with the bytes at its reference. -/
structure SentParam (α : Type) where
  paramType : Nat
  memRef : Option α
  memRefSize : UInt64
  bytes : Nat → UInt8

/-- The arguments of `ta_invoke_command`. -/
structure Request (α : Type) where
  commandId : SaCommandId
  param0 : SentParam α
  param1 : SentParam α
  param2 : SentParam α
  param3 : SentParam α

/-- What a function of the client finds: whether it gets a session, the bytes from a pointer on, the
pointers to its local variables, and what `malloc` returns for the structure of a parameter. The
rest is what is not initialised: the bytes there, and the variables for types and sizes. -/
structure ClientMemory (α : Type) where
  session : Bool
  bytes : α → Nat → UInt8
  null : Nat → UInt8
  add : α → UInt64 → α
  locals : Fin 4 → α
  malloc : Fin 4 → Option α
  allocated : Fin 4 → Nat → UInt8
  staleType : Nat
  staleSize : Fin 4 → UInt64

theorem SentParam.memRefSize_lt (param : SentParam α) : param.memRefSize.toNat < 2 ^ 64 :=
  param.memRefSize.toNat_lt

def SentParam.taParam (param : SentParam α) : TaParam α :=
  ⟨param.paramType, param.memRef, param.memRefSize.toNat, param.memRefSize_lt⟩

def Request.params (request : Request α) : Fin 4 → SentParam α
  | 0 => request.param0
  | 1 => request.param1
  | 2 => request.param2
  | 3 => request.param3

def Request.taParams (request : Request α) (i : Fin 4) : TaParam α := (request.params i).taParam

def Request.client (request : Request α) (i : Fin 4) : Nat → UInt8 := (request.params i).bytes

/-- `ta_invoke_command`, up to the call that the handler makes. -/
def taInvoke (uuid : SaUuid) (locals : Nat → UInt8) (request : Request α) :
    Except Stop (TaSaCall α) :=
  taInvokeCommandHandler request.taParams ⟨request.client, locals⟩ (.ok uuid)
    (some request.commandId)

namespace ClientMemory

variable (c : ClientMemory α)

/-- `client_session`, without which a call ends. -/
def clientSession : Except Stop Unit := refuse (!c.session) .internalError

/-- `CREATE_COMMAND` for the structure of a parameter. -/
def createCommand (i : Fin 4) : Except Stop α := demandSome .internalError (c.malloc i)

/-- The parameter that is a structure of its own, after the assignments to its members. -/
def command (σ : Type) [Struct σ] (i : Fin 4) (pointer : α) (paramType : Nat) (fs : List Field) :
    SentParam α :=
  ⟨paramType, some pointer, UInt64.ofNat (Struct.size σ), Struct.assigned σ (c.allocated i) fs⟩

/-- `CREATE_PARAM` and `CREATE_OUT_PARAM`, which take the pointer as it is. -/
def param (paramType : Nat) (pointer : Option α) (size : UInt64) : SentParam α :=
  ⟨paramType, pointer, size, pointer.elim c.null c.bytes⟩

/-- `{NULL, 0}` of the type `TA_PARAM_NULL`. -/
def nullParam : SentParam α := c.param teecNone none 0

/-- A parameter for a pointer that can be `NULL`. -/
def optionalParam (paramType : Nat) (pointer : Option α) (size : UInt64) : SentParam α :=
  if pointer.isSome then c.param paramType pointer size else c.nullParam

def read (pointer : α) (n : Nat) : List UInt8 := bytesAt (c.bytes pointer) 0 n

end ClientMemory

/-- A pointer and the length that comes with it. -/
structure ClientData (α : Type) where
  pointer : Option α
  length : UInt64

/-- The check that a pointer can only be `NULL` without a length. -/
def ClientData.isMissing (data : ClientData α) : Bool := data.pointer.isNone && data.length != 0

def ClientData.taData (data : ClientData α) : TaData α := ⟨data.pointer, data.length.toNat⟩

end TaSecureApi
