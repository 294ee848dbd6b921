/-!
# Rpc — errors and arguments of the JSON-RPC handlers

What the modelled handlers throw and read: `JSONRPCError(code, message)` with the codes of
`rpc/protocol.h`, and the argument values of `UniValue`. Both come from code that is not under
`src/`; the codes are the values Bitcoin Core assigns them.

A handler that does not return a result ends with an `RPCFailure`: a `JSONRPCError` it throws,
a `std::runtime_error` from `UniValue` when an argument is read as a type it does not have, one
from a library the handler calls, or a failed `CHECK_NONFATAL`. The RPC server reports all but
the first with texts of its own; of those the model carries only the library's.
-/

namespace ParticlCore.Rpc

/-- `JSONRPCError(code, message)`. -/
structure JSONRPCError where
  code : Int
  message : String
  deriving DecidableEq, Repr

/-- `RPC_MISC_ERROR`. -/
def RPC_MISC_ERROR : Int := -1

/-- `RPC_WALLET_ERROR`. -/
def RPC_WALLET_ERROR : Int := -4

/-- `RPC_INVALID_ADDRESS_OR_KEY`. -/
def RPC_INVALID_ADDRESS_OR_KEY : Int := -5

/-- `RPC_INVALID_PARAMETER`. -/
def RPC_INVALID_PARAMETER : Int := -8

/-- `RPC_WALLET_INVALID_LABEL_NAME`. -/
def RPC_WALLET_INVALID_LABEL_NAME : Int := -11

/-- `RPC_WALLET_KEYPOOL_RAN_OUT`. -/
def RPC_WALLET_KEYPOOL_RAN_OUT : Int := -12

/-- `RPC_WALLET_UNLOCK_NEEDED`. -/
def RPC_WALLET_UNLOCK_NEEDED : Int := -13

/-- `RPC_INTERNAL_ERROR`. -/
def RPC_INTERNAL_ERROR : Int := -32603

/-- A JSON argument, by the kinds of value the handlers read. -/
inductive UniValue
  | null
  | bool (b : Bool)
  | num (n : Int)
  | str (s : String)
  deriving DecidableEq, Repr

/-- `UniValue::isNull()`. -/
def UniValue.isNull : UniValue → Bool
  | .null => true
  | _ => false

/-- `request.params[i]`: `null` past the last argument. -/
def param (params : List UniValue) (i : Nat) : UniValue := params.getD i .null

/-- How a handler call ends when it returns no result. -/
inductive RPCFailure
  /-- `throw JSONRPCError(code, message)`. -/
  | error (e : JSONRPCError)
  /-- `UniValue` throws: the argument is not of the type read, or out of its range. -/
  | univalueError
  /-- A library the handler calls throws `std::runtime_error(what)`. -/
  | runtimeError (what : String)
  /-- `CHECK_NONFATAL(condition)` found `condition` false. -/
  | internalBug
  deriving DecidableEq, Repr

/-- `std::string(s.c_str())`: the characters before the first NUL. -/
def cString (s : String) : String := s.takeWhile (· ≠ '\x00')

/-- `get_str()`. -/
def UniValue.getStr : UniValue → Except RPCFailure String
  | .str s => .ok s
  | _ => .error .univalueError

/-- `getInt<int>()`: a number in the range of a 32-bit `int`. -/
def UniValue.getInt : UniValue → Except RPCFailure Int
  | .num n => if -2147483648 ≤ n ∧ n < 2147483648 then .ok n else .error .univalueError
  | _ => .error .univalueError

end ParticlCore.Rpc
