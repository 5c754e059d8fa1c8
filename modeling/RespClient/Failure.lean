import RespClient.Address
import RespClient.Reply

set_option autoImplicit false

namespace RespClient

inductive IoKind where
  | connectionRefused
  | connectionReset
  | connectionAborted
  | networkUnreachable
  | brokenPipe
  | timedOut
  | wouldBlock
  | unexpectedEof
  | invalidInput
  | other
deriving DecidableEq, Repr

structure IoError where
  kind : IoKind
  text : Option String := none
deriving DecidableEq, Repr

inductive LinkError where
  | io (error : IoError)
  | protocol (reason : String)
  | closed
  | unresolved (target : String)
deriving DecidableEq, Repr

def LinkError.message? : LinkError → Option String
  | .io error => error.text.map ("io error: " ++ ·)
  | .protocol reason => some ("protocol error: " ++ reason)
  | .closed => some "connection closed by peer"
  | .unresolved target => some ("no address resolved for " ++ target)

inductive Failure where
  | invalidAddress (text : String)
  | unreachable (address : Address) (cause : LinkError)
  | broken (cause : LinkError)
  | server (text : String)
  | wrongShape (expected : List Reply.Kind) (actual : Reply.Kind)
  | wrongCount (expected actual : Nat)
  | expired (remaining : Int64)
  | unknownCondition (text : String)
deriving DecidableEq, Repr

namespace Failure

def message? : Failure → Option String
  | .invalidAddress text => some ("invalid address [" ++ text ++ "]")
  | .unreachable address cause =>
      cause.message?.map fun why => "failed to connect to " ++ address.text ++ ": " ++ why
  | .broken cause => cause.message?
  | .server text => some ("server error: " ++ text)
  | .wrongShape expected actual =>
      some ("unexpected reply type " ++ actual.text ++ ", expected " ++
        " or ".intercalate (expected.map Reply.Kind.text))
  | .wrongCount expected actual =>
      some ("invalid number of elements returned: expected " ++ Nat.repr expected ++
        ", returned " ++ Nat.repr actual)
  | .expired remaining =>
      some ("invalid expire time: " ++ Int.repr remaining.toInt ++ "s remaining")
  | .unknownCondition text => some ("unsupported set op type " ++ text)

def fromConnection : Failure → Bool
  | .unreachable .. | .broken _ => true
  | _ => false

end Failure

def Address.parse (text : String) : Except Failure Address :=
  match ofChars? text.toList with
  | some address => .ok address
  | none => .error (.invalidAddress text)

end RespClient
