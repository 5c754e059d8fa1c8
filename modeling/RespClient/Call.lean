import RespClient.Expiry
import RespClient.Failure
import RespClient.Fields

set_option autoImplicit false

namespace RespClient

inductive WriteCondition where
  | always
  | ifAbsent
  | ifPresent
deriving DecidableEq, Repr

inductive WriteOutcome where
  | stored
  | keyExists
  | keyMissing
  | rejected
deriving DecidableEq, Repr

namespace WriteCondition

def flag : WriteCondition → Option String
  | .always => none
  | .ifAbsent => some "NX"
  | .ifPresent => some "XX"

def refusal : WriteCondition → WriteOutcome
  | .always => .rejected
  | .ifAbsent => .keyExists
  | .ifPresent => .keyMissing

end WriteCondition

def WriteOutcome.text : WriteOutcome → String
  | .stored => "stored"
  | .keyExists => "key already exists"
  | .keyMissing => "key does not exist"
  | .rejected => "unknown error"

namespace WriteCondition

def ofCode (code : Int) : Except Failure WriteCondition :=
  match code with
  | 0 => .ok .always
  | 1 => .ok .ifAbsent
  | 2 => .ok .ifPresent
  | _ => .error (.unknownCondition (Int.repr code))

def named : List (String × WriteCondition) :=
  [("anyhow", .always), ("nx", .ifAbsent), ("if_not_exist", .ifAbsent),
    ("xx", .ifPresent), ("if_exist", .ifPresent)]

def ofName (name : String) : Except Failure WriteCondition :=
  match named.lookup (String.ofList (name.toList.map Char.toLower)) with
  | some condition => .ok condition
  | none => .error (.unknownCondition name)

end WriteCondition

inductive Call where
  | ping (payload : Option Bytes)
  | select (index : UInt32)
  | expire (key : Bytes) (seconds : UInt32)
  | expireIn (key : Bytes) (expiry : Expiry)
  | expireAt (key : Bytes) (time : Int64)
  | ttl (key : Bytes)
  | set (key value : Bytes) (expiry : Option Expiry) (condition : WriteCondition)
  | get (key : Bytes)
  | sadd (key : Bytes) (members : List Bytes)
  | scard (key : Bytes)
  | sismember (key member : Bytes)
  | sdiff (keys : List Bytes)
  | sdiffStore (dest : Bytes) (keys : List Bytes)
  | sinter (keys : List Bytes)
  | sinterStore (dest : Bytes) (keys : List Bytes)
  | hget (key : Bytes) (fields : Fields)
  | hset (key : Bytes) (fields : Fields)
deriving DecidableEq, Repr

def Call.fields : Call → Fields
  | .hget _ fields | .hset _ fields => fields
  | _ => .empty

inductive Answer where
  | done
  | bytes (data : Bytes)
  | value (data : Option Bytes)
  | flag (yes : Bool)
  | count (n : Int64)
  | members (items : List Bytes)
  | written (outcome : WriteOutcome)
deriving DecidableEq, Repr

structure Response where
  answer : Except Failure Answer
  fields : Fields

end RespClient
