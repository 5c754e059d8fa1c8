import RespClient.Bytes

set_option autoImplicit false

namespace RespClient

inductive Reply where
  | status (text : String)
  | integer (value : Int64)
  | bulk (data : Bytes)
  | nil
  | array (items : List Reply)
  | error (text : String)
deriving BEq, Repr, Inhabited

namespace Reply

inductive Kind where
  | status | integer | bulk | nil | array | error
deriving DecidableEq, Repr

def kind : Reply → Kind
  | .status _ => .status
  | .integer _ => .integer
  | .bulk _ => .bulk
  | .nil => .nil
  | .array _ => .array
  | .error _ => .error

def Kind.text : Kind → String
  | .status => "status"
  | .integer => "integer"
  | .bulk => "bulk string"
  | .nil => "nil"
  | .array => "array"
  | .error => "error"

mutual
def depth : Reply → Nat
  | .array items => depthAll items + 1
  | _ => 0
def depthAll : List Reply → Nat
  | [] => 0
  | item :: items => max (depth item) (depthAll items)
end

mutual
def nodes : Reply → Nat
  | .array items => nodesAll items + 1
  | _ => 1
def nodesAll : List Reply → Nat
  | [] => 0
  | item :: items => nodes item + nodesAll items
end

mutual
def payload : Reply → Nat
  | .bulk data => data.length
  | .array items => payloadAll items
  | _ => 0
def payloadAll : List Reply → Nat
  | [] => 0
  | item :: items => payload item + payloadAll items
end

end Reply
end RespClient
