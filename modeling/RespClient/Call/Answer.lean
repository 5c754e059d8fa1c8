import RespClient.Call

set_option autoImplicit false

namespace RespClient

structure Shape (α : Type) where
  kinds : List Reply.Kind
  content? : Reply → Option α

namespace Shape

def read {α : Type} (shape : Shape α) (reply : Reply) : Except Failure α :=
  match reply with
  | .error text => .error (.server text)
  | reply =>
      match shape.content? reply with
      | some content => .ok content
      | none => .error (.wrongShape shape.kinds reply.kind)

def status : Shape Unit where
  kinds := [.status]
  content?
    | .status _ => some ()
    | _ => none

def integer : Shape Int64 where
  kinds := [.integer]
  content?
    | .integer value => some value
    | _ => none

def array : Shape (List Reply) where
  kinds := [.array]
  content?
    | .array items => some items
    | _ => none

def bulkOrNil : Shape (Option Bytes) where
  kinds := [.bulk, .nil]
  content?
    | .bulk data => some (some data)
    | .nil => some none
    | _ => none

def bytes? : Reply → Option Bytes
  | .bulk data => some data
  | .status text => some (Bytes.ofText text)
  | _ => none

def statusOrBulk : Shape Bytes := ⟨[.status, .bulk], bytes?⟩

-- Members of a set are named bulk strings, but a status line is taken for one too.
def member : Shape Bytes := ⟨[.bulk], bytes?⟩

def written (condition : WriteCondition) : Shape WriteOutcome where
  kinds := [.status, .nil]
  content?
    | .status _ => some .stored
    | .nil => some condition.refusal
    | _ => none

end Shape

namespace Call

def members (reply : Reply) : Except Failure (List Bytes) :=
  (Shape.array.read reply).bind fun items => items.mapM Shape.member.read

def fieldValue (reply : Reply) : Except Failure Bytes :=
  (Shape.bulkOrNil.read reply).map fun value => value.getD []

def fillFields (fields : Fields) (reply : Reply) : Fields × Except Failure Unit :=
  match Shape.array.read reply with
  | .error failure => (fields, .error failure)
  | .ok items =>
      if items.length = fields.size then fields.fill fieldValue items
      else (fields, .error (.wrongCount fields.size items.length))

def answer (call : Call) (reply : Reply) : Except Failure Answer :=
  match call with
  | .ping _ => (Shape.statusOrBulk.read reply).map .bytes
  | .select _ | .hset .. => (Shape.status.read reply).map fun _ => .done
  | .expire .. | .expireIn .. | .expireAt .. =>
      (Shape.integer.read reply).map fun n => .flag (n = 1)
  | .sismember .. => (Shape.integer.read reply).map fun n => .flag (n ≠ 0)
  | .ttl _ | .sadd .. | .scard _ | .sdiffStore .. | .sinterStore .. =>
      (Shape.integer.read reply).map .count
  | .set _ _ _ condition => ((Shape.written condition).read reply).map .written
  | .get _ => (Shape.bulkOrNil.read reply).map .value
  | .sdiff _ | .sinter _ => (members reply).map .members
  | .hget _ fields => (fillFields fields reply).2.map fun _ => .done

def filled (call : Call) (reply : Reply) : Fields :=
  match call with
  | .hget _ fields => (fillFields fields reply).1
  | _ => call.fields

def respond (call : Call) : Except Failure Reply → Response
  | .error failure => ⟨.error failure, call.fields⟩
  | .ok reply => ⟨call.answer reply, call.filled reply⟩

end Call
end RespClient
