import RespClient.Command
import RespClient.Reply.Scan
import RespClient.Settings

set_option autoImplicit false

namespace RespClient

-- `σ` is the state of everything outside the client, `κ` a connection. A command that fails gives
-- none back, so nothing more can be sent on it.
structure Link (σ κ : Type) where
  dial : Address → Span → σ → Except LinkError κ × σ
  run : Command → κ → σ → Except LinkError (Reply × κ) × σ

structure Script where
  dials : List (Except LinkError Unit) := []
  replies : List (Except LinkError Reply) := []

namespace Script

def nextDial (script : Script) : Except LinkError Unit × Script :=
  match script.dials with
  | [] => (.ok (), script)
  | outcome :: dials => (outcome, { script with dials })

def nextReply (script : Script) : Except LinkError Reply × Script :=
  match script.replies with
  | [] => (.error .closed, script)
  | outcome :: replies => (outcome, { script with replies })

def link : Link Script Unit where
  dial _ _ script := script.nextDial
  run _ _ script :=
    let (outcome, script) := script.nextReply
    (outcome.map fun reply => (reply, ()), script)

end Script

inductive Delivery where
  | chunk (bytes : Bytes)
  | closing (bytes : Bytes)
deriving DecidableEq, Repr

structure Stream where
  unread : Bytes := []
  closed : Bool := false
deriving DecidableEq, Repr

namespace Stream

-- Nothing arrives behind the close of a stream, and a peer that delivers nothing has closed.
def deliver (stream : Stream) (delivery : Option Delivery) : Stream :=
  if stream.closed then stream
  else
    match delivery with
    | some (.chunk bytes) => { stream with unread := stream.unread ++ bytes }
    | some (.closing bytes) => { unread := stream.unread ++ bytes, closed := true }
    | none => { stream with closed := true }

def read (noBytes : IoError) (stream : Stream) : Except LinkError (Reply × Stream) :=
  let ending := if stream.closed then .endOfFile else .failure noBytes
  let (outcome, unread) := Reply.read ending stream.unread
  outcome.map fun reply => (reply, { stream with unread })

end Stream

namespace ByteStream

structure Connection where
  stream : Stream := {}
  pending : List Delivery
deriving DecidableEq, Repr

def Connection.receive (connection : Connection) : Connection :=
  { stream := connection.stream.deliver connection.pending.head?
    pending := connection.pending.tail }

abbrev Network := List (List Delivery)

structure Shortage where
  noConnection : IoError
  noBytes : IoError
deriving DecidableEq, Repr

def dial (shortage : Shortage) : Network → Except LinkError Connection × Network
  | [] => (.error (.io shortage.noConnection), [])
  | pending :: network => (.ok { pending }, network)

def run (shortage : Shortage) (connection : Connection) :
    Except LinkError (Reply × Connection) :=
  let connection := connection.receive
  (connection.stream.read shortage.noBytes).map fun (reply, stream) =>
    (reply, { connection with stream })

def link (shortage : Shortage) : Link Network Connection where
  dial _ _ network := dial shortage network
  run _ connection network := (run shortage connection, network)

end ByteStream

namespace Socket

def shortage : ByteStream.Shortage where
  noConnection := { kind := .networkUnreachable }
  noBytes := { kind := .wouldBlock }

def zeroTimeout : LinkError :=
  .io { kind := .invalidInput, text := some "cannot set a 0 duration timeout" }

def isZero (timeout : Span) : Bool := timeout.nanos = 0

def dial (settings : Settings) (timeout : Span) (network : ByteStream.Network) :
    Except LinkError ByteStream.Connection × ByteStream.Network :=
  if isZero timeout then (.error zeroTimeout, network)
  else
    let (outcome, network) := ByteStream.dial shortage network
    if settings.readTimeout.any isZero || settings.writeTimeout.any isZero then
      (outcome.bind fun _ => .error zeroTimeout, network)
    else (outcome, network)

def link (settings : Settings) : Link ByteStream.Network ByteStream.Connection where
  dial _ timeout network := dial settings timeout network
  run _ connection network := (ByteStream.run shortage connection, network)

end Socket
end RespClient
