import RespClient.Call
import RespClient.Link
import RespClient.Reply.Grammar

set_option autoImplicit false

namespace RespClient

structure Server (σ : Type) where
  execute : List Bytes → σ → Reply × σ

inductive Mishap where
  | ignored
  | cut (sent : Nat)
deriving DecidableEq, Repr

structure Host (σ : Type) where
  state : σ
  mishaps : List (Option Mishap) := []

namespace Server
variable {σ : Type}

def refusal : Reply := .error "ERR unknown command"

def direct (server : Server σ) : Link σ Unit where
  dial _ _ state := (.ok (), state)
  run command _ state :=
    let (reply, state) := server.execute command.parts state
    (.ok (reply, ()), state)

-- Of a reply that is cut, at least the last byte is missing.
def serve (server : Server σ) (bytes : Bytes) (host : Host σ) : Delivery × Host σ :=
  let mishaps := host.mishaps.tail
  match host.mishaps.head?.join, Request.decode? bytes with
  | some .ignored, _ | _, none => (.closing [], { host with mishaps })
  | some (.cut sent), some parts =>
      let (reply, state) := server.execute parts host.state
      (.closing (reply.encode.take (min sent (reply.encode.length - 1))), { state, mishaps })
  | none, some parts =>
      let (reply, state) := server.execute parts host.state
      (.chunk reply.encode, { state, mishaps })

def overStreams (server : Server σ) (noBytes : IoError) : Link (Host σ) Stream where
  dial _ _ host := (.ok {}, host)
  run command stream host :=
    let (delivery, host) := server.serve command.encode host
    ((stream.deliver delivery).read noBytes, host)

end Server

abbrev Strings := Bytes → Option Bytes

namespace Strings

def put (store : Strings) (key value : Bytes) : Strings :=
  fun other => if other = key then some value else store other

def permits (store : Strings) (key : Bytes) : WriteCondition → Bool
  | .always => true
  | .ifAbsent => (store key).isNone
  | .ifPresent => (store key).isSome

def write (store : Strings) (key value : Bytes) (condition : WriteCondition) : Strings :=
  if store.permits key condition then store.put key value else store

def condition? : List Bytes → Option WriteCondition
  | [] => some .always
  | [flag] =>
      if flag = Bytes.ofText "NX" then some .ifAbsent
      else if flag = Bytes.ofText "XX" then some .ifPresent
      else none
  | _ => none

def execute (parts : List Bytes) (store : Strings) : Reply × Strings :=
  match parts with
  | [name, key] =>
      if name = Bytes.ofText "GET" then ((store key).elim .nil .bulk, store) else (Server.refusal, store)
  | name :: key :: value :: flags =>
      if name = Bytes.ofText "SET" then
        match condition? flags with
        | some condition =>
            (if store.permits key condition then .status "OK" else .nil,
              store.write key value condition)
        | none => (Server.refusal, store)
      else (Server.refusal, store)
  | _ => (Server.refusal, store)

def server : Server Strings := ⟨execute⟩

end Strings

abbrev Hash := Bytes → Option Bytes
abbrev Hashes := Bytes → Hash

namespace Hashes

def insert (hash : Hash) (name value : Bytes) : Hash :=
  fun other => if other = name then some value else hash other

def put (store : Hashes) (key : Bytes) (hash : Hash) : Hashes :=
  fun other => if other = key then hash else store other

def insertAll : List Bytes → Hash → Option Hash
  | [], hash => some hash
  | name :: value :: rest, hash => insertAll rest (insert hash name value)
  | [_], _ => none

def bulks (hash : Hash) (names : List Bytes) : Reply :=
  .array (names.map fun name => (hash name).elim .nil .bulk)

def execute (parts : List Bytes) (store : Hashes) : Reply × Hashes :=
  match parts with
  | name :: key :: rest =>
      if name = Bytes.ofText "HMSET" then
        match insertAll rest (store key) with
        | some hash => (.status "OK", store.put key hash)
        | none => (Server.refusal, store)
      else if name = Bytes.ofText "HMGET" then
        (bulks (store key) rest, store)
      else (Server.refusal, store)
  | _ => (Server.refusal, store)

def server : Server Hashes := ⟨execute⟩

def tokens (pairs : List (Bytes × Bytes)) : List Bytes :=
  pairs.flatMap fun pair => [pair.1, pair.2]

def insertPairs (pairs : List (Bytes × Bytes)) (hash : Hash) : Hash :=
  pairs.foldl (fun hash pair => insert hash pair.1 pair.2) hash

structure KeepsHashes (server : Server Hashes) : Prop where
  hmset : ∀ store key pairs, ∃ text,
    server.execute (Bytes.ofText "HMSET" :: key :: tokens pairs) store =
      (.status text, put store key (insertPairs pairs (store key)))
  hmget : ∀ store key names,
    server.execute (Bytes.ofText "HMGET" :: key :: names) store = (bulks (store key) names, store)

end Hashes
end RespClient
