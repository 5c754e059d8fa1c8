import RespClient.Server

set_option autoImplicit false

namespace RespClient

inductive Order where
  | ping (payload : Option Bytes)
  | select (index : UInt32)
  | expire (key : Bytes) (seconds : Int64)
  | expireAt (key : Bytes) (time : Int64)
  | ttl (key : Bytes)
  | set (key value : Bytes) (seconds : Option Int64) (condition : WriteCondition)
  | get (key : Bytes)
  | sadd (key : Bytes) (members : List Bytes)
  | scard (key : Bytes)
  | sismember (key member : Bytes)
  | sdiff (keys : List Bytes)
  | sdiffStore (dest : Bytes) (keys : List Bytes)
  | sinter (keys : List Bytes)
  | sinterStore (dest : Bytes) (keys : List Bytes)
  | hget (key : Bytes) (names : List Bytes)
  | hset (key : Bytes) (fields : Fields)
deriving DecidableEq, Repr

def Call.order (now : Instant) : Call → Order
  | .ping payload => .ping payload
  | .select index => .select index
  | .expire key seconds => .expire key (Int64.ofNat seconds.toNat)
  | .expireIn key expiry => .expire key (expiry.remaining now)
  | .expireAt key time => .expireAt key time
  | .ttl key => .ttl key
  | .set key value expiry condition =>
      .set key value (expiry.map fun expiry => expiry.remaining now) condition
  | .get key => .get key
  | .sadd key members => .sadd key members
  | .scard key => .scard key
  | .sismember key member => .sismember key member
  | .sdiff keys => .sdiff keys
  | .sdiffStore dest keys => .sdiffStore dest keys
  | .sinter keys => .sinter keys
  | .sinterStore dest keys => .sinterStore dest keys
  | .hget key fields => .hget key fields.names
  | .hset key fields => .hset key fields

namespace Order

def number (value : Int64) : Bytes := Decimal.ofInt value.toInt

def flags : WriteCondition → List Bytes
  | .always => []
  | .ifAbsent => [Bytes.ofText "NX"]
  | .ifPresent => [Bytes.ofText "XX"]

def options (seconds : Option Int64) (condition : WriteCondition) : List Bytes :=
  (seconds.toList.flatMap fun seconds => [Bytes.ofText "EX", number seconds]) ++ flags condition

def parts : Order → List Bytes
  | .ping payload => Bytes.ofText "PING" :: payload.toList
  | .select index => [Bytes.ofText "SELECT", number (Int64.ofNat index.toNat)]
  | .expire key seconds => [Bytes.ofText "EXPIRE", key, number seconds]
  | .expireAt key time => [Bytes.ofText "EXPIREAT", key, number time]
  | .ttl key => [Bytes.ofText "TTL", key]
  | .set key value seconds condition =>
      Bytes.ofText "SET" :: key :: value :: options seconds condition
  | .get key => [Bytes.ofText "GET", key]
  | .sadd key members => Bytes.ofText "SADD" :: key :: members
  | .scard key => [Bytes.ofText "SCARD", key]
  | .sismember key member => [Bytes.ofText "SISMEMBER", key, member]
  | .sdiff keys => Bytes.ofText "SDIFF" :: keys
  | .sdiffStore dest keys => Bytes.ofText "SDIFFSTORE" :: dest :: keys
  | .sinter keys => Bytes.ofText "SINTER" :: keys
  | .sinterStore dest keys => Bytes.ofText "SINTERSTORE" :: dest :: keys
  | .hget key names => Bytes.ofText "HMGET" :: key :: names
  | .hset key fields =>
      Bytes.ofText "HMSET" :: key :: fields.entries.flatMap fun entry => [entry.1, entry.2]

end Order

namespace Order

def setting? (key value : Bytes) : List Bytes → Option Order
  | word :: seconds :: flags =>
      if word = Bytes.ofText "EX" then
        (Decimal.int64? seconds).bind fun seconds =>
          (Strings.condition? flags).map fun condition => .set key value (some seconds) condition
      else none
  | flags => (Strings.condition? flags).map fun condition => .set key value none condition

def pairs? : List Bytes → Option (List (Bytes × Bytes))
  | [] => some []
  | name :: value :: rest => (pairs? rest).map fun pairs => (name, value) :: pairs
  | [_] => none

def named? (name : String) (arguments : List Bytes) : Option Order :=
  match name, arguments with
  | "PING", [] => some (.ping none)
  | "PING", [payload] => some (.ping (some payload))
  | "SELECT", [index] =>
      (Decimal.nat? index).bind fun n => if n < UInt32.size then some (.select (UInt32.ofNat n)) else none
  | "EXPIRE", [key, seconds] => (Decimal.int64? seconds).map fun seconds => .expire key seconds
  | "EXPIREAT", [key, time] => (Decimal.int64? time).map fun time => .expireAt key time
  | "TTL", [key] => some (.ttl key)
  | "SET", key :: value :: options => setting? key value options
  | "GET", [key] => some (.get key)
  | "SADD", key :: members => some (.sadd key members)
  | "SCARD", [key] => some (.scard key)
  | "SISMEMBER", [key, member] => some (.sismember key member)
  | "SDIFF", keys => some (.sdiff keys)
  | "SDIFFSTORE", dest :: keys => some (.sdiffStore dest keys)
  | "SINTER", keys => some (.sinter keys)
  | "SINTERSTORE", dest :: keys => some (.sinterStore dest keys)
  | "HMGET", key :: names => some (.hget key names)
  | "HMSET", key :: pairs => (pairs? pairs).map fun pairs => .hset key (Fields.ofList pairs)
  | _, _ => none

def read? : List Bytes → Option Order
  | [] => none
  | name :: arguments => named? (Utf8.decode name) arguments

end Order
end RespClient
