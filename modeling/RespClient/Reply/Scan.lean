import RespClient.Decimal
import RespClient.Failure

/- Reading one reply off the front of a byte string. The result says which bytes were used and
   never looks at how the stream ends: a scan is done, finds a fault, or runs short of bytes. -/
set_option autoImplicit false

namespace RespClient

inductive Fault where
  | emptyLine
  | unknownType
  | invalidInteger
  | invalidLength
  | nestedTooDeep
  | bulkTooLong
  | bulkNotTerminated
  | lineNotTerminated
  | lineTooLong
deriving DecidableEq, Repr

def Fault.text : Fault → String
  | .emptyLine => "empty reply line"
  | .unknownType => "unknown reply type byte"
  | .invalidInteger => "invalid integer"
  | .invalidLength => "invalid length"
  | .nestedTooDeep => "arrays nested too deeply"
  | .bulkTooLong => "bulk string exceeds size limit"
  | .bulkNotTerminated => "bulk string not terminated by CRLF"
  | .lineNotTerminated => "line not terminated by CRLF"
  | .lineTooLong => "line exceeds size limit"

-- `rest` is what follows the bytes that were used; a scan that is short has used them all.
inductive Scan (α : Type) where
  | done (value : α) (rest : Bytes)
  | malformed (fault : Fault) (rest : Bytes)
  | short
deriving Repr

namespace Scan
variable {α β : Type}

@[inline] def andThen (scan : Scan α) (next : α → Bytes → Scan β) : Scan β :=
  match scan with
  | .done value rest => next value rest
  | .malformed fault rest => .malformed fault rest
  | .short => .short

@[inline] def map (f : α → β) (scan : Scan α) : Scan β :=
  scan.andThen fun value rest => .done (f value) rest

def many (one : Bytes → Scan α) : Nat → List α → Bytes → Scan (List α)
  | 0, found, bytes => .done found.reverse bytes
  | count + 1, found, bytes =>
      (one bytes).andThen fun value rest => many one count (value :: found) rest

end Scan

namespace Reply

def maxLine : Nat := 65536
def maxBulk : Nat := 536870912
def maxDepth : Nat := 32

def scanLine (bytes : Bytes) : Scan Bytes :=
  let line := bytes.takeWhile (· ≠ lf)
  if maxLine ≤ line.length then .malformed .lineTooLong (bytes.drop maxLine)
  else match bytes.drop line.length with
    | [] => .short
    | _ :: rest =>
        if line.getLast? = some cr then .done line.dropLast rest
        else .malformed .lineNotTerminated rest

def scanBulk (length : Nat) (bytes : Bytes) : Scan Bytes :=
  let framed := bytes.take (length + 2)
  if framed.length < length + 2 then .short
  else if framed.drop length = crlf then .done (framed.take length) (bytes.drop (length + 2))
  else .malformed .bulkNotTerminated (bytes.drop (length + 2))

inductive Header where
  | complete (reply : Reply)
  | bulk (length : Nat)
  | array (count : Nat)
deriving Repr

def Header.counted (announce : Nat → Except Fault Header) (text : Bytes) : Except Fault Header :=
  match Decimal.int64? text with
  | none => .error .invalidInteger
  | some length =>
      if length = -1 then .ok (.complete .nil)
      else if length < 0 then .error .invalidLength
      else announce length.toInt.toNat

def Header.ofLine : Bytes → Except Fault Header
  | [] => .error .emptyLine
  | type :: text =>
      if type = '+'.toUInt8 then .ok (.complete (.status (Utf8.decode text)))
      else if type = '-'.toUInt8 then .ok (.complete (.error (Utf8.decode text)))
      else if type = ':'.toUInt8 then
        match Decimal.int64? text with
        | some value => .ok (.complete (.integer value))
        | none => .error .invalidInteger
      else if type = '$'.toUInt8 then
        counted (fun n => if maxBulk < n then .error .bulkTooLong else .ok (.bulk n)) text
      else if type = '*'.toUInt8 then counted (fun n => .ok (.array n)) text
      else .error .unknownType

-- `levels` is how many more arrays may be opened inside one another.
def scanWithin (levels : Nat) (bytes : Bytes) : Scan Reply :=
  (scanLine bytes).andThen fun line rest =>
    match Header.ofLine line with
    | .error fault => .malformed fault rest
    | .ok (.complete reply) => .done reply rest
    | .ok (.bulk length) => (scanBulk length rest).map .bulk
    | .ok (.array count) =>
        match levels with
        | 0 => .malformed .nestedTooDeep rest
        | levels + 1 => (Scan.many (scanWithin levels) count [] rest).map .array

def scan (bytes : Bytes) : Scan Reply := scanWithin maxDepth bytes

def scanAt (depth : Nat) (bytes : Bytes) : Scan Reply := scanWithin (maxDepth - depth) bytes

end Reply

inductive Ending where
  | endOfFile
  | failure (error : IoError)
deriving DecidableEq, Repr

def Ending.error : Ending → LinkError
  | .endOfFile => .closed
  | .failure error => .io error

def Scan.settle {α : Type} (scan : Scan α) (ending : Ending) : Except LinkError α × Bytes :=
  match scan with
  | .done value rest => (.ok value, rest)
  | .malformed fault rest => (.error (.protocol fault.text), rest)
  | .short => (.error ending.error, [])

def Reply.read (ending : Ending) (bytes : Bytes) : Except LinkError Reply × Bytes :=
  (Reply.scan bytes).settle ending

def Reply.readAt (depth : Nat) (ending : Ending) (bytes : Bytes) : Except LinkError Reply × Bytes :=
  (Reply.scanAt depth bytes).settle ending

end RespClient
