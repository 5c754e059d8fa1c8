import RespClient.Decimal

set_option autoImplicit false

namespace RespClient

namespace Framing

def line (type : Char) (text : Bytes) : Bytes := type.toUInt8 :: (text ++ crlf)

def count (type : Char) (n : Nat) : Bytes := line type (Decimal.ofNat n)

def bulk (data : Bytes) : Bytes := count '$' data.length ++ (data ++ crlf)

end Framing

inductive Token where
  | word (text : String)
  | int (value : Int64)
  | data (bytes : Bytes)
deriving DecidableEq, Repr

def Token.bytes : Token → Bytes
  | .word text => Bytes.ofText text
  | .int value => Decimal.text value
  | .data bytes => bytes

def Token.push (buffer : Bytes) : Token → Bytes
  | .word text => buffer ++ Framing.bulk (Bytes.ofText text)
  | .int value => buffer ++ Framing.bulk (Decimal.text value)
  | .data bytes => buffer ++ Framing.bulk bytes

structure Command where
  name : String
  tokens : List Token := []
deriving DecidableEq, Repr

namespace Command

def append (command : Command) (tokens : List Token) : Command :=
  { command with tokens := command.tokens ++ tokens }

def word (command : Command) (text : String) : Command := command.append [.word text]
def int (command : Command) (value : Int64) : Command := command.append [.int value]
def arg (command : Command) (data : Bytes) : Command := command.append [.data data]
def args (command : Command) (items : List Bytes) : Command := command.append (items.map .data)

def all (command : Command) : List Token := .word command.name :: command.tokens

def parts (command : Command) : List Bytes := command.all.map Token.bytes

def size (command : Command) : Nat := command.all.length

def encodeOnto (buffer : Bytes) (command : Command) : Bytes :=
  command.all.foldl Token.push (buffer ++ Framing.count '*' command.size)

def encode (command : Command) : Bytes := command.encodeOnto []

end Command

namespace Request

def takeCount (type : Char) (bytes : Bytes) : Option (Nat × Bytes) :=
  let digits := bytes.tail.takeWhile Decimal.isDigit
  let behind := bytes.tail.drop digits.length
  if bytes.head? = some type.toUInt8 ∧ behind.take 2 = crlf then
    (Decimal.nat? digits).map fun n => (n, behind.drop 2)
  else none

def takeData (length : Nat) (bytes : Bytes) : Option (Bytes × Bytes) :=
  if (bytes.drop length).take 2 = crlf then some (bytes.take length, bytes.drop (length + 2))
  else none

def takeBulk (bytes : Bytes) : Option (Bytes × Bytes) :=
  (takeCount '$' bytes).bind fun (length, behind) => takeData length behind

def takeBulks : Nat → Bytes → Option (List Bytes × Bytes)
  | 0, bytes => some ([], bytes)
  | count + 1, bytes => do
      let (part, behind) ← takeBulk bytes
      let (parts, behind) ← takeBulks count behind
      return (part :: parts, behind)

def take? (bytes : Bytes) : Option (List Bytes × Bytes) :=
  (takeCount '*' bytes).bind fun (count, behind) => takeBulks count behind

def decode? (bytes : Bytes) : Option (List Bytes) := do
  let (count, behind) ← takeCount '*' bytes
  let (parts, behind) ← takeBulks count behind
  if behind = [] then some parts else none

end Request
end RespClient
