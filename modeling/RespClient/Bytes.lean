set_option autoImplicit false

namespace RespClient

abbrev Bytes := List UInt8

def cr : UInt8 := 13
def lf : UInt8 := 10
def crlf : Bytes := [cr, lf]

def Bytes.ofText (text : String) : Bytes := text.toUTF8.data.toList

namespace Utf8

def replacement : Char := '\ufffd'

inductive State where
  | start
  | inside (left : Nat) (low high : UInt8) (code : Nat)
deriving DecidableEq, Repr

-- What a byte above 127 begins. The bounds on the second byte leave out overlong forms,
-- surrogates and everything past U+10FFFF.
def lead (byte : UInt8) : Option State :=
  let bits := byte.toNat
  if byte < 0xC2 then none
  else if byte < 0xE0 then some (.inside 1 0x80 0xBF (bits - 0xC0))
  else if byte = 0xE0 then some (.inside 2 0xA0 0xBF 0)
  else if byte = 0xED then some (.inside 2 0x80 0x9F 0xD)
  else if byte < 0xF0 then some (.inside 2 0x80 0xBF (bits - 0xE0))
  else if byte = 0xF0 then some (.inside 3 0x90 0xBF 0)
  else if byte < 0xF4 then some (.inside 3 0x80 0xBF (bits - 0xF0))
  else if byte = 0xF4 then some (.inside 3 0x80 0x8F 4)
  else none

structure Decoder where
  chars : List Char := []
  state : State := .start
deriving Repr

def Decoder.begin (chars : List Char) (byte : UInt8) : Decoder :=
  if byte < 0x80 then ⟨Char.ofNat byte.toNat :: chars, .start⟩
  else match lead byte with
    | some state => ⟨chars, state⟩
    | none => ⟨replacement :: chars, .start⟩

def Decoder.step (decoder : Decoder) (byte : UInt8) : Decoder :=
  match decoder.state with
  | .start => .begin decoder.chars byte
  | .inside left low high code =>
      if low ≤ byte ∧ byte ≤ high then
        let code := 64 * code + (byte.toNat - 0x80)
        if left ≤ 1 then ⟨Char.ofNat code :: decoder.chars, .start⟩
        else ⟨decoder.chars, .inside (left - 1) 0x80 0xBF code⟩
      else .begin (replacement :: decoder.chars) byte

def Decoder.finish (decoder : Decoder) : List Char :=
  match decoder.state with
  | .start => decoder.chars.reverse
  | .inside .. => (replacement :: decoder.chars).reverse

def decode (bytes : Bytes) : String :=
  String.ofList (bytes.foldl Decoder.step {}).finish

end Utf8
end RespClient
