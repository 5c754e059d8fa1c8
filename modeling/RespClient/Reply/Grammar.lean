import RespClient.Command
import RespClient.Reply.Scan

set_option autoImplicit false

namespace RespClient

def Numeral (text : Bytes) (n : Int) : Prop :=
  ∃ digits : Bytes, digits ≠ [] ∧ (∀ digit ∈ digits, 48 ≤ digit ∧ digit ≤ 57) ∧
    (text = digits ∧ n = Decimal.value digits ∨
      text = Decimal.minus :: digits ∧ n = -(Decimal.value digits : Int)) ∧
    Int64.minValue.toInt ≤ n ∧ n ≤ Int64.maxValue.toInt

namespace Reply

def LineBody (body : Bytes) : Prop := lf ∉ body ∧ body.length + 3 ≤ 65536

mutual
inductive Encodes : Nat → Bytes → Reply → Prop where
  | status {depth : Nat} {body : Bytes} :
      LineBody body → Encodes depth (Framing.line '+' body) (.status (Utf8.decode body))
  | error {depth : Nat} {body : Bytes} :
      LineBody body → Encodes depth (Framing.line '-' body) (.error (Utf8.decode body))
  | integer {depth : Nat} {body : Bytes} {value : Int64} :
      LineBody body → Numeral body value.toInt →
      Encodes depth (Framing.line ':' body) (.integer value)
  | noBulk {depth : Nat} {body : Bytes} :
      LineBody body → Numeral body (-1) → Encodes depth (Framing.line '$' body) .nil
  | noArray {depth : Nat} {body : Bytes} :
      LineBody body → Numeral body (-1) → Encodes depth (Framing.line '*' body) .nil
  | bulk {depth : Nat} {body data : Bytes} :
      LineBody body → Numeral body data.length → data.length ≤ 536870912 →
      Encodes depth (Framing.line '$' body ++ (data ++ crlf)) (.bulk data)
  | array {depth : Nat} {body bytes : Bytes} {items : List Reply} :
      LineBody body → Numeral body items.length → depth < 32 →
      EncodesAll (depth + 1) bytes items →
      Encodes depth (Framing.line '*' body ++ bytes) (.array items)
inductive EncodesAll : Nat → Bytes → List Reply → Prop where
  | nil {depth : Nat} : EncodesAll depth [] []
  | cons {depth : Nat} {first rest : Bytes} {item : Reply} {items : List Reply} :
      Encodes depth first item → EncodesAll depth rest items →
      EncodesAll depth (first ++ rest) (item :: items)
end

mutual
def encode : Reply → Bytes
  | .status text => Framing.line '+' (Bytes.ofText text)
  | .error text => Framing.line '-' (Bytes.ofText text)
  | .integer value => Framing.line ':' (Decimal.ofInt value.toInt)
  | .bulk data => Framing.bulk data
  | .nil => Framing.line '$' (Decimal.ofInt (-1))
  | .array items => Framing.count '*' items.length ++ encodeAll items
def encodeAll : List Reply → Bytes
  | [] => []
  | item :: items => encode item ++ encodeAll items
end

def FitsLine (text : String) : Prop :=
  lf ∉ Bytes.ofText text ∧ (Bytes.ofText text).length + 3 ≤ 65536

-- Replies whose encoding is within the limits when it starts at nesting depth `depth`. The
-- bound on the number of items leaves nothing out: no machine holds a longer list.
mutual
def Fits (depth : Nat) : Reply → Prop
  | .status text => FitsLine text
  | .error text => FitsLine text
  | .integer _ => True
  | .bulk data => data.length ≤ 536870912
  | .nil => True
  | .array items => depth < 32 ∧ items.length ≤ Int64.maxValue.toInt ∧ FitsAll (depth + 1) items
def FitsAll (depth : Nat) : List Reply → Prop
  | [] => True
  | item :: items => Fits depth item ∧ FitsAll depth items
end

end Reply
end RespClient
