set_option autoImplicit false

namespace RespClient

structure Address where
  host : String
  port : UInt16
deriving DecidableEq, Repr

namespace Address

def defaultPort : UInt16 := 6379

def text (address : Address) : String :=
  let port := ":" ++ Nat.repr address.port.toNat
  if ':' ∈ address.host.toList then "[" ++ address.host ++ "]" ++ port
  else address.host ++ port

def split : List Char → Option (List Char × List Char)
  | '[' :: rest =>
      let host := rest.takeWhile (· ≠ ']')
      match rest.dropWhile (· ≠ ']') with
      | [_] => some (host, [])
      | _ :: ':' :: port => some (host, port)
      | _ => none
  | chars =>
      let host := chars.takeWhile (· ≠ ':')
      match chars.dropWhile (· ≠ ':') with
      | [] => some (host, [])
      | _ :: port => if ':' ∈ port then none else some (host, port)

def portNumber (digits : List Char) : Option UInt16 :=
  if digits ≠ [] ∧ digits.all Char.isDigit then
    let n := Nat.ofDigitChars 10 digits 0
    if 0 < n ∧ n < 65536 then some n.toUInt16 else none
  else none

def readPort : List Char → Option UInt16
  | [] => some defaultPort
  | '+' :: digits => portNumber digits
  | digits => portNumber digits

def ofChars? (chars : List Char) : Option Address :=
  match split chars with
  | none => none
  | some (host, port) =>
      if host = [] then none
      else (readPort port).map fun number => ⟨String.ofList host, number⟩

inductive Layout : List Char → List Char → List Char → Prop where
  | bracketed {host : List Char} : ']' ∉ host → Layout ('[' :: (host ++ [']'])) host []
  | bracketedPort {host port : List Char} :
      ']' ∉ host → Layout ('[' :: (host ++ ']' :: ':' :: port)) host port
  | bare {host : List Char} : host.head? ≠ some '[' → ':' ∉ host → Layout host host []
  | barePort {host port : List Char} :
      host.head? ≠ some '[' → ':' ∉ host → ':' ∉ port → Layout (host ++ ':' :: port) host port

end Address
end RespClient
