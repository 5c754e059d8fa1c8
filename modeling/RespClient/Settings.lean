import RespClient.Expiry

set_option autoImplicit false

namespace RespClient

inductive ConfigValue where
  | null
  | integer (value : Int)
  | text (value : String)
  | table (entries : List (String × ConfigValue))
  | other
deriving Repr, Inhabited

structure Settings where
  addr : String := "127.0.0.1:6379"
  connectTimeout : Span := .ofSeconds 2
  readTimeout : Option Span := none
  writeTimeout : Option Span := none
deriving DecidableEq, Repr

namespace ConfigValue

def text? : ConfigValue → Option String
  | .text value => some value
  | _ => none

def natBelow? (limit : Nat) : ConfigValue → Option Nat
  | .integer (.ofNat n) => if n < limit then some n else none
  | _ => none

def span? : ConfigValue → Option Span
  | .table entries => do
      let seconds ← natBelow? UInt64.size (← entries.lookup "secs")
      let nanos ← natBelow? UInt32.size (← entries.lookup "nanos")
      let span : Span := ⟨seconds * nanosPerSecond + nanos⟩
      if entries.all (fun entry => entry.1 == "secs" || entry.1 == "nanos") && span.seconds < UInt64.size
      then some span else none
  | _ => none

def optionalSpan? : ConfigValue → Option (Option Span)
  | .null => some none
  | value => value.span?.map some

end ConfigValue

namespace Settings

def field {α : Type} (name : String) (absent : α) (read : ConfigValue → Option α)
    (entries : List (String × ConfigValue)) : Option α :=
  match entries.lookup name with
  | none => some absent
  | some value => read value

def ofConfig? : ConfigValue → Option Settings
  | .table entries => do
      let defaults : Settings := {}
      return {
        addr := ← field "addr" defaults.addr ConfigValue.text? entries
        connectTimeout := ← field "connect_timeout" defaults.connectTimeout ConfigValue.span? entries
        readTimeout := ← field "read_timeout" defaults.readTimeout ConfigValue.optionalSpan? entries
        writeTimeout := ← field "write_timeout" defaults.writeTimeout ConfigValue.optionalSpan? entries }
  | _ => none

end Settings
end RespClient
