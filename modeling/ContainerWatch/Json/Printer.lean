import ContainerWatch.Json.Value
import ContainerWatch.Text.Split
import ContainerWatch.Numeral
/-!
# Printing JSON

The compact text of a JSON value: no white space, the members of an object in their order.  In a
string only the quote, the backslash and the control characters below U+0020 are escaped, with the
short escapes where there are any.
-/

namespace ContainerWatch.Json

/-- A hexadecimal digit in lower case. -/
def hexDigit (n : Nat) : Char := Nat.digitChar (n % 16)

/-- A character of a string as it is printed. -/
def escaped (c : Char) : List Char :=
  match c with
  | '"' => ['\\', '"']
  | '\\' => ['\\', '\\']
  | '\n' => ['\\', 'n']
  | '\r' => ['\\', 'r']
  | '\t' => ['\\', 't']
  | '\x08' => ['\\', 'b']
  | '\x0c' => ['\\', 'f']
  | c =>
    if c.toNat < 0x20 then ['\\', 'u', '0', '0', hexDigit (c.toNat / 16), hexDigit c.toNat]
    else [c]

/-- A string in quotes. -/
def quoted (s : String) : String := "\"" ++ String.ofList (s.toList.flatMap escaped) ++ "\""

/-- The compact text of a value. -/
def Value.text : Value → String
  | .null => "null"
  | .bool b => if b then "true" else "false"
  | .integer n => String.ofList (Numeral.decimalInt n)
  | .real numeral => numeral
  | .string s => quoted s
  | .array items => "[" ++ Text.join "," (items.attach.map fun ⟨v, _⟩ => v.text) ++ "]"
  | .object members =>
    "\x7b" ++ Text.join "," (members.attach.map fun ⟨m, _⟩ => quoted m.1 ++ ":" ++ m.2.text) ++ "\x7d"
termination_by v => sizeOf v
decreasing_by
  · have := List.sizeOf_lt_of_mem ‹_›
    simp only [Value.array.sizeOf_spec]
    omega
  · have := List.sizeOf_lt_of_mem ‹_›
    have hm : sizeOf m.2 < sizeOf m := by
      obtain ⟨name, v⟩ := m
      simp only [Prod.mk.sizeOf_spec]
      omega
    simp only [Value.object.sizeOf_spec]
    omega

end ContainerWatch.Json
