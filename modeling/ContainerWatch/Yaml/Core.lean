import ContainerWatch.Numeral
import ContainerWatch.Yaml.Node
/-!
# What scalars stand for

The types that are read off scalars.  A text can be read off every scalar.  A number or a truth value
stands only in a plain scalar, or in a literal one whose tag says so.  An optional text is absent where
nothing is written or a plain null is.

Main statement: `unsigned?_le`, a number that is read fits eight bytes.
-/

namespace ContainerWatch.Yaml

/-- The tags of the types that have one of their own. -/
def nullTag : String := "tag:yaml.org,2002:null"

@[inherit_doc nullTag] def intTag : String := "tag:yaml.org,2002:int"

@[inherit_doc nullTag] def boolTag : String := "tag:yaml.org,2002:bool"

namespace Scalar

/-- Whether the text is one of those that stand for null. -/
def isNull (s : Scalar) : Bool := ["null", "Null", "NULL", "~"].contains s.text

/-- Whether a value with a tag of its own may stand in the scalar. -/
def mayHold (s : Scalar) (tag : String) : Bool :=
  s.style == .plain || s.style == .literal && s.tag == some tag

/-- The truth value of a word. -/
def truth? : String → Option Bool
  | "true" | "True" | "TRUE" => some true
  | "false" | "False" | "FALSE" => some false
  | _ => none

/-- The number in a numeral: decimal without leading zeros, or with a mark for base 16, 8 or 2. -/
def numeral? : List Char → Option Nat
  | '0' :: 'x' :: digits => Numeral.inBase? 16 digits
  | '0' :: 'o' :: digits => Numeral.inBase? 8 digits
  | '0' :: 'b' :: digits => Numeral.inBase? 2 digits
  | '0' :: _ :: _ => none
  | digits => Numeral.natural? digits

/-- The number in a numeral that may have a plus sign, if it fits eight bytes. -/
def unsigned? (s : List Char) : Option Nat :=
  (match s with
    | '+' :: rest => numeral? rest
    | _ => numeral? s).filter fun n => n ≤ Numeral.nat64Max

/-- A number that is read fits eight bytes. -/
theorem unsigned?_le {s : List Char} {n : Nat} (h : unsigned? s = some n) : n ≤ Numeral.nat64Max :=
  of_decide_eq_true (Option.filter_eq_some_iff.1 h).2

/-- The truth value of a scalar. -/
def bool? (s : Scalar) : Option Bool := if s.mayHold boolTag then truth? s.text else none

/-- The number of a scalar, if it fits eight bytes without a sign. -/
def nat64? (s : Scalar) : Option Nat := if s.mayHold intTag then unsigned? s.text.toList else none

/-- The text of a scalar, none where it is absent.  Only null may have the tag of null. -/
def optionalText? (s : Scalar) : Option (Option String) :=
  if s.style ≠ .plain then some (some s.text)
  else match s.tag with
    | some tag =>
      if tag = nullTag then if s.isNull then some none else none else some (some s.text)
    | none => some (if s.text.isEmpty || s.isNull then none else some s.text)

end Scalar

namespace Document

/-- The scalar that a node stands for. -/
def scalar? (d : Document) (n : Node) : Option Scalar :=
  match d.resolve? n with
  | some (.scalar s) => some s
  | _ => none

/-- The text of a node. -/
def text? (d : Document) (n : Node) : Option String := (d.scalar? n).map Scalar.text

/-- The text of a node, none where it is absent. -/
def optionalText? (d : Document) (n : Node) : Option (Option String) :=
  (d.scalar? n).bind Scalar.optionalText?

/-- The truth value of a node. -/
def bool? (d : Document) (n : Node) : Option Bool := (d.scalar? n).bind Scalar.bool?

/-- The number of a node. -/
def nat64? (d : Document) (n : Node) : Option Nat := (d.scalar? n).bind Scalar.nat64?

/-- The texts of the items of a sequence.  Where nothing is written there are none. -/
def texts? (d : Document) (n : Node) : Option (List String) :=
  match d.resolve? n with
  | some (.sequence items) => items.mapM d.text?
  | some (.scalar s) => if s.isEmpty then some [] else none
  | _ => none

/-- The entries of a mapping under the texts of their keys.  Where nothing is written there are none. -/
def entries? (d : Document) (n : Node) : Option (List (String × Node)) :=
  match d.resolve? n with
  | some (.mapping entries) =>
    entries.mapM fun entry => (d.text? entry.1).map fun key => (key, entry.2)
  | some (.scalar s) => if s.isEmpty then some [] else none
  | _ => none

end Document

end ContainerWatch.Yaml
