/-!
# JSON values

The values of JSON.  Numbers are kept apart by how they are written: an `integer` has neither
fraction nor exponent and may be of any size; every other numeral, the numeral `-0` included, is kept
as it stands.  The members of an object keep their order, and a name may occur more than once.
-/

namespace ContainerWatch.Json

/-- A JSON value. -/
inductive Value where
  | null
  | bool (b : Bool)
  | integer (n : Int)
  /-- a number with a fraction or an exponent, as written -/
  | real (numeral : String)
  | string (s : String)
  | array (items : List Value)
  | object (members : List (String × Value))
  deriving Inhabited

namespace Value

/-- The text of a string value. -/
def string? : Value → Option String
  | string s => some s
  | _ => none

/-- The truth value of a boolean value. -/
def bool? : Value → Option Bool
  | bool b => some b
  | _ => none

/-- The integer of an integer value that lies within bounds. -/
def integerWithin? (low high : Int) : Value → Option Int
  | integer n => if low ≤ n ∧ n ≤ high then some n else none
  | _ => none

/-- The items of an array, each decoded. -/
def list? {α : Type} (item : Value → Option α) : Value → Option (List α)
  | array items => items.mapM item
  | _ => none

/-- The members of an object. -/
def members? : Value → Option (List (String × Value))
  | object members => some members
  | _ => none

end Value

/-! ## Members by name -/

/-- The first member with a name. -/
def member? (name : String) (members : List (String × Value)) : Option Value :=
  (members.find? fun m => m.1 == name).map (·.2)

/-- A member that has to be there. -/
def required {α : Type} (name : String) (decode : Value → Option α)
    (members : List (String × Value)) : Option α :=
  (member? name members).bind decode

/-- A member that may be missing or null. -/
def optional {α : Type} (name : String) (decode : Value → Option α)
    (members : List (String × Value)) : Option (Option α) :=
  match member? name members with
  | none | some .null => some none
  | some v => (decode v).map some

/-- Whether some name of a list occurs more than once among the members. -/
def repeats (names : List String) (members : List (String × Value)) : Bool :=
  names.any fun name => 1 < (members.filter fun m => m.1 == name).length

/-- The members with the last value of each name only. -/
def lastOfEach (members : List (String × Value)) : List (String × Value) :=
  match members with
  | [] => []
  | m :: rest => if rest.any fun n => n.1 == m.1 then lastOfEach rest else m :: lastOfEach rest

end ContainerWatch.Json
