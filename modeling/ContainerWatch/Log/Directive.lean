import ContainerWatch.Log.Line
import ContainerWatch.Numeral
import ContainerWatch.Text.Alphanumeric
import ContainerWatch.Text.Blank
/-!
# Log directives

A directive sets the threshold for the lines of some modules.  Its full form is
`target[span{fields}]=level`; every part may be missing, and a level without the rest is meant for all
lines.  Levels are named in any case or by a number from 0, nothing, to 5, everything; without a level
everything passes.  A directive that names a span or fields concerns lines inside that span only.
-/

namespace ContainerWatch.Log

/-- A rule about the threshold for some lines. -/
structure Directive where
  /-- what the module of a line has to start with -/
  target : Option String
  /-- the span that a line has to be in -/
  span : Option String
  /-- the fields that the span has to have -/
  fields : List String
  threshold : Threshold
  deriving DecidableEq, Repr

/-- Why a text is no directive. -/
inductive Directive.Fault where
  /-- the parts do not stand as they should -/
  | shape
  /-- the level is none -/
  | level
  deriving DecidableEq, Repr

namespace Directive

/-- The text of a fault. -/
def Fault.message : Fault → String
  | shape => "invalid filter directive"
  | level => "error parsing level filter: expected one of \"off\", \"error\", \"warn\", \"info\", "
      ++ "\"debug\", \"trace\", or a number 0-5"

/-- The text of a fault and those of its causes, outermost first. -/
def Fault.chain : Fault → List String
  | shape => [Fault.shape.message]
  | level => [Fault.level.message, Fault.level.message]

/-! ## Levels -/

/-- The threshold with a number. -/
def thresholdOfNumber? : Nat → Option Threshold
  | 0 => some none
  | 1 => some (some .error)
  | 2 => some (some .warn)
  | 3 => some (some .info)
  | 4 => some (some .debug)
  | 5 => some (some .trace)
  | _ => none

/-- The threshold with a name in lower case. -/
def thresholdOfName? : String → Option Threshold
  | "off" => some none
  | "error" => some (some .error)
  | "warn" => some (some .warn)
  | "info" => some (some .info)
  | "debug" => some (some .debug)
  | "trace" => some (some .trace)
  | _ => none

/-- The threshold that a text names, by a name in any case or a number. -/
def threshold? (s : List Char) : Option Threshold :=
  match (Numeral.unsigned? s).bind thresholdOfNumber? with
  | some t => some t
  | none => thresholdOfName? (String.ofList (s.map Char.toLower))

/-- The threshold after an equals sign, everything when nothing stands there. -/
def levelPart (s : List Char) : Except Fault Threshold :=
  if s.isEmpty then .ok (some .trace)
  else match threshold? s with
    | some t => .ok t
    | none => .error .level

/-! ## Spans and fields -/

/-- The fields up to a closing brace, with commas between them, and what follows the brace.  No field
may be empty. -/
def fieldList (current : List Char) : List Char → Except Fault (List String × List Char)
  | [] => .error .shape
  | c :: rest =>
    if c = ',' ∨ c = '\x7d' then
      if current.isEmpty then .error .shape
      else
        let field := String.ofList current.reverse
        if c = ',' then (fieldList [] rest).map fun part => (field :: part.1, part.2)
        else .ok ([field], rest)
    else fieldList (c :: current) rest

/-- The span after an opening bracket, with its fields, and what follows the closing bracket. -/
def spanPart (s : List Char) : Except Fault (Option String × List String × List Char) :=
  let name := s.takeWhile fun c => c != ']' && c != '\x7b'
  match s.drop name.length with
  | ']' :: rest => .ok (some (String.ofList name), [], rest)
  | '\x7b' :: rest => do
    let (fields, rest) ← fieldList [] rest
    let span := if name.isEmpty then none else some (String.ofList name)
    match rest with
    | ']' :: rest => .ok (span, fields, rest)
    | _ => .error .shape
  | _ => .error .shape

/-- A directive from its opening bracket on. -/
def withSpan (target : Option String) (s : List Char) : Except Fault Directive := do
  let (span, fields, rest) ← spanPart s
  match rest with
  | [] => .ok ⟨target, span, fields, some .trace⟩
  | '=' :: level => (levelPart level).map fun t => ⟨target, span, fields, t⟩
  | _ => .error .shape

/-! ## Directives -/

/-- Whether a name may start with a character. -/
def startsName (c : Char) : Bool := Text.isAlphanumeric c || c == '-' || c == ':' || c == '_'

/-- A name that stands alone: a level, or else a target whose lines all pass. -/
def bare (s : List Char) : Directive :=
  match threshold? s with
  | some t => ⟨none, none, [], t⟩
  | none => ⟨some (String.ofList s), none, [], some .trace⟩

/-- Reads a directive.  Blanks in front belong to a name that stands alone, and make what follows such a
name unreadable. -/
def read (s : List Char) : Except Fault Directive :=
  match Text.trimFront s with
  | [] => .error .shape
  | '[' :: rest => if s.head? = some '[' then withSpan none rest else .error .shape
  | first :: _ =>
    if startsName first then
      let name := s.takeWhile fun c => c != '=' && c != '[' && c != ','
      let target := some (String.ofList name)
      match s.drop name.length with
      | [] => .ok (bare s)
      | '=' :: level =>
        if s.head? = some first then (levelPart level).map fun t => ⟨target, none, [], t⟩
        else .error .level
      | '[' :: rest => if s.head? = some first then withSpan target rest else .error .shape
      | _ => .error .shape
    else .error .shape

/-- Whether a directive concerns lines whatever span they are in and whatever fields they have. -/
def isPlain (d : Directive) : Bool := d.span.isNone && d.fields.isEmpty

/-- Whether a directive concerns the lines of a module whatever span they are in.  A directive with fields
and no span also concerns the lines that have these fields; such lines are left out, so what a directive
covers is settled by the module alone. -/
def covers (d : Directive) (module : String) : Bool :=
  d.isPlain && (d.target.getD "").toList.isPrefixOf module.toList

/-- The directive that turns the lines of a module off. -/
def offText (module : String) : String := module ++ "=off"

end Directive

end ContainerWatch.Log
