import ContainerWatch.Numeral
import ContainerWatch.Yaml.Place
/-!
# Tags and directives

A tag names the type of a node.  It is written in full between angle brackets, or as a handle, which a
directive may define, and the rest of the name.  Directives stand before a document, one in a line, and
give the version of the language or the text that a handle stands for.
-/

namespace ContainerWatch.Yaml

/-- A tag as it is written.  The text of a tag without a handle is complete. -/
structure Tag where
  handle : String
  text : String
  deriving DecidableEq, Repr

/-- What is said before a document. -/
inductive Directive where
  | version (major minor : Nat)
  | handle (handle stem : String)
  deriving DecidableEq, Repr

namespace Tag

/-- The octet that an escape at the front gives by two hexadecimal digits. -/
def octet? : List Char → Option Nat
  | '%' :: a :: b :: _ => Numeral.inBase? 16 [a, b]
  | _ => none

/-- How many octets a character has whose first octet is given. -/
def octetCount? (first : Nat) : Option Nat :=
  if first < 0x80 then some 1
  else if 0xC0 ≤ first ∧ first < 0xE0 then some 2
  else if 0xE0 ≤ first ∧ first < 0xF0 then some 3
  else if 0xF0 ≤ first ∧ first < 0xF8 then some 4
  else none

/-- Whether an escape at the front gives an octet that continues a character. -/
def continues (s : List Char) : Bool :=
  (octet? s).any fun n => 0x80 ≤ n && n < 0xC0

/-- The character that is escaped at the front, and how many characters the escape takes.  A
character of several octets stays escaped. -/
def escape? (s : List Char) : Option (List Char × Nat) := do
  let first ← octet? s
  let count ← octetCount? first
  if count = 1 then some ([Char.ofNat first], 3)
  else if (List.range (count - 1)).all fun i => continues (s.drop (3 * (i + 1))) then
    some (s.take (3 * count), 3 * count)
  else none

/-- The characters of a name from here on, added to those before them in reverse, and the place after
them. -/
def nameFrom (marks : List Char) : Nat → List Char → Place → Option (List Char × Place)
  | 0, _, _ => none
  | fuel + 1, done, p =>
    match p.rest with
    | [] => some (done.reverse, p)
    | c :: _ =>
      if c = '%' then
        match escape? p.rest with
        | some (cs, count) => nameFrom marks fuel (cs.reverse ++ done) (p.skip count)
        | none => none
      else if isNameChar c || isTagMark c || marks.contains c then
        nameFrom marks fuel (c :: done) (p.skip 1)
      else some (done.reverse, p)

/-- The name from here on, in which some characters besides the usual ones may stand. -/
def name? (marks : List Char) (p : Place) : Option (List Char × Place) :=
  nameFrom marks (p.rest.length + 1) [] p

/-- A name from here on that is not empty. -/
def properName? (marks : List Char) (p : Place) : Option (List Char × Place) :=
  (name? marks p).filter fun part => !part.1.isEmpty

/-- The characters that may stand in a name that is written in full. -/
def fullMarks : List Char := [',', '[', ']']

/-- The tag that starts here, and the place after it. -/
def named? (p : Place) : Option (Tag × Place) :=
  let inner := p.skip 1
  if inner.rest.head? = some '<' then do
    let (name, q) ← properName? fullMarks (inner.skip 1)
    if q.rest.head? = some '>' then some (⟨"", String.ofList name⟩, q.skip 1) else none
  else
    let word := inner.word isNameChar
    let q := inner.afterWord isNameChar
    if q.rest.head? = some '!' then do
      let (name, q) ← properName? [] (q.skip 1)
      some (⟨String.ofList ('!' :: word ++ ['!']), String.ofList name⟩, q)
    else do
      let (name, q) ← name? [] q
      let text := word ++ name
      some (if text.isEmpty then ⟨"", "!"⟩ else ⟨"!", String.ofList text⟩, q)

/-- The tag that starts here and stands for itself, and the place after it. -/
def scan? (inFlow : Bool) (p : Place) : Option (Tag × Place) :=
  (named? p).filter fun part => endsWord part.2.rest || inFlow && part.2.rest.head? == some ','

end Tag

namespace Directive

/-- A number of at most nine digits, and the place after it. -/
def number? (p : Place) : Option (Nat × Place) := do
  let digits := p.word Char.isDigit
  guard (digits.length ≤ 9)
  let n ← Numeral.natural? digits
  some (n, p.afterWord Char.isDigit)

/-- A version: two numbers with a point between them. -/
def version? (p : Place) : Option (Directive × Place) := do
  let (major, p) ← number? p
  guard (p.rest.head? = some '.')
  let (minor, p) ← number? (p.skip 1)
  some (version major minor, p)

/-- A handle: an exclamation mark alone, or a word between two of them. -/
def handle? (p : Place) : Option (String × Place) := do
  guard (p.rest.head? = some '!')
  let word := (p.skip 1).word isNameChar
  let q := (p.skip 1).afterWord isNameChar
  if q.rest.head? = some '!' then some (String.ofList ('!' :: word ++ ['!']), q.skip 1)
  else if word.isEmpty then some ("!", q)
  else none

/-- The definition of a handle. -/
def definition? (p : Place) : Option (Directive × Place) := do
  let (name, p) ← handle? p
  guard ((p.rest.head?.map isBlank).getD false)
  let (stem, p) ← Tag.properName? Tag.fullMarks p.afterBlanks
  guard (endsWord p.rest)
  some (handle name (String.ofList stem), p)

/-- The directive in the line that starts here, and the place in the next line. -/
def scan? (p : Place) : Option (Directive × Place) := do
  let p := p.skip 1
  let word := p.word isNameChar
  let q := p.afterWord isNameChar
  guard (endsWord q.rest)
  let (directive, q) ←
    if word = "YAML".toList then version? q.afterBlanks
    else if word = "TAG".toList then definition? q.afterBlanks
    else none
  let q ← q.lineEnd?
  some (directive, q)

end Directive

end ContainerWatch.Yaml
