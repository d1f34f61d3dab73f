import ContainerWatch.Numeral
import ContainerWatch.Yaml.Place
/-!
# Block scalars

A scalar that takes whole lines, all indented alike.  Its header says whether lines are kept or folded,
what becomes of the line breaks at the end, and possibly how far the lines are indented; without that
the first line that is not blank shows it.
-/

namespace ContainerWatch.Yaml.Block

/-- What becomes of the line breaks at the end of a block scalar. -/
inductive Chomping where
  /-- none is kept -/
  | strip
  /-- one is kept -/
  | clip
  /-- all are kept -/
  | keep
  deriving DecidableEq, Repr

/-- A line of a block scalar that is not blank. -/
structure Line where
  text : List Char
  /-- the line break at its end -/
  ending : Option Char
  /-- the line breaks of the blank lines after it -/
  blankAfter : List Char
  deriving DecidableEq, Repr

/-! ## The text of the lines -/

/-- Whether a line starts with a blank. -/
def Line.isIndented (l : Line) : Bool := (l.text.head?.map isBlank).getD false

/-- What stands between two lines. -/
def between (folded : Bool) (a b : Line) : List Char :=
  if folded && a.ending == some '\n' && !a.isIndented && !b.isIndented then
    if a.blankAfter.isEmpty then [' '] else a.blankAfter
  else a.ending.toList ++ a.blankAfter

/-- What stands after the last line. -/
def ended (c : Chomping) (l : Line) : List Char :=
  match c with
  | .strip => []
  | .clip => l.ending.toList
  | .keep => l.ending.toList ++ l.blankAfter

/-- The text of lines. -/
def joined (folded : Bool) (c : Chomping) : List Line → List Char
  | [] => []
  | [l] => l.text ++ ended c l
  | a :: b :: rest => a.text ++ between folded a b ++ joined folded c (b :: rest)

/-- The text of a block scalar: the line breaks before the first line, and the lines. -/
def textOf (folded : Bool) (c : Chomping) (blankBefore : List Char) (lines : List Line) : List Char :=
  if lines.isEmpty then if c = .keep then blankBefore else []
  else blankBefore ++ joined folded c lines

/-! ## The header -/

/-- The sign for what becomes of the line breaks at the end, and the place after it. -/
def chomping (p : Place) : Option Chomping × Place :=
  match p.rest with
  | '-' :: _ => (some .strip, p.skip 1)
  | '+' :: _ => (some .keep, p.skip 1)
  | _ => (none, p)

/-- The digit for how far the lines are indented, and the place after it. -/
def increment (p : Place) : Option Nat × Place :=
  match p.rest with
  | [] => (none, p)
  | c :: _ => if c.isDigit && c != '0' then (some (Numeral.digitValue c), p.skip 1) else (none, p)

/-- What the header says, its two parts in either order, and the place in the next line. -/
def header? (p : Place) : Option (Chomping × Option Nat × Place) := do
  let (early, p) := chomping p
  let (digit, p) := increment p
  let (late, p) := if early.isNone then chomping p else (none, p)
  let p ← p.lineEnd?
  some ((early <|> late).getD .clip, digit, p)

/-! ## The lines -/

/-- The place after the indentation of a line, which is not deeper than the one that is known. -/
def afterIndentation (known : Option Nat) (p : Place) : Place :=
  let spaces := (p.word (· == ' ')).length
  p.skip (match known with
    | some indentation => min spaces (indentation - p.column)
    | none => spaces)

/-- The line breaks of the blank lines from here on, the column of the widest indentation, and the
place after the indentation of the next line.  A tab inside the indentation is refused. -/
def blankLines? (known : Option Nat) :
    Nat → Nat → List Char → Place → Option (List Char × Nat × Place)
  | 0, _, _, _ => none
  | fuel + 1, widest, breaks, p =>
    let q := afterIndentation known p
    let widest := max widest q.column
    if q.rest.head? = some '\t' && (known.map fun n => decide (q.column < n)).getD true then none
    else if q.rest.isEmpty || !endsLine q.rest then some (breaks.reverse, widest, q)
    else blankLines? known fuel widest (q.rest.take 1 ++ breaks) q.next

/-- The lines from here on with an indentation, and the place after them. -/
def lines? (indentation : Nat) : Nat → Place → Option (List Line × Place)
  | 0, _ => none
  | fuel + 1, p =>
    if p.column ≠ indentation ∨ p.rest = [] then some ([], p)
    else do
      let q := p.afterWord fun _ => true
      let (blankAfter, _, after) ←
        blankLines? (some indentation) (q.rest.length + 1) 0 [] q.next
      let (others, last) ← lines? indentation fuel after
      some (⟨p.word fun _ => true, q.rest.head?, blankAfter⟩ :: others, last)

/-- The text of the block scalar that starts here, and the place after it.  The margin is the column
where the text of the innermost block collection starts. -/
def scan? (folded : Bool) (margin : Nat) (p : Place) : Option (List Char × Place) := do
  let (chomping, digit, p) ← header? (p.skip 1)
  let known := digit.map fun n => margin - 1 + n
  let (blankBefore, widest, p) ← blankLines? known (p.rest.length + 1) 0 [] p
  let indentation := known.getD (max widest (max margin 1))
  let (lines, p) ← lines? indentation (p.rest.length + 1) p
  some (textOf folded chomping blankBefore lines, p)

end ContainerWatch.Yaml.Block
