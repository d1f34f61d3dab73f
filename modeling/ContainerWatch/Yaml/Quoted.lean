import ContainerWatch.Numeral
import ContainerWatch.Yaml.Place
/-!
# Quoted scalars

A scalar between quotes.  Between single quotes only the quote is special, and written twice; between
double quotes a backslash starts an escape, and one at the end of a line joins it with the next.  White
space with a line break in it is folded.
-/

namespace ContainerWatch.Yaml

/-- The two kinds of quotes. -/
inductive Quote where
  | single
  | double
  deriving DecidableEq, Repr

namespace Quote

/-- The character that opens and closes a scalar. -/
def mark : Quote → Char
  | single => '\''
  | double => '"'

/-- The character that a backslash and a letter stand for. -/
def shortEscape? : Char → Option Char
  | '0' => some '\x00'
  | 'a' => some '\x07'
  | 'b' => some '\x08'
  | 't' | '\t' => some '\t'
  | 'n' => some '\n'
  | 'v' => some '\x0b'
  | 'f' => some '\x0c'
  | 'r' => some '\r'
  | 'e' => some '\x1b'
  | ' ' => some ' '
  | '"' => some '"'
  | '/' => some '/'
  | '\\' => some '\\'
  | 'N' => some '\u0085'
  | '_' => some '\u00a0'
  | 'L' => some '\u2028'
  | 'P' => some '\u2029'
  | _ => none

/-- How many hexadecimal digits an escape by number has. -/
def digitCount? : Char → Option Nat
  | 'x' => some 2
  | 'u' => some 4
  | 'U' => some 8
  | _ => none

/-- The character with a number that is written in exactly so many hexadecimal digits. -/
def numbered? (count : Nat) (s : List Char) : Option Char := do
  guard (count ≤ s.length)
  let n ← Numeral.inBase? 16 (s.take count)
  if n.isValidChar then some (Char.ofNat n) else none

/-- The character of an escape after the backslash, and how many characters it takes. -/
def escape? : List Char → Option (Char × Nat)
  | [] => none
  | e :: rest =>
    match digitCount? e with
    | some count => (numbered? count rest).map fun c => (c, count + 1)
    | none => (shortEscape? e).map fun c => (c, 1)

/-- The text up to the closing quote, added to what was read before it in reverse, and the place after
the quote. -/
def textFrom (q : Quote) : Nat → List Char → Place → Option (List Char × Place)
  | 0, _, _ => none
  | fuel + 1, done, p =>
    match p.rest with
    | [] => none
    | c :: rest =>
      if p.atMarker then none
      else if isBlank c || isBreak c then
        textFrom q fuel (p.gap.folded.reverse ++ done) p.afterGap
      else if c = q.mark then
        if q = single ∧ rest.head? = some '\'' then textFrom q fuel ('\'' :: done) (p.skip 2)
        else some (done.reverse, p.skip 1)
      else if q = double ∧ c = '\\' then
        if (rest.head?.map isBreak).getD false then
          let below := (p.skip 1).next
          textFrom q fuel (below.gap.breaks.reverse ++ done) below.afterGap
        else
          match escape? rest with
          | some (e, count) => textFrom q fuel (e :: done) (p.skip (count + 1))
          | none => none
      else textFrom q fuel (c :: done) (p.skip 1)

/-- The text of the quoted scalar that starts here, and the place after it. -/
def scan? (q : Quote) (p : Place) : Option (List Char × Place) :=
  q.textFrom p.rest.length [] (p.skip 1)

end Quote

end ContainerWatch.Yaml
