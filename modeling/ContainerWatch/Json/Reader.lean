import ContainerWatch.Json.Value
import ContainerWatch.Numeral
/-!
# Reading JSON

A reader for texts that hold one JSON value.  It tells a text that ends too early (`incomplete`)
from one that no continuation completes (`malformed`), and refuses lists and objects nested deeper
than a bound.  A list or object and its first item take two steps for one character, so twice the
length of the text bounds the number of steps.
-/

namespace ContainerWatch.Json

/-- Why a text is not a JSON value. -/
inductive Fault where
  /-- the text ends inside the value -/
  | incomplete
  /-- the text goes on in a way that no value does -/
  | malformed
  deriving DecidableEq, Repr

/-- White space between the parts of a value. -/
def isSpace (c : Char) : Bool := c == ' ' || c == '\t' || c == '\n' || c == '\r'

/-- A text without white space at its front. -/
def skipSpace (s : List Char) : List Char := s.dropWhile isSpace

/-- What follows a word that has to stand at the front. -/
def afterWord : List Char → List Char → Except Fault (List Char)
  | [], s => .ok s
  | _ :: _, [] => .error .incomplete
  | w :: word, c :: rest => if c = w then afterWord word rest else .error .malformed

/-! ## Numbers -/

/-- A run of one digit or more, and what follows it. -/
def digitRun (s : List Char) : Except Fault (List Char × List Char) :=
  match s with
  | [] => .error .incomplete
  | c :: _ =>
    if c.isDigit then .ok (s.takeWhile Char.isDigit, s.dropWhile Char.isDigit) else .error .malformed

/-- The digits before the point: zero alone, or a run that does not start with zero. -/
def wholePart (s : List Char) : Except Fault (List Char × List Char) := do
  let (digits, rest) ← digitRun s
  if digits.head? == some '0' && 1 < digits.length then .error .malformed else .ok (digits, rest)

/-- A point with its digits, if there is one. -/
def fractionPart : List Char → Except Fault (List Char × List Char)
  | '.' :: rest => (digitRun rest).map fun part => ('.' :: part.1, part.2)
  | s => .ok ([], s)

/-- A sign in front of an exponent, if there is one. -/
def exponentSign : List Char → List Char × List Char
  | '+' :: rest => (['+'], rest)
  | '-' :: rest => (['-'], rest)
  | s => ([], s)

/-- An exponent, if there is one. -/
def exponentPart : List Char → Except Fault (List Char × List Char)
  | [] => .ok ([], [])
  | c :: rest =>
    if c = 'e' ∨ c = 'E' then
      let (sign, rest) := exponentSign rest
      (digitRun rest).map fun part => (c :: sign ++ part.1, part.2)
    else .ok ([], c :: rest)

/-- The value that the parts of a numeral write. -/
def numberOf (sign whole fraction exponent : List Char) : Value :=
  let negative := !sign.isEmpty
  let size := (Numeral.natural? whole).getD 0
  if fraction.isEmpty && exponent.isEmpty && !(negative && size == 0) then
    .integer (if negative then -size else size)
  else .real (String.ofList (sign ++ whole ++ fraction ++ exponent))

/-- A number, and what follows it. -/
def number (s : List Char) : Except Fault (Value × List Char) := do
  let sign := s.takeWhile (· == '-') |>.take 1
  let (whole, rest) ← wholePart (s.drop sign.length)
  let (fraction, rest) ← fractionPart rest
  let (exponent, rest) ← exponentPart rest
  .ok (numberOf sign whole fraction exponent, rest)

/-! ## Strings -/

/-- The value of the four hexadecimal digits of an escape, and what follows them. -/
def fourDigits (s : List Char) : Except Fault (Nat × List Char) :=
  match Numeral.inBase? 16 (s.take 4) with
  | some n => if s.length < 4 then .error .incomplete else .ok (n, s.drop 4)
  | none => if s.isEmpty then .error .incomplete else .error .malformed

/-- Whether a number is the first or the second half of a character in two halves. -/
def isHighHalf (n : Nat) : Bool := 0xD800 ≤ n && n < 0xDC00

@[inherit_doc isHighHalf] def isLowHalf (n : Nat) : Bool := 0xDC00 ≤ n && n < 0xE000

/-- The character of an escape by number, which may take two escapes, and what follows. -/
def numberedCharacter (s : List Char) : Except Fault (Char × List Char) := do
  let (first, rest) ← fourDigits s
  if isLowHalf first then .error .malformed
  else if isHighHalf first then do
    let rest ← afterWord ['\\', 'u'] rest
    let (second, rest) ← fourDigits rest
    if isLowHalf second then
      .ok (Char.ofNat (0x10000 + (first - 0xD800) * 0x400 + (second - 0xDC00)), rest)
    else .error .malformed
  else .ok (Char.ofNat first, rest)

/-- The character that a backslash and a letter stand for. -/
def shortEscape? : Char → Option Char
  | '"' => some '"'
  | '\\' => some '\\'
  | '/' => some '/'
  | 'b' => some '\x08'
  | 'f' => some '\x0c'
  | 'n' => some '\n'
  | 'r' => some '\r'
  | 't' => some '\t'
  | _ => none

/-- The characters of a string after its opening quote, added to those before them in reverse, and
what follows the closing quote. -/
def characters : Nat → List Char → List Char → Except Fault (String × List Char)
  | 0, _, _ => .error .incomplete
  | _ + 1, _, [] => .error .incomplete
  | _ + 1, done, '"' :: rest => .ok (String.ofList done.reverse, rest)
  | _ + 1, _, ['\\'] => .error .incomplete
  | fuel + 1, done, '\\' :: 'u' :: rest => do
    let (c, rest) ← numberedCharacter rest
    characters fuel (c :: done) rest
  | fuel + 1, done, '\\' :: e :: rest =>
    match shortEscape? e with
    | some c => characters fuel (c :: done) rest
    | none => .error .malformed
  | fuel + 1, done, c :: rest =>
    if c.toNat < 0x20 then .error .malformed else characters fuel (c :: done) rest

/-- A string after its opening quote. -/
def stringBody (s : List Char) : Except Fault (String × List Char) := characters (s.length + 1) [] s

/-! ## Values -/

mutual

/-- A value, and what follows it. -/
def value : Nat → Nat → List Char → Except Fault (Value × List Char)
  | 0, _, _ => .error .incomplete
  | fuel + 1, depth, s =>
    match skipSpace s with
    | [] => .error .incomplete
    | 'n' :: rest => (afterWord "ull".toList rest).map fun rest => (.null, rest)
    | 't' :: rest => (afterWord "rue".toList rest).map fun rest => (.bool true, rest)
    | 'f' :: rest => (afterWord "alse".toList rest).map fun rest => (.bool false, rest)
    | '"' :: rest => (stringBody rest).map fun part => (.string part.1, part.2)
    | '[' :: rest =>
      if depth = 0 then .error .malformed
      else match skipSpace rest with
        | ']' :: rest => .ok (.array [], rest)
        | rest => (items fuel (depth - 1) rest).map fun part => (.array part.1, part.2)
    | '\x7b' :: rest =>
      if depth = 0 then .error .malformed
      else match skipSpace rest with
        | '\x7d' :: rest => .ok (.object [], rest)
        | rest => (membersOf fuel (depth - 1) rest).map fun part => (.object part.1, part.2)
    | c :: rest => if c.isDigit || c == '-' then number (c :: rest) else .error .malformed

/-- One item or more with commas between them and a bracket at the end. -/
def items : Nat → Nat → List Char → Except Fault (List Value × List Char)
  | 0, _, _ => .error .incomplete
  | fuel + 1, depth, s => do
    let (v, rest) ← value fuel depth s
    match skipSpace rest with
    | [] => .error .incomplete
    | ']' :: rest => .ok ([v], rest)
    | ',' :: rest =>
      let (vs, rest) ← items fuel depth rest
      .ok (v :: vs, rest)
    | _ :: _ => .error .malformed

/-- One member or more with commas between them and a brace at the end. -/
def membersOf : Nat → Nat → List Char → Except Fault (List (String × Value) × List Char)
  | 0, _, _ => .error .incomplete
  | fuel + 1, depth, s =>
    match skipSpace s with
    | [] => .error .incomplete
    | '"' :: rest => do
      let (name, rest) ← stringBody rest
      match skipSpace rest with
      | [] => .error .incomplete
      | ':' :: rest =>
        let (v, rest) ← value fuel depth rest
        match skipSpace rest with
        | [] => .error .incomplete
        | '\x7d' :: rest => .ok ([(name, v)], rest)
        | ',' :: rest =>
          let (others, rest) ← membersOf fuel depth rest
          .ok ((name, v) :: others, rest)
        | _ :: _ => .error .malformed
      | _ :: _ => .error .malformed
    | _ :: _ => .error .malformed

end

/-- The value that a text holds, white space around it allowed, nested at most so deep. -/
def read (depth : Nat) (text : String) : Except Fault Value := do
  let s := text.toList
  let (v, rest) ← value (2 * s.length + 2) depth s
  if (skipSpace rest).isEmpty then .ok v else .error .malformed

end ContainerWatch.Json
