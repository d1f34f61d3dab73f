import ContainerWatch.Yaml.Character
/-!
# Places in a document

A place is what is left of a document, with the line and the column at which it stands.  Lines and
columns decide where collections and scalars end, so every way of going on keeps count of them.
-/

namespace ContainerWatch.Yaml

/-- A place in a document whose line breaks have one form. -/
structure Place where
  rest : List Char
  line : Nat := 0
  column : Nat := 0
  deriving DecidableEq, Repr, Inhabited

namespace Place

/-- The place after one more character. -/
def next (p : Place) : Place :=
  match p.rest with
  | [] => p
  | c :: rest => if isBreak c then ⟨rest, p.line + 1, 0⟩ else ⟨rest, p.line, p.column + 1⟩

/-- The place after a number of characters. -/
def forward : Nat → Place → Place
  | 0, p => p
  | n + 1, p => forward n p.next

/-- The place after a number of characters that all stand in this line. -/
def skip (p : Place) (n : Nat) : Place := ⟨p.rest.drop n, p.line, p.column + n⟩

/-- The characters of this line from here on, as long as they satisfy a condition. -/
def word (p : Place) (accepted : Char → Bool) : List Char :=
  p.rest.takeWhile fun c => accepted c && !isBreak c

/-- The place after the word of characters that satisfy a condition. -/
def afterWord (p : Place) (accepted : Char → Bool) : Place := p.skip (p.word accepted).length

/-- The place after spaces and tabs. -/
def afterBlanks (p : Place) : Place := p.afterWord isBlank

/-- The place at the end of this line, if a comment starts here. -/
def afterComment (p : Place) : Place :=
  if p.rest.head? = some '#' then p.afterWord fun _ => true else p

/-- The place in the next line, unless more than blanks and a comment is left of this one. -/
def lineEnd? (p : Place) : Option Place :=
  let q := p.afterBlanks.afterComment
  if endsLine q.rest then some q.next else none

/-- Whether a line stands here that consists of three times a character, or goes on after a blank. -/
def hasMarker (p : Place) (c : Char) : Bool :=
  p.column == 0 && [c, c, c].isPrefixOf p.rest && endsWord (p.rest.drop 3)

/-- Whether a line stands here that starts or ends a document. -/
def atMarker (p : Place) : Bool := p.hasMarker '-' || p.hasMarker '.'

end Place

/-! ## White space inside scalars -/

/-- White space between two words of a scalar. -/
structure Gap where
  /-- the blanks before the first line break -/
  blanks : List Char
  breaks : List Char
  deriving DecidableEq, Repr

/-- What a gap stands for: within a line it stands for itself, one line break is a space, and of
several the first is left out, unless it is a line or paragraph separator. -/
def Gap.folded (g : Gap) : List Char :=
  match g.breaks with
  | [] => g.blanks
  | '\n' :: [] => [' ']
  | '\n' :: more => more
  | breaks => breaks

/-- Whether white space holds a tab that is less than a margin away from the start of a line; none
stands for the line in which the white space begins. -/
def hasTabBefore (margin : Nat) : Option Nat → List Char → Bool
  | _, [] => false
  | column, c :: rest =>
    if isBreak c then hasTabBefore margin (some 0) rest
    else match column with
      | none => hasTabBefore margin none rest
      | some n => (c == '\t' && n < margin) || hasTabBefore margin (some (n + 1)) rest

namespace Place

/-- The white space that starts here. -/
def space (p : Place) : List Char := p.rest.takeWhile fun c => isBlank c || isBreak c

/-- The gap that starts here. -/
def gap (p : Place) : Gap := ⟨p.space.takeWhile isBlank, p.space.filter isBreak⟩

/-- The place after the gap that starts here. -/
def afterGap (p : Place) : Place := forward p.space.length p

end Place

end ContainerWatch.Yaml
