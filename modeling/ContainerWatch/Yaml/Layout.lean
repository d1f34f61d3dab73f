import ContainerWatch.Yaml.Block
import ContainerWatch.Yaml.Plain
import ContainerWatch.Yaml.Quoted
import ContainerWatch.Yaml.Token
/-!
# From text to tokens

Tokens are read from left to right.  Two things cannot be told at the place where they happen.  The key
of a mapping is known as a key only by the colon after it: until then it is a *candidate*, and the marks
that announce it are put in front of it when the colon comes.  A candidate does not outlive its line.
Block collections have no closing marks: they are open until a line starts further to the left.

A candidate is *required* where nothing but a key can stand, and then it has to turn out to be one.
-/

namespace ContainerWatch.Yaml

/-- A place where the key of a mapping may have started. -/
structure Candidate where
  /-- whether nothing but a key can stand there -/
  required : Bool
  /-- how many tokens there were before it -/
  before : Nat
  line : Nat
  column : Nat
  deriving DecidableEq, Repr

/-- Whether a place is too far behind a candidate for its colon: in another line, or after more than
1024 characters. -/
def Candidate.isPast (c : Candidate) (p : Place) : Bool :=
  c.line < p.line || c.column + 1024 < p.column

/-- A candidate as long as it can still be a key.  It is refused if it had to be one and cannot. -/
def Candidate.kept? (p : Place) : Option Candidate → Option (Option Candidate)
  | none => some none
  | some c => if c.isPast p then if c.required then none else some none else some (some c)

/-- A document that was read up to a place. -/
structure Layout where
  place : Place
  /-- the tokens, the last one first -/
  tokens : List Token := []
  /-- the columns of the open block collections, the innermost first -/
  blocks : List Nat := []
  candidate : Option Candidate := none
  /-- for every open bracket, the innermost first, the candidate that it is part of -/
  outer : List (Option Candidate) := []
  /-- whether a key can start here -/
  keyAllowed : Bool := true
  deriving DecidableEq, Repr

namespace Layout

/-- Whether there is an open bracket. -/
def inFlow (s : Layout) : Bool := !s.outer.isEmpty

/-- The column where the text of the innermost block collection starts. -/
def margin (s : Layout) : Nat :=
  match s.blocks with
  | [] => 0
  | column :: _ => column + 1

/-- A token added, and the place after it. -/
def add (s : Layout) (t : Token) (p : Place) : Layout := { s with tokens := t :: s.tokens, place := p }

/-- Tokens put in front of all but the first few tokens. -/
def insertAfter (s : Layout) (count : Nat) (ts : List Token) : List Token :=
  let newer := s.tokens.length - count
  s.tokens.take newer ++ ts.reverse ++ s.tokens.drop newer

/-! ## Block collections -/

/-- The block collections closed whose column satisfies a condition, from the innermost one out. -/
def closeBlocks (s : Layout) (closed : Nat → Bool) : Layout :=
  if s.inFlow then s
  else { s with
    tokens := (s.blocks.takeWhile closed).map (fun _ => .blockEnd) ++ s.tokens
    blocks := s.blocks.dropWhile closed }

/-- All block collections closed. -/
def closeAll (s : Layout) : Layout := s.closeBlocks fun _ => true

/-- Whether something at a column is further in than the innermost block collection. -/
def isDeeper (s : Layout) (column : Nat) : Bool := !s.inFlow && s.margin ≤ column

/-- A block collection opened by its first entry here, if it is deeper than the innermost one. -/
def openBlock (s : Layout) (start : Token) : Layout :=
  if s.isDeeper s.place.column then
    { s with tokens := start :: s.tokens, blocks := s.place.column :: s.blocks }
  else s

/-! ## Candidates -/

/-- The candidates that can still be keys. -/
def keepCandidates? (s : Layout) : Option Layout := do
  let candidate ← Candidate.kept? s.place s.candidate
  let outer ← s.outer.mapM (Candidate.kept? s.place)
  some { s with candidate, outer }

/-- The candidate given up, unless it had to be a key. -/
def giveUp? (s : Layout) : Option Layout :=
  if (s.candidate.map Candidate.required).getD false then none else some { s with candidate := none }

/-- A candidate noted here, where a key can start. -/
def note? (s : Layout) : Option Layout :=
  if s.keyAllowed then do
    let s ← s.giveUp?
    let required := !s.inFlow && s.margin == s.place.column + 1
    some { s with candidate := some ⟨required, s.tokens.length, s.place.line, s.place.column⟩ }
  else some s

/-! ## Marks -/

/-- The place after one character, with a token for it. -/
def mark (s : Layout) (t : Token) : Layout := s.add t (s.place.skip 1)

/-- An opening bracket. -/
def opening? (s : Layout) (t : Token) : Option Layout := do
  let s ← s.note?
  some { s.mark t with outer := s.candidate :: s.outer, candidate := none, keyAllowed := true }

/-- A closing bracket. -/
def closing? (s : Layout) (t : Token) : Option Layout := do
  let s ← s.giveUp?
  let s := s.mark t
  match s.outer with
  | [] => some { s with keyAllowed := false }
  | candidate :: outer => some { s with candidate, outer, keyAllowed := false }

/-- A comma. -/
def comma? (s : Layout) : Option Layout := do
  let s ← s.giveUp?
  some { s.mark .flowEntry with keyAllowed := true }

/-- The first entry of a block collection, or a further one. -/
def blockItem? (s : Layout) (start : Token) : Option Layout :=
  if s.inFlow then some s else if s.keyAllowed then some (s.openBlock start) else none

/-- The dash before an entry. -/
def dash? (s : Layout) : Option Layout := do
  let s ← s.blockItem? .blockSequenceStart
  let s ← s.giveUp?
  some { s.mark .blockEntry with keyAllowed := true }

/-- The question mark before a key. -/
def question? (s : Layout) : Option Layout := do
  let s ← s.blockItem? .blockMappingStart
  let s ← s.giveUp?
  some { s.mark .key with keyAllowed := !s.inFlow }

/-- The colon before a value.  It makes the candidate a key. -/
def colon? (s : Layout) : Option Layout :=
  match s.candidate with
  | some c =>
    let opened := s.isDeeper c.column
    let marks := if opened then [.blockMappingStart, .key] else [.key]
    let s := { s with
      tokens := s.insertAfter c.before marks
      blocks := if opened then c.column :: s.blocks else s.blocks
      candidate := none
      keyAllowed := false }
    some (s.mark .value)
  | none => do
    let s ← s.blockItem? .blockMappingStart
    some { s.mark .value with keyAllowed := !s.inFlow }

/-- A line that starts or ends a document. -/
def boundary? (s : Layout) (t : Token) : Option Layout := do
  let s ← s.closeAll.giveUp?
  some { s.add t (s.place.skip 3) with keyAllowed := false }

/-- A directive. -/
def directive? (s : Layout) : Option Layout := do
  let s ← s.closeAll.giveUp?
  let (d, p) ← Directive.scan? s.place
  some { s.add (.directive d) p with keyAllowed := false }

/-! ## Nodes -/

/-- The name of an anchor or alias that starts here, and the place after it. -/
def nodeName? (p : Place) : Option (String × Place) :=
  let name := (p.skip 1).word isNameChar
  let q := (p.skip 1).afterWord isNameChar
  let stands := endsWord q.rest || (q.rest.head?.map "?:,]\x7d%@`".toList.contains).getD false
  if name.isEmpty || !stands then none else some (String.ofList name, q)

/-- An anchor or alias. -/
def name? (s : Layout) (token : String → Token) : Option Layout := do
  let s ← s.note?
  let (name, p) ← nodeName? s.place
  some { s.add (token name) p with keyAllowed := false }

/-- A tag. -/
def tag? (s : Layout) : Option Layout := do
  let s ← s.note?
  let (t, p) ← Tag.scan? s.inFlow s.place
  some { s.add (.tag t) p with keyAllowed := false }

/-- A scalar in quotes. -/
def quoted? (s : Layout) (q : Quote) (style : Style) : Option Layout := do
  let s ← s.note?
  let (text, p) ← q.scan? s.place
  some { s.add (.scalar style (String.ofList text)) p with keyAllowed := false }

/-- A scalar of whole lines. -/
def block? (s : Layout) (style : Style) : Option Layout := do
  let s ← s.giveUp?
  let (text, p) ← Block.scan? (style = .folded) s.margin s.place
  some { s.add (.scalar style (String.ofList text)) p with keyAllowed := true }

/-- A scalar without quotes. -/
def plain? (s : Layout) : Option Layout := do
  let s ← s.note?
  let found ← Plain.scan? ⟨s.inFlow, s.margin⟩ s.place
  some { s.add (.scalar .plain (String.ofList found.text)) found.after with keyAllowed := found.broken }

/-- The token that starts here. -/
def token? (s : Layout) : Option Layout :=
  let p := s.place
  match p.rest with
  | [] => none
  | c :: rest =>
    if p.column = 0 ∧ c = '%' then s.directive?
    else if p.hasMarker '-' then s.boundary? .documentStart
    else if p.hasMarker '.' then s.boundary? .documentEnd
    else if c = '[' then s.opening? .flowSequenceStart
    else if c = '\x7b' then s.opening? .flowMappingStart
    else if c = ']' then s.closing? .flowSequenceEnd
    else if c = '\x7d' then s.closing? .flowMappingEnd
    else if c = ',' then s.comma?
    else if c = '-' ∧ endsWord rest then s.dash?
    else if c = '?' ∧ (s.inFlow ∨ endsWord rest) then s.question?
    else if c = ':' ∧ (s.inFlow ∨ endsWord rest) then s.colon?
    else if c = '*' then s.name? .alias
    else if c = '&' then s.name? .anchor
    else if c = '!' then s.tag?
    else if c = '|' ∧ !s.inFlow then s.block? .literal
    else if c = '>' ∧ !s.inFlow then s.block? .folded
    else if c = '\'' then s.quoted? .single .singleQuoted
    else if c = '"' then s.quoted? .double .doubleQuoted
    else if Plain.starts s.inFlow p.rest then s.plain?
    else none

/-! ## Between tokens -/

/-- The place after a byte order mark at the start of a line. -/
def afterOrderMark (p : Place) : Place :=
  if p.column = 0 ∧ p.rest.head? = some '\ufeff' then p.skip 1 else p

/-- The place of the next token, after white space and comments.  A tab stands only where no key can
start, and a key can start in every new line outside brackets. -/
def between : Nat → Layout → Layout
  | 0, s => s
  | fuel + 1, s =>
    let tabs := s.inFlow || !s.keyAllowed
    let p := ((afterOrderMark s.place).afterWord fun c => c == ' ' || tabs && c == '\t').afterComment
    if p.rest.isEmpty || !endsLine p.rest then { s with place := p }
    else between fuel { s with place := p.next, keyAllowed := s.keyAllowed || !s.inFlow }

/-- The start of the next token: block collections further in end here, and candidates whose colon did
not come are given up. -/
def start? (s : Layout) : Option Layout := do
  let s ← (between (s.place.rest.length + 1) s).keepCandidates?
  some (s.closeBlocks fun column => s.place.column < column)

/-- The document read to its end. -/
def run? : Nat → Layout → Option Layout
  | 0, _ => none
  | fuel + 1, s => do
    let s ← s.start?
    if s.place.rest.isEmpty then s.closeAll.giveUp?
    else do
      let s ← s.token?
      run? fuel s

end Layout

/-- The tokens of a text, if it is one of allowed characters that can be taken apart. -/
def Token.ofText? (text : String) : Option (List Token) := do
  let s := text.toList
  guard (s.all isAllowed)
  let last ← Layout.run? (s.length + 1) { place := ⟨normalBreaks s, 0, 0⟩ }
  some last.tokens.reverse

end ContainerWatch.Yaml
