import ContainerWatch.Yaml.Place
/-!
# Plain scalars

A scalar without quotes.  It ends before a comment, before a colon at the end of a word, before a line
that starts or ends a document, and at the margin of the collection that it stands in.  Inside brackets
it also ends before a bracket or a comma.
-/

namespace ContainerWatch.Yaml

/-- Where a plain scalar stands. -/
structure Surroundings where
  /-- whether it stands between brackets -/
  inFlow : Bool
  /-- the column where the text of the innermost block collection starts -/
  margin : Nat
  deriving DecidableEq, Repr

namespace Plain

/-- Whether a plain scalar can start with a text. -/
def starts (inFlow : Bool) : List Char → Bool
  | [] => false
  | c :: rest =>
    if c == '-' then !(rest.head?.map isBlank).getD false
    else if c == '?' || c == ':' then !inFlow && !endsWord rest
    else !isIndicator c && !isBlank c && !isBreak c

/-- Whether a colon that ends a word, or a bracket or comma between brackets, stands at the front. -/
def stops (inFlow : Bool) : List Char → Bool
  | [] => true
  | c :: rest => c == ':' && endsWord rest || inFlow && isFlowMark c

/-- Whether a colon right before a bracket, a comma or a question mark stands at the front. -/
def hasTightColon : List Char → Bool
  | ':' :: c :: _ => isFlowMark c || c == '?'
  | _ => false

/-- Whether a plain scalar does not go on at a place after a gap. -/
def endsAt (s : Surroundings) (p : Place) : Bool :=
  !s.inFlow && p.column < s.margin || p.atMarker || p.rest.head? == some '#' || stops s.inFlow p.rest

/-- A plain scalar and what is behind it. -/
structure Found where
  text : List Char
  /-- whether there was a line break behind the scalar -/
  broken : Bool
  after : Place
  deriving DecidableEq, Repr

/-- The text from here on, added to what was read before it in reverse. -/
def textFrom (s : Surroundings) : Nat → List Char → Place → Option Found
  | 0, _, _ => none
  | fuel + 1, done, p =>
    match p.rest with
    | [] => some ⟨done.reverse, false, p⟩
    | c :: _ =>
      if isBlank c || isBreak c then
        if hasTabBefore s.margin none p.space then none
        else if endsAt s p.afterGap then some ⟨done.reverse, !p.gap.breaks.isEmpty, p.afterGap⟩
        else textFrom s fuel (p.gap.folded.reverse ++ done) p.afterGap
      else if stops s.inFlow p.rest then some ⟨done.reverse, false, p⟩
      else if s.inFlow && hasTightColon p.rest then none
      else textFrom s fuel (c :: done) (p.skip 1)

/-- The plain scalar that starts here. -/
def scan? (s : Surroundings) (p : Place) : Option Found := textFrom s (p.rest.length + 1) [] p

end Plain

end ContainerWatch.Yaml
