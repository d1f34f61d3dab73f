import ContainerWatch.Yaml.Layout
import ContainerWatch.Yaml.Node
/-!
# From tokens to a document

The grammar of tokens.  A node is an alias, or has an anchor and a tag, each if it wants, and a content;
where one of these is written the content may be left out.  Entries of collections, and keys and values
of mappings, may be left out as well.  Exactly one document may be written, and directives stand before
the mark that starts it.

An anchor is numbered by how many names are known when it is met.  Of the nodes that get the same
number the last one counts.
-/

namespace ContainerWatch.Yaml

/-- How far the tokens were read. -/
structure Progress where
  tokens : List Token
  /-- the names that are known, with their numbers -/
  names : List (String × Nat) := []
  /-- the nodes with anchors, the one that starts last first -/
  anchored : List (Nat × Node) := []

namespace Progress

/-- Whether the next token is one of a list. -/
def isAt (p : Progress) (ts : List Token) : Bool := (p.tokens.head?.map ts.contains).getD false

/-- The progress after one more token. -/
def next (p : Progress) : Progress := { p with tokens := p.tokens.tail }

/-- The progress after the next token, which has to be a given one. -/
def expect? (p : Progress) (t : Token) : Option Progress := if p.isAt [t] then some p.next else none

/-- The progress into a node with an anchor: the name is known, and nothing in the node is. -/
def enter (p : Progress) (name : String) : Progress :=
  { p with
    names := (name, p.names.length) :: p.names.filter fun known => known.1 != name
    anchored := [] }

/-- The progress out of a node with an anchor, which was entered at an earlier progress. -/
def leave (p : Progress) (entered : Progress) (n : Node) : Progress :=
  { p with anchored := p.anchored ++ (entered.names.length, n) :: entered.anchored }

end Progress

/-! ## Properties of nodes -/

/-- The texts that handles stand for. -/
abbrev Handles := List (String × String)

/-- The handles that need no directive. -/
def standardHandles : Handles := [("!", "!"), ("!!", "tag:yaml.org,2002:")]

/-- A tag in full. -/
def Tag.resolve? (handles : Handles) (t : Tag) : Option String :=
  if t.handle.isEmpty then some t.text else (handles.lookup t.handle).map (· ++ t.text)

/-- What stands before the content of a node. -/
structure Properties where
  anchor : Option String := none
  tag : Option Tag := none

/-- Whether nothing stands there. -/
def Properties.isEmpty (q : Properties) : Bool := q.anchor.isNone && q.tag.isNone

/-- What stands before the content of a node, and the progress after it. -/
def properties (p : Progress) : Properties × Progress :=
  match p.tokens with
  | .anchor a :: .tag t :: _ => (⟨a, t⟩, p.next.next)
  | .tag t :: .anchor a :: _ => (⟨a, t⟩, p.next.next)
  | .anchor a :: _ => (⟨a, none⟩, p.next)
  | .tag t :: _ => (⟨none, t⟩, p.next)
  | _ => ({}, p)

/-- A scalar with a tag; the tag `!` says nothing. -/
def scalarNode (style : Style) (tag : Option String) (text : String) : Node :=
  .scalar ⟨style, tag.filter (· != "!"), text⟩

/-! ## Nodes -/

/-- What ends an entry of a block mapping before its node. -/
def blockMappingMarks : List Token := [.key, .value, .blockEnd]

/-- Where a node stands. -/
inductive Position where
  /-- in brackets -/
  | flow
  /-- in a block sequence, or at the top -/
  | block
  /-- in a block mapping, where a sequence need not be further in -/
  | mapping
  deriving DecidableEq, Repr

mutual

/-- A node, and the progress after it. -/
def node? (hs : Handles) : Nat → Position → Progress → Option (Node × Progress)
  | 0, _, _ => none
  | fuel + 1, position, p =>
    match p.tokens with
    | .alias name :: _ => (p.names.lookup name).map fun anchor => (.alias anchor, p.next)
    | _ => do
      let (found, q) := properties p
      let tag ← match found.tag with
        | some t => (t.resolve? hs).map some
        | none => some none
      match found.anchor with
      | none => content? hs fuel position tag (!found.isEmpty) q
      | some name =>
        let (n, r) ← content? hs fuel position tag true (q.enter name)
        some (n, r.leave q n)

/-- The content of a node, and the progress after it. -/
def content? (hs : Handles) :
    Nat → Position → Option String → Bool → Progress → Option (Node × Progress)
  | 0, _, _, _, _ => none
  | fuel + 1, position, tag, optional, p =>
    match p.tokens with
    | .scalar style text :: _ => some (scalarNode style tag text, p.next)
    | .flowSequenceStart :: _ =>
      (flowItems? hs fuel true p.next).map fun part => (.sequence part.1, part.2)
    | .flowMappingStart :: _ =>
      (flowEntries? hs fuel true p.next).map fun part => (.mapping part.1, part.2)
    | token :: _ =>
      if token = .blockSequenceStart ∧ position ≠ .flow then
        (blockItems? hs fuel p.next).map fun part => (.sequence part.1, part.2)
      else if token = .blockMappingStart ∧ position ≠ .flow then
        (blockEntries? hs fuel p.next).map fun part => (.mapping part.1, part.2)
      else if token = .blockEntry ∧ position = .mapping then
        (levelItems? hs fuel p).map fun part => (.sequence part.1, part.2)
      else if optional then some (.scalar ⟨.plain, tag, ""⟩, p)
      else none
    | [] => if optional then some (.scalar ⟨.plain, tag, ""⟩, p) else none

/-- The entries of a block sequence, and the progress after its end. -/
def blockItems? (hs : Handles) : Nat → Progress → Option (List Node × Progress)
  | 0, _ => none
  | fuel + 1, p =>
    if p.isAt [.blockEnd] then some ([], p.next)
    else do
      let p ← p.expect? .blockEntry
      let (item, p) ←
        if p.isAt [.blockEntry, .blockEnd] then some (.empty, p) else node? hs fuel .block p
      let (items, p) ← blockItems? hs fuel p
      some (item :: items, p)

/-- The entries of a sequence that is not further in than the mapping around it, and the progress after
them. -/
def levelItems? (hs : Handles) : Nat → Progress → Option (List Node × Progress)
  | 0, _ => none
  | fuel + 1, p =>
    if !p.isAt [.blockEntry] then some ([], p)
    else do
      let p := p.next
      let (item, p) ←
        if p.isAt (.blockEntry :: blockMappingMarks) then some (.empty, p)
        else node? hs fuel .block p
      let (items, p) ← levelItems? hs fuel p
      some (item :: items, p)

/-- The entries of a block mapping, and the progress after its end. -/
def blockEntries? (hs : Handles) : Nat → Progress → Option (List (Node × Node) × Progress)
  | 0, _ => none
  | fuel + 1, p =>
    if p.isAt [.blockEnd] then some ([], p.next)
    else do
      let p ← p.expect? .key
      let (key, p) ←
        if p.isAt blockMappingMarks then some (.empty, p) else node? hs fuel .mapping p
      let (value, p) ←
        if !p.isAt [.value] then some (.empty, p)
        else if p.next.isAt blockMappingMarks then some (.empty, p.next)
        else node? hs fuel .mapping p.next
      let (entries, p) ← blockEntries? hs fuel p
      some ((key, value) :: entries, p)

/-- The value after a key in brackets that a bracket closes, and the progress after it. -/
def flowValue? (hs : Handles) : Nat → Token → Progress → Option (Node × Progress)
  | 0, _, _ => none
  | fuel + 1, closing, p =>
    if !p.isAt [.value] then some (.empty, p)
    else if p.next.isAt [.flowEntry, closing] then some (.empty, p.next)
    else node? hs fuel .flow p.next

/-- The entries of a sequence in brackets, and the progress after its end.  An entry with a key is a
mapping of one entry; where its key is left out, so is the mark after it. -/
def flowItems? (hs : Handles) : Nat → Bool → Progress → Option (List Node × Progress)
  | 0, _, _ => none
  | fuel + 1, first, p =>
    if p.isAt [.flowSequenceEnd] then some ([], p.next)
    else do
      let p ← if first then some p else p.expect? .flowEntry
      if p.isAt [.flowSequenceEnd] then some ([], p.next)
      else do
        let (item, p) ←
          if p.isAt [.key] then do
            let (key, p) ←
              if p.next.isAt [.value, .flowEntry, .flowSequenceEnd] then some (.empty, p.next.next)
              else node? hs fuel .flow p.next
            let (value, p) ← flowValue? hs fuel .flowSequenceEnd p
            some (.mapping [(key, value)], p)
          else node? hs fuel .flow p
        let (items, p) ← flowItems? hs fuel false p
        some (item :: items, p)

/-- The entries of a mapping in brackets, and the progress after its end. -/
def flowEntries? (hs : Handles) : Nat → Bool → Progress → Option (List (Node × Node) × Progress)
  | 0, _, _ => none
  | fuel + 1, first, p =>
    if p.isAt [.flowMappingEnd] then some ([], p.next)
    else do
      let p ← if first then some p else p.expect? .flowEntry
      if p.isAt [.flowMappingEnd] then some ([], p.next)
      else do
        let (entry, p) ←
          if p.isAt [.key] then do
            let (key, p) ←
              if p.next.isAt [.value, .flowEntry, .flowMappingEnd] then some (.empty, p.next)
              else node? hs fuel .flow p.next
            let (value, p) ← flowValue? hs fuel .flowMappingEnd p
            some ((key, value), p)
          else (node? hs fuel .flow p).map fun part => ((part.1, .empty), part.2)
        let (entries, p) ← flowEntries? hs fuel false p
        some (entry :: entries, p)

end

/-! ## Documents -/

/-- The directives at the front, and the tokens after them. -/
def directives : List Token → List Directive × List Token
  | .directive d :: rest => let (ds, rest) := directives rest; (d :: ds, rest)
  | ts => ([], ts)

/-- The handles that directives define.  No handle is defined twice. -/
def definedHandles? : List Directive → Option Handles
  | [] => some []
  | .version _ _ :: rest => definedHandles? rest
  | .handle name stem :: rest => do
    let others ← definedHandles? rest
    if (others.lookup name).isSome then none else some ((name, stem) :: others)

/-- The versions that directives give. -/
def versions (ds : List Directive) : List (Nat × Nat) :=
  ds.filterMap fun
    | .version major minor => some (major, minor)
    | .handle _ _ => none

/-- The handles for a document with directives, of which at most one gives the version. -/
def handles? (ds : List Directive) : Option Handles := do
  guard ((versions ds).length ≤ 1 ∧ (versions ds).all [(1, 1), (1, 2)].contains)
  let defined ← definedHandles? ds
  some (defined ++ standardHandles)

/-- The root of a document, and the tokens after it. -/
def root? (hs : Handles) (ts : List Token) : Option (Node × Progress) :=
  node? hs (3 * ts.length + 3) .block { tokens := ts }

/-- The root of a document after the mark that starts it, and the tokens after it. -/
def rootAfterMark? (hs : Handles) (ts : List Token) : Option (Node × Progress) :=
  match ts with
  | [] | .documentEnd :: _ | .documentStart :: _ | .directive _ :: _ =>
    some (.empty, { tokens := ts })
  | _ => root? hs ts

/-- The document that tokens make up. -/
def Document.ofTokens? (ts : List Token) : Option Document :=
  if ts.isEmpty then some ⟨none, []⟩
  else do
    let (ds, rest) := directives ts
    let hs ← handles? ds
    let (n, p) ← match rest with
      | .documentStart :: rest => rootAfterMark? hs rest
      | _ => if ds.isEmpty then root? hs rest else none
    if p.tokens.all (· == .documentEnd) then some ⟨some n, p.anchored⟩ else none

/-- The document in a text. -/
def Document.read? (text : String) : Option Document := (Token.ofText? text).bind Document.ofTokens?

end ContainerWatch.Yaml
