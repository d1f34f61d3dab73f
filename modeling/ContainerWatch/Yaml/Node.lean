import ContainerWatch.Yaml.Token
/-!
# Nodes and documents

A document is a tree of scalars, sequences and mappings.  A node can be given a name, its anchor, and an
alias stands for a node that was named before.  Anchors are numbered, and a document keeps the nodes of
its anchors apart from the tree, since an alias may stand inside the very node that it is for.
-/

namespace ContainerWatch.Yaml

/-- A scalar as it is written, with its tag in full. -/
structure Scalar where
  style : Style
  tag : Option String
  text : String
  deriving DecidableEq, Repr

/-- Whether nothing is written. -/
def Scalar.isEmpty (s : Scalar) : Bool := s.style == .plain && s.text.isEmpty

/-- A part of a document. -/
inductive Node where
  | scalar (s : Scalar)
  | sequence (items : List Node)
  | mapping (entries : List (Node × Node))
  | alias (anchor : Nat)

/-- The node where nothing is written. -/
def Node.empty : Node := .scalar ⟨.plain, none, ""⟩

/-- The content of a text. -/
structure Document where
  /-- the tree, none when the text holds no node -/
  root : Option Node
  /-- the nodes with anchors, the one that starts last first -/
  anchored : List (Nat × Node)

namespace Document

/-- The node of an anchor. -/
def target? (d : Document) (anchor : Nat) : Option Node := d.anchored.lookup anchor

/-- The node that a node stands for. -/
def resolve? (d : Document) : Node → Option Node
  | .alias anchor => d.target? anchor
  | n => some n

end Document

end ContainerWatch.Yaml
