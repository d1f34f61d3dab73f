import ContainerWatch.Config.Settings
import ContainerWatch.Engine.Error
import ContainerWatch.Failure.NotFound
import ContainerWatch.Failure.Transition
/-!
# Failures

Everything that can go wrong, under one type.  Each failure has a text, a code and the texts of its
causes.  A failure of the engine is announced as such and has the engine's own failure as its first
cause, before all that is behind that one; every other failure stands for itself, so that nothing is said twice.

Main statement: `chain_internal`, the text and causes of an unforeseen failure are its contexts from the
outermost in, and then what was told, with all that is behind it.
-/

namespace ContainerWatch

/-- A failure that nothing else describes: a message or an error that was told, with the contexts that were put
around it, the last one outermost. -/
structure Unforeseen where
  told : Layers
  contexts : List String := []
  deriving DecidableEq, Repr

/-- The outermost context first, and what was told last. -/
def Unforeseen.chain (u : Unforeseen) : List String := u.contexts.reverse ++ u.told.texts

/-- Anything that can go wrong. -/
inductive Failure where
  | config (e : Config.Error)
  | notFound (e : NotFound)
  | transition (e : Transition)
  | engine (e : Engine.Error)
  | internal (e : Unforeseen)
  deriving DecidableEq

namespace Failure

/-- The text of a failure. -/
def message : Failure → String
  | config e => e.message
  | notFound e => e.message
  | transition e => e.message
  | engine e => "Docker engine request failed: " ++ e.message
  | internal e => e.chain.headD ""

/-- The texts of the causes, outermost first. -/
def sources : Failure → List String
  | config e => e.sources
  | notFound _ => []
  | transition e => e.sources
  | engine e => e.layers.texts
  | internal e => e.chain.tail

/-- The text of a failure and those of its causes. -/
def chain (f : Failure) : List String := f.message :: f.sources

/-- The code of a failure. -/
def code : Failure → String
  | config e => e.code
  | notFound _ => NotFound.code
  | transition e => e.kind.code
  | engine _ => "D100"
  | internal _ => "E000"

theorem chain_internal (e : Unforeseen) : (internal e).chain = e.contexts.reverse ++ e.told.texts := by
  change e.chain.headD "" :: e.chain.tail = _
  rw [Unforeseen.chain]
  generalize e.contexts.reverse = outer
  cases outer <;> rfl

end Failure

end ContainerWatch
