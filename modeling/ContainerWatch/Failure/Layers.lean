/-!
# The layers of an error

An error is known by its text and by the errors behind it, each of which is known by its text too.  Errors of
libraries and of the system come from outside with any text and with anything behind them, so whatever keeps such
an error keeps all of its layers.

Main statement: `texts_foldl_wrap`, errors put around one another are read from the last one in.
-/

namespace ContainerWatch

/-- An error as it is read: its text, and the texts of the errors behind it, the nearest first. -/
structure Layers where
  text : String
  behind : List String := []
  deriving DecidableEq, Repr

/-- A text alone is an error with nothing behind it. -/
instance : Coe String Layers := ⟨fun text => ⟨text, []⟩⟩

namespace Layers

/-- The text of an error and those of the errors behind it. -/
def texts (l : Layers) : List String := l.text :: l.behind

/-- An error with another one behind it. -/
def wrap (l : Layers) (text : String) : Layers := ⟨text, l.texts⟩

@[simp] theorem texts_wrap (l : Layers) (text : String) : (l.wrap text).texts = text :: l.texts := rfl

/-- An error is known by its texts. -/
theorem ext_texts {l k : Layers} (h : l.texts = k.texts) : l = k := by
  cases l
  cases k
  obtain ⟨rfl, rfl⟩ := List.cons.inj h
  rfl

/-- Errors put around one another are read from the last one in. -/
theorem texts_foldl_wrap (l : Layers) (outer : List String) :
    (outer.foldl wrap l).texts = outer.reverse ++ l.texts := by
  induction outer generalizing l with
  | nil => rfl
  | cons text rest ih =>
    rw [List.foldl_cons, ih, texts_wrap, List.reverse_cons, List.append_assoc, List.singleton_append]

end Layers

end ContainerWatch
