import ContainerWatch.Failure.Chain
import Mathlib.Data.List.Nodup
/-!
# The layers of a failure

An error is read from its own text down through the errors behind it (`Layers`).  A failure stands for the error that
it wraps, which comes with any text and any errors behind it: the engine's error is put behind a text, and every other
one is passed on as it is (`Failure.layers_eq`).  An unforeseen failure has one layer for each context that was put
around it, one after another (`Unforeseen.layers`).  So no layer is lost, and none is told once more
(`Failure.count_layers`).

The code of a failure is looked at through its variant, which is the failure without its texts.

Main statement: `Failure.layers_kept`.
-/

namespace ContainerWatch

/-! ## What a failure wraps -/

/-- A failure of the settings as it is read. -/
def Config.Error.layers (e : Config.Error) : Layers := ⟨e.message, e.sources⟩

/-- A container that is not found has nothing behind it. -/
def NotFound.layers (e : NotFound) : Layers := ⟨e.message, []⟩

/-- A failed transition as it is read. -/
def Transition.layers (t : Transition) : Layers := ⟨t.message, t.sources⟩

/-- The contexts of an unforeseen failure are put around what was told one after another. -/
def Unforeseen.layers (u : Unforeseen) : Layers := u.contexts.foldl Layers.wrap u.told

namespace Failure

/-- A failure as it is read. -/
def layers (f : Failure) : Layers := ⟨f.message, f.sources⟩

/-- The error that a failure wraps, as it is read. -/
def wrapped : Failure → Layers
  | config e => e.layers
  | notFound e => e.layers
  | transition e => e.layers
  | engine e => e.layers
  | internal e => e.layers

/-- What is told of an unforeseen failure is what its contexts make of it, one after another.  The failure puts
the contexts in front at once and in reverse, so the two are compared by their texts. -/
theorem layers_internal (u : Unforeseen) : (internal u).layers = u.layers := by
  refine Layers.ext_texts ((chain_internal u).trans ?_)
  rw [Unforeseen.layers, Layers.texts_foldl_wrap]

/-! ## Variants -/

/-- What a failure is about, apart from its texts. -/
inductive Variant where
  | unreadable
  | malformed
  | invalid
  | notFound
  | transition (kind : TransitionKind)
  | engine
  | internal
  deriving DecidableEq

/-- The variant of a failure. -/
def variant : Failure → Variant
  | config (.unreadable _) => .unreadable
  | config (.malformed _) => .malformed
  | config (.invalid _) => .invalid
  | notFound _ => .notFound
  | transition e => .transition e.kind
  | engine _ => .engine
  | internal _ => .internal

/-- A failure stands for the error that it wraps, and only the engine's error is put behind a text. -/
theorem layers_eq (f : Failure) :
    f.layers = if f.variant = .engine then f.wrapped.wrap ("Docker engine request failed: " ++ f.wrapped.text)
      else f.wrapped := by
  cases f with
  | config e => cases e <;> rfl
  | notFound e => rfl
  | transition e => rfl
  | engine e => rfl
  | internal u => exact layers_internal u

/-- Wrapping repeats no layer: every text is told as often as by the wrapped error, and the one that announces an
error of the engine once more. -/
theorem count_layers (f : Failure) (text : String) :
    f.layers.texts.count text = f.wrapped.texts.count text +
      if f.variant = .engine ∧ text = "Docker engine request failed: " ++ f.wrapped.text then 1 else 0 := by
  rw [layers_eq]
  by_cases hengine : f.variant = .engine
  · rw [if_pos hengine, Layers.texts_wrap, List.count_cons]
    simp only [hengine, true_and, beq_iff_eq, @eq_comm _ text]
  · rw [if_neg hengine, if_neg fun h => hengine h.1, Nat.add_zero]

/-- Nothing is behind a failed transition that was not built from a cause. -/
theorem sources_transition_eq_nil_iff {t : Transition} : t.sources = [] ↔ t.source = none := by
  unfold Transition.sources
  cases t.source with
  | none => simp
  | some cause => simp [Layers.texts]

/-- Nothing is behind an unforeseen failure that is a text alone.  The texts are those of the contexts and then of
what was told, and only the first of them is told as the failure's own. -/
theorem tail_chain_eq_nil_iff {u : Unforeseen} : u.chain.tail = [] ↔ ∃ message : String, u = ⟨message, []⟩ := by
  obtain ⟨⟨message, behind⟩, contexts⟩ := u
  rw [Unforeseen.chain, Layers.texts]
  cases h : contexts.reverse with
  | nil =>
    obtain rfl := List.reverse_eq_nil_iff.1 h
    simp
  | cons outer rest =>
    have hne : contexts ≠ [] := by
      rintro rfl
      cases h
    simp [hne]

/-- Nothing is behind settings that contradict a rule, a container that is not found, a failed transition without a
cause, and an unforeseen failure that is a text alone. -/
theorem sources_eq_nil_iff {f : Failure} :
    f.sources = [] ↔
      (∃ reason, f = config (.invalid reason)) ∨ (∃ e, f = notFound e) ∨
        (∃ kind message, f = transition ⟨kind, message, none⟩) ∨ ∃ message : String, f = internal ⟨message, []⟩ := by
  cases f with
  | config e => cases e <;> simp [sources, Config.Error.sources, Layers.texts]
  | notFound e => simp [sources]
  | transition e =>
    obtain ⟨kind, message, source⟩ := e
    simp [sources, sources_transition_eq_nil_iff]
  | engine e => simp [sources, Layers.texts]
  | internal u => simp [sources, tail_chain_eq_nil_iff]

/-! ## Codes -/

/-- The code of a variant. -/
def Variant.code : Variant → String
  | unreadable => "F100"
  | malformed => "F101"
  | invalid => "F102"
  | notFound => "C100"
  | transition kind => kind.code
  | engine => "D100"
  | internal => "E000"

theorem code_eq (f : Failure) : f.code = f.variant.code := by
  cases f with
  | config e => cases e <;> rfl
  | _ => rfl

/-- All variants. -/
def variants : List Variant :=
  [.unreadable, .malformed, .invalid, .notFound, .engine, .internal] ++
    [.cannotPullContainer, .cannotCreateContainer, .cannotStartContainer, .cannotStopContainer,
      .cannotInspectContainer, .cannotRemoveContainer, .cannotListContainers, .timeout, .outOfMemory, .networking,
      .cannotCreateVolume, .cannotInspectVolume].map Variant.transition

theorem mem_variants (v : Variant) : v ∈ variants := by
  cases v with
  | transition kind => cases kind <;> decide
  | _ => decide

/-- No two variants share a code. -/
theorem Variant.code_injective {v w : Variant} (h : v.code = w.code) : v = w := by
  have hnodup : (variants.map code).Nodup := by decide
  exact List.inj_on_of_nodup_map hnodup (mem_variants v) (mem_variants w) h

theorem code_eq_code_iff {f g : Failure} : f.code = g.code ↔ f.variant = g.variant := by
  rw [code_eq, code_eq]
  exact ⟨Variant.code_injective, congrArg Variant.code⟩

/-- A failure is read as the error that it wraps, with one text in front when that is the engine's, whatever texts
the wrapped error has and however many errors are behind it.  No layer is repeated, and a failure with nothing behind
it is one of four.  The code is that of the wrapped error, and tells variants apart but not texts. -/
theorem layers_kept :
    (∀ f : Failure, f.layers =
      if f.variant = .engine then f.wrapped.wrap ("Docker engine request failed: " ++ f.wrapped.text)
      else f.wrapped) ∧
    (∀ (f : Failure) (text : String), f.layers.texts.count text = f.wrapped.texts.count text +
      if f.variant = .engine ∧ text = "Docker engine request failed: " ++ f.wrapped.text then 1 else 0) ∧
    -- an error of the engine comes after its announcement, with all that is behind it
    (∀ message behind, (engine ⟨message, behind⟩).layers =
      ⟨"Docker engine request failed: " ++ message, message :: behind⟩) ∧
    -- the contexts of an unforeseen failure are read from the last one in, down to what was told
    (∀ told contexts, (internal ⟨told, contexts⟩).layers.texts = contexts.reverse ++ told.text :: told.behind) ∧
    (∀ (message : String) contexts, (internal ⟨message, contexts⟩).layers.texts = contexts.reverse ++ [message]) ∧
    -- what a failure was built from is its single source, before all that is behind it
    (∀ kind cause, (transition (.ofCause kind cause)).layers = ⟨cause.text, cause.text :: cause.behind⟩) ∧
    (∀ cause, (config (.unreadable cause)).layers =
      ⟨"Failed to open config file: " ++ cause.text, cause.text :: cause.behind⟩) ∧
    (∀ cause, (config (.malformed cause)).layers =
      ⟨"Failed to parse YAML: " ++ cause.text, cause.text :: cause.behind⟩) ∧
    (∀ kind message, (transition ⟨kind, message, none⟩).layers = ⟨message, []⟩) ∧
    (∀ name waited, (transition (.timedOut name waited)).sources = []) ∧
    (∀ f : Failure, f.sources = [] ↔
      (∃ reason, f = config (.invalid reason)) ∨ (∃ e, f = notFound e) ∨
        (∃ kind message, f = transition ⟨kind, message, none⟩) ∨ ∃ message : String, f = internal ⟨message, []⟩) ∧
    (∀ e, (config e).code = e.code) ∧ (∀ e, (notFound e).code = NotFound.code) ∧
    (∀ e, (transition e).code = e.kind.code) ∧
    ∀ f g : Failure, f.code = g.code ↔ f.variant = g.variant := by
  have hinternal (told : Layers) (contexts : List String) :
      (internal ⟨told, contexts⟩).layers.texts = contexts.reverse ++ told.texts := by
    rw [layers_internal, Unforeseen.layers, Layers.texts_foldl_wrap]
  exact ⟨layers_eq, count_layers, fun message behind => rfl, hinternal, fun message => hinternal message,
    fun kind cause => rfl, fun cause => rfl, fun cause => rfl, fun kind message => rfl, fun name waited => rfl,
    fun f => sources_eq_nil_iff, fun e => rfl, fun e => rfl, fun e => rfl, fun f g => code_eq_code_iff⟩

end Failure

end ContainerWatch
