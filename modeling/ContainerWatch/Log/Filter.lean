import ContainerWatch.Log.Directive
/-!
# Log filters

A filter is a set of directives with one for each combination of target, span and fields.  Of the
directives that cover a module the one with the longest target gives the threshold, and nothing passes
where none does.  The directives are held in the order in which they are asked, the longest target
first, so that filters with the same directives are equal whatever the order in which these were added.

Main statement: `mem_place`, a directive that is put at its place brings no other one with it.
-/

namespace ContainerWatch.Log

namespace Directive

/-- The order in which directives are asked: longer targets first, then by their parts. -/
def compareKey (a b : Directive) : Ordering :=
  (compare (b.target.map String.length) (a.target.map String.length)).then
    ((compare a.target b.target).then ((compare a.span b.span).then (compare a.fields b.fields)))

end Directive

/-- A set of directives. -/
structure Filter where
  /-- in the order in which they are asked -/
  directives : List Directive
  deriving DecidableEq, Repr

namespace Filter

/-- A directive put at its place, where it replaces one for the same target, span and fields. -/
def place (d : Directive) : List Directive → List Directive
  | [] => [d]
  | e :: rest =>
    match d.compareKey e with
    | .lt => d :: e :: rest
    | .eq => d :: rest
    | .gt => e :: place d rest

/-- The filter with a directive added. -/
def add (f : Filter) (d : Directive) : Filter := ⟨place d f.directives⟩

/-- The filter of directives, a later one replacing an earlier one for the same lines. -/
def ofDirectives (ds : List Directive) : Filter := ds.foldl add ⟨[]⟩

/-- The directives in a text, with commas between them; what cannot be read is left out. -/
def readable (text : String) : List Directive :=
  ((Text.pieces ',' text.toList).filter fun piece => !piece.isEmpty).filterMap fun piece =>
    (Directive.read piece).toOption

/-- The filter that a text asks for: only errors pass when it holds no directive. -/
def ofText (text : String) : Filter :=
  let ds := readable text
  ofDirectives (if ds.isEmpty then [⟨none, none, [], some .error⟩] else ds)

/-- The filter with the lines of modules turned off.  The first module for which no directive can be
written is refused. -/
def turnOff (f : Filter) : List String → Except (String × Directive.Fault) Filter
  | [] => .ok f
  | module :: rest =>
    match Directive.read (Directive.offText module).toList with
    | .ok d => turnOff (f.add d) rest
    | .error fault => .error (Directive.offText module, fault)

/-- The threshold for the lines of a module, whatever fields they have. -/
def threshold (f : Filter) (module : String) : Threshold :=
  (f.directives.find? fun d => d.covers module).bind Directive.threshold

/-- Whether a line passes. -/
def admits (f : Filter) (l : Line) : Bool := (f.threshold l.target).admits l.level

/-- The lines that pass. -/
def select (f : Filter) (lines : List Line) : List Line := lines.filter f.admits

/-! ## Which directives count -/

theorem mem_place {d e : Directive} {ds : List Directive} (h : e ∈ place d ds) : e = d ∨ e ∈ ds := by
  induction ds with
  | nil => exact Or.inl (List.mem_singleton.1 h)
  | cons a rest ih =>
    rw [place] at h
    split at h
    · exact List.mem_cons.1 h
    · exact (List.mem_cons.1 h).imp_right (List.mem_cons_of_mem a)
    · rcases List.mem_cons.1 h with rfl | h
      · exact Or.inr List.mem_cons_self
      · exact (ih h).imp_right (List.mem_cons_of_mem a)

end Filter

end ContainerWatch.Log
