/-!
# Dictionaries

A finite map from texts to texts, held as its entries in strictly ascending order of their keys.
Keys are ordered by their code points, which is also the order of their UTF-8 bytes.  Strict order
makes the entries unique for the map, so equal maps are equal values whatever the order in which
they were filled (`ext_get?`).

Main statements: `get?_insert` and `get?_erase` say what each operation does to the map.
-/

namespace ContainerWatch

/-- A finite map from texts to texts. -/
structure Dictionary where
  entries : List (String × String)
  /-- every key stands once and in order -/
  ascending : entries.Pairwise fun a b => a.1 < b.1
  deriving DecidableEq

namespace Dictionary

/-- The value at a key of a list of entries. -/
def lookup (key : String) : List (String × String) → Option String
  | [] => none
  | entry :: rest => if entry.1 = key then some entry.2 else lookup key rest

/-- The entries with one put at its place, where it replaces one of the same key. -/
def place (key value : String) : List (String × String) → List (String × String)
  | [] => [(key, value)]
  | entry :: rest =>
    if key < entry.1 then (key, value) :: entry :: rest
    else if entry.1 = key then (key, value) :: rest
    else entry :: place key value rest

theorem mem_place {key value : String} {entries : List (String × String)} {e : String × String}
    (h : e ∈ place key value entries) : e = (key, value) ∨ e ∈ entries := by
  induction entries with
  | nil => exact Or.inl (List.mem_singleton.1 h)
  | cons entry rest ih =>
    rw [place] at h
    split at h
    · exact List.mem_cons.1 h
    · split at h
      · exact (List.mem_cons.1 h).imp_right (List.mem_cons_of_mem entry)
      · rcases List.mem_cons.1 h with rfl | h
        · exact Or.inr List.mem_cons_self
        · exact (ih h).imp_right (List.mem_cons_of_mem entry)

/-- Putting an entry keeps the order. -/
theorem pairwise_place (key value : String) {entries : List (String × String)}
    (h : entries.Pairwise fun a b => a.1 < b.1) :
    (place key value entries).Pairwise fun a b => a.1 < b.1 := by
  induction entries with
  | nil => exact List.pairwise_singleton _ _
  | cons entry rest ih =>
    obtain ⟨hfirst, hrest⟩ := List.pairwise_cons.1 h
    rw [place]
    split
    · rename_i hlt
      refine List.pairwise_cons.2 ⟨fun e he => ?_, h⟩
      rcases List.mem_cons.1 he with rfl | he
      · exact hlt
      · exact String.lt_trans hlt (hfirst e he)
    · split
      · rename_i heq
        exact List.pairwise_cons.2 ⟨fun e he => heq ▸ hfirst e he, hrest⟩
      · rename_i hle hne
        refine List.pairwise_cons.2 ⟨fun e he => ?_, ih hrest⟩
        rcases mem_place he with rfl | he
        · exact Std.lt_of_le_of_ne (String.not_lt.1 hle) hne
        · exact hfirst e he

/-- The dictionary without entries. -/
def empty : Dictionary := ⟨[], List.Pairwise.nil⟩

instance : Inhabited Dictionary := ⟨empty⟩

/-- The value at a key. -/
def get? (d : Dictionary) (key : String) : Option String := lookup key d.entries

/-- The dictionary with a value put at a key. -/
def insert (d : Dictionary) (key value : String) : Dictionary :=
  ⟨place key value d.entries, pairwise_place key value d.ascending⟩

/-- The dictionary of the keys that satisfy a condition. -/
def keep (d : Dictionary) (accepted : String → Bool) : Dictionary :=
  ⟨d.entries.filter fun entry => accepted entry.1, d.ascending.filter _⟩

/-- The dictionary without a key. -/
def erase (d : Dictionary) (key : String) : Dictionary := d.keep (· != key)

/-- The dictionary filled with entries from left to right, so that the last one of a key stands. -/
def ofList (entries : List (String × String)) : Dictionary :=
  entries.foldl (fun d entry => d.insert entry.1 entry.2) empty

/-- Whether there are no entries. -/
def isEmpty (d : Dictionary) : Bool := d.entries.isEmpty

/-! ## The map that a dictionary stands for -/

theorem lookup_eq_none_of_lt {key : String} {entries : List (String × String)}
    (h : ∀ e ∈ entries, key < e.1) : lookup key entries = none := by
  induction entries with
  | nil => rfl
  | cons entry rest ih =>
    have hne : entry.1 ≠ key := fun heq =>
      absurd (h entry List.mem_cons_self) (heq ▸ String.lt_irrefl key)
    rw [lookup, if_neg hne]
    exact ih fun e he => h e (List.mem_cons_of_mem entry he)

theorem lookup_place (key value k : String) (entries : List (String × String)) :
    lookup k (place key value entries) = if k = key then some value else lookup k entries := by
  induction entries with
  | nil => by_cases hk : key = k <;> simp [place, lookup, hk, eq_comm]
  | cons entry rest ih =>
    rw [place]
    by_cases hk : key = k
    · subst hk
      split
      · simp [lookup]
      · split
        · simp [lookup]
        · rename_i hne
          simp [lookup, hne, ih]
    · have hk' : k ≠ key := Ne.symm hk
      split
      · simp [lookup, hk]
      · split
        · rename_i heq
          simp [lookup, hk, heq]
        · simp [lookup, ih, hk']

/-- Putting a value at a key changes the map there and nowhere else. -/
theorem get?_insert (d : Dictionary) (key value k : String) :
    (d.insert key value).get? k = if k = key then some value else d.get? k :=
  lookup_place key value k d.entries

theorem get?_keep (d : Dictionary) (accepted : String → Bool) (k : String) :
    (d.keep accepted).get? k = if accepted k then d.get? k else none := by
  simp only [get?, keep]
  induction d.entries with
  | nil => simp [lookup]
  | cons entry rest ih =>
    rw [List.filter_cons]
    by_cases hk : entry.1 = k
    · subst hk
      split
      · simp [lookup]
      · rename_i ha
        simp [ih, ha]
    · split <;> simp [lookup, hk, ih]

/-- Removing a key changes the map there and nowhere else. -/
theorem get?_erase (d : Dictionary) (key k : String) :
    (d.erase key).get? k = if k = key then none else d.get? k := by
  rw [erase, get?_keep]
  by_cases hk : k = key <;> simp [hk]

/-- Two dictionaries that agree on every key are equal. -/
theorem ext_get? {d e : Dictionary} (h : ∀ key, d.get? key = e.get? key) : d = e := by
  obtain ⟨ds, hd⟩ := d
  obtain ⟨es, he⟩ := e
  suffices hsame : ds = es by subst hsame; rfl
  simp only [get?] at h
  induction ds generalizing es with
  | nil =>
    cases es with
    | nil => rfl
    | cons entry rest => simpa [lookup] using h entry.1
  | cons a as ih =>
    cases es with
    | nil => simpa [lookup] using h a.1
    | cons b bs =>
      obtain ⟨ha, has⟩ := List.pairwise_cons.1 hd
      obtain ⟨hb, hbs⟩ := List.pairwise_cons.1 he
      have hkey : a.1 = b.1 := by
        by_cases hlt : a.1 < b.1
        · have hnone : lookup a.1 (b :: bs) = none := lookup_eq_none_of_lt fun e hmem => by
            rcases List.mem_cons.1 hmem with rfl | hmem
            · exact hlt
            · exact String.lt_trans hlt (hb e hmem)
          exact absurd ((h a.1).symm.trans (if_pos rfl)) (by rw [hnone]; simp)
        · by_cases hgt : b.1 < a.1
          · have hnone : lookup b.1 (a :: as) = none := lookup_eq_none_of_lt fun e hmem => by
              rcases List.mem_cons.1 hmem with rfl | hmem
              · exact hgt
              · exact String.lt_trans hgt (ha e hmem)
            exact absurd ((h b.1).trans (if_pos rfl)) (by rw [hnone]; simp)
          · exact String.le_antisymm (String.not_lt.1 hgt) (String.not_lt.1 hlt)
      have hvalue : a.2 = b.2 := by simpa [lookup, hkey] using h a.1
      have hrest : as = bs := ih has bs hbs fun k => by
        have hk := h k
        rw [lookup, lookup, hkey, hvalue] at hk
        by_cases hb1 : b.1 = k
        · subst hb1
          rw [lookup_eq_none_of_lt fun e hmem => hkey ▸ ha e hmem, lookup_eq_none_of_lt hb]
        · simpa [hb1] using hk
      rw [Prod.ext hkey hvalue, hrest]

end Dictionary

end ContainerWatch
