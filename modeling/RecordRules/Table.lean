/-!
# Tables by name

A table binds names to values, each name at most once, and keeps its bindings in ascending order
of the names. Names are ordered by code points, which is the order of their UTF-8 bytes too.

The view of a table is the function from names to values that `get?` gives. Each operation is
pinned down by what it does to that view; the order needs no further statement, since the type
carries it.
-/

namespace RecordRules

/-- Bindings of names to values, the names strictly ascending. -/
structure Table (α : Type) where
  entries : List (String × α)
  ascending : entries.Pairwise fun left right => left.1 < right.1
  deriving DecidableEq

namespace Table

variable {α : Type}

/-- Two different names are in one order or the other. -/
theorem name_eq_of_not_lt {left right : String} (notBelow : ¬ left < right)
    (notAbove : ¬ right < left) : left = right :=
  String.le_antisymm (String.not_lt.mp notAbove) (String.not_lt.mp notBelow)

/-- No name is bound. -/
def empty : Table α := ⟨[], .nil⟩

/-- The value bound to a name. -/
def get? (table : Table α) (name : String) : Option α :=
  (table.entries.find? fun entry => entry.1 == name).map Prod.snd

/-- The bound names, strictly ascending. -/
def names (table : Table α) : List String := table.entries.map Prod.fst

/-- Puts a binding in its place among ascending ones, instead of one of the same name. -/
def insertEntry (name : String) (value : α) : List (String × α) → List (String × α)
  | [] => [(name, value)]
  | (other, old) :: entries =>
    if name < other then (name, value) :: (other, old) :: entries
    else if other < name then (other, old) :: insertEntry name value entries
    else (name, value) :: entries

/-- Inserting brings in no other name than the inserted one. -/
theorem fst_eq_or_mem_of_mem_insertEntry {name : String} {value : α}
    {entries : List (String × α)} {entry : String × α}
    (member : entry ∈ insertEntry name value entries) : entry.1 = name ∨ entry ∈ entries := by
  induction entries with
  | nil =>
    simp only [insertEntry, List.mem_singleton] at member
    exact .inl (by rw [member])
  | cons first entries inductionHypothesis =>
    simp only [insertEntry] at member
    split at member
    · rcases List.mem_cons.mp member with same | later
      · exact .inl (by rw [same])
      · exact .inr later
    · split at member
      · rcases List.mem_cons.mp member with same | later
        · exact .inr (by simp [same])
        · rcases inductionHypothesis later with same | old
          · exact .inl same
          · exact .inr (List.mem_cons_of_mem _ old)
      · rcases List.mem_cons.mp member with same | later
        · exact .inl (by rw [same])
        · exact .inr (List.mem_cons_of_mem _ later)

/-- Inserting keeps ascending bindings ascending. -/
theorem ascending_insertEntry (name : String) (value : α) {entries : List (String × α)}
    (ascending : entries.Pairwise fun left right => left.1 < right.1) :
    (insertEntry name value entries).Pairwise fun left right => left.1 < right.1 := by
  induction entries with
  | nil => simp [insertEntry]
  | cons first entries inductionHypothesis =>
    obtain ⟨beyond, later⟩ := List.pairwise_cons.mp ascending
    simp only [insertEntry]
    split
    · rename_i below
      refine List.pairwise_cons.mpr ⟨?_, ascending⟩
      intro entry member
      rcases List.mem_cons.mp member with same | old
      · rw [same]
        exact below
      · exact String.lt_trans below (beyond entry old)
    · rename_i notBelow
      split
      · rename_i above
        refine List.pairwise_cons.mpr ⟨?_, inductionHypothesis later⟩
        intro entry member
        rcases fst_eq_or_mem_of_mem_insertEntry member with same | old
        · rw [same]
          exact above
        · exact beyond entry old
      · rename_i notAbove
        have same : name = first.1 := name_eq_of_not_lt notBelow notAbove
        refine List.pairwise_cons.mpr ⟨?_, later⟩
        intro entry member
        exact same ▸ beyond entry member

/-- Binds a name to a value, instead of what it was bound to before. -/
def insert (table : Table α) (name : String) (value : α) : Table α :=
  ⟨insertEntry name value table.entries, ascending_insertEntry name value table.ascending⟩

/-- Unbinds a name. -/
def erase (table : Table α) (name : String) : Table α :=
  ⟨table.entries.filter fun entry => entry.1 != name, table.ascending.filter _⟩

/-- The bindings of a list, of which a later one of a name replaces an earlier one. -/
def ofList (bindings : List (String × α)) : Table α :=
  bindings.foldl (fun table binding => table.insert binding.1 binding.2) empty

@[simp] theorem get?_empty (name : String) : (empty : Table α).get? name = none := rfl

/-- What the front of ascending bindings says about a name. -/
theorem find?_insertEntry (name : String) (value : α) {entries : List (String × α)}
    (ascending : entries.Pairwise fun left right => left.1 < right.1) (asked : String) :
    (insertEntry name value entries).find? (fun entry => entry.1 == asked) =
      if asked = name then some (name, value)
      else entries.find? fun entry => entry.1 == asked := by
  induction entries with
  | nil =>
    by_cases same : asked = name
    · simp [insertEntry, same]
    · simp [insertEntry, same, Ne.symm same]
  | cons first entries inductionHypothesis =>
    obtain ⟨beyond, later⟩ := List.pairwise_cons.mp ascending
    simp only [insertEntry]
    split
    · by_cases same : asked = name
      · simp [same]
      · simp [same, Ne.symm same, List.find?_cons]
    · rename_i notBelow
      split
      · rename_i above
        have distinct : first.1 ≠ name := fun same => String.lt_irrefl _ (same ▸ above)
        rw [List.find?_cons, inductionHypothesis later, List.find?_cons]
        by_cases same : asked = name
        · have other : (first.1 == name) = false := by simp [distinct]
          simp [same, other]
        · simp [same]
      · rename_i notAbove
        have same : name = first.1 := name_eq_of_not_lt notBelow notAbove
        by_cases asksSame : asked = name
        · simp [asksSame]
        · have other : ¬ first.1 = asked := fun equal => asksSame (equal ▸ same.symm)
          simp [asksSame, Ne.symm asksSame, other]

/-- A name just bound has its new value, and every other name what it had. -/
theorem get?_insert (table : Table α) (name : String) (value : α) (asked : String) :
    (table.insert name value).get? asked =
      if asked = name then some value else table.get? asked := by
  simp only [get?, insert, find?_insertEntry name value table.ascending]
  split <;> rfl

/-- A name just unbound has no value, and every other name what it had. -/
theorem get?_erase (table : Table α) (name asked : String) :
    (table.erase name).get? asked = if asked = name then none else table.get? asked := by
  simp only [get?, erase, List.find?_filter]
  by_cases same : asked = name
  · subst same
    simp
  · have agree : (fun entry : String × α => decide (entry.1 != name ∧ entry.1 == asked)) =
        fun entry => entry.1 == asked := by
      funext entry
      by_cases hit : entry.1 = asked
      · simp [hit, same]
      · simp [hit]
    simp only [agree, same, if_false]

/-- The names are strictly ascending. -/
theorem pairwise_names (table : Table α) : table.names.Pairwise (· < ·) := by
  simpa [names, List.pairwise_map] using table.ascending

/-- A name is among the names exactly if it is bound. -/
theorem mem_names_iff (table : Table α) (name : String) :
    name ∈ table.names ↔ (table.get? name).isSome = true := by
  simp [names, get?]

end Table

end RecordRules
