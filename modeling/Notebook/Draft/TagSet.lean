import Notebook.Text.Basic

/-!
# Sets of tag names (specification §3)

The tags of a note are kept without repetition and in the order of their characters' code points,
so that two sets with the same names are the same list.

* `TagSet.insert`, `TagSet.union` — the operations, each with its law of membership;
* `TagSet.ext_mem` — a set is determined by its members.
-/

namespace Notebook

/-- Inserts a name at its place in an ascending list that may already hold it. -/
def insertName (name : Text) : List Text → List Text
  | [] => [name]
  | first :: rest =>
    if name < first then name :: first :: rest
    else if name = first then first :: rest
    else first :: insertName name rest

theorem mem_insertName {name x : Text} {names : List Text} :
    x ∈ insertName name names ↔ x = name ∨ x ∈ names := by
  induction names with
  | nil => simp [insertName]
  | cons first rest ih =>
    unfold insertName
    split
    · simp
    · split
      · rename_i h
        subst h
        simp
      · simp only [List.mem_cons, ih]
        constructor
        · rintro (h | h | h) <;> simp [h]
        · rintro (h | h | h) <;> simp [h]

theorem pairwise_insertName {name : Text} {names : List Text} (h : names.Pairwise (· < ·)) :
    (insertName name names).Pairwise (· < ·) := by
  induction names with
  | nil => simp [insertName]
  | cons first rest ih =>
    obtain ⟨hfirst, hrest⟩ := List.pairwise_cons.mp h
    unfold insertName
    split
    · rename_i hlt
      refine List.pairwise_cons.mpr ⟨fun x hx => ?_, h⟩
      rcases List.mem_cons.mp hx with rfl | hx
      · exact hlt
      · exact List.lt_trans hlt (hfirst x hx)
    · split
      · exact h
      · rename_i hlt hne
        refine List.pairwise_cons.mpr ⟨fun x hx => ?_, ih hrest⟩
        rcases mem_insertName.mp hx with rfl | hx
        · rcases List.le_iff_lt_or_eq.mp (List.not_lt.mp hlt) with h | h
          · exact h
          · exact absurd h.symm hne
        · exact hfirst x hx

/-- A finite set of tag names. -/
structure TagSet where
  names : List Text
  ascending : names.Pairwise (· < ·) := by simp

namespace TagSet

instance : DecidableEq TagSet := fun s t =>
  decidable_of_iff (s.names = t.names) <| by cases s; cases t; simp

instance : Repr TagSet where
  reprPrec s prec := reprPrec s.names prec

instance : Membership Text TagSet where
  mem s name := name ∈ s.names

instance (name : Text) (s : TagSet) : Decidable (name ∈ s) :=
  inferInstanceAs (Decidable (name ∈ s.names))

/-- No tags. -/
def empty : TagSet := { names := [] }

instance : EmptyCollection TagSet := ⟨empty⟩
instance : Inhabited TagSet := ⟨empty⟩

/-- Whether there are no tags. -/
def isEmpty (s : TagSet) : Bool := s.names.isEmpty

/-- Adds a name. -/
def insert (s : TagSet) (name : Text) : TagSet where
  names := insertName name s.names
  ascending := pairwise_insertName s.ascending

/-- The set of the names in a list. -/
def ofList (names : List Text) : TagSet := names.foldl insert empty

/-- The names of two sets together. -/
def union (s t : TagSet) : TagSet := t.names.foldl insert s

@[simp] theorem not_mem_empty {name : Text} : name ∉ (∅ : TagSet) := List.not_mem_nil

@[simp] theorem mem_insert {s : TagSet} {name x : Text} : x ∈ s.insert name ↔ x = name ∨ x ∈ s :=
  mem_insertName

theorem mem_foldl_insert {names : List Text} {s : TagSet} {x : Text} :
    x ∈ names.foldl insert s ↔ x ∈ s ∨ x ∈ names := by
  induction names generalizing s with
  | nil => simp
  | cons n rest ih =>
    rw [List.foldl_cons, ih, mem_insert, List.mem_cons]
    constructor
    · rintro ((h | h) | h) <;> simp [h]
    · rintro (h | h | h) <;> simp [h]

@[simp] theorem mem_ofList {names : List Text} {x : Text} : x ∈ ofList names ↔ x ∈ names := by
  rw [ofList, mem_foldl_insert]
  exact or_iff_right not_mem_empty

@[simp] theorem mem_union {s t : TagSet} {x : Text} : x ∈ s.union t ↔ x ∈ s ∨ x ∈ t :=
  mem_foldl_insert

/-- Two ascending lists with the same members are equal. -/
theorem eq_of_mem_iff : ∀ {l m : List Text}, l.Pairwise (· < ·) → m.Pairwise (· < ·) →
    (∀ x, x ∈ l ↔ x ∈ m) → l = m
  | [], [], _, _, _ => rfl
  | [], b :: _, _, _, h => by simpa using (h b).mpr (by simp)
  | a :: _, [], _, _, h => by simpa using (h a).mp (by simp)
  | a :: l, b :: m, hl, hm, h => by
    obtain ⟨ha, hl'⟩ := List.pairwise_cons.mp hl
    obtain ⟨hb, hm'⟩ := List.pairwise_cons.mp hm
    have hab : a = b := by
      rcases List.mem_cons.mp ((h a).mp (by simp)) with h₁ | h₁
      · exact h₁
      · rcases List.mem_cons.mp ((h b).mpr (by simp)) with h₂ | h₂
        · exact h₂.symm
        · exact absurd (List.lt_trans (ha b h₂) (hb a h₁)) (List.lt_irrefl a)
    subst hab
    refine congrArg (a :: ·) (eq_of_mem_iff hl' hm' fun x => ?_)
    constructor
    · intro hx
      rcases List.mem_cons.mp ((h x).mp (List.mem_cons_of_mem _ hx)) with rfl | h'
      · exact absurd (ha x hx) (List.lt_irrefl x)
      · exact h'
    · intro hx
      rcases List.mem_cons.mp ((h x).mpr (List.mem_cons_of_mem _ hx)) with rfl | h'
      · exact absurd (hb x hx) (List.lt_irrefl x)
      · exact h'

/-- A set is determined by its members. -/
theorem ext_mem {s t : TagSet} (h : ∀ x, x ∈ s ↔ x ∈ t) : s = t := by
  have := eq_of_mem_iff s.ascending t.ascending h
  cases s
  cases t
  simpa using this

end TagSet
end Notebook
