import Mathlib.Data.List.Basic
import Notebook.Text.Lowercase

/-!
# Lower case of a part of a text

A text is put in lower case as a whole, since a capital sigma looks at what stands on both sides of
it. Nothing else does, so a part of a text has its small form in it unless one of its sigmas sees
something else there than in the part by itself:

- `closesWord` — what a capital sigma looks at;
- `lowercaseBetween` — the small form of a part, between what stands around it;
- `lowercase_append` — the small form of a text is put together from those of its parts;
- `lowercaseBetween_eq_iff` — only the sigmas of a part depend on what stands around it;
- `KeepsSigmas` — the sigmas of a part are as in the part by itself: if there is none
  (`keepsSigmas_of_not_mem`), or if no letter with case stands next to the part
  (`keepsSigmas_of_apart`).
-/

namespace Notebook

/-- The small form of a character, which may be one of two for a sigma. -/
def smallForm (c : Char) (closes : Bool) : Text :=
  if c = 'Σ' then [if closes then 'ς' else 'σ']
  else if c = 'İ' then ['i', '\u0307']
  else [lowercaseChar c]

/-- Both forms of a sigma are one character. -/
theorem length_smallForm (c : Char) (closes closes' : Bool) :
    (smallForm c closes).length = (smallForm c closes').length := by
  unfold smallForm
  split <;> rfl

theorem smallForm_eq_iff {c : Char} {closes closes' : Bool} :
    smallForm c closes = smallForm c closes' ↔ (c = 'Σ' → closes = closes') := by
  by_cases hc : c = 'Σ'
  · subst hc
    cases closes <;> cases closes' <;> decide
  · rw [smallForm, smallForm, if_neg hc, if_neg hc]
    exact ⟨fun _ h => absurd h hc, fun _ => rfl⟩

namespace Text

/-- Whether a capital sigma between two texts closes its word. -/
def closesWord (before after : Text) : Bool := leadsCased before.reverse && !leadsCased after

/-- The small form of a text that stands between two others. -/
def lowercaseBetween (before after : Text) : Text → Text
  | [] => []
  | c :: rest =>
    smallForm c (closesWord before (rest ++ after)) ++ lowercaseBetween (before ++ [c]) after rest

/-! ### Putting together -/

/-- What is known of the letters that have been passed, after one more. -/
theorem leadsCased_reverse_concat (before : Text) (c : Char) :
    leadsCased (before ++ [c]).reverse =
      if isCaseIgnorable c then leadsCased before.reverse else isCased c := by
  rw [List.reverse_append]
  rfl

theorem lowercaseFrom_cons (before : Text) (c : Char) (rest : Text) :
    lowercaseFrom (leadsCased before.reverse) (c :: rest) =
      smallForm c (closesWord before rest) ++
        lowercaseFrom (leadsCased (before ++ [c]).reverse) rest := by
  rw [lowercaseFrom, leadsCased_reverse_concat, smallForm, closesWord]
  split
  · rfl
  · split <;> rfl

/-- Lower-casing goes through the parts of a text one after another. -/
theorem lowercaseFrom_append (before u v : Text) :
    lowercaseFrom (leadsCased before.reverse) (u ++ v) =
      lowercaseBetween before v u ++ lowercaseFrom (leadsCased (before ++ u).reverse) v := by
  induction u generalizing before with
  | nil => rw [List.append_nil, List.nil_append, lowercaseBetween, List.nil_append]
  | cons c rest ih =>
    rw [List.cons_append, lowercaseFrom_cons, ih, lowercaseBetween, List.append_assoc,
      List.append_assoc, List.singleton_append]

theorem lowercaseFrom_eq (before t : Text) :
    lowercaseFrom (leadsCased before.reverse) t = lowercaseBetween before [] t := by
  have h := lowercaseFrom_append before t []
  rwa [List.append_nil, lowercaseFrom, List.append_nil] at h

theorem lowercase_eq (t : Text) : lowercase t = lowercaseBetween [] [] t := lowercaseFrom_eq [] t

/-- **The small form of a text** is that of its parts, each of them between the others. -/
theorem lowercase_append (before t after : Text) :
    lowercase (before ++ (t ++ after)) =
      lowercaseBetween [] (t ++ after) before ++
        (lowercaseBetween before after t ++ lowercaseBetween (before ++ t) [] after) := by
  calc lowercase (before ++ (t ++ after))
      = lowercaseBetween [] (t ++ after) before ++
          lowercaseFrom (leadsCased before.reverse) (t ++ after) :=
        lowercaseFrom_append [] before (t ++ after)
    _ = _ := by rw [lowercaseFrom_append before, lowercaseFrom_eq]

/-! ### What depends on the text around -/

/-- How long the small form of a text is does not depend on what stands around it. -/
theorem length_lowercaseBetween (before after before' after' t : Text) :
    (lowercaseBetween before after t).length = (lowercaseBetween before' after' t).length := by
  induction t generalizing before before' with
  | nil => rfl
  | cons c rest ih =>
    rw [lowercaseBetween, lowercaseBetween, List.length_append, List.length_append,
      length_smallForm c _ (closesWord before' (rest ++ after')), ih _ (before' ++ [c])]

theorem length_lowercase (before after t : Text) :
    (lowercase t).length = (lowercaseBetween before after t).length := by
  rw [lowercase_eq]
  exact length_lowercaseBetween ..

/-- A text has one small form in two places if each of its sigmas closes a word in both or in
neither. -/
theorem lowercaseBetween_eq_iff {before after before' after' t : Text} :
    lowercaseBetween before after t = lowercaseBetween before' after' t ↔
      ∀ a b, t = a ++ 'Σ' :: b →
        closesWord (before ++ a) (b ++ after) = closesWord (before' ++ a) (b ++ after') := by
  induction t generalizing before before' with
  | nil => exact ⟨fun _ a b h => absurd h.symm (by simp), fun _ => rfl⟩
  | cons c rest ih =>
    -- Both forms of the first character have one length, so the small forms are compared in parts.
    have hlength := length_smallForm c (closesWord before (rest ++ after))
      (closesWord before' (rest ++ after'))
    rw [lowercaseBetween, lowercaseBetween]
    constructor
    · intro h a b hsplit
      obtain ⟨hfirst, hrest⟩ := List.append_inj h hlength
      cases a with
      | nil =>
        obtain ⟨rfl, rfl⟩ := List.cons.inj hsplit
        rw [List.append_nil, List.append_nil]
        exact smallForm_eq_iff.mp hfirst rfl
      | cons d a =>
        obtain ⟨rfl, rfl⟩ := List.cons.inj hsplit
        have := ih.mp hrest a b rfl
        rwa [List.append_assoc, List.append_assoc] at this
    · intro h
      have hfirst : c = 'Σ' →
          closesWord before (rest ++ after) = closesWord before' (rest ++ after') := by
        intro hc
        have := h [] rest (by rw [hc, List.nil_append])
        rwa [List.append_nil, List.append_nil] at this
      rw [smallForm_eq_iff.mpr hfirst]
      refine congrArg _ (ih.mpr fun a b hsplit => ?_)
      rw [List.append_assoc, List.append_assoc]
      exact h (c :: a) b (by rw [hsplit, List.cons_append])

/-! ### Sigmas that are kept -/

/-- The sigmas of a text close a word between two other texts exactly if they do by themselves. -/
def KeepsSigmas (before after t : Text) : Prop :=
  ∀ a b, t = a ++ 'Σ' :: b → closesWord (before ++ a) (b ++ after) = closesWord a b

theorem lowercaseBetween_eq_lowercase_iff {before after t : Text} :
    lowercaseBetween before after t = lowercase t ↔ KeepsSigmas before after t := by
  rw [lowercase_eq, lowercaseBetween_eq_iff]
  simp only [List.nil_append, List.append_nil, KeepsSigmas]

theorem keepsSigmas_of_not_mem {t : Text} (h : 'Σ' ∉ t) (before after : Text) :
    KeepsSigmas before after t := by
  intro a b hsplit
  exact absurd (by simp [hsplit]) h

/-- If no letter with case comes first in a text, another does not see it behind itself. -/
theorem leadsCased_append {v : Text} (h : leadsCased v = false) (u : Text) :
    leadsCased (u ++ v) = leadsCased u := by
  induction u with
  | nil => exact h
  | cons c rest ih => rw [List.cons_append, leadsCased, leadsCased, ih]

/-- A text keeps its sigmas where no letter with case stands next to it, seen past what casing
ignores. -/
theorem keepsSigmas_of_apart {before after : Text} (hbefore : leadsCased before.reverse = false)
    (hafter : leadsCased after = false) (t : Text) : KeepsSigmas before after t := by
  intro a b _
  rw [closesWord, closesWord, List.reverse_append, leadsCased_append hbefore,
    leadsCased_append hafter]

end Text

end Notebook
