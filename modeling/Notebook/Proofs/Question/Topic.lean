import Notebook.Proofs.Question.Misses

/-!
# Topics and the end marks behind them (specification §4.4)

A topic reaches to the end of its line. White space is trimmed off it, then the end marks at its end
are dropped, and then the white space in front of these. Each of this is done once, so an end mark
that white space divides from those at the very end stays, and the topic is not as bare as it would
be if it were read again.

- `TopicAt` — a topic where it stands, with what was dropped behind it;
- `SpacedMarks`, `EndsInMark` — texts with white space between the end marks at their end, and texts
  that end in an end mark;
- `exists_of_bareTopic?`, `bareTopic?_spaced` — what a topic is cut out of, and what is left of a
  text with white space between its end marks;
- `endsInMark_iff`, `bareTopic?_self_iff` — a topic ends in an end mark just if it was cut out of
  such a text, and it is as bare as it can be just if it does not;
- `exists_topicAt` — where the topic behind a phrase stands.
-/

namespace Notebook

open Text

namespace Question

/-- A text that ends in an end mark, white space and other end marks, with white space behind them
or not. -/
def SpacedMarks (t : Text) : Prop :=
  ∃ front mark blanks marks back, t = front ++ mark :: (blanks ++ (marks ++ back)) ∧
    isEndMark mark = true ∧ (blanks ≠ [] ∧ ∀ c ∈ blanks, isBlank c = true) ∧
    (marks ≠ [] ∧ ∀ c ∈ marks, isEndMark c = true) ∧ ∀ c ∈ back, isBlank c = true

/-- A text that ends in an end mark. -/
def EndsInMark (t : Text) : Prop := ∃ c ∈ t.getLast?, isEndMark c = true

theorem not_isBlank_of_isEndMark {c : Char} (h : isEndMark c = true) : isBlank c = false := by
  rcases Unnumbered.isEndMark_iff.mp h with rfl | rfl | rfl <;> decide

theorem not_isEndMark_of_isBlank {c : Char} (h : isBlank c = true) : isEndMark c = false := by
  by_contra hmark
  rw [not_isBlank_of_isEndMark (Bool.eq_true_of_not_eq_false hmark)] at h
  cases h

/-! ### What a topic is cut out of -/

section Bare

variable {raw topic : Text}

/-- A topic is cut out of a text between white space, and end marks with white space around them. If
there are no end marks there is no white space in front of them, and if there is none the topic does
not end in an end mark. -/
theorem exists_of_bareTopic? (h : bareTopic? raw = some topic) :
    topic ≠ [] ∧ Bare topic ∧ ∃ front blanks marks back,
      raw = front ++ (topic ++ (blanks ++ (marks ++ back))) ∧
      (∀ c ∈ front, isBlank c = true) ∧ (∀ c ∈ blanks, isBlank c = true) ∧
      (∀ c ∈ marks, isEndMark c = true) ∧ (∀ c ∈ back, isBlank c = true) ∧
      (marks = [] → blanks = []) ∧ (blanks = [] → ¬EndsInMark topic) := by
  unfold bareTopic? at h
  dsimp only at h
  split at h
  · cases h
  · rename_i hne
    obtain rfl := Option.some.inj h
    obtain ⟨marks, hmarks, hall⟩ := exists_dropEndWhile_split isEndMark (trim raw)
    have hlast := last_dropEndWhile isEndMark (trim raw)
    generalize dropEndWhile isEndMark (trim raw) = kept at hne hmarks hlast ⊢
    have hne : trim kept ≠ [] := by simpa using hne
    obtain ⟨front, back, hraw, hfront, hback⟩ := exists_trim_split raw
    -- What is kept begins where the trimmed text does, and so not with white space.
    have hhead : ∀ c ∈ kept.head?, isBlank c = false := by
      intro c hc
      refine (bare_trim raw).head c ?_
      rw [hmarks]
      exact List.mem_head?_append_of_mem_head? hc
    obtain ⟨blanks, hkept, hblanks⟩ := exists_trim_append hhead
    refine ⟨hne, bare_trim kept, front, blanks, marks, back, ?_, hfront, hblanks, hall, hback,
      fun hnone => ?_, fun hnone => ?_⟩
    · rw [← List.append_assoc (trim kept), ← hkept, ← List.append_assoc kept, ← hmarks]
      exact hraw
    · rw [hnone, List.append_nil, hkept] at hmarks
      by_contra hblank
      obtain ⟨before, c, rfl⟩ := (List.eq_nil_or_concat blanks).resolve_left hblank
      have hend := (bare_trim raw).last c (by rw [hmarks]; simp)
      rw [hblanks c (by simp)] at hend
      cases hend
    · rw [hnone, List.append_nil] at hkept
      rintro ⟨c, hc, hmark⟩
      rw [← hkept] at hc
      rw [hlast c hc] at hmark
      cases hmark

/-- A text is trimmed at its start up to a character that is no white space, whatever is behind. -/
theorem exists_trimStart_eq {c : Char} (hc : isBlank c = false) (front : Text) :
    ∃ t, Bare t ∧ t.getLast? = some c ∧ ∀ more, trimStart (front ++ c :: more) = t ++ more := by
  obtain ⟨before, hbefore⟩ : trimStart (front ++ [c]) <:+ front ++ [c] := List.dropWhile_suffix _
  have hsome : trimStart (front ++ [c]) ≠ [] := by
    intro hnil
    have hblank := List.dropWhile_eq_nil_iff.mp hnil c (by simp)
    rw [hc] at hblank
    cases hblank
  have hlast : (trimStart (front ++ [c])).getLast? = some c := by
    have hend : (front ++ [c]).getLast? = some c := List.getLast?_concat
    rwa [← hbefore, List.getLast?_append_of_ne_nil _ hsome] at hend
  refine ⟨trimStart (front ++ [c]), ⟨fun d hd => ?_, fun d hd => ?_⟩, hlast, fun more => ?_⟩
  · exact head_dropWhile isBlank (front ++ [c]) d hd
  · obtain rfl := Option.some.inj (hlast.symm.trans hd)
    exact hc
  · have hnot : ¬((front ++ [c]).dropWhile isBlank).isEmpty = true := by
      rw [List.isEmpty_iff]
      exact hsome
    rw [List.append_cons, trimStart, List.dropWhile_append, if_neg hnot]
    rfl

/-- Of a text with white space between its end marks, the topic reaches to an end mark. -/
theorem bareTopic?_spaced (front : Text) {blanks marks back : Text} {mark : Char}
    (hmark : isEndMark mark = true) (hne : blanks ≠ []) (hblanks : ∀ c ∈ blanks, isBlank c = true)
    (hmarks : marks ≠ []) (hall : ∀ c ∈ marks, isEndMark c = true)
    (hback : ∀ c ∈ back, isBlank c = true) :
    ∃ topic, bareTopic? (front ++ mark :: (blanks ++ (marks ++ back))) = some topic ∧
      topic.getLast? = some mark := by
  obtain ⟨topic, hbare, hlast, hstart⟩ :=
    exists_trimStart_eq (not_isBlank_of_isEndMark hmark) front
  have hmarked : ∀ c ∈ (topic ++ (blanks ++ marks)).getLast?, isBlank c = false := by
    intro c hc
    rw [← List.append_assoc, List.getLast?_append_of_ne_nil _ hmarks] at hc
    exact not_isBlank_of_isEndMark (hall c (List.mem_of_getLast? hc))
  have hspaced : ∀ c ∈ (topic ++ blanks).getLast?, isEndMark c = false := by
    intro c hc
    rw [List.getLast?_append_of_ne_nil _ hne] at hc
    exact not_isEndMark_of_isBlank (hblanks c (List.mem_of_getLast? hc))
  -- The three steps: the outer white space, the end marks at the end, the white space before them.
  have htrim : trim (front ++ mark :: (blanks ++ (marks ++ back))) = topic ++ (blanks ++ marks) := by
    rw [trim, hstart, ← List.append_assoc blanks, ← List.append_assoc topic,
      trimEnd_append_blanks hback, trimEnd_eq_self hmarked]
  have hdrop : dropEndWhile isEndMark (topic ++ (blanks ++ marks)) = topic ++ blanks := by
    rw [← List.append_assoc, dropEndWhile_append hall, dropEndWhile_eq_self hspaced]
  have hagain : trim (topic ++ blanks) = topic := by
    rw [trim_append_blanks hblanks, trim_eq_self_iff.mpr hbare]
  have hsome : ¬topic.isEmpty = true := by
    rw [List.isEmpty_iff]
    rintro rfl
    cases hlast
  refine ⟨topic, ?_, hlast⟩
  rw [bareTopic?, htrim, hdrop, hagain]
  exact if_neg hsome

/-- **A topic ends in an end mark just if white space stands between the end marks** of the text it
is cut out of. -/
theorem endsInMark_iff (h : bareTopic? raw = some topic) : EndsInMark topic ↔ SpacedMarks raw := by
  constructor
  · rintro ⟨mark, hlast, hmark⟩
    obtain ⟨-, -, front, blanks, marks, back, hraw, -, hblanks, hall, hback, hnone, hend⟩ :=
      exists_of_bareTopic? h
    obtain ⟨init, rfl⟩ := List.getLast?_eq_some_iff.mp hlast
    have hblank : blanks ≠ [] := fun hnil => hend hnil ⟨mark, hlast, hmark⟩
    refine ⟨front ++ init, mark, blanks, marks, back, ?_, hmark, ⟨hblank, hblanks⟩,
      ⟨fun hnil => hblank (hnone hnil), hall⟩, hback⟩
    rw [hraw]
    simp
  · rintro ⟨front, mark, blanks, marks, back, rfl, hmark, ⟨hne, hblanks⟩, ⟨hmarks, hall⟩, hback⟩
    obtain ⟨topic', htopic, hlast⟩ :=
      bareTopic?_spaced front hmark hne hblanks hmarks hall hback
    obtain rfl := Option.some.inj (h.symm.trans htopic)
    exact ⟨mark, hlast, hmark⟩

/-- A trimmed text is a topic as it is just if it does not end in an end mark. -/
theorem bareTopic?_self_iff (hne : topic ≠ []) (hbare : Bare topic) :
    bareTopic? topic = some topic ↔ ¬EndsInMark topic := by
  constructor
  · intro h
    obtain ⟨-, -, front, blanks, marks, back, hsplit, -, -, -, -, -, hend⟩ :=
      exists_of_bareTopic? h
    -- Nothing was cut off, for want of length.
    have hlength := congrArg List.length hsplit
    simp only [List.length_append] at hlength
    exact hend (List.eq_nil_of_length_eq_zero (by omega))
  · intro h
    have hlast : ∀ c ∈ topic.getLast?, isEndMark c = false := by
      intro c hc
      by_contra hmark
      exact h ⟨c, hc, Bool.eq_true_of_not_eq_false hmark⟩
    have htrim := trim_eq_self_iff.mpr hbare
    rw [bareTopic?, htrim, dropEndWhile_eq_self hlast, htrim]
    exact if_neg (by simpa using hne)

end Bare

/-! ### Where a topic stands -/

/-- A topic where it stands in a text: it has no white space at its edges, and with what was dropped
behind it, which is white space and end marks, it reaches to the end of its line. -/
structure TopicAt (t topic dropped : Text) : Prop where
  not_empty : topic ≠ []
  bare : Bare topic
  no_feed : '\n' ∉ topic ++ dropped
  dropped_only : ∀ c ∈ dropped, isBlank c = true ∨ isEndMark c = true
  split : ∃ front back, t = front ++ (topic ++ dropped ++ back) ∧ ∀ c ∈ back.head?, c = '\n'

theorem TopicAt.of_suffix {t topic dropped text : Text} (h : TopicAt t topic dropped)
    (ht : t <:+ text) : TopicAt text topic dropped := by
  obtain ⟨front, back, rfl, hback⟩ := h.split
  obtain ⟨before, rfl⟩ := ht
  exact ⟨h.not_empty, h.bare, h.no_feed, h.dropped_only, before ++ front, back,
    (List.append_assoc _ _ _).symm, hback⟩

theorem TopicAt.isInfix {t topic dropped : Text} (h : TopicAt t topic dropped) : topic <:+: t := by
  obtain ⟨front, back, rfl, -⟩ := h.split
  exact ⟨front, dropped ++ back, by simp⟩

/-- A topic of end marks and white space only ends in an end mark. -/
theorem TopicAt.endsInMark {t topic dropped : Text} (h : TopicAt t topic dropped)
    (hall : ∀ c ∈ topic, isBlank c = true ∨ isEndMark c = true) : EndsInMark topic := by
  have hlast := List.getLast?_eq_getLast_of_ne_nil h.not_empty
  refine ⟨_, hlast, (hall _ (List.getLast_mem h.not_empty)).resolve_left fun hblank => ?_⟩
  rw [h.bare.last _ hlast] at hblank
  cases hblank

/-- **A topic is the rest of its line** behind a phrase and a preposition, up to white space and end
marks; it ends in an end mark just if white space stands between these. -/
theorem exists_topicAt {t topic : Text} (h : topicAfter? t = some topic) :
    ∃ dropped, TopicAt t topic dropped ∧
      (EndsInMark topic ↔ SpacedMarks (topic ++ dropped)) := by
  obtain ⟨⟨word, rest⟩, hword, hmore⟩ := Option.bind_eq_some_iff.mp h
  obtain ⟨behind, hbehind, hpreposition⟩ := Option.bind_eq_some_iff.mp hword
  obtain ⟨text, htext, htopic⟩ := Option.bind_eq_some_iff.mp hmore
  obtain ⟨rfl, -⟩ := afterOneOf?_eq_some hpreposition
  obtain ⟨-, hhead⟩ := afterBlanks?_eq_some htext
  have hsuffix : text <:+ t :=
    ((afterBlanks?_suffix htext).trans (List.suffix_append word rest)).trans
      (afterBlanks?_suffix hbehind)
  have hline : text = text.takeWhile (· ≠ '\n') ++ text.dropWhile (· ≠ '\n') :=
    List.takeWhile_append_dropWhile.symm
  have hback : ∀ c ∈ (text.dropWhile (· ≠ '\n')).head?, c = '\n' := by
    intro c hc
    simpa using head_dropWhile (· ≠ '\n') text c hc
  have hfeed : '\n' ∉ text.takeWhile (· ≠ '\n') := by
    intro hmem
    simpa using List.mem_takeWhile_imp hmem
  generalize text.takeWhile (· ≠ '\n') = line at htopic hline hfeed
  obtain ⟨hne, hbare, front, blanks, marks, back, hraw, hfront, hblanks, hall, hend, -, -⟩ :=
    exists_of_bareTopic? htopic
  -- The line begins behind white space, and so the topic begins the line.
  have hnil : front = [] := by
    cases front with
    | nil => rfl
    | cons c front =>
      have hblank := hhead c (by rw [hline, hraw]; rfl)
      rw [hfront c List.mem_cons_self] at hblank
      cases hblank
  rw [hnil, List.nil_append] at hraw
  refine ⟨blanks ++ (marks ++ back), .of_suffix ⟨hne, hbare, hraw ▸ hfeed, fun c hc => ?_, [],
    text.dropWhile (· ≠ '\n'), by rw [← hraw]; exact hline, hback⟩ hsuffix, ?_⟩
  · rcases List.mem_append.mp hc with hc | hc
    · exact Or.inl (hblanks c hc)
    · rcases List.mem_append.mp hc with hc | hc
      · exact Or.inr (hall c hc)
      · exact Or.inl (hend c hc)
  · rw [← hraw]
    exact endsInMark_iff htopic

end Question

end Notebook
