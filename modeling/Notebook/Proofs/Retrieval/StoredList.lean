import Notebook.Intent
import Notebook.Proofs.Draft.Command
import Notebook.Proofs.NoteList.Context
import Notebook.Proofs.Question.Numeral
import Notebook.Proofs.Retrieval.Resolve
import Notebook.Retrieval.Grounding

/-!
# A list that is stored and asked for

A numbered list that is typed as the body of a note is stored as it is typed, and a question for one
of its positions is answered with that item, its note, and the list around it.

- `IsItemText` — what the texts of the items are like; `IsItemText.tidyLine_row` says that cleaning
  up leaves the line of an item alone;
- `interpret_numberedBody` — the command stores the list;
- `ofText_numberedBody`, `itemAt?_numberedBody` — the note has this list and no other;
- `ask_numberedBody` — from storing to the answer, if no other note has an item at the position.
-/

namespace Notebook

open Text

/-- A text that an item of a stored list may have: one line with single spaces between its words,
and no part of a flag or of a separator. -/
structure IsItemText (t : Text) : Prop where
  not_empty : t ≠ []
  trimmed : trim t = t
  spaces : ∀ c ∈ t, isBlank c = true → c = ' '
  single : contains "  ".toList t = false
  no_colon : ':' ∉ t
  no_hash : '#' ∉ t
  no_bar : '|' ∉ t

instance (t : Text) : Decidable (IsItemText t) :=
  decidable_of_iff (t ≠ [] ∧ trim t = t ∧ t.all (fun c => !isBlank c || c == ' ') = true ∧
    contains "  ".toList t = false ∧ ':' ∉ t ∧ '#' ∉ t ∧ '|' ∉ t) <| by
    have hspaces : t.all (fun c => !isBlank c || c == ' ') = true ↔
        ∀ c ∈ t, isBlank c = true → c = ' ' := by
      simp only [List.all_eq_true, Bool.or_eq_true, Bool.not_eq_true', beq_iff_eq]
      exact forall₂_congr fun c _ => by cases isBlank c <;> simp
    rw [hspaces]
    exact ⟨fun ⟨h₁, h₂, h₃, h₄, h₅, h₆, h₇⟩ => ⟨h₁, h₂, h₃, h₄, h₅, h₆, h₇⟩,
      fun h => ⟨h.1, h.2, h.3, h.4, h.5, h.6, h.7⟩⟩

/-- The entry at a place of a list, counted from zero. -/
def entryAt (i : Nat) (t : Text) : Entry := Entry.oneLine (i + 1) t

@[simp] theorem position_entryAt (i : Nat) (t : Text) : (entryAt i t).item.position = i + 1 := rfl

/-- Texts as the lines of a numbered list. -/
def numberedLines (texts : List Text) : List Text :=
  texts.mapIdx fun i t => Text.ofNat (i + 1) ++ ". ".toList ++ t

/-- A numbered list as the body of a note. -/
def numberedBody (texts : List Text) : Text := unlines (numberedLines texts)

/-- A numbered list as the context of an answer. -/
def numberedContext (texts : List Text) : Text :=
  unlines ("[Numbered list]".toList :: numberedLines texts)

/-- The answer with the item at a position of a list. -/
def numberedAnswer (title : Text) (texts : List Text) (position : Nat) (item : Text) : Answer where
  result :=
    { isPositional := true
      position := some position
      topic := none
      item := some item
      noteTitle := some title
      context := some (numberedContext texts) }
  grounding := some <|
    "Source note: \"".toList ++ title ++ "\"\nRequested item: #".toList ++ Text.ofNat position ++
      "\nAnswer: ".toList ++ item ++ "\n\nFull list context:\n".toList ++ numberedContext texts

/-! ### The text of an item -/

namespace IsItemText

variable {t : Text} (h : IsItemText t)

include h

theorem bare : Bare t := trim_eq_self_iff.mp h.trimmed

theorem no_feed : '\n' ∉ t := by
  intro hmem
  have hspace := h.spaces '\n' hmem (by decide)
  cases hspace

theorem valid_entryAt {i : Nat} (hi : i < maxPosition) : (entryAt i t).Valid :=
  Entry.valid_oneLine ⟨Nat.succ_pos i, hi⟩ ⟨h.not_empty, h.bare, h.no_feed⟩

/-- Behind a space that stands before it, the text of an item has single spaces only. -/
theorem squeezeFrom_space : squeezeFrom false (' ' :: t) = ' ' :: t := by
  have hspaces : ∀ c ∈ t, isInlineBlank c = true → c = ' ' := by
    intro c hc hblank
    simp only [isInlineBlank, Bool.and_eq_true] at hblank
    exact h.spaces c hc hblank.1.1
  have hsingle : ¬[' ', ' '] <:+: t := by
    intro hdouble
    have hcontains : contains "  ".toList t = true := contains_iff.mpr hdouble
    rw [h.single] at hcontains
    cases hcontains
  have hstart : t.head? ≠ some ' ' := by
    intro hhead
    have hblank := h.bare.head ' ' hhead
    revert hblank
    decide
  show ' ' :: squeezeFrom true t = ' ' :: t
  rw [squeezeFrom_eq_self hspaces hsingle true fun _ => hstart]

/-- There is nothing to clean up in the line of an item. -/
theorem tidyLine_row {i : Nat} (hi : i < maxPosition) :
    tidyLine (Text.ofNat (i + 1) ++ ". ".toList ++ t) =
      Text.ofNat (i + 1) ++ ". ".toList ++ t := by
  have hline : Bare (Text.ofNat (i + 1) ++ ". ".toList ++ t) :=
    Entry.bare_firstLine (h.valid_entryAt hi)
  have hnumber : ∀ c ∈ Text.ofNat (i + 1) ++ ['.'], isInlineBlank c = false := by
    intro c hc
    rcases List.mem_append.mp hc with hc | hc
    · simp [isInlineBlank, isBlank_of_isDigit (isDigit_of_mem_ofNat hc)]
    · rw [List.mem_singleton.mp hc]
      decide
  -- The number and its point have no white space, and a single space comes before the text.
  have hsplit : Text.ofNat (i + 1) ++ ". ".toList ++ t =
      Text.ofNat (i + 1) ++ ['.'] ++ ' ' :: t := by
    simp
  rw [tidyLine, trim_eq_self_iff.mpr hline, hsplit, squeeze, squeezeFrom_append hnumber (by simp),
    h.squeezeFrom_space]

end IsItemText

/-! ### The body of a note -/

section Body

variable {texts : List Text}

theorem map_render_entryAt : (texts.mapIdx entryAt).map Entry.render = numberedLines texts := by
  refine List.ext_getElem (by simp [numberedLines]) fun i hi hi' => ?_
  simp only [numberedLines, List.getElem_map, List.getElem_mapIdx, entryAt, Entry.render,
    Entry.content_oneLine]
  rfl

/-- The body of a note has nothing but its items, their numbers, points, spaces and line feeds. -/
theorem not_mem_numberedBody {c : Char} (hdigit : c.isDigit = false) (hmark : c ∉ ['.', ' ', '\n'])
    (hitem : ∀ t ∈ texts, c ∉ t) : c ∉ numberedBody texts := by
  intro hmem
  rcases exists_of_mem_unlines hmem with rfl | ⟨l, hl, hc⟩
  · exact hmark (by decide)
  · obtain ⟨i, hi, rfl⟩ := List.mem_mapIdx.mp hl
    rcases List.mem_append.mp hc with hc | hc
    · rcases List.mem_append.mp hc with hc | hc
      · rw [isDigit_of_mem_ofNat hc] at hdigit
        cases hdigit
      · exact hmark (List.mem_append_left ['\n'] hc)
    · exact hitem _ (List.getElem_mem hi) hc

variable (h : ∀ t ∈ texts, IsItemText t) (hlength : texts.length ≤ maxPosition)

include h hlength

theorem valid_of_mem_mapIdx : ∀ e ∈ texts.mapIdx entryAt, e.Valid := by
  intro e he
  obtain ⟨i, hi, rfl⟩ := List.mem_mapIdx.mp he
  exact (h _ (List.getElem_mem hi)).valid_entryAt (hi.trans_le hlength)

theorem lines_numberedBody (hne : texts ≠ []) :
    lines (numberedBody texts) = numberedLines texts := by
  have hfront : ∀ l ∈ ([] : List Text), IsLine l := nofun
  have hrows : (texts.mapIdx entryAt).flatMap Entry.rows = numberedLines texts := by
    rw [← map_render_entryAt, List.map_eq_flatMap]
    refine List.flatMap_congr fun e he => ?_
    obtain ⟨i, hi, rfl⟩ := List.mem_mapIdx.mp he
    rw [entryAt, Entry.rows_oneLine]
  have hlines := NoteList.lines_entries (valid_of_mem_mapIdx h hlength) hfront (by simpa using hne)
  rwa [List.nil_append, List.nil_append, map_render_entryAt, hrows] at hlines

theorem bare_numberedBody : Bare (numberedBody texts) := by
  have hrow : ∀ l ∈ numberedLines texts, Bare l ∧ l ≠ [] := by
    intro l hl
    obtain ⟨i, hi, rfl⟩ := List.mem_mapIdx.mp hl
    have hvalid := (h _ (List.getElem_mem hi)).valid_entryAt (hi.trans_le hlength)
    exact ⟨Entry.bare_firstLine hvalid, by simp⟩
  refine bare_unlines (fun l hl => (hrow l hl).1) (fun hnil => ?_) fun hnil => ?_
  · exact (hrow [] (List.mem_of_mem_head? hnil)).2 rfl
  · exact (hrow [] (List.mem_of_getLast? hnil)).2 rfl

/-- Cleaning up leaves the body of a note alone. -/
theorem tidyBody_numberedBody (hne : texts ≠ []) :
    tidyBody (' ' :: numberedBody texts) = numberedBody texts := by
  have hbar : '|' ∉ numberedBody texts :=
    not_mem_numberedBody (by decide) (by decide) fun t ht => (h t ht).no_bar
  have hbare := trim_eq_self_iff.mpr (bare_numberedBody h hlength)
  have hspace : trim (' ' :: numberedBody texts) = numberedBody texts := by
    rw [trim_cons_blank (by decide), hbare]
  have hrows : (numberedLines texts).map tidyLine = numberedLines texts := by
    refine (List.map_congr_left fun l hl => ?_).trans (List.map_id _)
    obtain ⟨i, hi, rfl⟩ := List.mem_mapIdx.mp hl
    exact (h _ (List.getElem_mem hi)).tidyLine_row (hi.trans_le hlength)
  rw [tidyBody_of_no_bar (by simp [hbar]), hspace, tidyLines, lines_numberedBody h hlength hne,
    hrows]
  exact hbare

/-- The body of a note is no sub-command. -/
theorem ofBody?_numberedBody (hne : texts ≠ []) :
    SubCommand.ofBody? (numberedBody texts) = none := by
  -- Every keyword begins with an at sign, and the body with the number of its first item.
  obtain ⟨rest, hrest⟩ : ∃ rest, numberedBody texts = '1' :: rest := by
    obtain ⟨t, more, rfl⟩ := List.exists_cons_of_ne_nil hne
    rw [numberedBody, numberedLines, List.mapIdx_cons, unlines_append_cons]
    exact ⟨_, rfl⟩
  rw [SubCommand.ofBody?, trim_eq_self_iff.mpr (bare_numberedBody h hlength), hrest]
  rfl

/-- **The command stores the list**: it makes a note of the title and the body. -/
theorem interpret_numberedBody (settings : Settings) {title : Text}
    (htitle : WrittenNote.IsTitle title) (hne : texts ≠ []) :
    settings.interpret (newNoteKeyword ++ title ++ " || ".toList ++ numberedBody texts) =
      .newNote ⟨title, numberedBody texts, {}, none⟩ := by
  have hhash : '#' ∉ numberedBody texts :=
    not_mem_numberedBody (by decide) (by decide) fun t ht => (h t ht).no_hash
  have hcolon : ':' ∉ numberedBody texts :=
    not_mem_numberedBody (by decide) (by decide) fun t ht => (h t ht).no_colon
  rw [Settings.interpret, Draft.ofCommand?_plain _ htitle hhash hcolon,
    tidyBody_numberedBody h hlength hne, ofBody?_numberedBody h hlength hne]

/-! ### The list of a note -/

theorem ofText_numberedBody (htwo : 2 ≤ texts.length) :
    NoteList.ofText (numberedBody texts) =
      [⟨.numbered, (texts.mapIdx entryAt).map Entry.item⟩] := by
  have hfront : ∀ l ∈ ([] : List Text), IsLine l := nofun
  have hplain : ∀ l ∈ ([] : List Text), ItemStart.ordered? (trim l) = none := nofun
  have hlist := NoteList.ofText_entries (valid_of_mem_mapIdx h hlength) hfront hplain (by simpa)
  rwa [List.nil_append, map_render_entryAt] at hlist

theorem itemAt?_numberedBody (htwo : 2 ≤ texts.length) {k : Nat} (hk : k < texts.length) :
    itemAt? (NoteList.ofText (numberedBody texts)) (k + 1) = some (entryAt k texts[k]).item := by
  rw [ofText_numberedBody h hlength htwo, NoteList.itemAt?_singleton, NoteList.at?,
    List.find?_eq_some_iff_getElem]
  -- The positions count up from one, so those before this one are lower.
  refine ⟨by simp, k, by simpa using hk, by simp, fun j hj => ?_⟩
  have hne : j ≠ k := by omega
  simpa using hne

theorem listContext_numberedBody (htwo : 2 ≤ texts.length) :
    listContext (NoteList.ofText (numberedBody texts)) = numberedContext texts := by
  rw [ofText_numberedBody h hlength htwo, NoteList.listContext_singleton, List.map_map]
  show unlines ([NoteList.headLine .numbered] ++ (texts.mapIdx entryAt).map Entry.render) = _
  rw [map_render_entryAt]
  rfl

/-- What the note could answer at a position of the list. -/
theorem ofNote?_numberedBody (htwo : 2 ≤ texts.length) (title : Text) (s : Scoring) {k : Nat}
    (hk : k < texts.length) : ∃ score,
      Candidate.ofNote? s ⟨k + 1, none⟩ ⟨title, numberedBody texts⟩ =
        some ⟨title, texts[k], numberedContext texts, score⟩ := by
  refine ⟨ItemQuery.score ⟨k + 1, none⟩ s ⟨title, numberedBody texts⟩, ?_⟩
  have hcontent : (entryAt k texts[k]).item.content = texts[k] := Entry.content_oneLine _ _
  simp only [Candidate.ofNote?, itemAt?_numberedBody h hlength htwo hk, Option.map_some, hcontent,
    listContext_numberedBody h hlength htwo]
  rfl

end Body

/-! ### From storing to the answer -/

/-- The answer that is made of what a note has of a list. -/
theorem grounding?_ofCandidate (position : Nat) (title item : Text) (texts : List Text)
    (score : Float) :
    (QueryResult.ofCandidate ⟨position, none⟩
      ⟨title, item, numberedContext texts, score⟩).grounding? =
      (numberedAnswer title texts position item).grounding := by
  simp [QueryResult.ofCandidate, QueryResult.unanswered, QueryResult.grounding?, between,
    numberedAnswer]

/-- **A list that is stored answers for its items.** -/
theorem ask_numberedBody (settings : Settings) (scoring : Scoring) {title : Text}
    {texts : List Text} (htitle : WrittenNote.IsTitle title) (htexts : ∀ t ∈ texts, IsItemText t)
    (htwo : 2 ≤ texts.length) (hlength : texts.length < Nat.pow 2 32) :
    ∃ draft,
      settings.interpret (newNoteKeyword ++ title ++ " || ".toList ++ numberedBody texts) =
        .newNote draft ∧
      ∀ (k : Nat) (hk : k < texts.length) (notes : List Note), draft.toNote ∈ notes →
        (∀ other ∈ notes, other ≠ draft.toNote →
          itemAt? (NoteList.ofText other.content) (k + 1) = none) →
        ask (Text.ofNat (k + 1) ++ "th item".toList) notes scoring =
          numberedAnswer title texts (k + 1) texts[k] := by
  have hmax : texts.length ≤ maxPosition := Nat.le_sub_one_of_lt hlength
  have hne : texts ≠ [] := by
    rintro rfl
    simp at htwo
  refine ⟨_, interpret_numberedBody htexts hmax settings htitle hne, ?_⟩
  intro k hk notes hmem hothers
  have hquery : ItemQuery.ofQuestion? (Text.ofNat (k + 1) ++ "th item".toList) =
      some ⟨k + 1, none⟩ := by
    have hending : "th".toList ∈ ordinalEndings := by decide
    have hnoun : "item".toList ∈ nounsAfterOrdinal := by decide
    exact ItemQuery.ofQuestion?_numeral (Nat.succ_pos k) (by omega) hending hnoun
  obtain ⟨score, hnote⟩ := ofNote?_numberedBody htexts hmax htwo title scoring hk
  have hresult : resolveQuestion (Text.ofNat (k + 1) ++ "th item".toList) notes scoring =
      .ofCandidate ⟨k + 1, none⟩ ⟨title, texts[k], numberedContext texts, score⟩ := by
    rw [resolveQuestion, hquery]
    -- No other note is a candidate, so the scoring has nothing to choose from.
    refine ItemQuery.resolve_of_only hmem hnote fun other hother hcandidate => ?_
    by_contra hdifferent
    rw [ItemQuery.IsCandidate, hothers other hother hdifferent] at hcandidate
    cases hcandidate
  rw [ask, hresult, grounding?_ofCandidate]
  rfl

/-- A list of three moves that is stored and asked for its third, with a list of two bullets beside
it. -/
theorem ask_numberedBody_moves :
    let moves := ["Spin slowly".toList, "Jump".toList, "Bow - deep (twice).".toList]
    let tea : Note := ⟨"Tea".toList, "- warm\n- pour".toList⟩
    ∃ draft,
      Settings.interpret {} "@new-Moves || 1. Spin slowly\n2. Jump\n3. Bow - deep (twice).".toList =
        .newNote draft ∧
      ask "3th item".toList [tea, draft.toNote] {} =
        numberedAnswer "Moves".toList moves 3 "Bow - deep (twice).".toList := by
  intro moves tea
  have htitle : WrittenNote.IsTitle "Moves".toList :=
    ⟨by decide, by decide, by decide, by decide, by decide, by decide⟩
  have hmoves : ∀ t ∈ moves, IsItemText t := by decide
  obtain ⟨draft, hdraft, hask⟩ := ask_numberedBody {} {} htitle hmoves (by decide) (by decide)
  refine ⟨draft, hdraft, hask 2 (by decide) [tea, draft.toNote] (by simp) ?_⟩
  intro other hother hdifferent
  have htea : other = tea := by simpa [hdifferent] using hother
  rw [htea]
  decide

end Notebook
