import Mathlib.Data.List.DropRight
import ScriptVet.Proofs.Occurrences

/-!
# Selections from a table

The rule on selections asks for two words with blanks, at most thirty characters and blanks again between them. The
characters in the middle may be blanks as well, so that a text between the words is divided in many ways. What all of them
come to is a law on the text as a whole (`IsGap`): it begins and ends with a blank, and without the blanks at both ends
no more than thirty characters are left. `isGap_iff` says that such a text, and no other, can be divided.

`matchesAt_selectFrom_iff` puts the words and the edges around it.
-/

namespace ScriptVet

namespace Regex

open Resources (isBlank)

/-! ## Characters -/

/-- A character of a word: an ASCII letter, a digit or the underscore. -/
def isWordLetter (c : Char) : Bool :=
  ('a' ≤ c && c ≤ 'z') || ('A' ≤ c && c ≤ 'Z') || ('0' ≤ c && c ≤ '9') || c = '_'

/-- A character that may stand between the words of a selection. The last two, the long s and the sign of the kelvin, are
letters in another case. -/
def isColumnLetter (c : Char) : Bool :=
  isWordLetter c || c = '*' || c = ',' || isBlank c || c = '\u017f' || c = '\u212a'

private lemma word_contains (c : Char) : CharSet.word.contains c = isWordLetter c := by
  rw [Bool.eq_iff_iff]
  simp [isWordLetter, CharSet.word, CharSet.contains, ← Char.toNat_inj, Char.le_def, UInt32.le_iff_toNat_le]
  omega

private lemma space_contains (c : Char) : CharSet.space.fold.normalize.contains c = isBlank c := blankSet_contains c

/-- The set of the expression holds the letters of columns. -/
lemma selectedColumns_contains (c : Char) : selectedColumns.contains c = isColumnLetter c := by
  rw [Bool.eq_iff_iff]
  simp [isColumnLetter, ← word_contains, isBlank, selectedColumns, CharSet.word, CharSet.contains, ← Char.toNat_inj]
  omega

private lemma isColumnLetter_of_isBlank {c : Char} (h : isBlank c = true) : isColumnLetter c = true := by
  simp [isColumnLetter, h]

/-! ## Edges of words -/

/-- At the place a word begins or ends: on one side of it stands a character of a word, on the other side none. -/
def EdgeAt (cs : List Char) (i : Nat) : Prop := (cs.take i).getLast?.any isWordLetter ≠ cs[i]?.any isWordLetter

instance (cs : List Char) (i : Nat) : Decidable (EdgeAt cs i) := inferInstanceAs (Decidable (_ ≠ _))

private lemma isWord_eq (c : Option Char) : isWord c = c.any isWordLetter := by
  unfold isWord
  rw [funext word_contains]

/-- The condition on an edge looks at the characters on both sides of a place. -/
lemma matches_edge_iff {u w v : List Char} :
    edge.Matches (behind none u) w v ↔ w = [] ∧ EdgeAt (u ++ v) u.length := by
  have hplace : (u ++ v)[u.length]? = v.head? := by
    rw [List.getElem?_append_right (Nat.le_refl _), Nat.sub_self, List.head?_eq_getElem?]
  have hbehind : behind none u = u.getLast? := Option.or_none
  show w = [] ∧ (isWord (behind none u) != isWord v.head?) = true ↔ _
  unfold EdgeAt
  rw [List.take_left, hplace, hbehind, bne_iff_ne, isWord_eq, isWord_eq]

/-! ## The text between the words -/

/-- What is left of a text without the blanks at both ends. -/
def trimmed (cs : List Char) : List Char := (cs.dropWhile isBlank).rdropWhile isBlank

/-- A text that may stand between the words of a selection. -/
structure IsGap (gap : List Char) : Prop where
  length_ge : 3 ≤ gap.length
  columns : ∀ c ∈ gap, isColumnLetter c = true
  head_blank : gap.head?.any isBlank = true
  last_blank : gap.getLast?.any isBlank = true
  trimmed_le : (trimmed gap).length ≤ 30

instance (gap : List Char) : Decidable (IsGap gap) :=
  decidable_of_iff (3 ≤ gap.length ∧ gap.all isColumnLetter = true ∧ gap.head?.any isBlank = true ∧
      gap.getLast?.any isBlank = true ∧ (trimmed gap).length ≤ 30)
    ⟨fun ⟨h₁, h₂, h₃, h₄, h₅⟩ => ⟨h₁, List.all_eq_true.mp h₂, h₃, h₄, h₅⟩,
      fun ⟨h₁, h₂, h₃, h₄, h₅⟩ => ⟨h₁, List.all_eq_true.mpr h₂, h₃, h₄, h₅⟩⟩

/-- A text between the words in three parts: blanks, at most thirty characters, blanks. -/
structure Divides (gap s m t : List Char) : Prop where
  text : gap = s ++ (m ++ t)
  front : s ≠ []
  middle : m ≠ []
  back : t ≠ []
  front_blank : ∀ c ∈ s, isBlank c = true
  columns : ∀ c ∈ m, isColumnLetter c = true
  back_blank : ∀ c ∈ t, isBlank c = true
  middle_le : m.length ≤ 30

section Gaps

variable {gap s m t : List Char}

/-- Blanks at the end do not count. -/
lemma rdropWhile_append_blanks (ht : ∀ c ∈ t, isBlank c = true) :
    (m ++ t).rdropWhile isBlank = m.rdropWhile isBlank := by
  have hreverse : ∀ c ∈ t.reverse, isBlank c = true := fun c hc => ht c (List.mem_reverse.mp hc)
  unfold List.rdropWhile
  rw [List.reverse_append, List.dropWhile_append_of_pos hreverse]

/-- However a text is divided, what is left without the blanks at its ends lies in the middle part. -/
lemma Divides.trimmed_length_le (h : Divides gap s m t) : (trimmed gap).length ≤ m.length := by
  unfold trimmed
  rw [h.text, List.dropWhile_append_of_pos h.front_blank, List.dropWhile_append]
  -- The middle part may be blank as well, and then nothing is left at all.
  split
  · have hnil : t.dropWhile isBlank = [] := List.dropWhile_eq_nil_iff.mpr h.back_blank
    rw [hnil]
    exact Nat.zero_le _
  · rw [rdropWhile_append_blanks h.back_blank]
    exact (List.rdropWhile_prefix _ _).length_le.trans (List.dropWhile_suffix _).length_le

/-- What divides a gap makes it one. -/
lemma Divides.isGap (h : Divides gap s m t) : IsGap gap where
  length_ge := by
    have hs := List.length_pos_of_ne_nil h.front
    have hm := List.length_pos_of_ne_nil h.middle
    have ht := List.length_pos_of_ne_nil h.back
    rw [h.text, List.length_append, List.length_append]
    omega
  columns := by
    intro c hc
    rw [h.text, List.mem_append, List.mem_append] at hc
    rcases hc with hs | hm | ht
    · exact isColumnLetter_of_isBlank (h.front_blank c hs)
    · exact h.columns c hm
    · exact isColumnLetter_of_isBlank (h.back_blank c ht)
  head_blank := by
    obtain ⟨c, s, rfl⟩ := List.exists_cons_of_ne_nil h.front
    rw [h.text]
    exact h.front_blank c (List.mem_cons_self ..)
  last_blank := by
    have hlast := List.getLast?_eq_some_getLast h.back
    rw [h.text, List.getLast?_append, List.getLast?_append, hlast]
    exact h.back_blank _ (List.getLast_mem h.back)
  trimmed_le := h.trimmed_length_le.trans h.middle_le

/-- Blanks alone are divided before the last two of them. -/
lemma IsGap.divides_of_blank (h : IsGap gap) (hblank : ∀ c ∈ gap, isBlank c = true) :
    ∃ s m t, Divides gap s m t := by
  have hlong := h.length_ge
  refine ⟨gap.take (gap.length - 2), (gap.drop (gap.length - 2)).take 1, (gap.drop (gap.length - 2)).drop 1, ?_⟩
  constructor
  case text => rw [List.take_append_drop, List.take_append_drop]
  case front => exact List.ne_nil_of_length_pos (by rw [List.length_take]; omega)
  case middle => exact List.ne_nil_of_length_pos (by rw [List.length_take, List.length_drop]; omega)
  case back => exact List.ne_nil_of_length_pos (by rw [List.length_drop, List.length_drop]; omega)
  case front_blank => exact fun c hc => hblank c (List.mem_of_mem_take hc)
  case columns => exact fun c hc => h.columns c (List.mem_of_mem_drop (List.mem_of_mem_take hc))
  case back_blank => exact fun c hc => hblank c (List.mem_of_mem_drop (List.mem_of_mem_drop hc))
  case middle_le => rw [List.length_take]; omega

/-- A text that holds more than blanks is divided where the blanks at its ends stop. -/
lemma IsGap.divides_of_trimmed (h : IsGap gap) (hne : trimmed gap ≠ []) :
    Divides gap (gap.takeWhile isBlank) (trimmed gap) ((gap.dropWhile isBlank).rtakeWhile isBlank) := by
  have htext : gap = gap.takeWhile isBlank ++ (trimmed gap ++ (gap.dropWhile isBlank).rtakeWhile isBlank) := by
    unfold trimmed
    rw [List.rdropWhile_append_rtakeWhile, List.takeWhile_append_dropWhile]
  constructor
  case text => exact htext
  case front =>
    obtain ⟨c, cs, rfl⟩ := List.exists_cons_of_length_pos (Nat.lt_of_lt_of_le (by omega) h.length_ge)
    have hc : isBlank c = true := h.head_blank
    rw [List.takeWhile_cons_of_pos hc]
    exact List.cons_ne_nil _ _
  case middle => exact hne
  case back =>
    intro hnil
    have hlast := h.last_blank
    rw [htext, hnil, List.append_nil, List.getLast?_append_of_ne_nil _ hne, List.getLast?_eq_some_getLast hne] at hlast
    exact List.rdropWhile_last_not _ _ hne hlast
  case front_blank => exact fun c hc => List.mem_takeWhile_imp hc
  case columns =>
    intro c hc
    refine h.columns c ?_
    rw [htext]
    exact List.mem_append_right _ (List.mem_append_left _ hc)
  case back_blank => exact fun c hc => List.mem_rtakeWhile_imp hc
  case middle_le => exact h.trimmed_le

/-- **A text can stand between the words exactly when it can be divided into blanks, at most thirty characters and
blanks.** -/
theorem isGap_iff : IsGap gap ↔ ∃ s m t, Divides gap s m t := by
  constructor
  · intro h
    by_cases hne : trimmed gap = []
    · refine h.divides_of_blank fun c hc => ?_
      have hdropped := List.rdropWhile_eq_nil_iff.mp hne
      rw [← List.takeWhile_append_dropWhile (p := isBlank) (l := gap), List.mem_append] at hc
      rcases hc with hfront | hback
      · exact List.mem_takeWhile_imp hfront
      · exact hdropped c hback
    · exact ⟨_, _, _, h.divides_of_trimmed hne⟩
  · rintro ⟨s, m, t, h⟩
    exact h.isGap

end Gaps

/-! ## Selections -/

/-- The first word of a selection. -/
def selectWord : List Char := ['S', 'E', 'L', 'E', 'C', 'T']

/-- The second word of a selection. -/
def fromWord : List Char := ['F', 'R', 'O', 'M']

private lemma selectWord_plain : Plain selectWord := by decide +kernel

private lemma fromWord_plain : Plain fromWord := by decide +kernel

/-- A selection stands in a text: the first word at `b`, the second word at `f`, edges outside of both and a text between
them that is allowed there. -/
structure Selects (cs : List Char) (b f : Nat) : Prop where
  order : b < f
  select_word : OccursAt selectWord cs b
  front_edge : EdgeAt cs b
  from_word : OccursAt fromWord cs f
  back_edge : EdgeAt cs (f + 4)
  gap : IsGap ((cs.take f).drop (b + 6))

instance (cs : List Char) (b f : Nat) : Decidable (Selects cs b f) :=
  decidable_of_iff (b < f ∧ OccursAt selectWord cs b ∧ EdgeAt cs b ∧ OccursAt fromWord cs f ∧ EdgeAt cs (f + 4) ∧
      IsGap ((cs.take f).drop (b + 6)))
    ⟨fun ⟨h₁, h₂, h₃, h₄, h₅, h₆⟩ => ⟨h₁, h₂, h₃, h₄, h₅, h₆⟩, fun ⟨h₁, h₂, h₃, h₄, h₅, h₆⟩ => ⟨h₁, h₂, h₃, h₄, h₅, h₆⟩⟩

/-- Blanks are matched by one or more of them. -/
lemma matches_blanks_iff {before : Option Char} {w rest : List Char} :
    (blanks 1).Matches before w rest ↔ w ≠ [] ∧ ∀ c ∈ w, isBlank c = true := by
  unfold blanks
  rw [matches_rep_set_iff, funext space_contains, Nat.one_le_iff_ne_zero, ne_eq, List.length_eq_zero_iff]
  simp

/-- Columns are matched by up to thirty of their letters. -/
lemma matches_columns_iff {before : Option Char} {w rest : List Char} :
    (rep 1 (some 30) true (set selectedColumns)).Matches before w rest ↔
      w ≠ [] ∧ w.length ≤ 30 ∧ ∀ c ∈ w, isColumnLetter c = true := by
  rw [matches_rep_set_iff, funext selectedColumns_contains, Nat.one_le_iff_ne_zero, ne_eq, List.length_eq_zero_iff]
  simp

/-- Blanks, at most thirty characters and blanks match what can be divided so. -/
lemma matches_divided_iff {next : Regex} {before : Option Char} {w rest : List Char} :
    (seq (blanks 1) (seq (rep 1 (some 30) true (set selectedColumns)) (seq (blanks 1) next))).Matches before w rest ↔
      ∃ gap v, w = gap ++ v ∧ IsGap gap ∧ next.Matches (behind before gap) v rest := by
  constructor
  · rintro ⟨s, x, rfl, hs, m, y, rfl, hm, t, v, rfl, ht, hnext⟩
    obtain ⟨hsne, hsblank⟩ := matches_blanks_iff.mp hs
    obtain ⟨hmne, hmle, hmcolumns⟩ := matches_columns_iff.mp hm
    obtain ⟨htne, htblank⟩ := matches_blanks_iff.mp ht
    have hdivides : Divides (s ++ (m ++ t)) s m t := ⟨rfl, hsne, hmne, htne, hsblank, hmcolumns, htblank, hmle⟩
    refine ⟨s ++ (m ++ t), v, by simp, hdivides.isGap, ?_⟩
    rw [behind_append, behind_append]
    exact hnext
  · rintro ⟨gap, v, rfl, hgap, hnext⟩
    obtain ⟨s, m, t, h⟩ := isGap_iff.mp hgap
    obtain rfl := h.text
    rw [behind_append, behind_append] at hnext
    exact ⟨s, m ++ (t ++ v), by simp, matches_blanks_iff.mpr ⟨h.front, h.front_blank⟩,
      m, t ++ v, rfl, matches_columns_iff.mpr ⟨h.middle, h.middle_le, h.columns⟩,
      t, v, rfl, matches_blanks_iff.mpr ⟨h.back, h.back_blank⟩, hnext⟩

/-- A match of the expression in its parts. -/
lemma matches_selectFrom_iff {u w v : List Char} :
    selectFrom.Matches (behind none u) w v ↔
      ∃ a gap d, w = a ++ (gap ++ d) ∧ CaseVariant selectWord a ∧ IsGap gap ∧ CaseVariant fromWord d ∧
        EdgeAt (u ++ (w ++ v)) u.length ∧ EdgeAt ((u ++ w) ++ v) (u ++ w).length := by
  constructor
  · rintro ⟨e, x, rfl, hfront, h⟩
    obtain ⟨rfl, hfront'⟩ := matches_edge_iff.mp hfront
    obtain ⟨a, x, rfl, ha, h⟩ := (matches_spelled_iff selectWord_plain).mp h
    obtain ⟨gap, x, rfl, hgap, h⟩ := matches_divided_iff.mp h
    obtain ⟨d, x, rfl, hd, h⟩ := (matches_spelled_iff fromWord_plain).mp h
    rw [behind_nil, ← behind_append, ← behind_append, ← behind_append] at h
    obtain ⟨rfl, hback⟩ := matches_edge_iff.mp h
    rw [List.append_nil] at hfront' ⊢
    exact ⟨a, gap, d, rfl, ha, hgap, hd, hfront', hback⟩
  · rintro ⟨a, gap, d, rfl, ha, hgap, hd, hfront, hback⟩
    refine ⟨[], _, rfl, matches_edge_iff.mpr ⟨rfl, hfront⟩, ?_⟩
    refine (matches_spelled_iff selectWord_plain).mpr ⟨a, gap ++ d, rfl, ha, ?_⟩
    refine matches_divided_iff.mpr ⟨gap, d, rfl, hgap, ?_⟩
    refine (matches_spelled_iff fromWord_plain).mpr ⟨d, [], by simp, hd, ?_⟩
    rw [behind_nil, ← behind_append, ← behind_append, ← behind_append]
    refine matches_edge_iff.mpr ⟨rfl, ?_⟩
    simpa using hback

private lemma length_parts {u a gap d : List Char} (ha : CaseVariant selectWord a) (hd : CaseVariant fromWord d) :
    (u ++ (a ++ (gap ++ d))).length = u.length + 6 + gap.length + 4 := by
  have halength : a.length = 6 := ha.length_eq
  have hdlength : d.length = 4 := hd.length_eq
  simp only [List.length_append]
  omega

/-- A selection cuts its text in five parts. -/
lemma selects_iff {cs : List Char} {b f : Nat} :
    Selects cs b f ↔
      ∃ u a gap d v, cs = u ++ ((a ++ (gap ++ d)) ++ v) ∧ u.length = b ∧ b + 6 + gap.length = f ∧
        CaseVariant selectWord a ∧ IsGap gap ∧ CaseVariant fromWord d ∧ EdgeAt cs b ∧ EdgeAt cs (f + 4) := by
  constructor
  · rintro ⟨horder, hselect, hfront, hfrom, hback, hgap⟩
    -- The text between the words is not empty, so the second word stands behind the first one.
    have hlong := hgap.length_ge
    rw [List.length_drop, List.length_take] at hlong
    obtain ⟨u, a, x, rfl, rfl, ha⟩ := hselect.exists_split (by decide)
    have hua : (u ++ a).length = u.length + 6 := by rw [List.length_append, ha.length_eq]; rfl
    obtain ⟨n, rfl⟩ : ∃ n, f = (u ++ a).length + n := Nat.exists_eq_add_of_le (by omega)
    rw [← List.append_assoc] at hfront hfrom hback hgap ⊢
    obtain ⟨gap, d, v, rfl, rfl, hd⟩ := ((occursAt_append _).mp hfrom).exists_split (by decide)
    rw [List.take_length_add_append, List.take_left, ← hua, List.drop_left] at hgap
    exact ⟨u, a, gap, d, v, by simp, rfl, by omega, ha, hgap, hd, hfront, hback⟩
  · rintro ⟨u, a, gap, d, v, hcs, rfl, rfl, ha, hgap, hd, hfront, hback⟩
    have hua : (u ++ a).length = u.length + 6 := by rw [List.length_append, ha.length_eq]; rfl
    have hparts : cs = (u ++ a) ++ (gap ++ (d ++ v)) := by rw [hcs]; simp
    rw [← hua] at hback ⊢
    have hselect : OccursAt selectWord cs u.length := by
      rw [hcs, List.append_assoc]
      exact ha.occursAt u _
    have hfrom : OccursAt fromWord cs ((u ++ a).length + gap.length) := by
      rw [hparts, occursAt_append]
      exact hd.occursAt gap v
    have hbetween : (cs.take ((u ++ a).length + gap.length)).drop (u.length + 6) = gap := by
      rw [hparts, List.take_length_add_append, List.take_left, ← hua, List.drop_left]
    exact ⟨by omega, hselect, hfront, hfrom, hback, by rwa [hbetween]⟩

/-- **The expression on selections matches from a place on exactly when a selection stands there.** -/
theorem matchesAt_selectFrom_iff {cs : List Char} {b : Nat} : selectFrom.MatchesAt cs b ↔ ∃ f, Selects cs b f := by
  simp only [selects_iff]
  constructor
  · rintro ⟨u, w, v, hcs, rfl, hmatch⟩
    obtain ⟨a, gap, d, rfl, ha, hgap, hd, hfront, hback⟩ := matches_selectFrom_iff.mp hmatch
    rw [List.append_assoc, ← hcs, length_parts ha hd] at hback
    rw [← hcs] at hfront
    exact ⟨u.length + 6 + gap.length, u, a, gap, d, v, hcs, rfl, rfl, ha, hgap, hd, hfront, hback⟩
  · rintro ⟨f, u, a, gap, d, v, hcs, rfl, rfl, ha, hgap, hd, hfront, hback⟩
    refine ⟨u, a ++ (gap ++ d), v, hcs, rfl, matches_selectFrom_iff.mpr ⟨a, gap, d, rfl, ha, hgap, hd, ?_, ?_⟩⟩
    · rwa [← hcs]
    · rwa [List.append_assoc, ← hcs, length_parts ha hd]

end Regex

namespace Registry

open Regex (Selects)

private lemma default_named_selectFrom : ∃ r, default.named "SQL-002" = [r] ∧ r.regex = some .selectFrom := by
  unfold named
  rw [default_rules_eq]
  exact ⟨_, rfl, rfl⟩

/-- **The rule on selections finds the first selection of a text.** There is one rule of this name. Its search finds
something exactly when a selection stands in the text, nothing exactly when there is none, and what it finds begins where
the first selection begins. -/
theorem default_finds_first_selection :
    ∃ r, default.named "SQL-002" = [r] ∧ ∀ cs : List Char,
      ((∃ m, r.search (Text.ofChars cs) = .ok (some m)) ↔ ∃ b f, Selects cs b f) ∧
      (r.search (Text.ofChars cs) = .ok none ↔ ¬ ∃ b f, Selects cs b f) ∧
      ∀ m, r.search (Text.ofChars cs) = .ok (some m) → IsLeast {b | ∃ f, Selects cs b f} m.start := by
  obtain ⟨r, hr, hregex⟩ := default_named_selectFrom
  refine ⟨r, hr, fun cs => ?_⟩
  have hsearch := Rule.search_none_or_least hregex cs
  simp only [Regex.matchesAt_selectFrom_iff] at hsearch
  rcases hsearch with ⟨hnone, hnowhere⟩ | ⟨m, hm, hleast⟩
  · have hempty : ¬ ∃ b f, Selects cs b f := fun ⟨b, hb⟩ => hnowhere b hb
    simp [hnone, hempty]
  · have hsome : ∃ b f, Selects cs b f := ⟨m.start, hleast.1⟩
    refine ⟨iff_of_true ⟨m, hm⟩ hsome, iff_of_false ?_ (not_not_intro hsome), ?_⟩
    · rw [hm]
      simp
    · intro found hfound
      obtain rfl : m = found := by simpa [hm] using hfound
      exact hleast

/-- A selection of so many stars, with long blanks around them. -/
def starSelection (stars : Nat) : List Char :=
  ['(', 's', 'e', 'l', 'e', 'c', 't', '\t', ' '] ++ List.replicate stars '*' ++ [' ', '\n', 'F', 'R', 'O', 'M', ';']

/-- Thirty characters between the blanks are found, and one more is not. -/
theorem default_finds_first_selection_starSelection :
    ∃ r m, default.named "SQL-002" = [r] ∧ r.search (Text.ofChars (starSelection 30)) = .ok (some m) ∧ m.start = 1 ∧
      r.search (Text.ofChars (starSelection 31)) = .ok none := by
  obtain ⟨r, hr, hfound⟩ := default_finds_first_selection
  have hselects : Selects (starSelection 30) 1 41 := by decide +kernel
  obtain ⟨m, hm⟩ := (hfound (starSelection 30)).1.mpr ⟨1, 41, hselects⟩
  obtain ⟨⟨f, hf⟩, hleast⟩ := (hfound (starSelection 30)).2.2 m hm
  have hstart : m.start ≠ 0 := by
    intro hzero
    have hfirst : ¬ Regex.OccursAt Regex.selectWord (starSelection 30) 0 := by decide +kernel
    exact hfirst (hzero ▸ hf.select_word)
  refine ⟨r, m, hr, hm, Nat.le_antisymm (hleast ⟨41, hselects⟩) (Nat.pos_of_ne_zero hstart), ?_⟩
  refine (hfound (starSelection 31)).2.1.mpr ?_
  rintro ⟨b, f, h⟩
  have hnowhere : ∀ f < 47, ∀ b < f, ¬ Selects (starSelection 31) b f := by decide +kernel
  have hlength : f + 4 ≤ 47 := h.from_word.add_length_le (by decide)
  exact hnowhere f (by omega) b h.order h

end Registry

end ScriptVet
