import ScriptVet.Proofs.LetterCase
import ScriptVet.Proofs.Trying

/-!
# Words in a text

What the default rules look for is said here by places in a text: a word stands at a place in either case (`OccursAt`).
What either case means is said without the tables of an expression (`SameLetter`), and `caseRanges_contains_iff` is the
way from there to its sets.

The words of the default rules are spelled letter by letter. `matches_spelled_iff` and `firstLength_spelled` pass over
such a word at once, the first for what matches and the second for what is preferred. A rule finds the first place from
which its expression matches (`Rule.search_none_or_least`).
-/

namespace ScriptVet

namespace Regex

/-! ## Words in either case -/

/-- The second character is the first one, but for its case. Two characters beyond ASCII are ASCII letters in another case:
the long s and the sign of the kelvin. -/
def SameLetter (l c : Char) : Prop :=
  c.toLower = l.toLower ∨ l.toLower = 's' ∧ c = '\u017f' ∨ l.toLower = 'k' ∧ c = '\u212a'

instance (l c : Char) : Decidable (SameLetter l c) := inferInstanceAs (Decidable (_ ∨ _))

/-- The second word is the first one, but for the case of its letters. -/
def CaseVariant (word w : List Char) : Prop := List.Forall₂ SameLetter word w

instance (word w : List Char) : Decidable (CaseVariant word w) :=
  inferInstanceAs (Decidable (List.Forall₂ SameLetter word w))

/-- The word stands at a place of a text, in either case. -/
def OccursAt (word cs : List Char) (i : Nat) : Prop := CaseVariant word ((cs.drop i).take word.length)

instance (word cs : List Char) (i : Nat) : Decidable (OccursAt word cs i) :=
  inferInstanceAs (Decidable (CaseVariant _ _))

section Words

variable {word letters w cs rest : List Char} {l : Char} {next : Regex} {before : Option Char} {i n : Nat}

lemma CaseVariant.length_eq (h : CaseVariant word w) : w.length = word.length := (List.Forall₂.length_eq h).symm

/-- A word of two parts is written part by part. -/
lemma caseVariant_append_iff {a b : List Char} :
    CaseVariant (a ++ b) w ↔ ∃ u v, w = u ++ v ∧ CaseVariant a u ∧ CaseVariant b v := by
  constructor
  · intro h
    have hfront := List.forall₂_take a.length h
    have hback := List.forall₂_drop a.length h
    rw [List.take_left] at hfront
    rw [List.drop_left] at hback
    exact ⟨w.take a.length, w.drop a.length, (List.take_append_drop _ _).symm, hfront, hback⟩
  · rintro ⟨u, v, rfl, hu, hv⟩
    exact List.rel_append hu hv

/-- What stands at a place does not depend on the text before it. -/
theorem occursAt_append (front : List Char) :
    OccursAt word (front ++ cs) (front.length + n) ↔ OccursAt word cs n := by
  unfold OccursAt
  rw [List.drop_length_add_append]

/-- A word occurs where a variant of it stands. -/
theorem CaseVariant.occursAt (h : CaseVariant word w) (u v : List Char) : OccursAt word (u ++ (w ++ v)) u.length := by
  have hslice : ((u ++ (w ++ v)).drop u.length).take word.length = w := by
    rw [List.drop_left, ← h.length_eq, List.take_left]
  unfold OccursAt
  rw [hslice]
  exact h

/-- A word that occurs in a text ends in it. -/
theorem OccursAt.add_length_le (hne : word ≠ []) (h : OccursAt word cs i) : i + word.length ≤ cs.length := by
  have hlength : ((cs.drop i).take word.length).length = word.length := CaseVariant.length_eq h
  have hpos : 0 < word.length := List.length_pos_of_ne_nil hne
  rw [List.length_take, List.length_drop] at hlength
  omega

/-- A text is cut at a word that stands there. -/
theorem OccursAt.exists_split (hne : word ≠ []) (h : OccursAt word cs i) :
    ∃ u w v, cs = u ++ (w ++ v) ∧ u.length = i ∧ CaseVariant word w := by
  have hle := h.add_length_le hne
  refine ⟨cs.take i, (cs.drop i).take word.length, (cs.drop i).drop word.length, ?_, ?_, h⟩
  · rw [List.take_append_drop, List.take_append_drop]
  · rw [List.length_take]
    omega

/-- A text is cut at the first place behind its front where a word stands. No part of the text between them starts with
the word. -/
theorem exists_split_of_isLeast {front : List Char} (hne : word ≠ [])
    (h : IsLeast {n | front.length ≤ n ∧ OccursAt word (front ++ cs) n} i) :
    ∃ u w v, cs = u ++ (w ++ v) ∧ CaseVariant word w ∧ i = front.length + u.length ∧
      ∀ x y, u = x ++ y → y ≠ [] → ¬ OccursAt word (y ++ (w ++ v)) 0 := by
  obtain ⟨⟨hle, hoccurs⟩, hfirst⟩ := h
  obtain ⟨m, rfl⟩ := Nat.exists_eq_add_of_le hle
  obtain ⟨u, w, v, rfl, rfl, hw⟩ := ((occursAt_append _).mp hoccurs).exists_split hne
  refine ⟨u, w, v, rfl, hw, rfl, ?_⟩
  rintro x y rfl hy hstarts
  -- The word would stand behind `x` already.
  have hearlier : OccursAt word (front ++ ((x ++ y) ++ (w ++ v))) (front.length + x.length) := by
    rw [occursAt_append, List.append_assoc]
    exact (occursAt_append x).mpr hstarts
  have hmin := hfirst ⟨Nat.le_add_right _ _, hearlier⟩
  have hpos : 0 < y.length := List.length_pos_of_ne_nil hy
  rw [List.length_append] at hmin
  omega

/-! ## Letters in expressions -/

/-- The characters beyond ASCII that differ from a small ASCII letter in case only, by their numbers. -/
def beyondAscii (n : Nat) : List (Nat × Nat) :=
  if n = 0x73 then [(0x17F, 0x17F)] else if n = 0x6B then [(0x212A, 0x212A)] else []

/-- The characters that differ from an ASCII character in case only, and itself, by their numbers. -/
def caseRanges (n : Nat) : List (Nat × Nat) :=
  if 0x41 ≤ n ∧ n ≤ 0x5A then (n, n) :: (n + 0x20, n + 0x20) :: beyondAscii (n + 0x20)
  else if 0x61 ≤ n ∧ n ≤ 0x7A then (n - 0x20, n - 0x20) :: (n, n) :: beyondAscii n
  else [(n, n)]

/-- An expression takes these characters, and no others, for those of a word in either case. -/
def Plain (word : List Char) : Prop := ∀ l ∈ word, (CharSet.single l.toNat).fold = ⟨caseRanges l.toNat⟩

instance (word : List Char) : Decidable (Plain word) :=
  List.decidableBAll (fun l : Char => (CharSet.single l.toNat).fold = ⟨caseRanges l.toNat⟩) word

/-- The ranges of a letter hold its variants. -/
lemma caseRanges_contains_iff (l c : Char) : CharSet.contains ⟨caseRanges l.toNat⟩ c = true ↔ SameLetter l c := by
  have hc := toLower_cases c
  have hl := toLower_cases l
  have hs : 's'.toNat = 0x73 := rfl
  have hk : 'k'.toNat = 0x6B := rfl
  have hlong : '\u017f'.toNat = 0x17F := rfl
  have hkelvin : '\u212a'.toNat = 0x212A := rfl
  have hpoint : ∀ a, (a ≤ c.toNat ∧ c.toNat ≤ a) ↔ c.toNat = a := fun a => by omega
  unfold SameLetter CharSet.contains caseRanges beyondAscii
  simp only [← Char.toNat_inj, hs, hk, hlong, hkelvin] at hc hl ⊢
  split_ifs
  all_goals
    simp only [List.any_cons, List.any_nil, Bool.or_false, Bool.or_eq_true, Bool.and_eq_true, decide_eq_true_eq, hpoint]
    -- What is left is about numbers, once it is known of both characters whether they are capital letters.
    rcases hc with ⟨hc, hsmall⟩ | ⟨hc, hc', hsmall⟩
    all_goals
      rcases hl with ⟨hl, hsmall'⟩ | ⟨hl, hl', hsmall'⟩
      all_goals
        rw [hsmall, hsmall']
        omega

private lemma contains_fold_iff (h : Plain (l :: letters)) {c : Char} :
    (CharSet.single l.toNat).fold.contains c = true ↔ SameLetter l c := by
  rw [h l (List.mem_cons_self ..), caseRanges_contains_iff]

lemma Plain.tail (h : Plain (l :: letters)) : Plain letters := fun l' hl' => h l' (List.mem_cons_of_mem _ hl')

private lemma plain_append_iff {a b : List Char} : Plain (a ++ b) ↔ Plain a ∧ Plain b := List.forall_mem_append

/-! ## Words in expressions -/

/-- The expression of a letter matches its variants. -/
lemma matches_letter_iff (hplain : Plain [l]) : (letter l).Matches before w rest ↔ CaseVariant [l] w := by
  constructor
  · rintro ⟨c, rfl, hc⟩
    exact .cons ((contains_fold_iff hplain).mp hc) .nil
  · intro h
    cases h with
    | cons hc htail =>
      cases htail
      exact ⟨_, rfl, (contains_fold_iff hplain).mpr hc⟩

/-- An expression that spells a word matches the word in either case, and what comes next behind it. -/
theorem matches_spelled_iff (hplain : Plain letters) :
    (spelled letters next).Matches before w rest ↔
      ∃ u v, w = u ++ v ∧ CaseVariant letters u ∧ next.Matches (behind before u) v rest := by
  induction letters generalizing before w with
  | nil =>
    constructor
    · intro h
      exact ⟨[], w, rfl, .nil, h⟩
    · rintro ⟨u, v, rfl, hu, h⟩
      cases hu
      exact h
  | cons l letters ih =>
    show (seq (letter l) (spelled letters next)).Matches before w rest ↔ _
    unfold letter
    rw [matches_seq_set_iff]
    constructor
    · rintro ⟨c, w, rfl, hc, h⟩
      obtain ⟨u, v, rfl, hu, hv⟩ := (ih hplain.tail).mp h
      exact ⟨c :: u, v, rfl, .cons ((contains_fold_iff hplain).mp hc) hu, by rwa [behind_cons]⟩
    · rintro ⟨u, v, rfl, hu, hv⟩
      cases hu with
      | @cons _ c _ u hc hu =>
        rw [behind_cons] at hv
        exact ⟨c, u ++ v, rfl, (contains_fold_iff hplain).mpr hc, (ih hplain.tail).mpr ⟨u, v, rfl, hu, hv⟩⟩

/-- An expression that spells a word and nothing else. -/
theorem matches_spelled_letter_iff (hplain : Plain (letters ++ [l])) :
    (spelled letters (letter l)).Matches before w rest ↔ CaseVariant (letters ++ [l]) w := by
  obtain ⟨hletters, hlast⟩ := plain_append_iff.mp hplain
  rw [matches_spelled_iff hletters, caseVariant_append_iff]
  simp only [matches_letter_iff hlast]

/-- Trying passes over a word that is there. -/
theorem firstLength_spelled (hplain : Plain letters) (h : CaseVariant letters w) (rest : List Char)
    (before : Option Char) (todo : List Regex) :
    firstLength (w ++ rest) before (spelled letters next :: todo) =
      (firstLength rest (behind before w) (next :: todo)).map (w.length + ·) := by
  induction h generalizing before with
  | nil => simp [spelled]
  | @cons l c letters w hc _ ih =>
    show firstLength (c :: (w ++ rest)) before (seq (letter l) (spelled letters next) :: todo) = _
    unfold letter
    rw [firstLength_seq, firstLength_set_cons, if_pos ((contains_fold_iff hplain).mpr hc), ih hplain.tail,
      Option.map_map, behind_cons]
    congr 1
    funext n
    simp only [Function.comp_apply, List.length_cons]
    omega

/-- Trying a word and nothing else gives its length where it stands. -/
theorem firstLength_spelled_letter (hplain : Plain (letters ++ [l])) (h : CaseVariant (letters ++ [l]) w)
    (rest : List Char) (before : Option Char) :
    firstLength (w ++ rest) before [spelled letters (letter l)] = some w.length := by
  obtain ⟨hletters, hlast⟩ := plain_append_iff.mp hplain
  obtain ⟨u, v, rfl, hu, hv⟩ := caseVariant_append_iff.mp h
  cases hv with
  | @cons _ c _ _ hc hnil =>
    cases hnil
    rw [List.append_assoc, firstLength_spelled hletters hu]
    unfold letter
    rw [List.singleton_append, firstLength_set_cons, if_pos ((contains_fold_iff hlast).mpr hc), firstLength_nil_todo]
    simp

/-- Trying a word and nothing else fails where it does not stand. -/
theorem firstLength_spelled_letter_eq_none (hplain : Plain (letters ++ [l])) (h : ¬ OccursAt (letters ++ [l]) cs 0)
    (before : Option Char) : firstLength cs before [spelled letters (letter l)] = none := by
  rw [firstLength_singleton_eq_none_iff]
  rintro w v rfl hmatch
  exact h (((matches_spelled_letter_iff hplain).mp hmatch).occursAt [] v)

end Words

end Regex

/-- What a prepared rule says about a text with a UTF-8 form. -/
theorem Rule.search_ofChars {r : Rule} {regex : Regex} (h : r.regex = some regex) (cs : List Char) :
    r.search (Text.ofChars cs) =
      .ok ((regex.search cs).map fun (start, stop) => ⟨(cs.drop start).take (stop - start), start, stop⟩) := by
  unfold Rule.search
  rw [h, Text.encode_ofChars]

/-- Either the expression of a rule matches nowhere, or the rule finds a match at the first place where it does. -/
theorem Rule.search_none_or_least {r : Rule} {regex : Regex} (h : r.regex = some regex) (cs : List Char) :
    (r.search (Text.ofChars cs) = .ok none ∧ ∀ i, ¬ regex.MatchesAt cs i) ∨
      ∃ m, r.search (Text.ofChars cs) = .ok (some m) ∧ IsLeast {i | regex.MatchesAt cs i} m.start := by
  rw [Rule.search_ofChars h]
  cases hsearch : regex.search cs with
  | none =>
    refine .inl ⟨rfl, fun i hi => ?_⟩
    exact (Regex.search_eq_none_iff regex cs).mp hsearch (Regex.exists_matchesAt_iff.mp ⟨i, hi⟩)
  | some found => exact .inr ⟨_, rfl, Regex.isLeast_of_search hsearch⟩

end ScriptVet
