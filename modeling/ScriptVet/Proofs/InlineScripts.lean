import Mathlib.Order.Nat
import ScriptVet.Proofs.Occurrences

/-!
# Scripts inside a page

The rule on scripts inside a page asks for the opening of a tag, for the end of the tag, and for a closing tag behind it
with as little as possible between them. That comes to three plain searches one behind another (`FirstScript`): the first
opening, the first end of a tag behind it, the first closing tag behind that. Later openings never help. What stands
behind a later opening stands behind the first one as well, so if one of the three searches fails there is no match at all.

* `exists_firstScript` goes from any match to the three searches;
* `FirstScript.exists_cut` cuts the text at the places that they find, and `firstLength_cut` says that trying the expression
  at the first place takes exactly what stands between the cuts.
-/

namespace ScriptVet

namespace Regex

/-- How the tag of a script opens. -/
def tagOpening : List Char := ['<', 's', 'c', 'r', 'i', 'p', 't']

/-- How the tag that closes a script begins. -/
def closingOpening : List Char := ['<', '/', 's', 'c', 'r', 'i', 'p', 't']

/-- The tag that closes a script. -/
def closingTag : List Char := closingOpening ++ ['>']

private lemma tagOpening_plain : Plain tagOpening := by decide +kernel

private lemma closingTag_plain : Plain closingTag := by decide +kernel

/-- Three searches one behind another: the first opening of a tag stands at `i`, the first end of a tag behind it at
`j`, and the first closing tag behind that at `k`. -/
structure FirstScript (cs : List Char) (i j k : Nat) : Prop where
  opening : IsLeast {n | OccursAt tagOpening cs n} i
  ending : IsLeast {n | i + 7 ≤ n ∧ cs[n]? = some '>'} j
  closing : IsLeast {n | j + 1 ≤ n ∧ OccursAt closingTag cs n} k

/-! ## The characters of a tag -/

/-- The characters that do not end a tag. -/
def inTag : CharSet := ⟨[(0, 0x3D), (0x3F, lastCode)]⟩

/-- A tag goes on to its first angle bracket. -/
lemma inTag_contains_iff {c : Char} : inTag.contains c = true ↔ c ≠ '>' := by
  have hvalid := toNat_char_valid c
  simp [inTag, CharSet.contains, lastCode, ← Char.toNat_inj]
  omega

private lemma tagEnd_contains_iff {c : Char} : (CharSet.single '>'.toNat).fold.contains c = true ↔ c = '>' := by
  have hfold : (CharSet.single '>'.toNat).fold = ⟨[(0x3E, 0x3E)]⟩ := rfl
  rw [hfold]
  simp [CharSet.contains, ← Char.toNat_inj]
  omega

private lemma all_contains (c : Char) : CharSet.all.contains c = true := by
  have hvalid := toNat_char_valid c
  simp [CharSet.all, CharSet.contains, lastCode]
  omega

/-! ## From a match to the searches -/

/-- The text behind the opening of a tag. -/
def scriptBehindOpening : Regex :=
  .seq (.rep 0 none true (.set inTag)) (.seq (letter '>') (.seq (.rep 0 none false (.set .all))
    (spelled closingOpening (letter '>'))))

/-- The expression is the opening of a tag and what comes behind it. -/
lemma inlineScript_eq : inlineScript = spelled tagOpening scriptBehindOpening := rfl

/-- What matches: an opening, an end of the tag and a closing tag, in this order. -/
lemma exists_of_matches_inlineScript {before : Option Char} {w rest : List Char}
    (h : inlineScript.Matches before w rest) :
    ∃ a ys zs b, w = a ++ (ys ++ '>' :: (zs ++ b)) ∧ CaseVariant tagOpening a ∧ CaseVariant closingTag b := by
  rw [inlineScript_eq] at h
  obtain ⟨a, t, rfl, ha, h⟩ := (matches_spelled_iff tagOpening_plain).mp h
  obtain ⟨ys, t, rfl, -, h⟩ := h
  obtain ⟨c, t, rfl, hc, h⟩ := matches_seq_set_iff.mp h
  obtain ⟨zs, b, rfl, -, hb⟩ := h
  obtain rfl := tagEnd_contains_iff.mp hc
  exact ⟨a, ys, zs, b, rfl, ha, (matches_spelled_letter_iff closingTag_plain).mp hb⟩

/-- Where the expression matches, a tag is opened. -/
lemma occursAt_of_matchesAt {cs : List Char} {n : Nat} (h : inlineScript.MatchesAt cs n) :
    OccursAt tagOpening cs n := by
  obtain ⟨u, w, v, rfl, rfl, hmatch⟩ := h
  obtain ⟨a, ys, zs, b, rfl, ha, -⟩ := exists_of_matches_inlineScript hmatch
  rw [List.append_assoc]
  exact ha.occursAt u _

/-- Where something is found at a place, the first such place is no later. -/
lemma exists_isLeast_le {P : Nat → Prop} {m : Nat} (h : P m) : ∃ i, IsLeast {n | P n} i ∧ i ≤ m := by
  classical
  have hleast := Nat.isLeast_find ⟨m, h⟩
  exact ⟨_, hleast, hleast.2 h⟩

/-- Wherever the expression matches, all three searches succeed: each finds something no later than the match does. -/
lemma exists_firstScript {cs : List Char} {n : Nat} (h : inlineScript.MatchesAt cs n) :
    ∃ i j k, FirstScript cs i j k := by
  obtain ⟨u, w, v, rfl, rfl, hmatch⟩ := h
  obtain ⟨a, ys, zs, b, rfl, ha, hb⟩ := exists_of_matches_inlineScript hmatch
  generalize hcs : u ++ ((a ++ (ys ++ '>' :: (zs ++ b))) ++ v) = cs
  have halength : a.length = 7 := ha.length_eq
  have hopening : OccursAt tagOpening cs u.length := by
    rw [← hcs, List.append_assoc]
    exact ha.occursAt u _
  have hending : cs[u.length + 7 + ys.length]? = some '>' := by
    have hcut : cs = (u ++ (a ++ ys)) ++ '>' :: (zs ++ (b ++ v)) := by simp [← hcs]
    have hplace : u.length + 7 + ys.length = (u ++ (a ++ ys)).length := by
      simp only [List.length_append]
      omega
    rw [hcut, hplace]
    simp
  have hclosing : OccursAt closingTag cs (u.length + 7 + ys.length + 1 + zs.length) := by
    have hcut : cs = (u ++ (a ++ (ys ++ '>' :: zs))) ++ (b ++ v) := by simp [← hcs]
    have hplace : u.length + 7 + ys.length + 1 + zs.length = (u ++ (a ++ (ys ++ '>' :: zs))).length := by
      simp only [List.length_append, List.length_cons]
      omega
    rw [hcut, hplace]
    exact hb.occursAt _ v
  obtain ⟨i, hi, hile⟩ := exists_isLeast_le hopening
  obtain ⟨j, hj, hjle⟩ := exists_isLeast_le (P := fun n => i + 7 ≤ n ∧ cs[n]? = some '>') ⟨by omega, hending⟩
  obtain ⟨k, hk, -⟩ := exists_isLeast_le (P := fun n => j + 1 ≤ n ∧ OccursAt closingTag cs n) ⟨by omega, hclosing⟩
  exact ⟨i, j, k, hi, hj, hk⟩

/-! ## From the searches to the match -/

/-- A text that is cut where a tag opens, where it ends and where a script closes. -/
structure Cut (cs u a ys zs b v : List Char) : Prop where
  text : cs = u ++ (a ++ (ys ++ '>' :: (zs ++ (b ++ v))))
  opening : CaseVariant tagOpening a
  ending : '>' ∉ ys
  closing : CaseVariant closingTag b
  /-- No closing tag stands before this one. -/
  first : ∀ z z', zs = z ++ z' → z' ≠ [] → ¬ OccursAt closingTag (z' ++ (b ++ v)) 0

/-- A text is cut at the first place behind its front where a character stands. -/
lemma exists_split_of_isLeast_getElem? {front cs : List Char} {d : Char} {j : Nat}
    (h : IsLeast {n | front.length ≤ n ∧ (front ++ cs)[n]? = some d} j) :
    ∃ u v, cs = u ++ d :: v ∧ d ∉ u ∧ j = front.length + u.length := by
  obtain ⟨⟨hle, hfound⟩, hfirst⟩ := h
  obtain ⟨m, rfl⟩ := Nat.exists_eq_add_of_le hle
  have hplace : ∀ p, (front ++ cs)[front.length + p]? = cs[p]? := fun p => by
    rw [List.getElem?_append_right (Nat.le_add_right _ _), Nat.add_sub_cancel_left]
  rw [hplace] at hfound
  obtain ⟨hm, hget⟩ := List.getElem?_eq_some_iff.mp hfound
  refine ⟨cs.take m, cs.drop (m + 1), by rw [← hget]; simp, ?_, by rw [List.length_take]; omega⟩
  intro hmem
  obtain ⟨p, hp, hget'⟩ := List.mem_take_iff_getElem.mp hmem
  have hearlier : (front ++ cs)[front.length + p]? = some d := by
    rw [hplace]
    exact List.getElem?_eq_some_iff.mpr ⟨by omega, hget'⟩
  have hmin := hfirst ⟨Nat.le_add_right _ _, hearlier⟩
  omega

/-- The places of a script cut the text into its parts. -/
lemma FirstScript.exists_cut {cs : List Char} {i j k : Nat} (h : FirstScript cs i j k) :
    ∃ u a ys zs b v, Cut cs u a ys zs b v ∧ u.length = i ∧ k = i + 7 + ys.length + 1 + zs.length := by
  obtain ⟨u, a, t, rfl, rfl, ha⟩ := OccursAt.exists_split (by decide) h.opening.1
  have hua : (u ++ a).length = u.length + 7 := by
    rw [List.length_append, ha.length_eq]
    rfl
  have hending := h.ending
  rw [← List.append_assoc, ← hua] at hending
  obtain ⟨ys, t, rfl, hys, rfl⟩ := exists_split_of_isLeast_getElem? hending
  -- The last search begins behind the end of the tag.
  have hfront : u ++ (a ++ (ys ++ '>' :: t)) = (u ++ (a ++ (ys ++ ['>']))) ++ t := by simp
  have hplace : (u ++ a).length + ys.length + 1 = (u ++ (a ++ (ys ++ ['>']))).length := by
    simp only [List.length_append, List.length_singleton]
    omega
  have hclosing := h.closing
  rw [hfront, hplace] at hclosing
  obtain ⟨zs, b, v, rfl, hb, rfl, hfirst⟩ := exists_split_of_isLeast (by decide) hclosing
  refine ⟨u, a, ys, zs, b, v, ⟨rfl, ha, hys, hb, hfirst⟩, rfl, ?_⟩
  rw [← hplace, hua]

/-- Behind the opening of a tag, trying goes to the end of the tag and then to the first closing tag. -/
lemma firstLength_cut {cs u a ys zs b v : List Char} (h : Cut cs u a ys zs b v) (before : Option Char) :
    firstLength (a ++ (ys ++ '>' :: (zs ++ (b ++ v)))) before [inlineScript] =
      some (7 + ys.length + 1 + zs.length + 9) := by
  have halength : a.length = 7 := h.opening.length_eq
  have hblength : b.length = 9 := h.closing.length_eq
  have hclosing : ∀ before, firstLength (zs ++ (b ++ v)) before
      [.rep 0 none false (.set .all), spelled closingOpening (letter '>')] = some (zs.length + 9) := by
    intro before
    refine firstLength_lazy_first (fun c _ => all_contains c) ?_ ?_
    · intro z z' hz hne
      exact firstLength_spelled_letter_eq_none closingTag_plain (h.first z z' hz hne) _
    · rw [← hblength]
      exact firstLength_spelled_letter closingTag_plain h.closing v _
  have hending : ∀ before, firstLength (ys ++ '>' :: (zs ++ (b ++ v))) before [scriptBehindOpening] =
      some (ys.length + (zs.length + 9 + 1)) := by
    intro before
    unfold scriptBehindOpening
    rw [firstLength_seq]
    refine firstLength_greedy_run ?_ ?_ ?_
    · intro c hc
      exact inTag_contains_iff.mpr fun heq => h.ending (heq ▸ hc)
    · intro c hc
      obtain rfl : '>' = c := Option.some.inj hc
      decide
    · unfold letter
      rw [firstLength_seq, firstLength_set_cons, if_pos (tagEnd_contains_iff.mpr rfl), firstLength_seq]
      have hrest := hclosing (some '>')
      unfold letter at hrest
      rw [hrest]
      rfl
  rw [inlineScript_eq, firstLength_spelled tagOpening_plain h.opening, hending, halength]
  show some (7 + (ys.length + (zs.length + 9 + 1))) = _
  congr 1
  omega

/-- The three searches give the match. -/
lemma FirstScript.search_eq {cs : List Char} {i j k : Nat} (h : FirstScript cs i j k) :
    inlineScript.search cs = some (i, k + 9) := by
  obtain ⟨u, a, ys, zs, b, v, hcut, rfl, rfl⟩ := h.exists_cut
  have halength : a.length = 7 := hcut.opening.length_eq
  have hblength : b.length = 9 := hcut.closing.length_eq
  have hword : (a ++ (ys ++ '>' :: (zs ++ b))).length = 7 + ys.length + 1 + zs.length + 9 := by
    simp only [List.length_append, List.length_cons]
    omega
  have hsplit : (a ++ (ys ++ '>' :: (zs ++ b))) ++ v = a ++ (ys ++ '>' :: (zs ++ (b ++ v))) := by simp
  have hfound := search_eq_some_of_firstLength (r := inlineScript) (u := u) (w := a ++ (ys ++ '>' :: (zs ++ b))) (v := v)
    (by rw [hsplit]; exact hcut.text) (by rw [hsplit, hword]; exact firstLength_cut hcut _)
    (fun n hn => h.opening.2 (occursAt_of_matchesAt hn))
  rw [hfound, hword]
  congr 2
  omega

end Regex

namespace Registry

open Regex (FirstScript)

private lemma default_named_inlineScript : ∃ r, default.named "XSS-001" = [r] ∧ r.regex = some .inlineScript := by
  unfold named
  rw [default_rules_eq]
  exact ⟨_, rfl, rfl⟩

/-- **The rule on scripts inside a page finds what three searches find.** There is one rule of this name. When a tag opens
somewhere, ends behind the first opening, and a script closes behind the first such end, the match goes from the first
opening to the first such closing tag. When one of them is missing nothing in the text matches. -/
theorem default_finds_first_script :
    ∃ r, default.named "XSS-001" = [r] ∧ ∀ cs : List Char,
      (∀ i j k, FirstScript cs i j k →
        r.search (Text.ofChars cs) = .ok (some ⟨(cs.drop i).take (k + 9 - i), i, k + 9⟩)) ∧
      ((¬ ∃ i j k, FirstScript cs i j k) → r.search (Text.ofChars cs) = .ok none) := by
  obtain ⟨r, hr, hregex⟩ := default_named_inlineScript
  refine ⟨r, hr, fun cs => ⟨?_, ?_⟩⟩
  · intro i j k h
    rw [Rule.search_ofChars hregex, h.search_eq]
    rfl
  · intro hnone
    refine Rule.search_eq_none_iff.mpr ⟨_, hregex, fun hmatch => hnone ?_⟩
    obtain ⟨n, hn⟩ := Regex.exists_matchesAt_iff.mpr hmatch
    exact Regex.exists_firstScript hn

/-- A tag in which another one opens, and two closing tags, the first in capital letters. -/
def nestedTags : List Char :=
  ['a', '<', 's', 'c', 'r', 'i', 'p', 't', ' ', '<', 's', 'c', 'r', 'i', 'p', 't', '>', '\n', '<', '/', 'S', 'C', 'R', 'I',
    'P', 'T', '>', '<', '/', 's', 'c', 'r', 'i', 'p', 't', '>']

private lemma nestedTags_firstScript : FirstScript nestedTags 1 16 18 := by
  have hopening : ∀ n < 1, ¬ Regex.OccursAt Regex.tagOpening nestedTags n := by decide +kernel
  have hending : ∀ n < 16, ¬ (1 + 7 ≤ n ∧ nestedTags[n]? = some '>') := by decide
  have hclosing : ∀ n < 18, ¬ (16 + 1 ≤ n ∧ Regex.OccursAt Regex.closingTag nestedTags n) := by decide +kernel
  have hfound : Regex.OccursAt Regex.tagOpening nestedTags 1 ∧ nestedTags[16]? = some '>' ∧
      Regex.OccursAt Regex.closingTag nestedTags 18 := by decide +kernel
  constructor
  · exact ⟨hfound.1, fun n hn => not_lt.mp fun hlt => hopening n hlt hn⟩
  · exact ⟨⟨by omega, hfound.2.1⟩, fun n hn => not_lt.mp fun hlt => hending n hlt hn⟩
  · exact ⟨⟨by omega, hfound.2.2⟩, fun n hn => not_lt.mp fun hlt => hclosing n hlt hn⟩

/-- The match goes from the first opening to the first closing tag. Without the closing tags there is no match. -/
theorem default_finds_first_script_nestedTags :
    ∃ r, default.named "XSS-001" = [r] ∧
      r.search (Text.ofChars nestedTags) = .ok (some ⟨(nestedTags.drop 1).take 26, 1, 27⟩) ∧
      r.search (Text.ofChars (nestedTags.take 17)) = .ok none := by
  obtain ⟨r, hr, hfound⟩ := default_finds_first_script
  refine ⟨r, hr, (hfound nestedTags).1 1 16 18 nestedTags_firstScript, (hfound _).2 ?_⟩
  rintro ⟨i, j, k, h⟩
  have hnone : ∀ n < 17, ¬ Regex.OccursAt Regex.closingTag (nestedTags.take 17) n := by decide +kernel
  have hk : k + 9 ≤ 17 := h.closing.1.2.add_length_le (by decide)
  exact hnone k (by omega) h.closing.1.2

end Registry

end ScriptVet
