import ScriptVet.Proofs.DefaultRules
import ScriptVet.Proofs.HexEscapes

/-!
# Escape sequences and the rules against them

Two parts of the library know hexadecimal escape sequences: the reader of strings gives them a value, and two of the
default rules look for them in the text of a script. The rules find a sequence with two or four digits wherever it
stands, because their expressions ask for nothing around it. They do not know the digits in braces, and no other rule
makes up for that: every other expression needs a character that such a sequence does not have.
-/

namespace ScriptVet

open Script

namespace Regex

/-! ## Expressions for escape sequences -/

private lemma hexDigit_contains (c : Char) : hexDigit.contains c = Number.isHex c := by
  rw [Bool.eq_iff_iff, Number.isHex_iff_mem]
  constructor
  · intro h
    have hsmall : c.toNat < 103 := by
      simp [hexDigit, CharSet.contains] at h
      omega
    exact Number.forall_toNat_lt (P := fun c => hexDigit.contains c = true → c ∈ Number.hexDigits) (by decide) hsmall h
  · intro h
    exact Number.forall_isHex (P := fun c => hexDigit.contains c = true) (by decide) (Number.isHex_iff_mem.mpr h)

private lemma backslash_contains_iff {c : Char} : (CharSet.single '\\'.toNat).fold.contains c = true ↔ c = '\\' := by
  have hfold : (CharSet.single '\\'.toNat).fold = ⟨[(0x5C, 0x5C)]⟩ := rfl
  rw [hfold]
  constructor
  · intro h
    have hcode : c.toNat = 0x5C := by
      simp [CharSet.contains] at h
      omega
    rw [← Char.ofNat_toNat c, hcode]
  · rintro rfl
    rfl

/-- A sequence with the right number of digits is found wherever it stands. -/
lemma escape_matches {l : Char} (hl : (CharSet.single l.toNat).fold.contains l = true) {ds : List Char}
    (hds : ∀ c ∈ ds, Number.isHex c = true) (before : Option Char) (rest : List Char) :
    (spelled ['\\', l] (exactly ds.length hexDigit)).Matches before ('\\' :: l :: ds) rest := by
  refine matches_seq_set_iff.mpr ⟨'\\', l :: ds, rfl, backslash_contains_iff.mpr rfl, ?_⟩
  refine matches_seq_set_iff.mpr ⟨l, ds, rfl, hl, ?_⟩
  exact matches_exactly_iff.mpr ⟨rfl, fun c hc => (hexDigit_contains c).trans (hds c hc)⟩

/-- The characters of a sequence with digits in braces. -/
def bracedAlphabet : List Char := ['\\', 'u', '{', '}'] ++ Number.hexDigits

/-- Only one default expression could match with the characters of such a sequence. -/
lemma default_filter_leaves :
    Registry.defaultRegexes.filter (fun r => !r.leaves bracedAlphabet) = [unicodeEscape] := by
  decide +kernel

/-! ## Sequences with digits in braces -/

private lemma mem_bracedAlphabet {e : List Char} {v : Nat} (h : Escape.Hexadecimal .braced e v) :
    ∀ c ∈ e, c ∈ bracedAlphabet := by
  cases h with
  | braced _ hds _ =>
    intro c hc
    simp only [List.mem_cons, List.mem_append, List.not_mem_nil, or_false] at hc
    rcases hc with rfl | rfl | rfl | hc | rfl
    · decide
    · decide
    · decide
    · exact List.mem_append_right _ (Number.isHex_iff_mem.mp (hds c hc))
    · decide

/-- Behind each backslash of such sequences stand the letter and the brace. -/
lemma brace_of_backslash {es : List (List Char)} (hes : ∀ e ∈ es, ∃ v, Escape.Hexadecimal .braced e v)
    {a b : List Char} (h : es.flatten = a ++ '\\' :: b) : ∃ b', b = 'u' :: '{' :: b' := by
  induction es generalizing a with
  | nil => simp at h
  | cons e es ih =>
    rw [List.forall_mem_cons] at hes
    obtain ⟨⟨v, he⟩, hes⟩ := hes
    cases he with
    | @braced ds _ hds _ =>
      have hno : '\\' ∉ 'u' :: '{' :: (ds ++ ['}']) := by
        have hdigit : '\\' ∉ ds := fun hmem => absurd (hds _ hmem) (by decide)
        simp [hdigit]
      rw [List.flatten_cons] at h
      cases a with
      | nil =>
        obtain rfl := (List.cons.inj h).2
        exact ⟨_, rfl⟩
      | cons x a =>
        -- The sequence has no second backslash, so this one stands in a later sequence.
        rcases List.append_eq_append_iff.mp (List.cons.inj h).2 with ⟨a', rfl, hrest⟩ | ⟨c', htail, hrest⟩
        · exact ih hes hrest
        · cases c' with
          | nil => exact ih hes (a := []) hrest.symm
          | cons y c' =>
            obtain rfl := (List.cons.inj hrest).1
            exact absurd (htail ▸ List.mem_append_right a (List.mem_cons_self ..)) hno

private lemma not_unicodeEscape_matchesIn {es : List (List Char)}
    (hes : ∀ e ∈ es, ∃ v, Escape.Hexadecimal .braced e v) : ¬ unicodeEscape.MatchesIn es.flatten := by
  rintro ⟨u, w, v, hflat, hmatch⟩
  obtain ⟨c, w, rfl, hc, hmatch⟩ := matches_seq_set_iff.mp hmatch
  obtain ⟨d, w, rfl, -, hmatch⟩ := matches_seq_set_iff.mp hmatch
  obtain ⟨hlength, hdigits⟩ := matches_exactly_iff.mp hmatch
  obtain rfl := backslash_contains_iff.mp hc
  obtain ⟨b, hb⟩ := brace_of_backslash hes hflat
  cases w with
  | nil => cases hlength
  | cons x w =>
    obtain rfl := (List.cons.inj (List.cons.inj hb).2).1
    exact absurd (hdigits '{' (List.mem_cons_self ..)) (by decide)

end Regex

/-! ## What the rules find -/

/-- Only a text with a UTF-8 form is searched. -/
theorem Rule.hasUtf8_of_search_eq_ok {r : Rule} {text : Text} {found : Option Match} (h : r.search text = .ok found) :
    text.HasUtf8 := by
  unfold Rule.search at h
  split at h
  · cases h
  · split at h
    · cases h
    · next cs hencode => exact ⟨cs, Text.encode_eq_ok_iff.mp hencode⟩

namespace Patterns

/-- A rule whose expression matches a word wherever it stands finds it in every text. A text without a UTF-8 form is
not searched, and that is reported too. -/
lemma valid_eq_false_of_matches {g : Registry} {r : Rule} (hr : r ∈ g.rules) {regex : Regex}
    (hregex : r.regex = some regex) {e : List Char} (hmatch : ∀ before rest, regex.Matches before e rest)
    (p q : Text) : (analyze g (p ++ Text.ofChars e ++ q)).value.valid = false := by
  rw [Bool.eq_false_iff]
  intro hvalid
  have hnone := analyze_errors_eq_nil_iff.mp (List.isEmpty_iff.mp hvalid) r hr
  obtain ⟨hfront, cs, rfl⟩ := Text.hasUtf8_append.mp (Rule.hasUtf8_of_search_eq_ok hnone)
  obtain ⟨⟨bs, rfl⟩, -⟩ := Text.hasUtf8_append.mp hfront
  rw [← Text.ofChars_append, ← Text.ofChars_append, Rule.search_eq_none_iff] at hnone
  obtain ⟨regex', hregex', hnot⟩ := hnone
  obtain rfl := Option.some.inj (hregex'.symm.trans hregex)
  exact hnot ⟨bs, e, cs, List.append_assoc .., hmatch _ _⟩

/-- A default expression that matches a word wherever it stands makes every text with the word invalid. -/
lemma default_invalid_of_matches {regex : Regex} (h : regex ∈ Registry.defaultRegexes) {e : List Char}
    (hmatch : ∀ before rest, regex.Matches before e rest) (p q : Text) :
    (analyze Registry.default (p ++ Text.ofChars e ++ q)).value.valid = false := by
  obtain ⟨r, hr, hregex⟩ := Registry.exists_default_rule h
  exact valid_eq_false_of_matches hr hregex hmatch p q

/-- Whatever is written by digits in braces, the default rules find nothing in it. -/
lemma default_valid_of_braced {es : List (List Char)} (hes : ∀ e ∈ es, ∃ v, Escape.Hexadecimal .braced e v) :
    (analyze Registry.default (Text.ofChars es.flatten)).value.valid = true := by
  rw [analyze_default_valid_iff]
  intro regex hregex
  cases hleaves : regex.leaves Regex.bracedAlphabet with
  | false =>
    have hfilter : regex ∈ [Regex.unicodeEscape] := by
      rw [← Regex.default_filter_leaves]
      exact List.mem_filter.mpr ⟨hregex, by rw [hleaves]; rfl⟩
    obtain rfl := List.mem_singleton.mp hfilter
    exact Regex.not_unicodeEscape_matchesIn hes
  | true =>
    refine Regex.not_matchesIn_of_leaves hleaves fun c hc => ?_
    obtain ⟨e, he, hc⟩ := List.mem_flatten.mp hc
    obtain ⟨v, hv⟩ := hes e he
    exact Regex.mem_bracedAlphabet hv c hc

/-- **The rules find every hexadecimal escape sequence that a string is read with, but not the digits in braces.** A
sequence with two or four digits makes every text that holds it invalid. One with digits in braces stands for its
code point all the same, and there are texts that hold it and pass. -/
theorem found_anywhere_iff_not_braced {form : Escape.HexForm} {e : List Char} {v : Nat}
    (h : Escape.Hexadecimal form e v) :
    Escape.decode (Text.ofChars e) = .ok [CodePoint.ofNat v] ∧
      ((∀ p q : Text, (analyze Registry.default (p ++ Text.ofChars e ++ q)).value.valid = false) ↔
        form ≠ .braced) := by
  refine ⟨Escape.decode_of_hexadecimal h, ?_⟩
  constructor
  · rintro hfound rfl
    have halone := hfound [] []
    rw [List.nil_append, List.append_nil] at halone
    have hpasses : (analyze Registry.default (Text.ofChars [e].flatten)).value.valid = true :=
      default_valid_of_braced (by simpa using ⟨v, h⟩)
    rw [List.flatten_singleton, halone] at hpasses
    cases hpasses
  · intro hform
    cases h with
    | two hlength hds =>
      have hmatch := Regex.escape_matches (l := 'x') (by decide) hds
      rw [hlength] at hmatch
      exact default_invalid_of_matches (by simp [Registry.defaultRegexes, Regex.hexEscape]) hmatch
    | four hlength hds =>
      have hmatch := Regex.escape_matches (l := 'u') (by decide) hds
      rw [hlength] at hmatch
      exact default_invalid_of_matches (by simp [Registry.defaultRegexes, Regex.unicodeEscape]) hmatch
    | braced => exact absurd rfl hform

/-- A letter by its digits in braces is read as the letter and is not found. -/
theorem not_found_braced_letter :
    Escape.Hexadecimal .braced ['\\', 'u', '{', '4', '1', '}'] 0x41 ∧
      Escape.decode (Text.ofChars ['\\', 'u', '{', '4', '1', '}']) = .ok [.scalar 'A'] ∧
      ¬ ∀ p q : Text, (analyze Registry.default
        (p ++ Text.ofChars ['\\', 'u', '{', '4', '1', '}'] ++ q)).value.valid = false := by
  have hdigits : ∀ c ∈ ['4', '1'], Number.isHex c = true := List.all_eq_true.mp (by decide)
  have h : Escape.Hexadecimal .braced ['\\', 'u', '{', '4', '1', '}'] 0x41 :=
    @Escape.Hexadecimal.braced ['4', '1'] (by decide) hdigits (by decide)
  obtain ⟨hdecode, hfound⟩ := found_anywhere_iff_not_braced h
  exact ⟨h, hdecode, fun hall => hfound.mp hall rfl⟩

end Patterns

end ScriptVet
