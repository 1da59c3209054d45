import ScriptVet.Proofs.HexadecimalIntegers
import ScriptVet.Script.Escape

/-!
# Hexadecimal escape sequences

The number of a code point can follow the backslash in three forms: after `x` in two places, after `u` in four, and
after `u` in any number of places with braces around them. `NumberForm` says what the forms are, and `decode_of_form`
what becomes of an integer in one of them (`codePoint_of_writesHex`).

What stands in such a form can be any text that the reader of integers takes, with blanks, signs and other marks. A
character is written by hexadecimal digits alone: `Hexadecimal` says which texts these are and which numbers they write,
and `decode_of_hexadecimal` that each of them stands for its code point.
-/

namespace ScriptVet

/-! ## Digits with nothing around them -/

namespace Number

/-- The number that hexadecimal digits write. Other characters are skipped. -/
def ofHex (ds : List Char) : Nat := ofDigits 16 (ds.filterMap hexDigit?)

private lemma hexDigits_of_isHex {ds : List Char} (hne : ds ≠ []) (hds : ∀ c ∈ ds, isHex c = true) :
    HexDigits (Text.ofChars ds) (ds.filterMap hexDigit?) := by
  induction ds with
  | nil => exact absurd rfl hne
  | cons c ds ih =>
    rw [List.forall_mem_cons] at hds
    obtain ⟨d, hd⟩ := Option.isSome_iff_exists.mp hds.1
    rw [List.filterMap_cons_some hd]
    cases ds with
    | nil => exact .single (.ascii hd)
    | cons next ds => exact .digit (.ascii hd) (ih (List.cons_ne_nil _ _) hds.2)

/-- Hexadecimal digits with nothing around them write their number. -/
lemma writesHex_of_isHex {ds : List Char} (hne : ds ≠ []) (hds : ∀ c ∈ ds, isHex c = true) :
    WritesHex (Text.ofChars ds) (ofHex ds) := by
  refine ⟨[], [], [], Text.ofChars ds, [], 1, ds.filterMap hexDigit?, ?_, nofun, .none, .none,
    hexDigits_of_isHex hne hds, nofun, ?_⟩
  · simp
  · rw [ofHex, ofDigits_eq_ofDigits_reverse, Int.one_mul]

end Number

namespace Script.Escape

open Number (isHex ofHex WritesHex)

/-! ## Numbers in a form -/

/-- What follows the backslash when a text stands in braces. -/
def braced (digits : Text) : Text := .scalar 'u' :: .scalar '{' :: (digits ++ [.scalar '}'])

/-- The forms of what follows the backslash that have a place for a number, with the text in that place. -/
inductive NumberForm : Text → Text → Prop
  | two {digits : Text} (hlength : digits.length = 2) : NumberForm (.scalar 'x' :: digits) digits
  | four {digits : Text} (hlength : digits.length = 4) : NumberForm (.scalar 'u' :: digits) digits
  | braced (digits : Text) : NumberForm (braced digits) digits

section Numbers

variable {digits : Text} {n : Int}

lemma codePoint_of_writesHex (h : WritesHex digits n) (otherwise : Text) :
    codePoint digits otherwise =
      if -0x80000000 ≤ n ∧ n ≤ 0x7FFFFFFF then
        if 0 ≤ n ∧ n ≤ 0x10FFFF then .ok [CodePoint.ofNat n.toNat] else .ok otherwise
      else .error .numberTooLarge := by
  have hword : Number.fitsWord 32 n = true ↔ -0x80000000 ≤ n ∧ n ≤ 0x7FFFFFFF := by
    have hpower : Number.twoTo 31 = 0x80000000 := by decide
    unfold Number.fitsWord
    rw [show 32 - 1 = 31 from rfl, hpower, Bool.and_eq_true, decide_eq_true_eq, decide_eq_true_eq]
    omega
  have hpoint : (0 ≤ n && n < 0x110000) = true ↔ 0 ≤ n ∧ n ≤ 0x10FFFF := by
    rw [Bool.and_eq_true, decide_eq_true_eq, decide_eq_true_eq]
    omega
  unfold codePoint
  rw [Number.ofText_sixteen_eq_ok_iff.mpr h]
  dsimp only
  by_cases hfits : -0x80000000 ≤ n ∧ n ≤ 0x7FFFFFFF
  · rw [if_pos hfits, hword.mpr hfits]
    simp only [hpoint, Bool.not_true, Bool.false_eq_true, if_false]
  · have hlarge : Number.fitsWord 32 n = false := by
      rw [Bool.eq_false_iff]
      exact fun h => hfits (hword.mp h)
    rw [if_neg hfits, hlarge]
    rfl

lemma codePoint_of_not_writesHex (h : ∀ n, ¬ WritesHex digits n) (otherwise : Text) :
    codePoint digits otherwise = .ok otherwise := by
  unfold codePoint
  cases hread : Number.ofText 16 digits with
  | error e => rfl
  | ok n => exact absurd (Number.ofText_sixteen_eq_ok_iff.mp hread) (h n)

/-- No integer begins with a brace. -/
lemma not_writesHex_brace (rest : Text) : ¬ WritesHex (.scalar '{' :: rest) n := by
  intro h
  have hread : Number.ofText 16 (.scalar '{' :: rest) = .error .malformed := rfl
  rw [Number.ofText_sixteen_eq_ok_iff.mpr h] at hread
  cases hread

/-- **An integer in one of the forms is taken for the number of a code point.** -/
theorem decode_of_form {sequence : Text} (hform : NumberForm (sequence.drop 1) digits) (hn : WritesHex digits n) :
    decode sequence = codePoint digits (sequence.drop 1) := by
  unfold decode
  generalize sequence.drop 1 = body at hform
  dsimp only
  cases hform with
  | two hlength => exact if_pos hlength
  | four hlength =>
    -- An integer does not begin with a brace, so the four places are read as they stand.
    split
    · next heq => exact absurd (List.cons.inj heq).1 (by decide)
    · next rest heq =>
      rw [(List.cons.inj heq).2] at hn
      exact absurd hn (not_writesHex_brace rest)
    · next heq =>
      obtain rfl := (List.cons.inj heq).2
      exact if_pos hlength
    · next hother => exact absurd rfl (hother _)
  | braced =>
    show (if (digits ++ [CodePoint.scalar '}']).getLast? = some (.scalar '}') then
      codePoint (digits ++ [CodePoint.scalar '}']).dropLast _ else _) = _
    rw [List.getLast?_concat, if_pos rfl, List.dropLast_concat]

end Numbers

/-! ## Characters by their numbers -/

/-- The ways to write a character by the number of its code point. -/
inductive HexForm where
  /-- The letter `x` and two digits. -/
  | two
  /-- The letter `u` and four digits. -/
  | four
  /-- The letter `u` and digits in braces. -/
  | braced
  deriving DecidableEq

/-- An escape sequence of a form that writes the code point with a number. -/
inductive Hexadecimal : HexForm → List Char → Nat → Prop
  | two {ds : List Char} (hlength : ds.length = 2) (hds : ∀ c ∈ ds, isHex c = true) :
    Hexadecimal .two ('\\' :: 'x' :: ds) (ofHex ds)
  | four {ds : List Char} (hlength : ds.length = 4) (hds : ∀ c ∈ ds, isHex c = true) :
    Hexadecimal .four ('\\' :: 'u' :: ds) (ofHex ds)
  | braced {ds : List Char} (hne : ds ≠ []) (hds : ∀ c ∈ ds, isHex c = true) (hle : ofHex ds ≤ 0x10FFFF) :
    Hexadecimal .braced ('\\' :: 'u' :: '{' :: (ds ++ ['}'])) (ofHex ds)

/-- Up to four digits write the number of a code point. -/
lemma ofHex_le {ds : List Char} (hlength : ds.length ≤ 4) (hn : WritesHex (Text.ofChars ds) (ofHex ds)) :
    ofHex ds ≤ 0x10FFFF := by
  have hlt := hn.natAbs_lt
  have hplaces : (Text.ofChars ds).length ≤ 4 := by simpa [Text.ofChars] using hlength
  have hpower : 16 ^ (Text.ofChars ds).length ≤ 16 ^ 4 := Nat.pow_le_pow_right (by decide) hplaces
  omega

/-- Every hexadecimal escape sequence has its digits in one of the forms, and they write a code point. -/
lemma Hexadecimal.exists_form {form : HexForm} {e : List Char} {v : Nat} (h : Hexadecimal form e v) :
    ∃ digits, NumberForm ((Text.ofChars e).drop 1) digits ∧ WritesHex digits v ∧ v ≤ 0x10FFFF := by
  cases h with
  | @two ds hlength hds =>
    have hn := Number.writesHex_of_isHex (by rintro rfl; cases hlength) hds
    exact ⟨Text.ofChars ds, .two (by simpa [Text.ofChars] using hlength), hn, ofHex_le (by omega) hn⟩
  | @four ds hlength hds =>
    have hn := Number.writesHex_of_isHex (by rintro rfl; cases hlength) hds
    exact ⟨Text.ofChars ds, .four (by simpa [Text.ofChars] using hlength), hn, ofHex_le (by omega) hn⟩
  | @braced ds hne hds hle =>
    refine ⟨Text.ofChars ds, ?_, Number.writesHex_of_isHex hne hds, hle⟩
    have hbody : (Text.ofChars ('\\' :: 'u' :: '{' :: (ds ++ ['}']))).drop 1 = Escape.braced (Text.ofChars ds) := by
      show .scalar 'u' :: .scalar '{' :: Text.ofChars (ds ++ ['}']) = _
      rw [Text.ofChars_append]
      rfl
    rw [hbody]
    exact .braced _

/-- **A hexadecimal escape sequence stands for its code point.** -/
theorem decode_of_hexadecimal {form : HexForm} {e : List Char} {v : Nat} (h : Hexadecimal form e v) :
    decode (Text.ofChars e) = .ok [CodePoint.ofNat v] := by
  obtain ⟨digits, hform, hn, hle⟩ := h.exists_form
  rw [decode_of_form hform hn, codePoint_of_writesHex hn, if_pos (by omega), if_pos (by omega), Int.toNat_natCast]

end Script.Escape

end ScriptVet
