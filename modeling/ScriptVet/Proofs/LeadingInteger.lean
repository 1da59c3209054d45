import Mathlib.Data.List.TakeWhile
import ScriptVet.Analysis.Resources
import ScriptVet.Script.Chars

/-!
# The integer at the start of a text

`StartsWithInteger` says without a scanner what it means that a text starts with an integer: blanks, perhaps a
sign, and a run of digits that is not empty and not followed by another digit. `startsWithInteger_iff` finds its parts
in one pass over the text, which shows at once that a text starts with at most one integer.
-/

namespace ScriptVet.Resources

open Script (isDigit)

/-- The mark of a sign, which may be left out, and its factor. -/
inductive SignMark : List Char → Int → Prop
  | none : SignMark [] 1
  | plus : SignMark ['+'] 1
  | minus : SignMark ['-'] (-1)

/-- A text starts with an integer of this sign and these digits. -/
def StartsWithInteger (cs : List Char) (sign : Int) (digits : List Char) : Prop :=
  ∃ blanks mark rest, cs = blanks ++ (mark ++ (digits ++ rest)) ∧
    (∀ c ∈ blanks, isBlank c = true) ∧ SignMark mark sign ∧
    digits ≠ [] ∧ (∀ c ∈ digits, isDigit c = true) ∧ ∀ c, rest.head? = some c → isDigit c = false

/-- What stands behind the blanks of a text: the sign and what follows. -/
abbrev scanned (cs : List Char) : Int × List Char := Number.signed (cs.dropWhile isBlank)

/-- A digit is no blank. -/
lemma isBlank_eq_false_of_isDigit {c : Char} (h : isDigit c = true) : isBlank c = false := by
  have hle : '0' ≤ c := by
    unfold isDigit at h
    simp only [Bool.and_eq_true, decide_eq_true_eq] at h
    exact h.1
  unfold isBlank
  simp only [Bool.or_eq_false_iff, decide_eq_false_iff_not]
  refine ⟨⟨⟨⟨?_, ?_⟩, ?_⟩, ?_⟩, ?_⟩ <;> rintro rfl <;> exact absurd hle (by decide)

/-- A digit is no sign, so a text that starts with one has the sign left out. -/
lemma signed_of_isDigit {c : Char} (h : isDigit c = true) (cs : List Char) :
    Number.signed (c :: cs) = (1, c :: cs) := by
  unfold Number.signed
  split
  · next heq => cases heq; exact absurd h (by decide)
  · next heq => cases heq; exact absurd h (by decide)
  · rfl

/-- The sign is read off in front of digits. -/
lemma signed_mark_append {mark digits : List Char} {sign : Int} (hmark : SignMark mark sign) (hne : digits ≠ [])
    (hdigits : ∀ c ∈ digits, isDigit c = true) (rest : List Char) :
    Number.signed (mark ++ (digits ++ rest)) = (sign, digits ++ rest) := by
  cases hmark with
  | none =>
    cases digits with
    | nil => exact absurd rfl hne
    | cons d ds => exact signed_of_isDigit (hdigits d (by simp)) _
  | plus => rfl
  | minus => rfl

/-- Every text is a mark of a sign followed by what `signed` leaves. -/
theorem exists_signMark (cs : List Char) :
    ∃ mark, SignMark mark (Number.signed cs).1 ∧ cs = mark ++ (Number.signed cs).2 := by
  unfold Number.signed
  split
  · exact ⟨['-'], .minus, rfl⟩
  · exact ⟨['+'], .plus, rfl⟩
  · exact ⟨[], .none, rfl⟩

private lemma not_isBlank_head {mark digits : List Char} {sign : Int} (hmark : SignMark mark sign) (hne : digits ≠ [])
    (hdigits : ∀ c ∈ digits, isDigit c = true) (rest : List Char) :
    (mark ++ (digits ++ rest)).dropWhile isBlank = mark ++ (digits ++ rest) := by
  cases hmark with
  | none =>
    cases digits with
    | nil => exact absurd rfl hne
    | cons d ds =>
      have hd := isBlank_eq_false_of_isDigit (hdigits d (by simp))
      exact List.dropWhile_cons_of_neg (by simp [hd])
  | plus => exact List.dropWhile_cons_of_neg (by decide)
  | minus => exact List.dropWhile_cons_of_neg (by decide)

/-- One pass finds the sign and the digits of the integer at the start of a text, when there is one. -/
theorem startsWithInteger_iff {cs : List Char} {sign : Int} {digits : List Char} :
    StartsWithInteger cs sign digits ↔
      sign = (scanned cs).1 ∧ digits = (scanned cs).2.takeWhile isDigit ∧ digits ≠ [] := by
  constructor
  · rintro ⟨blanks, mark, rest, rfl, hblanks, hmark, hne, hdigits, hrest⟩
    have hscan : scanned (blanks ++ (mark ++ (digits ++ rest))) = (sign, digits ++ rest) := by
      unfold scanned
      rw [List.dropWhile_append_of_pos hblanks, not_isBlank_head hmark hne hdigits,
        signed_mark_append hmark hne hdigits]
    -- No digit follows the digits, so the pass takes these and no more.
    have hstop : rest.takeWhile isDigit = [] := by
      cases rest with
      | nil => rfl
      | cons c rest => exact List.takeWhile_cons_of_neg (by simp [hrest c rfl])
    rw [hscan]
    refine ⟨rfl, ?_, hne⟩
    rw [List.takeWhile_append_of_pos hdigits, hstop, List.append_nil]
  · rintro ⟨rfl, rfl, hne⟩
    obtain ⟨mark, hmark, hcs⟩ := exists_signMark (cs.dropWhile isBlank)
    refine ⟨cs.takeWhile isBlank, mark, (scanned cs).2.dropWhile isDigit, ?_, ?_, hmark, hne, ?_, ?_⟩
    · rw [List.takeWhile_append_dropWhile, ← hcs, List.takeWhile_append_dropWhile]
    · intro c hc
      exact List.mem_takeWhile_imp hc
    · intro c hc
      exact List.mem_takeWhile_imp hc
    · intro c hc
      have hhead := List.head?_dropWhile_not isDigit (scanned cs).2
      rw [hc] at hhead
      simpa using hhead

end ScriptVet.Resources
