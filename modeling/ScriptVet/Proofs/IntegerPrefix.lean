import Mathlib.Data.Nat.Digits.Defs
import ScriptVet.Proofs.DecimalIntegers
import ScriptVet.Proofs.Trying

/-!
# How the integer at the start of a text is read

It is read by a search for the expression `^\s*([+-]?[0-9]+)`, of which the part behind the blanks is then read as an
integer. One pass over the text comes to the same: blanks, perhaps a sign, digits, each run as long as it gets. `Scan`
cuts a text into these parts and `exists_scan` says that every text can be cut so. `Scan.leadingInteger_eq` is the result:
what the search gives is what the scan comes to.

`leadingInteger_of_starts` and `leadingInteger_of_not_starts` are all that is needed of the reader afterwards.
-/

namespace ScriptVet.Resources

open Script (isDigit)

/-! ## Scans -/

/-- A text in the parts that one pass cuts it into. -/
structure Scan (cs blanks mark digits rest : List Char) (sign : Int) : Prop where
  text : cs = blanks ++ (mark ++ (digits ++ rest))
  all_blank : ∀ c ∈ blanks, isBlank c = true
  no_blank : ∀ c, (mark ++ (digits ++ rest)).head? = some c → isBlank c = false
  sign_mark : SignMark mark sign
  no_mark : mark = [] → ∀ c, (digits ++ rest).head? = some c → c ≠ '+' ∧ c ≠ '-'
  all_digits : ∀ c ∈ digits, isDigit c = true
  no_digit : ∀ c, rest.head? = some c → isDigit c = false

/-- The number that decimal digits write. -/
def decimalValue (digits : List Char) : Nat := Nat.ofDigits 10 (digits.reverse.map fun c => c.toNat - '0'.toNat)

/-- What a scan comes to. -/
def scanResult (sign : Int) (digits : List Char) : Except Failure (Option Int) :=
  if digits = [] then .ok none
  else if 4300 < digits.length then .error (.tooManyDigits digits.length)
  else .ok (some (sign * decimalValue digits))

/-- What stands behind the longest run of characters does not begin with one of them. -/
lemma eq_false_of_head?_dropWhile {p : Char → Bool} {cs : List Char} {c : Char}
    (h : (cs.dropWhile p).head? = some c) : p c = false := by
  have hhead := List.head?_dropWhile_not p cs
  rw [h] at hhead
  simpa using hhead

/-- A run of characters with none of them behind it is passed over as a whole. -/
lemma takeWhile_dropWhile_run {p : Char → Bool} {run rest : List Char} (hrun : ∀ c ∈ run, p c = true)
    (hrest : ∀ c, rest.head? = some c → p c = false) :
    (run ++ rest).takeWhile p = run ∧ (run ++ rest).dropWhile p = rest := by
  rw [List.takeWhile_append_of_pos hrun, List.dropWhile_append_of_pos hrun]
  cases rest with
  | nil => simp
  | cons c rest =>
    have hc := hrest c rfl
    simp [hc]

/-- Every text has a sign in front, or none. -/
lemma exists_mark (cs : List Char) :
    ∃ mark sign more, cs = mark ++ more ∧ SignMark mark sign ∧
      (mark = [] → ∀ c, more.head? = some c → c ≠ '+' ∧ c ≠ '-') := by
  by_cases hplus : cs.head? = some '+'
  · obtain ⟨more, rfl⟩ := List.head?_eq_some_iff.mp hplus
    exact ⟨['+'], 1, more, rfl, .plus, nofun⟩
  by_cases hminus : cs.head? = some '-'
  · obtain ⟨more, rfl⟩ := List.head?_eq_some_iff.mp hminus
    exact ⟨['-'], -1, more, rfl, .minus, nofun⟩
  refine ⟨[], 1, cs, rfl, .none, fun _ c hc => ⟨?_, ?_⟩⟩
  · rintro rfl
    exact hplus hc
  · rintro rfl
    exact hminus hc

/-- Every text has a scan. -/
theorem exists_scan (cs : List Char) : ∃ blanks mark digits rest sign, Scan cs blanks mark digits rest sign := by
  obtain ⟨mark, sign, more, hmore, hmark, hnone⟩ := exists_mark (cs.dropWhile isBlank)
  refine ⟨cs.takeWhile isBlank, mark, more.takeWhile isDigit, more.dropWhile isDigit, sign, ?_⟩
  constructor
  case text => rw [List.takeWhile_append_dropWhile, ← hmore, List.takeWhile_append_dropWhile]
  case all_blank => exact fun c hc => List.mem_takeWhile_imp hc
  case no_blank =>
    rw [List.takeWhile_append_dropWhile, ← hmore]
    exact fun c hc => eq_false_of_head?_dropWhile hc
  case sign_mark => exact hmark
  case no_mark =>
    rw [List.takeWhile_append_dropWhile]
    exact hnone
  case all_digits => exact fun c hc => List.mem_takeWhile_imp hc
  case no_digit => exact fun c hc => eq_false_of_head?_dropWhile hc

/-- Digits alone are scanned as a number without a sign. -/
lemma Scan.of_digits {digits : List Char} (h : ∀ c ∈ digits, isDigit c = true) : Scan digits [] [] digits [] 1 := by
  have hhead : ∀ c, (digits ++ []).head? = some c → isDigit c = true := by
    intro c hc
    rw [List.append_nil] at hc
    exact h c (List.mem_of_head? hc)
  refine ⟨by simp, nofun, fun c hc => isBlank_eq_false_of_isDigit (hhead c hc), .none, fun _ c hc => ?_, h, nofun⟩
  have hdigit := hhead c hc
  constructor
  · rintro rfl
    cases hdigit
  · rintro rfl
    cases hdigit

section Scans

variable {cs blanks mark digits rest : List Char} {sign : Int}

/-- The reader of integers scans a text in the same way. -/
lemma Scan.scanned_eq (h : Scan cs blanks mark digits rest sign) : scanned cs = (sign, digits ++ rest) := by
  have hblanks : cs.dropWhile isBlank = mark ++ (digits ++ rest) := by
    rw [h.text]
    exact (takeWhile_dropWhile_run h.all_blank h.no_blank).2
  have hno := h.no_mark
  unfold scanned
  rw [hblanks]
  cases h.sign_mark with
  | plus => rfl
  | minus => rfl
  | none =>
    rw [List.nil_append]
    unfold Number.signed
    split
    · next heq => exact absurd rfl (hno rfl '-' (by rw [heq]; rfl)).2
    · next heq => exact absurd rfl (hno rfl '+' (by rw [heq]; rfl)).1
    · rfl

private lemma ofDigits_eq (digits : List Char) :
    Number.ofDigits 10 (digits.map fun c => c.toNat - '0'.toNat) = decimalValue digits := by
  unfold decimalValue
  rw [Number.ofDigits_eq_ofDigits_reverse, List.map_reverse]

private lemma ofDecimal_eq (h : ∀ c ∈ digits, isDigit c = true) : Number.ofDecimal digits = decimalValue digits := by
  have hvalues : digits.filterMap Number.digit? = digits.map fun c => c.toNat - '0'.toNat := by
    rw [← List.filterMap_eq_map]
    refine List.filterMap_congr fun c hc => ?_
    have hdigit : '0' ≤ c ∧ c ≤ '9' := by simpa [isDigit] using h c hc
    exact if_pos hdigit
  unfold Number.ofDecimal
  rw [hvalues, ofDigits_eq]

end Scans

/-! ## The part behind the blanks as an integer -/

section Groups

variable {mark digits : List Char} {sign : Int}

private lemma toNat_of_isDigit {c : Char} (h : isDigit c = true) : 48 ≤ c.toNat ∧ c.toNat ≤ 57 := by
  simpa [isDigit, Char.le_def, UInt32.le_iff_toNat_le] using h

private lemma digitIn?_of_isDigit {c : Char} (h : isDigit c = true) :
    Number.digitIn? 10 c = some (c.toNat - '0'.toNat) := by
  have hrange := toNat_of_isDigit h
  have hvalue : c.toNat - '0'.toNat < 10 := by
    show c.toNat - 48 < 10
    omega
  unfold isDigit at h
  unfold Number.digitIn?
  rw [if_pos h]
  exact if_pos hvalue

/-- Decimal digits have their values. -/
lemma moreDigits_of_isDigit (h : ∀ c ∈ digits, isDigit c = true) :
    Number.MoreDigits 10 digits (digits.map fun c => c.toNat - '0'.toNat) := by
  induction digits with
  | nil => exact .nil
  | cons c digits ih =>
    rw [List.forall_mem_cons] at h
    exact .digit (digitIn?_of_isDigit h.1) (ih h.2)

private lemma someDigits_of_isDigit (hne : digits ≠ []) (h : ∀ c ∈ digits, isDigit c = true) :
    Number.SomeDigits 10 digits (digits.map fun c => c.toNat - '0'.toNat) := by
  obtain ⟨c, digits, rfl⟩ := List.exists_cons_of_ne_nil hne
  rw [List.forall_mem_cons] at h
  exact .first (digitIn?_of_isDigit h.1) (moreDigits_of_isDigit h.2)

/-- Signs and digits are taken as they are. -/
lemma simplify_mark_digits (hmark : SignMark mark sign) (hdigits : ∀ c ∈ digits, isDigit c = true) :
    ((Text.ofChars (mark ++ digits)).map fun p => (Number.simplify p).getD '?') = mark ++ digits := by
  have hascii : ∀ c ∈ mark ++ digits, c.toNat < 0x7F := by
    intro c hc
    rcases List.mem_append.mp hc with hc | hc
    · cases hmark with
      | none => cases hc
      | plus =>
        obtain rfl := List.mem_singleton.mp hc
        decide
      | minus =>
        obtain rfl := List.mem_singleton.mp hc
        decide
    · have hrange := toNat_of_isDigit (hdigits c hc)
      omega
  unfold Text.ofChars
  rw [List.map_map]
  refine (List.map_congr_left fun c hc => ?_).trans (List.map_id _)
  have hsimple : Number.simplify (.scalar c) = some c := if_pos (hascii c hc)
  show (Number.simplify (.scalar c)).getD '?' = c
  rw [hsimple]
  rfl

/-- A sign and digits are read as the integer that they write, unless there are too many digits. -/
lemma ofText_mark_digits (hmark : SignMark mark sign) (hne : digits ≠ []) (hdigits : ∀ c ∈ digits, isDigit c = true) :
    Number.ofText 10 (Text.ofChars (mark ++ digits)) =
      if 4300 < digits.length then .error (.tooManyDigits digits.length)
      else .ok (sign * decimalValue digits) := by
  have htext : ((Text.ofChars (mark ++ digits)).map fun p => (Number.simplify p).getD '?') =
      [] ++ (mark ++ (digits ++ [])) := by
    rw [simplify_mark_digits hmark hdigits, List.append_nil, List.nil_append]
  rw [Number.ofText_of_someDigits htext nofun hmark (someDigits_of_isDigit hne hdigits) nofun, List.length_map, ofDigits_eq]
  rfl

end Groups

end ScriptVet.Resources

namespace ScriptVet.Regex

open Resources (isBlank SignMark Scan integerPrefix)
open Script (isDigit)

/-! ## The expression -/

/-- The blanks of an expression. -/
def blankSet : CharSet := ⟨[(9, 10), (12, 13), (0x20, 0x20)]⟩

/-- The marks of a sign. -/
def signSet : CharSet := ⟨[(0x2B, 0x2B), (0x2D, 0x2D)]⟩

/-- The decimal digits. -/
def digitSet : CharSet := ⟨[(0x30, 0x39)]⟩

/-- A sign, which may be left out, and digits. -/
def signedDigits : Regex := .seq (.rep 0 (some 1) true (.set signSet)) (.rep 1 none true (.set digitSet))

/-- The expression is the start of the text, blanks, and a sign with digits. -/
lemma integerPrefix_eq :
    integerPrefix = .seq (.anchor .textStart) (.seq (.rep 0 none true (.set blankSet)) signedDigits) := rfl

lemma blankSet_contains (c : Char) : blankSet.contains c = isBlank c := by
  rw [Bool.eq_iff_iff]
  simp [blankSet, isBlank, CharSet.contains, ← Char.toNat_inj]
  omega

private lemma signSet_contains_iff {c : Char} : signSet.contains c = true ↔ c = '+' ∨ c = '-' := by
  simp [signSet, CharSet.contains, ← Char.toNat_inj]
  omega

private lemma digitSet_contains (c : Char) : digitSet.contains c = isDigit c := by
  rw [Bool.eq_iff_iff]
  simp [digitSet, isDigit, CharSet.contains, Char.le_def, UInt32.le_iff_toNat_le]

section Search

variable {cs blanks mark digits rest : List Char} {sign : Int}

/-- The digits of the expression take the whole run. -/
lemma firstLength_digits (hne : digits ≠ []) (hdigits : ∀ c ∈ digits, isDigit c = true)
    (hrest : ∀ c, rest.head? = some c → isDigit c = false) (before : Option Char) :
    firstLength (digits ++ rest) before [rep 1 none true (set digitSet)] = some digits.length := by
  simp only [← digitSet_contains] at hdigits hrest
  obtain ⟨c, digits, rfl⟩ := List.exists_cons_of_ne_nil hne
  rw [List.forall_mem_cons] at hdigits
  rw [firstLength_plus, List.cons_append, firstLength_set_cons, if_pos hdigits.1,
    firstLength_greedy_run hdigits.2 hrest (firstLength_nil_todo _ _)]
  rfl

/-- The sign and the digits of the expression take the whole run. -/
lemma firstLength_signedDigits (hmark : SignMark mark sign) (hne : digits ≠ [])
    (hdigits : ∀ c ∈ digits, isDigit c = true) (hrest : ∀ c, rest.head? = some c → isDigit c = false)
    (before : Option Char) :
    firstLength (mark ++ (digits ++ rest)) before [signedDigits] = some (mark.length + digits.length) := by
  have htaken := firstLength_digits hne hdigits hrest
  have hplus : signSet.contains '+' = true := signSet_contains_iff.mpr (.inl rfl)
  have hminus : signSet.contains '-' = true := signSet_contains_iff.mpr (.inr rfl)
  unfold signedDigits
  rw [firstLength_seq]
  cases hmark with
  | none =>
    obtain ⟨c, digits, rfl⟩ := List.exists_cons_of_ne_nil hne
    have hc : signSet.contains c = false := by
      rw [Bool.eq_false_iff, Ne, signSet_contains_iff]
      rintro (rfl | rfl) <;> exact absurd (hdigits _ (List.mem_cons_self ..)) (by decide)
    rw [List.nil_append, List.cons_append, firstLength_option_cons, hc, ← List.cons_append, htaken]
    simp
  | plus =>
    rw [List.singleton_append, firstLength_option_cons, if_pos hplus, htaken]
    simp [Nat.add_comm]
  | minus =>
    rw [List.singleton_append, firstLength_option_cons, if_pos hminus, htaken]
    simp [Nat.add_comm]

/-- Where a text starts with an integer, the search finds it with the blanks before it. -/
lemma search_eq_of_scan (h : Scan cs blanks mark digits rest sign) (hne : digits ≠ []) :
    integerPrefix.search cs = some (0, (blanks ++ (mark ++ digits)).length) := by
  have htext : cs = [] ++ ((blanks ++ (mark ++ digits)) ++ rest) := by
    rw [h.text]
    simp
  have hblanks : ∀ c ∈ blanks, blankSet.contains c = true := fun c hc => by
    rw [blankSet_contains]
    exact h.all_blank c hc
  have hstop : ∀ c, (mark ++ (digits ++ rest)).head? = some c → blankSet.contains c = false := fun c hc => by
    rw [blankSet_contains]
    exact h.no_blank c hc
  have hlength : firstLength ((blanks ++ (mark ++ digits)) ++ rest) none [integerPrefix] =
      some (blanks ++ (mark ++ digits)).length := by
    have hparts : (blanks ++ (mark ++ digits)) ++ rest = blanks ++ (mark ++ (digits ++ rest)) := by simp
    have hsigned := firstLength_signedDigits h.sign_mark hne h.all_digits h.no_digit
    have hstart : ∀ after, Anchor.textStart.holds ⟨none, after⟩ = true := fun _ => rfl
    rw [integerPrefix_eq, hparts, firstLength_seq, firstLength_anchor, if_pos (hstart _), firstLength_seq,
      firstLength_greedy_run hblanks hstop (hsigned _)]
    simp
  -- No match can start before the start of the text.
  have hfound := search_eq_some_of_firstLength htext hlength fun i _ => Nat.zero_le i
  simpa using hfound

/-- A match of the expression is an integer at the start of the text. -/
lemma exists_startsWithInteger_of_matches (h : integerPrefix.MatchesIn cs) :
    ∃ sign digits, Resources.StartsWithInteger cs sign digits := by
  rw [integerPrefix_eq] at h
  obtain ⟨u, w, v, rfl, e, x, rfl, ⟨rfl, hstart⟩, blanks, y, rfl, hblanks, mark, digits, rfl, hmark, hdigits⟩ := h
  -- The condition at the front leaves no room for a text before the match.
  have hu : u = [] := by
    have hbehind : u.getLast? = none := by simpa [behind, Anchor.holds] using hstart
    exact List.getLast?_eq_none_iff.mp hbehind
  obtain ⟨-, -, hblanks⟩ := matches_rep_set_iff.mp hblanks
  obtain ⟨-, hone, hmark⟩ := matches_rep_set_iff.mp hmark
  obtain ⟨hsome, -, hdigits⟩ := matches_rep_set_iff.mp hdigits
  have hlength : mark.length ≤ 1 := hone 1 rfl
  simp only [blankSet_contains] at hblanks
  simp only [signSet_contains_iff] at hmark
  simp only [digitSet_contains] at hdigits
  obtain ⟨sign, hsign⟩ : ∃ sign, SignMark mark sign := by
    cases mark with
    | nil => exact ⟨1, .none⟩
    | cons c mark =>
      obtain rfl : mark = [] := List.eq_nil_of_length_eq_zero (by simpa using hlength)
      rcases hmark c (List.mem_singleton_self c) with rfl | rfl
      · exact ⟨1, .plus⟩
      · exact ⟨-1, .minus⟩
  -- The match may end inside a run of digits: the integer takes all of them.
  refine ⟨sign, digits ++ v.takeWhile isDigit, blanks, mark, v.dropWhile isDigit, ?_, hblanks, hsign, ?_, ?_, ?_⟩
  · simp [hu]
  · exact List.append_ne_nil_of_left_ne_nil (List.ne_nil_of_length_pos hsome) _
  · intro c hc
    rcases List.mem_append.mp hc with hc | hc
    · exact hdigits c hc
    · exact List.mem_takeWhile_imp hc
  · exact fun c hc => Resources.eq_false_of_head?_dropWhile hc

/-- Nothing is found where the scan has no digits. -/
lemma search_eq_none_of_scan (h : Scan cs blanks mark [] rest sign) : integerPrefix.search cs = none := by
  rw [search_eq_none_iff]
  intro hmatch
  obtain ⟨sign', digits', hstarts⟩ := exists_startsWithInteger_of_matches hmatch
  obtain ⟨-, rfl, hne⟩ := Resources.startsWithInteger_iff.mp hstarts
  rw [h.scanned_eq] at hne
  exact hne (Resources.takeWhile_dropWhile_run h.all_digits h.no_digit).1

end Search

end ScriptVet.Regex

namespace ScriptVet.Resources

/-! ## Reading by search -/

section Scans

variable {cs blanks mark digits rest : List Char} {sign : Int}

/-- The part behind the blanks is the sign with the digits. -/
lemma Scan.group_eq (h : Scan cs blanks mark digits rest sign) :
    ((cs.take (blanks ++ (mark ++ digits)).length).drop 0).dropWhile isBlank = mark ++ digits := by
  have htake : cs.take (blanks ++ (mark ++ digits)).length = blanks ++ (mark ++ digits) := by
    have hparts : cs = (blanks ++ (mark ++ digits)) ++ rest := by
      rw [h.text]
      simp
    rw [hparts, List.take_left]
  have hstop : ∀ c, (mark ++ digits).head? = some c → isBlank c = false := by
    intro c hc
    refine h.no_blank c ?_
    rw [← List.append_assoc, List.head?_append, hc]
    rfl
  rw [htake, List.drop_zero]
  exact (takeWhile_dropWhile_run h.all_blank hstop).2

/-- **The reader gives what the scan comes to.** -/
theorem Scan.leadingInteger_eq (h : Scan cs blanks mark digits rest sign) :
    leadingInteger cs = scanResult sign digits := by
  unfold leadingInteger scanResult
  by_cases hne : digits = []
  · subst hne
    rw [Regex.search_eq_none_of_scan h]
    rfl
  · rw [Regex.search_eq_of_scan h hne]
    dsimp only
    rw [h.group_eq, ofText_mark_digits h.sign_mark hne h.all_digits, if_neg hne]
    by_cases hmany : 4300 < digits.length
    · rw [if_pos hmany, if_pos hmany]
    · rw [if_neg hmany, if_neg hmany]

/-- The integer that a text starts with is the one of its scan. -/
lemma Scan.eq_of_starts (h : Scan cs blanks mark digits rest sign) {sign' : Int} {digits' : List Char}
    (hstarts : StartsWithInteger cs sign' digits') : sign' = sign ∧ digits' = digits := by
  obtain ⟨hsign, hdigits, -⟩ := startsWithInteger_iff.mp hstarts
  rw [h.scanned_eq] at hsign hdigits
  rw [(takeWhile_dropWhile_run h.all_digits h.no_digit).1] at hdigits
  exact ⟨hsign, hdigits⟩

end Scans

/-- A text that starts with an integer gives its value, unless it has too many digits. -/
theorem leadingInteger_of_starts {cs : List Char} {sign : Int} {digits : List Char}
    (h : StartsWithInteger cs sign digits) :
    leadingInteger cs = if Number.maxIntegerDigits < digits.length then .error (.tooManyDigits digits.length)
      else .ok (some (sign * Number.ofDecimal digits)) := by
  obtain ⟨blanks, mark, digits', rest, sign', hscan⟩ := exists_scan cs
  obtain ⟨rfl, rfl⟩ := hscan.eq_of_starts h
  obtain ⟨-, -, hne⟩ := startsWithInteger_iff.mp h
  rw [hscan.leadingInteger_eq, scanResult, if_neg hne, ofDecimal_eq hscan.all_digits]
  rfl

/-- A text that starts with no integer gives nothing. -/
theorem leadingInteger_of_not_starts {cs : List Char} (h : ¬ ∃ sign digits, StartsWithInteger cs sign digits) :
    leadingInteger cs = .ok none := by
  obtain ⟨blanks, mark, digits, rest, sign, hscan⟩ := exists_scan cs
  have hempty : digits = [] := by
    by_contra hne
    exact h ⟨sign, digits, blanks, mark, rest, hscan.text, hscan.all_blank, hscan.sign_mark, hne, hscan.all_digits,
      hscan.no_digit⟩
  rw [hscan.leadingInteger_eq, scanResult, if_pos hempty]

/-- A number is read when the text starts with an integer that does not have too many digits. -/
theorem leadingInteger_eq_some_iff {cs : List Char} {n : Int} :
    leadingInteger cs = .ok (some n) ↔
      ∃ sign digits, StartsWithInteger cs sign digits ∧ digits.length ≤ Number.maxIntegerDigits ∧
        n = sign * Number.ofDecimal digits := by
  constructor
  · intro hn
    by_cases h : ∃ sign digits, StartsWithInteger cs sign digits
    · obtain ⟨sign, digits, hstarts⟩ := h
      rw [leadingInteger_of_starts hstarts] at hn
      split at hn
      · cases hn
      · next hlen => exact ⟨sign, digits, hstarts, by omega, by simpa using hn.symm⟩
    · rw [leadingInteger_of_not_starts h] at hn
      cases hn
  · rintro ⟨sign, digits, hstarts, hlen, rfl⟩
    rw [leadingInteger_of_starts hstarts, if_neg (by omega)]

end ScriptVet.Resources
