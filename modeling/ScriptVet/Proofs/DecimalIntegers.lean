import Mathlib.Data.Nat.Digits.Defs
import ScriptVet.Proofs.LeadingInteger

/-!
# Texts that write an integer

`Writes` says without a reader which texts write an integer, and which one: blanks, perhaps a sign, digits between
which single underscores may stand, and blanks. There may be only so many digits. `ofText_eq_ok_iff` is the bridge to
the reader.

The reader collects digits and stops at the first character that is none. What it collects after the first digit is
`MoreDigits`, and the induction is over that: `digitRun_append` goes from the text to the reader and
`moreDigits_of_digitRun` back. `Reading` has all the parts that the reader cuts a text into, in any base: it is read
when it has them (`Reading.ofText_eq`), and only then (`exists_reading_of_ofText`).
-/

namespace ScriptVet.Number

open Resources (SignMark exists_signMark)

/-- What may follow the first digit of an integer: digits, each of them perhaps after an underscore. -/
inductive MoreDigits (base : Nat) : List Char → List Nat → Prop
  | nil : MoreDigits base [] []
  | digit {c : Char} {d : Nat} {cs : List Char} {ds : List Nat} (hd : digitIn? base c = some d)
      (hds : MoreDigits base cs ds) : MoreDigits base (c :: cs) (d :: ds)
  | underscore {c : Char} {d : Nat} {cs : List Char} {ds : List Nat} (hd : digitIn? base c = some d)
      (hds : MoreDigits base cs ds) : MoreDigits base ('_' :: c :: cs) (d :: ds)

/-- The digits of an integer, at least one of them. -/
inductive SomeDigits (base : Nat) : List Char → List Nat → Prop
  | first {c : Char} {d : Nat} {cs : List Char} {ds : List Nat} (hd : digitIn? base c = some d)
      (hds : MoreDigits base cs ds) : SomeDigits base (c :: cs) (d :: ds)

/-- The text writes a decimal integer. Its blanks and digits may be those of any script. -/
def Writes (t : Text) (n : Int) : Prop :=
  ∃ front mark run back sign digits,
    (t.map fun p => (simplify p).getD '?') = front ++ (mark ++ (run ++ back)) ∧
      (∀ c ∈ front, isAsciiBlank c = true) ∧ SignMark mark sign ∧ SomeDigits 10 run digits ∧
      (∀ c ∈ back, isAsciiBlank c = true) ∧ digits.length ≤ maxIntegerDigits ∧ n = sign * ofDigits 10 digits

/-- The first digit counts most, whichever end the digits are added up from. -/
theorem ofDigits_eq_ofDigits_reverse (base : Nat) (digits : List Nat) :
    ofDigits base digits = Nat.ofDigits base digits.reverse := by
  unfold ofDigits
  rw [Nat.ofDigits_eq_foldr, List.foldr_reverse]
  congr 1
  funext n d
  rw [Nat.mul_comm, Nat.add_comm]
  rfl

/-! ## Characters that are no digits -/

private lemma digitIn?_underscore (base : Nat) : digitIn? base '_' = none := by
  simp [digitIn?]

/-- Blanks and signs come before the digits and the letters. -/
lemma digitIn?_of_lt {c : Char} (h : c.toNat < 48) (base : Nat) : digitIn? base c = none := by
  have hle : ∀ d : Char, 48 ≤ d.toNat → (decide (d ≤ c)) = false := by
    intro d hd
    rw [decide_eq_false_iff_not, Char.le_def, UInt32.le_iff_toNat_le]
    show ¬ d.toNat ≤ c.toNat
    omega
  simp [digitIn?, hle '0' (by decide), hle 'a' (by decide), hle 'A' (by decide)]

private lemma toNat_lt_of_isAsciiBlank {c : Char} (h : isAsciiBlank c = true) : c.toNat < 48 := by
  unfold isAsciiBlank at h
  simp only [Bool.or_eq_true, Bool.and_eq_true, decide_eq_true_eq] at h
  rcases h with ⟨-, h⟩ | rfl
  · omega
  · decide

/-- No digit of any base is a blank. -/
lemma isAsciiBlank_of_digit {c : Char} {base d : Nat} (h : digitIn? base c = some d) : isAsciiBlank c = false := by
  rw [Bool.eq_false_iff]
  intro hblank
  rw [digitIn?_of_lt (toNat_lt_of_isAsciiBlank hblank)] at h
  cases h

private lemma signed_of_digit {c : Char} {base d : Nat} (h : digitIn? base c = some d) (cs : List Char) :
    signed (c :: cs) = (1, c :: cs) := by
  unfold signed
  split
  · next heq =>
    obtain ⟨rfl, rfl⟩ := List.cons.inj heq
    rw [digitIn?_of_lt (by decide)] at h
    cases h
  · next heq =>
    obtain ⟨rfl, rfl⟩ := List.cons.inj heq
    rw [digitIn?_of_lt (by decide)] at h
    cases h
  · rfl

/-! ## Collecting digits -/

section DigitRun

variable {base d : Nat} {c : Char} {cs rest : List Char} {done ds : List Nat}

private lemma digitRun_digit (h : digitIn? base c = some d) :
    digitRun base (c :: cs) done = digitRun base cs (d :: done) := by
  rw [digitRun, h]
  rintro c' cs' rfl -
  rw [digitIn?_underscore] at h
  cases h

private lemma digitRun_underscore (h : digitIn? base c = some d) (hdone : done ≠ []) :
    digitRun base ('_' :: c :: cs) done = digitRun base cs (d :: done) := by
  have hsome : done.isEmpty = false := by simpa using hdone
  simp [digitRun, h, hsome]

/-- The reader stops at a character that can be no part of an integer. -/
lemma digitRun_stop (hrest : ∀ c, rest.head? = some c → digitIn? base c = none ∧ c ≠ '_') (hdone : done ≠ []) :
    digitRun base rest done = some (done.reverse, rest) := by
  have hsome : done.isEmpty = false := by simpa using hdone
  cases rest with
  | nil => simp [digitRun, hsome]
  | cons c rest =>
    obtain ⟨hdigit, hmark⟩ := hrest c rfl
    rw [digitRun, hdigit]
    · simp [hsome, hmark]
    · exact fun _ _ h => absurd h hmark

/-- A run of digits is read to its end. -/
lemma digitRun_append {run : List Char} {more : List Nat} (h : MoreDigits base run more)
    (hrest : ∀ c, rest.head? = some c → digitIn? base c = none ∧ c ≠ '_') (hdone : done ≠ []) :
    digitRun base (run ++ rest) done = some (done.reverse ++ more, rest) := by
  induction h generalizing done with
  | nil => simpa using digitRun_stop hrest hdone
  | digit hd _ ih =>
    rw [List.cons_append, digitRun_digit hd, ih (List.cons_ne_nil _ _)]
    simp
  | underscore hd _ ih =>
    rw [List.cons_append, List.cons_append, digitRun_underscore hd hdone, ih (List.cons_ne_nil _ _)]
    simp

/-- What is read are the digits of a run. -/
lemma moreDigits_of_digitRun (h : digitRun base cs done = some (ds, rest)) (hdone : done ≠ []) :
    ∃ run more, cs = run ++ rest ∧ MoreDigits base run more ∧ ds = done.reverse ++ more := by
  fun_induction digitRun base cs done with
  | case1 done c cs d hd hempty => exact absurd (List.isEmpty_iff.mp hempty) hdone
  | case2 done c cs d hd hempty ih =>
    obtain ⟨run, more, rfl, hmore, rfl⟩ := ih h (List.cons_ne_nil _ _)
    exact ⟨_, _, rfl, .underscore hd hmore, by simp⟩
  | case3 => cases h
  | case4 done c cs hmark d hd ih =>
    obtain ⟨run, more, rfl, hmore, rfl⟩ := ih h (List.cons_ne_nil _ _)
    exact ⟨_, _, rfl, .digit hd hmore, by simp⟩
  | case5 => cases h
  | case6 done c cs hmark hd hstop =>
    obtain ⟨rfl, rfl⟩ := Prod.mk.inj (Option.some.inj h)
    exact ⟨[], [], rfl, .nil, by simp⟩
  | case7 => cases h
  | case8 done hsome =>
    obtain ⟨rfl, rfl⟩ := Prod.mk.inj (Option.some.inj h)
    exact ⟨[], [], rfl, .nil, by simp⟩

/-- The reader needs a digit to begin with. -/
lemma someDigits_of_digitRun (h : digitRun base cs [] = some (ds, rest)) :
    ∃ run, cs = run ++ rest ∧ SomeDigits base run ds := by
  cases cs with
  | nil => cases h
  | cons c cs =>
    cases hd : digitIn? base c with
    | some d =>
      rw [digitRun_digit hd] at h
      obtain ⟨run, more, rfl, hmore, rfl⟩ := moreDigits_of_digitRun h (List.cons_ne_nil _ _)
      exact ⟨c :: run, rfl, .first hd hmore⟩
    | none =>
      unfold digitRun at h
      split at h
      · split at h <;> cases h
      · next heq =>
        obtain ⟨rfl, rfl⟩ := List.cons.inj heq
        rw [hd] at h
        cases h
      · next heq => cases heq

end DigitRun

/-! ## The parts of an integer -/

/-- The mark of a base, which may be left out. Only base sixteen has one. -/
inductive BaseMark (base : Nat) : List Char → Prop
  | none : BaseMark base []
  | letter {x : Char} (hbase : base = 16) (hx : x = 'x' ∨ x = 'X') : BaseMark base ['0', x]
  | underscore {x : Char} (hbase : base = 16) (hx : x = 'x' ∨ x = 'X') : BaseMark base ['0', x, '_']

/-- Characters in the parts that the reader cuts them into. -/
structure Reading (base : Nat) (cs front mark lead run back : List Char) (sign : Int) (digits : List Nat) : Prop where
  text : cs = front ++ (mark ++ (lead ++ (run ++ back)))
  front_blank : ∀ c ∈ front, isAsciiBlank c = true
  sign_mark : SignMark mark sign
  base_mark : BaseMark base lead
  some_digits : SomeDigits base run digits
  back_blank : ∀ c ∈ back, isAsciiBlank c = true

/-- What is taken off in front is the mark of the base or nothing. -/
lemma exists_baseMark (base : Nat) (cs : List Char) : ∃ lead, BaseMark base lead ∧ cs = lead ++ baseMark base cs := by
  unfold baseMark
  split
  · exact ⟨_, .underscore rfl (.inl rfl), rfl⟩
  · exact ⟨_, .underscore rfl (.inr rfl), rfl⟩
  · exact ⟨_, .letter rfl (.inl rfl), rfl⟩
  · exact ⟨_, .letter rfl (.inr rfl), rfl⟩
  · exact ⟨[], .none, rfl⟩

section Parts

variable {base : Nat} {lead run back : List Char} {digits : List Nat}

/-- The letter of a mark is no hexadecimal digit, so it cannot follow one. -/
lemma MoreDigits.append_ne_cons {more : List Nat} (h : MoreDigits 16 run more)
    (hback : ∀ c ∈ back, isAsciiBlank c = true) {x : Char} (hx : x = 'x' ∨ x = 'X') (rest : List Char) :
    run ++ back ≠ x :: rest := by
  intro heq
  cases h with
  | nil =>
    have hblank := hback x (by rw [← List.nil_append back, heq]; exact List.mem_cons_self ..)
    rcases hx with rfl | rfl <;> exact absurd hblank (by decide)
  | digit hd _ =>
    obtain ⟨rfl, -⟩ := List.cons.inj heq
    rcases hx with rfl | rfl <;> exact absurd hd (by simp [digitIn?])
  | underscore _ _ =>
    obtain ⟨rfl, -⟩ := List.cons.inj heq
    rcases hx with hx | hx <;> exact absurd hx (by decide)

/-- The mark of the base is taken off in front of digits. -/
lemma baseMark_append (hlead : BaseMark base lead) (hdigits : SomeDigits base run digits)
    (hback : ∀ c ∈ back, isAsciiBlank c = true) : baseMark base (lead ++ (run ++ back)) = run ++ back := by
  cases hdigits with
  | @first c d cs ds hd hds =>
    cases hlead with
    | none =>
      have hnext : base = 16 → ∀ x rest, x = 'x' ∨ x = 'X' → cs ++ back ≠ x :: rest := by
        rintro rfl x rest hx
        exact hds.append_ne_cons hback hx rest
      rw [List.nil_append, List.cons_append]
      unfold baseMark
      split
      · next heq => exact absurd (List.cons.inj heq).2 (hnext rfl _ _ (.inl rfl))
      · next heq => exact absurd (List.cons.inj heq).2 (hnext rfl _ _ (.inr rfl))
      · next heq => exact absurd (List.cons.inj heq).2 (hnext rfl _ _ (.inl rfl))
      · next heq => exact absurd (List.cons.inj heq).2 (hnext rfl _ _ (.inr rfl))
      · rfl
    | letter hbase hx =>
      -- The first digit is no underscore, so the mark ends with the letter.
      have hmark : c ≠ '_' := by
        rintro rfl
        rw [digitIn?_underscore] at hd
        cases hd
      subst hbase
      rcases hx with rfl | rfl <;> simp [baseMark, hmark]
    | underscore hbase hx =>
      subst hbase
      rcases hx with rfl | rfl <;> rfl

/-- With or without a mark, the digits begin with a digit. -/
lemma exists_digit_head (hlead : BaseMark base lead) (hdigits : SomeDigits base run digits) (back : List Char) :
    ∃ c d rest, lead ++ (run ++ back) = c :: rest ∧ digitIn? base c = some d := by
  cases hlead with
  | none =>
    cases hdigits with
    | @first c d cs ds hd hds => exact ⟨c, d, cs ++ back, rfl, hd⟩
  | letter hbase hx => exact ⟨'0', 0, _, rfl, by subst hbase; decide⟩
  | underscore hbase hx => exact ⟨'0', 0, _, rfl, by subst hbase; decide⟩

end Parts

/-! ## The reader -/

section Reader

variable {base : Nat} {t : Text} {front mark lead run back : List Char} {sign : Int} {digits : List Nat}

/-- What has the parts of an integer is read as that integer, unless there are too many decimal digits. -/
theorem Reading.ofText_eq
    (h : Reading base (t.map fun p => (simplify p).getD '?') front mark lead run back sign digits) :
    ofText base t = if base = 10 ∧ maxIntegerDigits < digits.length then .error (.tooManyDigits digits.length)
      else .ok (sign * ofDigits base digits) := by
  obtain ⟨htext, hfront, hmark, hlead, hdigits, hback⟩ := h
  obtain ⟨c, d, rest, hhead, hd⟩ := exists_digit_head hlead hdigits back
  have hskip : (mark ++ (lead ++ (run ++ back))).dropWhile isAsciiBlank = mark ++ (lead ++ (run ++ back)) := by
    cases hmark with
    | none =>
      rw [List.nil_append, hhead]
      exact List.dropWhile_cons_of_neg (by simp [isAsciiBlank_of_digit hd])
    | plus => exact List.dropWhile_cons_of_neg (by decide)
    | minus => exact List.dropWhile_cons_of_neg (by decide)
  have hsigned : signed (mark ++ (lead ++ (run ++ back))) = (sign, lead ++ (run ++ back)) := by
    cases hmark with
    | none =>
      rw [List.nil_append, hhead]
      exact signed_of_digit hd _
    | plus => rfl
    | minus => rfl
  -- A blank is no digit, so the reader goes no further than the digits.
  have hstop : ∀ b, back.head? = some b → digitIn? base b = none ∧ b ≠ '_' := by
    intro b hb
    have hlt := toNat_lt_of_isAsciiBlank (hback b (List.mem_of_mem_head? hb))
    refine ⟨digitIn?_of_lt hlt base, ?_⟩
    rintro rfl
    exact absurd hlt (by decide)
  have hrun : digitRun base (run ++ back) [] = some (digits, back) := by
    cases hdigits with
    | first hd hds =>
      rw [List.cons_append, digitRun_digit hd, digitRun_append hds hstop (List.cons_ne_nil _ _)]
      simp
  unfold ofText
  dsimp only
  rw [htext, List.dropWhile_append_of_pos hfront, hskip, hsigned]
  dsimp only
  rw [baseMark_append hlead hdigits hback, hrun]
  simp [List.all_eq_true.mpr hback]

/-- What is read as an integer has the parts of one. -/
theorem exists_reading_of_ofText {n : Int} (h : ofText base t = .ok n) :
    ∃ front mark lead run back sign digits,
      Reading base (t.map fun p => (simplify p).getD '?') front mark lead run back sign digits ∧
        ¬ (base = 10 ∧ maxIntegerDigits < digits.length) ∧ n = sign * ofDigits base digits := by
  unfold ofText at h
  dsimp only at h
  generalize (t.map fun p => (simplify p).getD '?') = cs at h ⊢
  obtain ⟨mark, hmark, hcs⟩ := exists_signMark (cs.dropWhile isAsciiBlank)
  obtain ⟨lead, hlead, hmarked⟩ := exists_baseMark base (signed (cs.dropWhile isAsciiBlank)).2
  split at h
  · cases h
  · next digits back hrun =>
    obtain ⟨run, hrest, hdigits⟩ := someDigits_of_digitRun hrun
    split at h
    · cases h
    · next hmany =>
      split at h
      · next hback =>
        refine ⟨cs.takeWhile isAsciiBlank, mark, lead, run, back, _, digits, ⟨?_, ?_, hmark, hlead, hdigits, ?_⟩,
          by simpa using hmany, (Except.ok.inj h).symm⟩
        · rw [← hrest, ← hmarked, ← hcs, List.takeWhile_append_dropWhile]
        · exact fun c hc => List.mem_takeWhile_imp hc
        · exact List.all_eq_true.mp hback
      · cases h

end Reader

/-! ## Decimal integers -/

/-- Blanks, a sign, digits and blanks are read as the integer that they write, unless there are too many digits. -/
theorem ofText_of_someDigits {t : Text} {front mark run back : List Char} {sign : Int} {digits : List Nat}
    (htext : (t.map fun p => (simplify p).getD '?') = front ++ (mark ++ (run ++ back)))
    (hfront : ∀ c ∈ front, isAsciiBlank c = true) (hmark : SignMark mark sign) (hdigits : SomeDigits 10 run digits)
    (hback : ∀ c ∈ back, isAsciiBlank c = true) :
    ofText 10 t = if maxIntegerDigits < digits.length then .error (.tooManyDigits digits.length)
      else .ok (sign * ofDigits 10 digits) := by
  have hread := Reading.ofText_eq ⟨htext, hfront, hmark, .none, hdigits, hback⟩
  simpa using hread

/-- **A text is read as an integer when it writes it.** -/
theorem ofText_eq_ok_iff {t : Text} {n : Int} : ofText 10 t = .ok n ↔ Writes t n := by
  constructor
  · intro h
    obtain ⟨front, mark, lead, run, back, sign, digits, hparts, hmany, rfl⟩ := exists_reading_of_ofText h
    obtain ⟨htext, hfront, hmark, hlead, hdigits, hback⟩ := hparts
    -- Base ten has no mark.
    obtain rfl : lead = [] := by
      cases hlead with
      | none => rfl
      | letter hbase _ => exact absurd hbase (by decide)
      | underscore hbase _ => exact absurd hbase (by decide)
    exact ⟨front, mark, run, back, sign, digits, htext, hfront, hmark, hdigits, hback, by omega, rfl⟩
  · rintro ⟨front, mark, run, back, sign, digits, htext, hfront, hmark, hdigits, hback, hmany, rfl⟩
    rw [ofText_of_someDigits htext hfront hmark hdigits hback, if_neg (by omega)]

example : Writes (Text.ofString " +6_1440\n") 61440 := ofText_eq_ok_iff.mp (by decide)

/-- A text writes one integer. -/
theorem Writes.unique {t : Text} {m n : Int} (hm : Writes t m) (hn : Writes t n) : m = n :=
  Except.ok.inj ((ofText_eq_ok_iff.mpr hm).symm.trans (ofText_eq_ok_iff.mpr hn))

end ScriptVet.Number
