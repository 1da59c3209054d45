import ScriptVet.Proofs.HexEscapes

/-!
# What escape sequences come to

Any text at all can be decoded as an escape sequence, and it comes to one of two things. `StandsFor` says which value
what follows the backslash has, and `Overflows` says when it has none: an integer stands in braces and takes more than
32 bits. The other two forms have no room for such an integer (`overflows_of_form`).

A number in one of the forms decides alone, so both are told from `HoldsNoNumber`: with a number the value is that of
`codePoint` (`decode_of_form`), and without one it is that of `plain` (`decode_of_holdsNoNumber`, `plain_standsFor`).
-/

namespace ScriptVet.Script.Escape

open Number (WritesHex)

/-- An integer that takes more than a signed word of 32 bits stands in braces. -/
def Overflows (body : Text) : Prop :=
  ∃ digits n, body = braced digits ∧ WritesHex digits n ∧ (n < -0x80000000 ∨ 0x7FFFFFFF < n)

/-- No integer stands in one of the forms for numbers. -/
def HoldsNoNumber (body : Text) : Prop := ∀ digits n, NumberForm body digits → ¬ WritesHex digits n

/-- The numbers of the code points that end a line. -/
def lineEndNumbers : List Nat := [0x0A, 0x0D, 0x2028, 0x2029]

/-- The letters that stand for a character behind a backslash, with the characters. -/
def letters : List (Char × Char) :=
  [('n', '\n'), ('t', '\t'), ('r', '\r'), ('b', '\x08'), ('f', '\x0c'), ('v', '\x0b'), ('0', '\x00')]

/-- The value of what follows the backslash. -/
inductive StandsFor (body : Text) : Text → Prop
  /-- The number of a code point stands for it. -/
  | point {digits : Text} {n : Int} (hform : NumberForm body digits) (hn : WritesHex digits n) (hpos : 0 ≤ n)
      (hle : n ≤ 0x10FFFF) : StandsFor body [CodePoint.ofNat n.toNat]
  /-- Another number that fits into a word is left as it is written. -/
  | noPoint {digits : Text} {n : Int} (hform : NumberForm body digits) (hn : WritesHex digits n)
      (hout : (-0x80000000 ≤ n ∧ n < 0) ∨ (0x10FFFF < n ∧ n ≤ 0x7FFFFFFF)) : StandsFor body body
  | nothing (hbody : body = []) : StandsFor body []
  /-- The end of a line is left out, and what follows it, too. -/
  | lineEnd {p : CodePoint} {rest : Text} (hbody : body = p :: rest) (hp : p.toNat ∈ lineEndNumbers) : StandsFor body []
  | letter {l c : Char} (hbody : body = [.scalar l]) (hc : (l, c) ∈ letters) : StandsFor body [.scalar c]
  | itself (hnumber : HoldsNoNumber body) (hline : ∀ p rest, body = p :: rest → p.toNat ∉ lineEndNumbers)
      (hletter : ∀ l c, (l, c) ∈ letters → body ≠ [.scalar l]) : StandsFor body body

/-! ## Without a number -/

/-- A line is continued by the listed characters. -/
lemma continuesLine_iff {p : CodePoint} : continuesLine p = true ↔ p.toNat ∈ lineEndNumbers := by
  simp [continuesLine, lineEndNumbers, or_assoc]

/-- A letter stands for another character as it is listed. -/
lemma control?_eq_some_iff {p : CodePoint} {c : Char} :
    control? p = some c ↔ ∃ l, p = .scalar l ∧ (l, c) ∈ letters := by
  constructor
  · intro h
    unfold control? at h
    split at h
    all_goals first
      | exact ⟨_, rfl, by rw [← Option.some.inj h]; decide⟩
      | cases h
  · rintro ⟨l, rfl, hl⟩
    have hall : (letters.all fun (l, c) => decide (control? (.scalar l) = some c)) = true := by decide
    exact of_decide_eq_true (List.all_eq_true.mp hall (l, c) hl)

section Plain

variable {body rest : Text} {p : CodePoint}

private lemma plain_of_lineEnd (hp : p.toNat ∈ lineEndNumbers) : plain (p :: rest) = [] :=
  if_pos (continuesLine_iff.mpr hp)

private lemma plain_of_letter {l c : Char} (hc : (l, c) ∈ letters) : plain [.scalar l] = [.scalar c] := by
  have hall : (letters.all fun (l, c) => decide (plain [.scalar l] = [.scalar c])) = true := by decide
  exact of_decide_eq_true (List.all_eq_true.mp hall (l, c) hc)

/-- What is no end of a line and no letter stands for itself. -/
lemma plain_of_neither (hline : ∀ p rest, body = p :: rest → p.toNat ∉ lineEndNumbers)
    (hletter : ∀ l c, (l, c) ∈ letters → body ≠ [.scalar l]) : plain body = body := by
  cases body with
  | nil => rfl
  | cons p rest =>
    have hcontinues : ¬ continuesLine p = true := fun h => hline p rest rfl (continuesLine_iff.mp h)
    unfold plain
    dsimp only
    rw [if_neg hcontinues]
    split
    · next hempty =>
      split
      · next c hcontrol =>
        -- A letter for a control character stands for it only when it stands alone, as it does here.
        obtain ⟨l, rfl, hc⟩ := control?_eq_some_iff.mp hcontrol
        rw [List.isEmpty_iff.mp hempty] at hletter
        exact absurd rfl (hletter l c hc)
      · rfl
    · rfl

/-- Where there is no number, the plain reading is what the sequence stands for. -/
lemma plain_standsFor (h : HoldsNoNumber body) : StandsFor body (plain body) := by
  by_cases hline : ∃ p rest, body = p :: rest ∧ p.toNat ∈ lineEndNumbers
  · obtain ⟨p, rest, rfl, hp⟩ := hline
    rw [plain_of_lineEnd hp]
    exact .lineEnd rfl hp
  by_cases hletter : ∃ l c, (l, c) ∈ letters ∧ body = [.scalar l]
  · obtain ⟨l, c, hc, rfl⟩ := hletter
    rw [plain_of_letter hc]
    exact .letter rfl hc
  have hno : ∀ p rest, body = p :: rest → p.toNat ∉ lineEndNumbers := fun p rest hbody hp => hline ⟨p, rest, hbody, hp⟩
  have hne : ∀ l c, (l, c) ∈ letters → body ≠ [.scalar l] := fun l c hc hbody => hletter ⟨l, c, hc, hbody⟩
  rw [plain_of_neither hno hne]
  exact .itself h hno hne

end Plain

/-! ## Which texts hold a number -/

section Numbers

variable {body sequence : Text}

/-- Where a number cannot be ruled out, there is one. -/
lemma exists_number_of_not_holdsNoNumber (h : ¬ HoldsNoNumber body) :
    ∃ digits n, NumberForm body digits ∧ WritesHex digits n := by
  by_contra hnone
  exact h fun digits n hform hn => hnone ⟨digits, n, hform, hn⟩

private lemma holdsNoNumber_nil : HoldsNoNumber [] := by
  intro digits n hform
  cases hform

/-- Every form for a number begins with one of two letters. -/
theorem holdsNoNumber_cons {p : CodePoint} {rest : Text} (hx : p ≠ .scalar 'x') (hu : p ≠ .scalar 'u') :
    HoldsNoNumber (p :: rest) := by
  intro digits n hform
  cases hform with
  | two _ => exact absurd rfl hx
  | four _ => exact absurd rfl hu
  | braced => exact absurd rfl hu

private lemma holdsNoNumber_of_lineEnd {p : CodePoint} {rest : Text} (hp : p.toNat ∈ lineEndNumbers) :
    HoldsNoNumber (p :: rest) := by
  apply holdsNoNumber_cons
  · rintro rfl
    exact absurd hp (by decide)
  · rintro rfl
    exact absurd hp (by decide)

private lemma holdsNoNumber_of_letter {l c : Char} (hc : (l, c) ∈ letters) : HoldsNoNumber [.scalar l] := by
  have hall : (letters.all fun (l, _) => decide (CodePoint.scalar l ≠ .scalar 'x' ∧ CodePoint.scalar l ≠ .scalar 'u')) =
      true := by decide
  have hne := of_decide_eq_true (List.all_eq_true.mp hall (l, c) hc)
  exact holdsNoNumber_cons hne.1 hne.2

/-- The letters of the forms stand for themselves. -/
lemma plain_of_formLetter {c : Char} (hc : c = 'x' ∨ c = 'u') (rest : Text) :
    plain (.scalar c :: rest) = .scalar c :: rest := by
  rcases hc with rfl | rfl <;> cases rest <;> rfl

/-- Where there is no number, the sequence is read plainly. -/
lemma decode_of_holdsNoNumber (h : HoldsNoNumber (sequence.drop 1)) :
    decode sequence = .ok (plain (sequence.drop 1)) := by
  unfold decode
  generalize sequence.drop 1 = body at h
  dsimp only
  split
  · next digits =>
    rw [plain_of_formLetter (.inl rfl)]
    split
    · next hlength => exact codePoint_of_not_writesHex (fun n => h digits n (.two hlength)) _
    · rfl
  · next rest =>
    rw [plain_of_formLetter (.inr rfl)]
    split
    · next hlast =>
      obtain ⟨digits, rfl⟩ := List.getLast?_eq_some_iff.mp hlast
      rw [List.dropLast_concat]
      exact codePoint_of_not_writesHex (fun n => h digits n (.braced digits)) _
    · split
      · next hlength =>
        have hfour : (CodePoint.scalar '{' :: rest).length = 4 := by rw [List.length_cons, hlength]
        exact codePoint_of_not_writesHex (fun n => h _ n (.four hfour)) _
      · rfl
  · next digits _ =>
    rw [plain_of_formLetter (.inr rfl)]
    split
    · next hlength => exact codePoint_of_not_writesHex (fun n => h digits n (.four hlength)) _
    · rfl
  · rfl

/-- Two or four places have no room for an integer that takes more than a word. -/
lemma overflows_of_form {digits : Text} {n : Int} (hform : NumberForm body digits) (hn : WritesHex digits n)
    (hlarge : n < -0x80000000 ∨ 0x7FFFFFFF < n) : Overflows body := by
  have hlt := hn.natAbs_lt
  cases hform with
  | two hlength =>
    rw [hlength] at hlt
    omega
  | four hlength =>
    rw [hlength] at hlt
    omega
  | braced => exact ⟨digits, n, rfl, hn, hlarge⟩

end Numbers

/-! ## Values and failures -/

section Decode

variable {sequence t : Text}

/-- **Decoding fails on an overflow and on nothing else.** -/
theorem decode_eq_error_iff {e : EscapeError} :
    decode sequence = .error e ↔ e = .numberTooLarge ∧ Overflows (sequence.drop 1) := by
  constructor
  · intro h
    by_cases hno : HoldsNoNumber (sequence.drop 1)
    · rw [decode_of_holdsNoNumber hno] at h
      cases h
    · obtain ⟨digits, n, hform, hn⟩ := exists_number_of_not_holdsNoNumber hno
      rw [decode_of_form hform hn, codePoint_of_writesHex hn] at h
      split at h
      · split at h <;> cases h
      · next hlarge => exact ⟨(Except.error.inj h).symm, overflows_of_form hform hn (by omega)⟩
  · rintro ⟨rfl, digits, n, hbody, hn, hlarge⟩
    have hform : NumberForm (sequence.drop 1) digits := by
      rw [hbody]
      exact .braced digits
    rw [decode_of_form hform hn, codePoint_of_writesHex hn, if_neg (by omega)]

/-- A sequence is decoded to what it stands for. -/
theorem StandsFor.decode_eq (h : StandsFor (sequence.drop 1) t) : decode sequence = .ok t := by
  cases h with
  | point hform hn hpos hle =>
    rw [decode_of_form hform hn, codePoint_of_writesHex hn, if_pos (by omega), if_pos ⟨hpos, hle⟩]
  | noPoint hform hn hout =>
    rw [decode_of_form hform hn, codePoint_of_writesHex hn, if_pos (by omega), if_neg (by omega)]
  | nothing hbody =>
    have hno : HoldsNoNumber (sequence.drop 1) := hbody ▸ holdsNoNumber_nil
    rw [decode_of_holdsNoNumber hno, hbody]
    rfl
  | lineEnd hbody hp =>
    have hno : HoldsNoNumber (sequence.drop 1) := hbody ▸ holdsNoNumber_of_lineEnd hp
    rw [decode_of_holdsNoNumber hno, hbody, plain_of_lineEnd hp]
  | letter hbody hc =>
    have hno : HoldsNoNumber (sequence.drop 1) := hbody ▸ holdsNoNumber_of_letter hc
    rw [decode_of_holdsNoNumber hno, hbody, plain_of_letter hc]
  | itself hno hline hletter => rw [decode_of_holdsNoNumber hno, plain_of_neither hline hletter]

/-- **Decoding gives the value that what follows the backslash stands for.** -/
theorem decode_eq_ok_iff : decode sequence = .ok t ↔ StandsFor (sequence.drop 1) t := by
  constructor
  · intro h
    by_cases hno : HoldsNoNumber (sequence.drop 1)
    · rw [decode_of_holdsNoNumber hno] at h
      rw [← Except.ok.inj h]
      exact plain_standsFor hno
    · obtain ⟨digits, n, hform, hn⟩ := exists_number_of_not_holdsNoNumber hno
      rw [decode_of_form hform hn, codePoint_of_writesHex hn] at h
      split at h
      · next hword =>
        split at h
        · next hpoint =>
          rw [← Except.ok.inj h]
          exact .point hform hn hpoint.1 hpoint.2
        · next hpoint =>
          rw [← Except.ok.inj h]
          exact .noPoint hform hn (by omega)
      · cases h
  · exact StandsFor.decode_eq

/-- A sequence stands for nothing, for one code point or for itself. -/
theorem StandsFor.short {body : Text} (h : StandsFor body t) : t = [] ∨ (∃ p, t = [p]) ∨ t = body := by
  cases h with
  | point => exact .inr (.inl ⟨_, rfl⟩)
  | noPoint => exact .inr (.inr rfl)
  | nothing => exact .inl rfl
  | lineEnd => exact .inl rfl
  | letter => exact .inr (.inl ⟨_, rfl⟩)
  | itself => exact .inr (.inr rfl)

end Decode

/-- **An escape sequence has no value when an integer in its braces takes more than 32 bits, and in no other case.** Every
other text has the value that it stands for: nothing, one code point, or all that follows the backslash. The last is
the value of a number that fits into 32 bits and is no code point. -/
theorem decode_stands_or_overflows (sequence : Text) :
    (∀ e, decode sequence = .error e ↔ e = .numberTooLarge ∧ Overflows (sequence.drop 1)) ∧
      (∀ t, decode sequence = .ok t ↔ StandsFor (sequence.drop 1) t) ∧
      (¬ Overflows (sequence.drop 1) →
        ∃ t, decode sequence = .ok t ∧ (t = [] ∨ (∃ p, t = [p]) ∨ t = sequence.drop 1)) ∧
      ∀ digits n, NumberForm (sequence.drop 1) digits → WritesHex digits n →
        (-0x80000000 ≤ n ∧ n < 0) ∨ (0x10FFFF < n ∧ n ≤ 0x7FFFFFFF) → decode sequence = .ok (sequence.drop 1) := by
  refine ⟨fun e => decode_eq_error_iff, fun t => decode_eq_ok_iff, ?_, ?_⟩
  · intro hfits
    cases hdecode : decode sequence with
    | error e => exact absurd (decode_eq_error_iff.mp hdecode).2 hfits
    | ok t => exact ⟨t, rfl, (decode_eq_ok_iff.mp hdecode).short⟩
  · intro digits n hform hn hout
    exact (StandsFor.noPoint hform hn hout).decode_eq

/-- A sign, the mark of the base and an underscore do not keep an integer from being too large. A number below zero in two
places is left as it is written. -/
theorem decode_stands_or_overflows_belowZero :
    decode (Text.ofString "\\u\x7b -0x_8000_0001\x7d") = .error .numberTooLarge ∧
      decode (Text.ofString "\\x-1") = .ok (Text.ofString "x-1") := by
  have hlarge : WritesHex (Text.ofString " -0x_8000_0001") (-0x80000001) :=
    Number.ofText_sixteen_eq_ok_iff.mp (by decide +kernel)
  have hsmall : WritesHex (Text.ofString "-1") (-1) := Number.ofText_sixteen_eq_ok_iff.mp (by decide +kernel)
  refine ⟨((decode_stands_or_overflows _).1 _).mpr ⟨rfl, _, _, by decide +kernel, hlarge, by decide⟩, ?_⟩
  exact (decode_stands_or_overflows (Text.ofString "\\x-1")).2.2.2 _ _ (.two rfl) hsmall (by decide)

end ScriptVet.Script.Escape
