import Mathlib.Data.Nat.Digits.Lemmas
import ScriptVet.Proofs.DecimalIntegers
import ScriptVet.Proofs.Texts

/-!
# Texts that write an integer in hexadecimal

`WritesHex` says in code points which texts write an integer in base sixteen, and which one: blanks, perhaps a sign,
perhaps the mark of the base, digits between which single underscores may stand, and blanks. Blanks and decimal digits
may be those of any script, and so may the zero of the mark. Signs, letters and underscores are those of ASCII.

The reader does not look at code points. It looks at the characters that `seen` puts in their place, so each part of
`WritesHex` is compared with the part of a `Reading` that it is seen as: `isAsciiBlank_seen`, `baseMark_seen_iff` and
`someDigits_seen_iff`. `ofText_sixteen_eq_ok_iff` puts them together.
-/

namespace ScriptVet

/-! ## Blanks and decimal digits of all scripts -/

namespace CodePoint

/-- No digit of the table is a blank or a surrogate, and only the first ten are in ASCII. -/
lemma zeros_apart {z : Nat} (h : z ∈ zeros) :
    z = 0x30 ∨ (0xA0 < z ∧ z + 10 ≤ 0x1680) ∨ (0x1680 < z ∧ z + 10 ≤ 0x2000) ∨ (0x3000 < z ∧ z + 10 ≤ 0xD800) ∨
      0xDFFF < z := by
  have hall : (zeros.all fun z => decide (z = 0x30 ∨ (0xA0 < z ∧ z + 10 ≤ 0x1680) ∨ (0x1680 < z ∧ z + 10 ≤ 0x2000) ∨
      (0x3000 < z ∧ z + 10 ≤ 0xD800) ∨ 0xDFFF < z)) = true := by decide
  exact of_decide_eq_true (List.all_eq_true.mp hall z h)

section Decimal

variable {p : CodePoint} {d : Nat}

/-- A decimal digit of any script stands a number of places behind the zero of that script. -/
lemma exists_zero_of_decimal? (h : p.decimal? = some d) : ∃ z ∈ zeros, p.toNat = z + d ∧ d < 10 := by
  obtain ⟨z, hfound, hd⟩ := Option.map_eq_some_iff.mp h
  have hrange := List.find?_some hfound
  rw [Bool.and_eq_true, decide_eq_true_eq, decide_eq_true_eq] at hrange
  exact ⟨z, List.mem_of_find?_eq_some hfound, by omega, by omega⟩

private lemma decimal?_lt (h : p.decimal? = some d) : d < 10 := by
  obtain ⟨_, -, -, hd⟩ := exists_zero_of_decimal? h
  exact hd

/-- No digit is a blank. -/
lemma isBlank_of_decimal? (h : p.decimal? = some d) : p.isBlank = false := by
  obtain ⟨z, hz, hp, hd⟩ := exists_zero_of_decimal? h
  have hapart := zeros_apart hz
  unfold isBlank
  simp only [Bool.or_eq_false_iff, Bool.and_eq_false_iff, decide_eq_false_iff_not]
  omega

/-- The decimal digits of ASCII are those from 0x30 on. -/
lemma toNat_of_decimal?_of_lt (h : p.decimal? = some d) (hp : p.toNat < 0x7F) : p.toNat = 0x30 + d ∧ d < 10 := by
  obtain ⟨z, hz, hnumber, hd⟩ := exists_zero_of_decimal? h
  have hapart := zeros_apart hz
  omega

end Decimal

private lemma isBlank_surrogate (n : Fin 2048) : (surrogate n).isBlank = false := by
  have hp : (surrogate n).toNat = 0xD800 + n.val := rfl
  unfold isBlank
  simp only [Bool.or_eq_false_iff, Bool.and_eq_false_iff, decide_eq_false_iff_not]
  omega

private lemma decimal?_surrogate (n : Fin 2048) : (surrogate n).decimal? = none := by
  rw [Option.eq_none_iff_forall_not_mem]
  intro d hd
  obtain ⟨z, hz, hnumber, hlt⟩ := exists_zero_of_decimal? hd
  have hapart := zeros_apart hz
  have hp : (surrogate n).toNat = 0xD800 + n.val := rfl
  omega

end CodePoint

namespace Number

open Resources (SignMark)

/-! ## Digits of ASCII -/

/-- The hexadecimal digits. -/
def hexDigits : List Char :=
  ['0', '1', '2', '3', '4', '5', '6', '7', '8', '9', 'a', 'b', 'c', 'd', 'e', 'f', 'A', 'B', 'C', 'D', 'E', 'F']

/-- What is claimed of the characters with small numbers can be tried. -/
theorem forall_toNat_lt {P : Char → Prop} {n : Nat} (h : ∀ k < n, P (Char.ofNat k)) {c : Char} (hc : c.toNat < n) :
    P c := by
  have hnumber := h c.toNat hc
  rwa [Char.ofNat_toNat] at hnumber

/-- The hexadecimal digits are the listed ones. -/
theorem isHex_iff_mem {c : Char} : isHex c = true ↔ c ∈ hexDigits := by
  constructor
  · intro h
    have hsmall : c.toNat < 103 := by
      by_contra hlarge
      have h9 : ¬ c ≤ '9' := fun hle => hlarge (by have : c.toNat ≤ 57 := hle; omega)
      have hf : ¬ c ≤ 'f' := fun hle => hlarge (by have : c.toNat ≤ 102 := hle; omega)
      have hF : ¬ c ≤ 'F' := fun hle => hlarge (by have : c.toNat ≤ 70 := hle; omega)
      simp [isHex, hexDigit?, h9, hf, hF] at h
    exact forall_toNat_lt (P := fun c => isHex c = true → c ∈ hexDigits) (by decide) hsmall h
  · intro h
    have hall : hexDigits.all isHex = true := by decide
    exact List.all_eq_true.mp hall c h

/-- The digits are few, so what is claimed of all of them can be tried. -/
theorem forall_isHex {P : Char → Prop} [DecidablePred P] (h : (hexDigits.all fun c => decide (P c)) = true) {c : Char}
    (hc : isHex c = true) : P c :=
  of_decide_eq_true (List.all_eq_true.mp h c (isHex_iff_mem.mp hc))

/-- Hexadecimal digits are in ASCII, and their values are below sixteen. -/
lemma toNat_of_hexDigit? {c : Char} {d : Nat} (h : hexDigit? c = some d) : c.toNat < 0x7F ∧ d < 16 := by
  have hvalue := forall_isHex (P := fun c => c.toNat < 0x7F ∧ ∀ d ∈ hexDigit? c, d < 16) (by decide)
    (show isHex c = true by simp [isHex, h])
  exact ⟨hvalue.1, hvalue.2 d h⟩

private lemma digitIn?_of_ascii {c : Char} (h : c.toNat < 0x7F) : digitIn? 16 c = hexDigit? c :=
  forall_toNat_lt (P := fun c => digitIn? 16 c = hexDigit? c) (by decide) h

/-- The ten decimal digits can be tried, too. -/
lemma forall_digit {P : Char → Nat → Prop} [∀ c d, Decidable (P c d)]
    (h : ((List.range 10).all fun d => decide (P (Char.ofNat (48 + d)) d)) = true) {d : Nat} (hd : d < 10) :
    P (Char.ofNat (48 + d)) d :=
  of_decide_eq_true (List.all_eq_true.mp h d (List.mem_range.mpr hd))

/-! ## Hexadecimal integers -/

/-- A hexadecimal digit and its value: a decimal digit of any script, or an ASCII digit. -/
inductive HexDigit : CodePoint → Nat → Prop
  | decimal {p : CodePoint} {d : Nat} (hd : p.decimal? = some d) : HexDigit p d
  | ascii {c : Char} {d : Nat} (hd : hexDigit? c = some d) : HexDigit (.scalar c) d

/-- Hexadecimal digits, at least one of them. A single underscore may stand between two. -/
inductive HexDigits : Text → List Nat → Prop
  | single {p : CodePoint} {d : Nat} (hd : HexDigit p d) : HexDigits [p] [d]
  | digit {p : CodePoint} {d : Nat} {t : Text} {ds : List Nat} (hd : HexDigit p d) (hds : HexDigits t ds) :
      HexDigits (p :: t) (d :: ds)
  | underscore {p : CodePoint} {d : Nat} {t : Text} {ds : List Nat} (hd : HexDigit p d) (hds : HexDigits t ds) :
      HexDigits (p :: .scalar '_' :: t) (d :: ds)

/-- The mark of base sixteen, which may be left out. An underscore may end it. -/
inductive HexMark : Text → Prop
  | none : HexMark []
  | letter {zero : CodePoint} {x : Char} (hzero : zero.decimal? = some 0) (hx : x = 'x' ∨ x = 'X') :
      HexMark [zero, .scalar x]
  | underscore {zero : CodePoint} {x : Char} (hzero : zero.decimal? = some 0) (hx : x = 'x' ∨ x = 'X') :
      HexMark [zero, .scalar x, .scalar '_']

/-- The text writes an integer in hexadecimal. -/
def WritesHex (t : Text) (n : Int) : Prop :=
  ∃ front mark lead run back sign digits,
    t = front ++ (Text.ofChars mark ++ (lead ++ (run ++ back))) ∧
      (∀ p ∈ front, p.isBlank = true) ∧ SignMark mark sign ∧ HexMark lead ∧ HexDigits run digits ∧
      (∀ p ∈ back, p.isBlank = true) ∧ n = sign * (Nat.ofDigits 16 digits.reverse : Nat)

/-! ## What the reader sees -/

/-- The character that the reader of integers sees in the place of a code point. -/
def seen (p : CodePoint) : Char := (simplify p).getD '?'

/-- What code points are seen as. Beyond ASCII, blanks and digits are seen as those of ASCII, and the rest as a mark that is
no part of an integer. -/
inductive SeenAs : CodePoint → Char → Prop
  | ascii {c : Char} (hc : c.toNat < 0x7F) : SeenAs (.scalar c) c
  | blank {p : CodePoint} (hp : 0x7F ≤ p.toNat) (hblank : p.isBlank = true) : SeenAs p ' '
  | digit {p : CodePoint} {d : Nat} (hp : 0x7F ≤ p.toNat) (hd : p.decimal? = some d) : SeenAs p (Char.ofNat (48 + d))
  | other {p : CodePoint} (hp : 0x7F ≤ p.toNat) (hblank : p.isBlank = false) (hd : p.decimal? = none) : SeenAs p '?'

/-- Every code point is seen as some character. -/
lemma seenAs (p : CodePoint) : SeenAs p (seen p) := by
  cases p with
  | surrogate n =>
    have hp : 0x7F ≤ (CodePoint.surrogate n).toNat := by
      show 0x7F ≤ 0xD800 + n.val
      omega
    exact .other hp (CodePoint.isBlank_surrogate n) (CodePoint.decimal?_surrogate n)
  | scalar c =>
    unfold seen simplify
    dsimp only
    split
    · next hc => exact .ascii hc
    · next hc =>
      have hp : 0x7F ≤ (CodePoint.scalar c).toNat := Nat.le_of_not_lt hc
      split
      · next hblank => exact .blank hp hblank
      · next hblank =>
        cases hd : (CodePoint.scalar c).decimal? with
        | none => exact .other hp (by simpa using hblank) hd
        | some d => exact .digit hp hd

/-- A blank is seen as a blank of ASCII, and nothing else is. -/
lemma isAsciiBlank_seen (p : CodePoint) : isAsciiBlank (seen p) = p.isBlank := by
  have hseen := seenAs p
  generalize seen p = c at hseen
  cases hseen with
  | ascii hc =>
    rw [Bool.eq_iff_iff]
    have hspace : c = ' ' ↔ c.toNat = 0x20 := Char.toNat_inj.symm
    unfold isAsciiBlank CodePoint.isBlank CodePoint.toNat
    simp only [Bool.or_eq_true, Bool.and_eq_true, decide_eq_true_eq, hspace]
    omega
  | blank hp hblank => rw [hblank]; decide
  | digit hp hd =>
    rw [CodePoint.isBlank_of_decimal? hd]
    exact forall_digit (P := fun c _ => isAsciiBlank c = false) (by decide) (CodePoint.decimal?_lt hd)
  | other hp hblank hd => rw [hblank]; decide

/-- A digit is seen as a digit of its value, and nothing else is. -/
lemma digitIn?_seen_iff {p : CodePoint} {d : Nat} : digitIn? 16 (seen p) = some d ↔ HexDigit p d := by
  -- Beyond ASCII only the decimal digits are hexadecimal ones.
  have hbeyond : ∀ {p : CodePoint}, 0x7F ≤ p.toNat → (HexDigit p d ↔ p.decimal? = some d) := by
    intro p hp
    constructor
    · intro h
      cases h with
      | decimal hd => exact hd
      | ascii hd =>
        have hc := (toNat_of_hexDigit? hd).1
        exact absurd hp (Nat.not_le_of_lt hc)
    · exact .decimal
  have hseen := seenAs p
  generalize seen p = c at hseen
  cases hseen with
  | ascii hc =>
    rw [digitIn?_of_ascii hc]
    constructor
    · exact .ascii
    · intro h
      cases h with
      | ascii hd => exact hd
      | decimal hd =>
        obtain ⟨hnumber, hlt⟩ := CodePoint.toNat_of_decimal?_of_lt hd hc
        have hchar : c = Char.ofNat (48 + d) := by
          rw [← hnumber]
          exact (Char.ofNat_toNat c).symm
        rw [hchar]
        exact forall_digit (P := fun c d => hexDigit? c = some d) (by decide) hlt
  | blank hp hblank =>
    have hnone : digitIn? 16 ' ' = none := by decide
    rw [hbeyond hp, hnone]
    refine iff_of_false nofun fun hd => ?_
    rw [CodePoint.isBlank_of_decimal? hd] at hblank
    cases hblank
  | @digit _ k hp hd =>
    have hk : digitIn? 16 (Char.ofNat (48 + k)) = some k :=
      forall_digit (P := fun c d => digitIn? 16 c = some d) (by decide) (CodePoint.decimal?_lt hd)
    rw [hbeyond hp, hd, hk]
  | other hp hblank hd =>
    have hnone : digitIn? 16 '?' = none := by decide
    rw [hbeyond hp, hnone, hd]

/-- The marks of an integer. They are seen as they are, and nothing else is seen as one of them. -/
def marks : List Char := ['_', '+', '-', 'x', 'X']

private lemma seen_eq_iff {p : CodePoint} {c : Char} (hc : c ∈ marks) : seen p = c ↔ p = .scalar c := by
  constructor
  · intro h
    have hseen := seenAs p
    rw [h] at hseen
    cases hseen with
    | ascii _ => rfl
    | blank _ _ => exact absurd hc (by decide)
    | digit _ hd =>
      exact absurd hc (forall_digit (P := fun c _ => c ∉ marks) (by decide) (CodePoint.decimal?_lt hd))
    | other _ _ _ => exact absurd hc (by decide)
  · rintro rfl
    have hall : (marks.all fun c => decide (seen (.scalar c) = c)) = true := by decide
    exact of_decide_eq_true (List.all_eq_true.mp hall c hc)

/-- The zero of a mark may be that of any script. -/
lemma seen_eq_zero_iff {p : CodePoint} : seen p = '0' ↔ p.decimal? = some 0 := by
  have hseen := seenAs p
  generalize seen p = c at hseen
  cases hseen with
  | ascii hc =>
    constructor
    · rintro rfl
      decide
    · intro hd
      obtain ⟨hnumber, -⟩ := CodePoint.toNat_of_decimal?_of_lt hd hc
      exact Char.toNat_inj.mp hnumber
  | blank hp hblank =>
    refine iff_of_false (by decide) fun hd => ?_
    rw [CodePoint.isBlank_of_decimal? hd] at hblank
    cases hblank
  | @digit _ k hp hd =>
    have hzero := forall_digit (P := fun c d => c = '0' ↔ d = 0) (by decide) (CodePoint.decimal?_lt hd)
    rw [hzero, hd, Option.some.injEq]
  | other hp hblank hd =>
    rw [hd]
    exact iff_of_false (by decide) nofun

/-! ## The parts as they are seen -/

/-- A sign is seen as it is. -/
lemma map_seen_eq_mark_iff {t : Text} {mark : List Char} {sign : Int} (h : SignMark mark sign) :
    t.map seen = mark ↔ t = Text.ofChars mark := by
  have hsingle : ∀ c ∈ marks, t.map seen = [c] ↔ t = [.scalar c] := by
    intro c hc
    rw [List.map_eq_singleton_iff]
    constructor
    · rintro ⟨p, rfl, hp⟩
      rw [(seen_eq_iff hc).mp hp]
    · rintro rfl
      exact ⟨_, rfl, (seen_eq_iff hc).mpr rfl⟩
  cases h with
  | none => exact List.map_eq_nil_iff
  | plus => exact hsingle '+' (by decide)
  | minus => exact hsingle '-' (by decide)

/-- The mark of the base is seen as it is. -/
lemma baseMark_seen_iff {lead : Text} : BaseMark 16 (lead.map seen) ↔ HexMark lead := by
  have hletter : ∀ {x : Char}, x = 'x' ∨ x = 'X' → x ∈ marks := by
    rintro x (rfl | rfl) <;> decide
  have hunderscore : '_' ∈ marks := by decide
  constructor
  · intro h
    generalize hcs : lead.map seen = cs at h
    cases h with
    | none =>
      rw [List.map_eq_nil_iff.mp hcs]
      exact .none
    | letter _ hx =>
      obtain ⟨zero, t, rfl, hzero, ht⟩ := List.map_eq_cons_iff.mp hcs
      obtain ⟨p, rfl, hp⟩ := List.map_eq_singleton_iff.mp ht
      rw [(seen_eq_iff (hletter hx)).mp hp]
      exact .letter (seen_eq_zero_iff.mp hzero) hx
    | underscore _ hx =>
      obtain ⟨zero, t, rfl, hzero, ht⟩ := List.map_eq_cons_iff.mp hcs
      obtain ⟨p, u, rfl, hp, hu⟩ := List.map_eq_cons_iff.mp ht
      obtain ⟨q, rfl, hq⟩ := List.map_eq_singleton_iff.mp hu
      rw [(seen_eq_iff (hletter hx)).mp hp, (seen_eq_iff hunderscore).mp hq]
      exact .underscore (seen_eq_zero_iff.mp hzero) hx
  · intro h
    cases h with
    | none => exact .none
    | letter hzero hx =>
      rw [List.map_cons, List.map_singleton, seen_eq_zero_iff.mpr hzero, (seen_eq_iff (hletter hx)).mpr rfl]
      exact .letter rfl hx
    | underscore hzero hx =>
      rw [List.map_cons, List.map_cons, List.map_singleton, seen_eq_zero_iff.mpr hzero,
        (seen_eq_iff (hletter hx)).mpr rfl, (seen_eq_iff hunderscore).mpr rfl]
      exact .underscore rfl hx

private lemma hexDigits_of_moreDigits {cs : List Char} {ds : List Nat} (h : MoreDigits 16 cs ds) {t : Text}
    (ht : t.map seen = cs) {p : CodePoint} {d : Nat} (hd : HexDigit p d) : HexDigits (p :: t) (d :: ds) := by
  induction h generalizing t p d with
  | nil =>
    rw [List.map_eq_nil_iff.mp ht]
    exact .single hd
  | digit hnext _ ih =>
    obtain ⟨q, u, rfl, rfl, hu⟩ := List.map_eq_cons_iff.mp ht
    exact .digit hd (ih hu (digitIn?_seen_iff.mp hnext))
  | underscore hnext _ ih =>
    obtain ⟨mark, u, rfl, hmark, hu⟩ := List.map_eq_cons_iff.mp ht
    obtain ⟨q, v, rfl, rfl, hv⟩ := List.map_eq_cons_iff.mp hu
    rw [(seen_eq_iff (by decide)).mp hmark]
    exact .underscore hd (ih hv (digitIn?_seen_iff.mp hnext))

/-- A run of digits is seen as a run of digits of the same values. -/
lemma someDigits_seen_iff {run : Text} {digits : List Nat} :
    SomeDigits 16 (run.map seen) digits ↔ HexDigits run digits := by
  constructor
  · intro h
    generalize hcs : run.map seen = cs at h
    cases h with
    | first hd hds =>
      obtain ⟨p, t, rfl, rfl, ht⟩ := List.map_eq_cons_iff.mp hcs
      exact hexDigits_of_moreDigits hds ht (digitIn?_seen_iff.mp hd)
  · intro h
    -- The digits behind the first one stand with it or behind an underscore.
    induction h with
    | single hd => exact .first (digitIn?_seen_iff.mpr hd) .nil
    | @digit p d t ds hd _ ih =>
      rw [List.map_cons]
      generalize t.map seen = cs at ih
      cases ih with
      | first hnext hmore => exact .first (digitIn?_seen_iff.mpr hd) (.digit hnext hmore)
    | @underscore p d t ds hd _ ih =>
      rw [List.map_cons, List.map_cons, (seen_eq_iff (by decide)).mpr rfl]
      generalize t.map seen = cs at ih
      cases ih with
      | first hnext hmore => exact .first (digitIn?_seen_iff.mpr hd) (.underscore hnext hmore)

private lemma forall_mem_map_seen_iff {t : Text} :
    (∀ c ∈ t.map seen, isAsciiBlank c = true) ↔ ∀ p ∈ t, p.isBlank = true := by
  simp only [List.forall_mem_map, isAsciiBlank_seen]

/-- **A text is read as an integer in base sixteen when it writes it.** -/
theorem ofText_sixteen_eq_ok_iff {t : Text} {n : Int} : ofText 16 t = .ok n ↔ WritesHex t n := by
  constructor
  · intro h
    obtain ⟨_, _, _, _, _, sign, digits, hparts, -, rfl⟩ := exists_reading_of_ofText h
    obtain ⟨htext, hfront, hmark, hlead, hdigits, hback⟩ := hparts
    -- Each part of what is seen is a part of the text.
    obtain ⟨front, signed, rfl, rfl, hsigned⟩ := List.map_eq_append_iff.mp htext
    obtain ⟨mark, marked, rfl, hsign, hmarked⟩ := List.map_eq_append_iff.mp hsigned
    obtain ⟨lead, written, rfl, rfl, hwritten⟩ := List.map_eq_append_iff.mp hmarked
    obtain ⟨run, back, rfl, rfl, rfl⟩ := List.map_eq_append_iff.mp hwritten
    rw [(map_seen_eq_mark_iff hmark).mp hsign]
    exact ⟨front, _, lead, run, back, sign, digits, rfl, forall_mem_map_seen_iff.mp hfront, hmark,
      baseMark_seen_iff.mp hlead, someDigits_seen_iff.mp hdigits, forall_mem_map_seen_iff.mp hback,
      by rw [ofDigits_eq_ofDigits_reverse]⟩
  · rintro ⟨front, mark, lead, run, back, sign, digits, rfl, hfront, hmark, hlead, hdigits, hback, rfl⟩
    have hparts : Reading 16 ((front ++ (Text.ofChars mark ++ (lead ++ (run ++ back)))).map seen) (front.map seen) mark
        (lead.map seen) (run.map seen) (back.map seen) sign digits := by
      constructor
      case text => simp only [List.map_append, (map_seen_eq_mark_iff hmark).mpr rfl]
      case front_blank => exact forall_mem_map_seen_iff.mpr hfront
      case sign_mark => exact hmark
      case base_mark => exact baseMark_seen_iff.mpr hlead
      case some_digits => exact someDigits_seen_iff.mpr hdigits
      case back_blank => exact forall_mem_map_seen_iff.mpr hback
    rw [hparts.ofText_eq, ofDigits_eq_ofDigits_reverse, if_neg (by simp)]

example : WritesHex (Text.ofString "\u3000-٠X_1f_٣ ") (-0x1F3) := ofText_sixteen_eq_ok_iff.mp (by decide +kernel)

/-! ## How large an integer can be -/

private lemma HexDigit.lt_sixteen {p : CodePoint} {d : Nat} (h : HexDigit p d) : d < 16 := by
  cases h with
  | decimal hd =>
    have hlt := CodePoint.decimal?_lt hd
    omega
  | ascii hd => exact (toNat_of_hexDigit? hd).2

/-- The digits of a run have values below sixteen and are no more than its code points. -/
lemma HexDigits.bounds {run : Text} {digits : List Nat} (h : HexDigits run digits) :
    (∀ d ∈ digits, d < 16) ∧ digits.length ≤ run.length := by
  induction h with
  | single hd => simpa using hd.lt_sixteen
  | digit hd _ ih => exact ⟨List.forall_mem_cons.mpr ⟨hd.lt_sixteen, ih.1⟩, by simpa using ih.2⟩
  | underscore hd _ ih =>
    refine ⟨List.forall_mem_cons.mpr ⟨hd.lt_sixteen, ih.1⟩, ?_⟩
    have hlength := ih.2
    simp only [List.length_cons]
    omega

/-- A text has room for one digit at each place. -/
theorem WritesHex.natAbs_lt {t : Text} {n : Int} (h : WritesHex t n) : n.natAbs < 16 ^ t.length := by
  obtain ⟨front, mark, lead, run, back, sign, digits, rfl, -, hmark, -, hdigits, -, rfl⟩ := h
  obtain ⟨hlt, hlength⟩ := hdigits.bounds
  have hsign : sign.natAbs = 1 := by
    cases hmark <;> rfl
  have hvalue : Nat.ofDigits 16 digits.reverse < 16 ^ digits.reverse.length :=
    Nat.ofDigits_lt_base_pow_length (by decide) fun d hd => hlt d (List.mem_reverse.mp hd)
  rw [Int.natAbs_mul, hsign, Nat.one_mul, Int.natAbs_natCast]
  refine Nat.lt_of_lt_of_le hvalue (Nat.pow_le_pow_right (by decide) ?_)
  simp only [List.length_reverse, List.length_append]
  omega

end Number

end ScriptVet
