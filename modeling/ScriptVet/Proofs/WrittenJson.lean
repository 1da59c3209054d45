import ScriptVet.Proofs.CompactJson
import ScriptVet.Proofs.JsonLimits

/-!
# Written JSON reads back

An object of texts and integers is written in printable ASCII and read back as it was. Two things can stand in the way,
and `parse_write_obj` asks for the absence of both: a high surrogate right before a low one, which are read as the one
code point that they stand for together (`Text.Pairless`), and an integer of more digits than are read.

What is written for a code point takes one of four forms (`Escaped`). The reader takes any of them in one step
(`stringTail_escaped`), where a high surrogate looks at what follows it (`Lone`), and the rest is induction over the
text and over the members.
-/

namespace ScriptVet

/-- No high surrogate stands right before a low one. -/
def Text.Pairless (t : Text) : Prop := t.IsChain fun p q => ¬ (p.isHigh = true ∧ q.isLow = true)

instance (t : Text) : Decidable t.Pairless := inferInstanceAs (Decidable (List.IsChain _ t))

/-- A text that has a UTF-8 form holds no surrogates at all. -/
theorem Text.HasUtf8.pairless {t : Text} (h : t.HasUtf8) : t.Pairless := by
  obtain ⟨cs, rfl⟩ := h
  induction cs with
  | nil => exact .nil
  | cons c cs ih =>
    cases cs with
    | nil => exact .singleton _
    | cons d cs => exact .cons_cons (fun hpair => Bool.noConfusion hpair.1) ih

namespace Json

/-! ## Code points of a string -/

/-- The forms of a code point in a string: as it is, a letter behind a backslash, the escape of one unit or the escapes
of two. -/
inductive Escaped : CodePoint → List Char → Prop where
  | raw {c : Char} (hquote : c ≠ '"') (hbackslash : c ≠ '\\') (hlow : 0x20 ≤ c.toNat) (hhigh : c.toNat ≤ 0x7E) :
      Escaped (.scalar c) [c]
  | letter {c letter : Char} (h : simpleEscape? letter = some c) : Escaped (.scalar c) ['\\', letter]
  | unit {n : Nat} (h : n < 0x10000) : Escaped (.ofNat n) (escapeUnit n)
  | pair {high low : Fin 2048} (hhigh : high.val < 1024) (hlow : 1024 ≤ low.val) :
      Escaped (.pair high low) (escapeUnit (0xD800 + high.val) ++ escapeUnit (0xD800 + low.val))

private lemma ofNat_surrogate (n : Fin 2048) : CodePoint.ofNat (0xD800 + n.val) = .surrogate n :=
  CodePoint.ofNat_toNat (.surrogate n)

/-- A character beyond U+FFFF is the pair of its two units. -/
lemma escaped_pair {c : Char} (h : 0x10000 ≤ c.toNat) :
    Escaped (.scalar c)
      (escapeUnit (0xD800 + (c.toNat - 0x10000) / 1024) ++ escapeUnit (0xDC00 + (c.toNat - 0x10000) % 1024)) := by
  have hlt : c.toNat < 0x110000 := CodePoint.toNat_lt (.scalar c)
  let high : Fin 2048 := ⟨(c.toNat - 0x10000) / 1024, by omega⟩
  let low : Fin 2048 := ⟨1024 + (c.toNat - 0x10000) % 1024, by omega⟩
  have hpoint : CodePoint.pair high low = .scalar c := by
    have hnumber : 0x10000 + high.val * 1024 + (low.val - 1024) = c.toNat := by
      dsimp only [high, low]
      omega
    unfold CodePoint.pair
    rw [hnumber]
    exact CodePoint.ofNat_toNat (.scalar c)
  have hpair : Escaped (.pair high low) _ := .pair (by dsimp only [high]; omega) (by dsimp only [low]; omega)
  have hlow : 0xDC00 + (c.toNat - 0x10000) % 1024 = 0xD800 + low.val := by
    dsimp only [low]
    omega
  rw [hlow, ← hpoint]
  exact hpair

/-- What is written for a code point is one of the ways to escape it. -/
lemma escaped_escapePoint (p : CodePoint) : Escaped p (escapePoint p) := by
  cases p with
  | surrogate n =>
    have hunit : Escaped (.ofNat (0xD800 + n.val)) _ := .unit (by omega)
    rwa [ofNat_surrogate] at hunit
  | scalar c =>
    by_cases hletter : c ∈ letteredChars
    · obtain ⟨letter, hescape, hstands⟩ := escapePoint_of_mem hletter
      rw [hescape]
      exact .letter hstands
    · rw [escapePoint_of_not_mem hletter]
      split
      · next h =>
        have hquote : c ≠ '"' := fun h => hletter (by simp [letteredChars, h])
        have hbackslash : c ≠ '\\' := fun h => hletter (by simp [letteredChars, h])
        exact .raw hquote hbackslash h.1 h.2
      split
      · next h =>
        have hunit := Escaped.unit h
        have hpoint : CodePoint.ofNat c.toNat = .scalar c := CodePoint.ofNat_toNat (.scalar c)
        rwa [hpoint] at hunit
      · next h => exact escaped_pair (by omega)

/-- What follows an escape does not make a pair with it. -/
def Lone (tail : Text) : Prop := ∀ unit, pairUp unit tail = some (.ofNat unit, 0)

/-- A unit that is not the first half of a pair stands for itself. -/
lemma pairUp_of_not_high {unit : Nat} (h : (CodePoint.ofNat unit).isHigh = false) (tail : Text) :
    pairUp unit tail = some (.ofNat unit, 0) := by
  unfold pairUp
  dsimp only
  split
  · next hfirst => rw [if_neg (by simp [h])]
  · rfl

/-- An escape behind a high surrogate makes a pair with it only when it is one of a low surrogate. -/
lemma lone_escapeUnit {n : Nat} (hn : n < 0x10000) (hlow : (CodePoint.ofNat n).isLow = false) (rest : Text) :
    Lone (Text.ofChars (escapeUnit n) ++ rest) := by
  intro unit
  have hescape : Text.ofChars (escapeUnit n) ++ rest =
      .scalar '\\' :: .scalar 'u' :: (Text.ofChars (hex4 n) ++ rest) := rfl
  rw [hescape]
  unfold pairUp
  dsimp only
  split
  · next heq =>
    cases heq
    split
    · rw [hex4?_hex4 hn]
      dsimp only
      cases hpoint : CodePoint.ofNat n with
      | scalar c => rfl
      | surrogate m =>
        rw [hpoint] at hlow
        exact if_neg (of_decide_eq_false hlow)
    · rfl
  · rfl

private lemma lone_quote (rest : Text) : Lone (.scalar '"' :: rest) := by
  intro unit
  unfold pairUp
  dsimp only
  cases CodePoint.ofNat unit <;> rfl

/-- What is written for a code point that is no second half does not go together with what was written before it. -/
theorem Escaped.lone {q : CodePoint} {chars : List Char} (h : Escaped q chars) (hlow : q.isLow = false) (rest : Text) :
    Lone (Text.ofChars chars ++ rest) := by
  cases h with
  | @raw c hquote hbackslash _ _ =>
    intro unit
    unfold pairUp
    dsimp only
    split
    · next heq => cases heq; exact absurd rfl hbackslash
    · rfl
  | @letter c letter h =>
    intro unit
    unfold pairUp
    dsimp only
    split
    · next heq => cases heq; cases h
    · rfl
  | @unit n hn => exact lone_escapeUnit hn hlow rest
  | @pair high low hhigh _ =>
    rw [Text.ofChars_append, List.append_assoc]
    refine lone_escapeUnit (by omega) ?_ _
    rw [ofNat_surrogate]
    exact decide_eq_false (by omega)

/-- The escapes of a high and a low surrogate make a pair. -/
lemma pairUp_pair {high low : Fin 2048} (hhigh : high.val < 1024) (hlow : 1024 ≤ low.val) (p : CodePoint)
    (rest : Text) :
    pairUp (0xD800 + high.val) (Text.ofChars (escapeUnit (0xD800 + low.val)) ++ p :: rest) =
      some (.pair high low, 6) := by
  have hescape : Text.ofChars (escapeUnit (0xD800 + low.val)) ++ p :: rest =
      .scalar '\\' :: .scalar 'u' :: (Text.ofChars (hex4 (0xD800 + low.val)) ++ p :: rest) := rfl
  have hfive : ((Text.ofChars (hex4 (0xD800 + low.val)) ++ p :: rest).take 5).length = 5 := by
    rw [List.length_take, List.length_append, List.length_cons]
    show min 5 (4 + (rest.length + 1)) = 5
    omega
  rw [hescape]
  unfold pairUp
  rw [ofNat_surrogate]
  dsimp only
  split
  · next hfirst heq =>
    cases hfirst
    cases heq
    rw [if_pos (by simp [CodePoint.isHigh, hhigh, hfive]), hex4?_hex4 (by omega)]
    dsimp only
    rw [ofNat_surrogate]
    exact if_pos hlow
  · next hnot => exact absurd rfl (hnot _ _ rfl)

/-- A code point of a string is read as itself, unless it is a high surrogate that makes a pair with what follows. -/
lemma stringTail_escaped {p : CodePoint} {chars : List Char} (h : Escaped p chars) {q : CodePoint} {rest : Text}
    (hlone : p.isHigh = true → Lone (q :: rest)) (opened fuel position : Nat) (done : Text) :
    stringTail opened (fuel + 1) done ⟨position, Text.ofChars chars ++ q :: rest⟩ =
      stringTail opened fuel (p :: done) ⟨position + chars.length, q :: rest⟩ := by
  cases h with
  | raw hquote hbackslash hlow _ => exact stringTail_raw hquote hbackslash hlow
  | letter h => exact stringTail_letter h
  | @unit n hn =>
    have hpair : pairUp n (q :: rest) = some (.ofNat n, 0) := by
      cases hhigh : (CodePoint.ofNat n).isHigh with
      | false => exact pairUp_of_not_high hhigh _
      | true => exact hlone hhigh n
    exact stringTail_unit hn hpair
  | @pair high low hhigh hlow =>
    -- The reader sees the first escape and takes the second one with it.
    obtain ⟨digit, tail, htail⟩ :
        ∃ digit tail, Text.ofChars (escapeUnit (0xD800 + low.val)) ++ q :: rest = digit :: tail :=
      List.exists_cons_of_ne_nil (by simp)
    have hpair := pairUp_pair hhigh hlow q rest
    have hrest : (digit :: tail).drop 6 = q :: rest := by rw [← htail]; rfl
    rw [htail] at hpair
    rw [Text.ofChars_append, List.append_assoc, htail, stringTail_unit (by omega) hpair, hrest]
    rfl

/-! ## Strings -/

/-- A quoted text up to its closing quote. The induction is over the text: each code point that is left is followed by
the next one or by the quote. -/
lemma stringTail_quoted {t : Text} (ht : t.Pairless) (rest : Text) (opened : Nat) {fuel : Nat} (position : Nat)
    (done : Text) (hfuel : t.length < fuel) :
    stringTail opened fuel done ⟨position, Text.ofChars (t.flatMap escapePoint) ++ .scalar '"' :: rest⟩ =
      .ok (done.reverse ++ t, ⟨position + (t.flatMap escapePoint).length + 1, rest⟩) := by
  induction t generalizing fuel position done with
  | nil =>
    obtain ⟨n, rfl⟩ := Nat.exists_eq_add_of_lt hfuel
    simp [stringTail]
  | cons p t ih =>
    obtain ⟨n, rfl⟩ : ∃ n, fuel = n + 1 := ⟨fuel - 1, by omega⟩
    rw [List.length_cons] at hfuel
    obtain ⟨q, tail, htail⟩ : ∃ q tail, Text.ofChars (t.flatMap escapePoint) ++ .scalar '"' :: rest = q :: tail :=
      List.exists_cons_of_ne_nil (by simp)
    -- Behind a high surrogate stands the closing quote, or a code point that is no low one.
    have hlone : p.isHigh = true → Lone (q :: tail) := by
      intro hhigh
      rw [← htail]
      cases t with
      | nil => exact lone_quote rest
      | cons r t =>
        have hlow : r.isLow = false := by
          have hpair := (List.isChain_cons_cons.mp ht).1
          simpa [hhigh] using hpair
        rw [List.flatMap_cons, Text.ofChars_append, List.append_assoc]
        exact (escaped_escapePoint r).lone hlow _
    rw [List.flatMap_cons, Text.ofChars_append, List.append_assoc, htail,
      stringTail_escaped (escaped_escapePoint p) hlone, ← htail, ih ht.of_cons _ _ (by omega)]
    simp [Nat.add_assoc]

private lemma Escaped.length_pos {p : CodePoint} {chars : List Char} (h : Escaped p chars) : 0 < chars.length := by
  cases h <;> exact Nat.succ_pos _

private lemma length_lt_quote (t : Text) : t.length < (quote t).length := by
  have hflat : t.length ≤ (t.flatMap escapePoint).length := by
    induction t with
    | nil => exact Nat.le_refl 0
    | cons p t ih =>
      have := (escaped_escapePoint p).length_pos
      rw [List.flatMap_cons, List.length_append, List.length_cons]
      omega
  simp only [quote, List.length_cons, List.length_append]
  omega

/-- A quoted text is read back, and nothing behind it is touched. -/
lemma string_quote {t : Text} (ht : t.Pairless) (rest : Text) {size : Nat} (position : Nat)
    (hsize : (quote t).length ≤ size) :
    string size ⟨position, Text.ofChars (quote t) ++ rest⟩ = .ok (t, ⟨position + (quote t).length, rest⟩) := by
  have htail : (Input.mk position (Text.ofChars (quote t) ++ rest)).advance 1 =
      ⟨position + 1, Text.ofChars (t.flatMap escapePoint) ++ .scalar '"' :: rest⟩ := by
    simp [Input.advance, quote, Text.ofChars]
  have hlength := length_lt_quote t
  rw [string, htail, stringTail_quoted ht rest _ _ _ (by omega)]
  simp [quote, Nat.add_assoc, Nat.add_comm 1]

/-! ## Values of members -/

/-- A member of an object is followed by another one or by the end of the object. -/
def EndsMember (p : CodePoint) : Prop := p = .scalar ',' ∨ p = .scalar '\x7d'

/-- The value of a member is read from its written form, which does not start with a blank. -/
structure ReadsBack (v : Json) : Prop where
  starts : ∃ c cs, v.write = c :: cs ∧ Input.isBlank (.scalar c) = false
  reads : ∀ {size : Nat} (depth position : Nat) {p : CodePoint} (rest : Text), EndsMember p → v.write.length ≤ size →
    value size depth ⟨position, Text.ofChars v.write ++ p :: rest⟩ = .ok (v, ⟨position + v.write.length, p :: rest⟩)

/-- Texts are read back. -/
lemma readsBack_str {t : Text} (ht : t.Pairless) : ReadsBack (.str t) where
  starts := ⟨'"', t.flatMap escapePoint ++ ['"'], rfl, by decide⟩
  reads := by
    intro size depth position p rest _ hsize
    have hstring := string_quote ht (p :: rest) position hsize
    unfold value
    exact Steps.bind_eq_ok_iff.mpr ⟨_, hstring, rfl⟩

/-! ### Integers -/

private lemma digit?_of_isDigit {c : Char} (h : c.isDigit = true) : Number.digit? c = some (c.toNat - '0'.toNat) := by
  have hrange : '0' ≤ c ∧ c ≤ '9' := by simpa [Char.isDigit, Char.le_def] using h
  exact if_pos hrange

/-- The decimal digits of a number are read as the number. -/
lemma ofDecimal_toDigits (n : Nat) : Number.ofDecimal (Nat.toDigits 10 n) = n := by
  have hvalues : (Nat.toDigits 10 n).filterMap Number.digit? =
      (Nat.toDigits 10 n).map fun c => c.toNat - '0'.toNat := by
    rw [← List.filterMap_eq_map]
    exact List.filterMap_congr fun c hc => digit?_of_isDigit (Nat.isDigit_of_mem_toDigits (by decide) (by decide) hc)
  calc Number.ofDecimal (Nat.toDigits 10 n)
      = (Nat.toDigits 10 n).foldl (fun sofar c => sofar * 10 + (c.toNat - '0'.toNat)) 0 := by
        rw [Number.ofDecimal, Number.ofDigits, hvalues, List.foldl_map]
    _ = Nat.ofDigitChars 10 (Nat.toDigits 10 n) 0 := by simp only [Nat.ofDigitChars, Nat.mul_comm]
    _ = n := Nat.ofDigitChars_ten_toDigits

/-- The digits of a number do not start with a zero, but for the number zero. -/
lemma eq_nil_of_toDigits_eq_zero_cons {n : Nat} {ds : List Char} (h : Nat.toDigits 10 n = '0' :: ds) : ds = [] := by
  induction n using Nat.strongRecOn generalizing ds with
  | ind n ih =>
    rw [Nat.toDigits_eq_if (by decide)] at h
    split at h
    · exact (List.cons.inj h).2.symm
    · next hlarge =>
      -- The digits but for the last one would be those of zero.
      obtain ⟨d, front, hfront⟩ := List.exists_cons_of_ne_nil (@Nat.toDigits_ne_nil (n / 10) 10)
      rw [hfront, List.cons_append] at h
      obtain ⟨rfl, -⟩ := List.cons.inj h
      have hnil := ih (n / 10) (by omega) hfront
      have hzero := ofDecimal_toDigits (n / 10)
      rw [hfront, hnil] at hzero
      have : Number.ofDecimal ['0'] = 0 := rfl
      omega

/-- An integer is written as a minus sign, if it needs one, and its digits. -/
lemma write_int (n : Int) :
    (Json.int n).write = (if n < 0 then ['-'] else []) ++ Nat.toDigits 10 n.natAbs := by
  show (toString n).toList = _
  have hdigits : n.natAbs.repr.toList = Nat.toDigits 10 n.natAbs := by
    rw [Nat.repr_eq_ofList_toDigits, String.toList_ofList]
  rw [Int.toString_eq_repr, Int.repr_eq_if]
  split
  · next h =>
    have habs : n.toNat = n.natAbs := by omega
    rw [if_neg (by omega), habs, hdigits, List.nil_append]
  · next h =>
    have habs : (-n).toNat = n.natAbs := by omega
    rw [if_pos (by omega), habs, String.toList_append, hdigits]
    rfl

/-- What ends a member does not go on with a number. -/
lemma EndsMember.not_digit {p : CodePoint} (h : EndsMember p) (rest : Text) :
    ∀ c, (p :: rest).head? = some (.scalar c) → (Number.digit? c).isSome = false := by
  intro c hc
  rcases h with rfl | rfl
  · cases hc; decide
  · cases hc; decide

/-- Digits that end a member are an integer. -/
lemma number_digits {ds : List Char} (hds : ∀ c ∈ ds, c.isDigit = true) (hne : ds ≠ [])
    (hzero : ∀ more, ds = '0' :: more → more = []) (hshort : ds.length ≤ Number.maxIntegerDigits) {p : CodePoint}
    (hp : EndsMember p) (negative : Bool) (position : Nat) (rest : Text) :
    number ⟨position, Text.ofChars ((if negative then ['-'] else []) ++ ds) ++ p :: rest⟩ =
      .ok (.int (if negative then -(Number.ofDecimal ds : Int) else Number.ofDecimal ds),
        ⟨position + (if negative then 1 else 0) + ds.length, p :: rest⟩) := by
  obtain ⟨d, more, hcons⟩ := List.exists_cons_of_ne_nil hne
  have hdigits : digits (Text.ofChars ds ++ p :: rest) = (ds, p :: rest) :=
    digits_ofChars_append (fun c hc => by rw [digit?_of_isDigit (hds c hc)]; rfl) (hp.not_digit rest)
  have hfraction : fraction (p :: rest) = ([], p :: rest) := by rcases hp with rfl | rfl <;> rfl
  have hexponent : exponent (p :: rest) = (none, p :: rest) := by rcases hp with rfl | rfl <;> rfl
  unfold number
  -- The three matches of the reader are settled one after another: sign, leading zero, fraction and exponent.
  split
  next sign unsigned hsign =>
  obtain ⟨rfl, rfl⟩ : sign = negative ∧ unsigned = Text.ofChars ds ++ p :: rest := by
    cases negative with
    | true =>
      cases hsign
      exact ⟨rfl, rfl⟩
    | false =>
      have hminus : d ≠ '-' := by
        rintro rfl
        exact absurd (hds '-' (by simp [hcons])) (by decide)
      split at hsign
      · next heq =>
        rw [hcons] at heq
        exact absurd (CodePoint.scalar.inj (List.cons.inj heq).1) hminus
      · cases hsign
        exact ⟨rfl, rfl⟩
  split
  next whole after hwhole =>
  obtain ⟨rfl, rfl⟩ : whole = ds ∧ after = p :: rest := by
    split at hwhole
    · next heq =>
      rw [hcons] at heq
      obtain ⟨hd, htail⟩ := List.cons.inj heq
      cases hd
      have hone := hzero more hcons
      rw [hone] at hcons htail
      cases hwhole
      exact ⟨hcons.symm, htail.symm⟩
    · rw [hdigits] at hwhole
      cases hwhole
      exact ⟨rfl, rfl⟩
  rw [if_neg (by simpa using hne), hfraction]
  dsimp only
  rw [hexponent]
  exact if_neg (by omega)

private lemma isDigit_ne {d c : Char} (hd : d.isDigit = true) (hc : c.isDigit = false) : d ≠ c := by
  rintro rfl
  exact Bool.false_ne_true (hc.symm.trans hd)

/-- A text that starts with none of the words is read as a number. -/
lemma wordOrNumber_eq_number {i : Input} (h : ∀ w ∈ words, i.rest.startsWith w.1 = false) :
    wordOrNumber i = number i := by
  unfold wordOrNumber
  split
  · next w v hfind =>
    have hstarts := List.find?_some hfind
    exact absurd hstarts (by simp [h (w, v) (List.mem_of_find?_eq_some hfind)])
  · rfl

/-- No digit is among the first two characters of a word. -/
lemma words_start {w : String × Json} (hw : w ∈ words) :
    ∃ a b cs, w.1.toList = a :: b :: cs ∧ a.isDigit = false ∧ b.isDigit = false := by
  simp only [words, List.mem_cons, List.not_mem_nil, or_false] at hw
  rcases hw with rfl | rfl | rfl | rfl | rfl | rfl <;> refine ⟨_, _, _, rfl, ?_, ?_⟩ <;> decide

/-- A digit, with or without a minus sign before it, starts a number: no word does so. -/
lemma value_eq_number {d : Char} (hd : d.isDigit = true) (negative : Bool) (size depth position : Nat) (rest : Text) :
    value size depth ⟨position, Text.ofChars (if negative then ['-'] else []) ++ .scalar d :: rest⟩ =
      number ⟨position, Text.ofChars (if negative then ['-'] else []) ++ .scalar d :: rest⟩ := by
  cases negative with
  | true =>
    refine Eq.trans ?_ (wordOrNumber_eq_number fun w hw => ?_)
    · unfold value
      rfl
    · obtain ⟨a, b, cs, hword, -, hb⟩ := words_start hw
      refine Bool.eq_false_iff.mpr fun hstarts => ?_
      rw [Text.startsWith_iff, Text.ofString, hword] at hstarts
      obtain ⟨hsecond, -⟩ := List.cons_prefix_cons.mp (List.cons_prefix_cons.mp hstarts).2
      exact isDigit_ne hd hb (CodePoint.scalar.inj hsecond).symm
  | false =>
    refine Eq.trans ?_ (wordOrNumber_eq_number fun w hw => ?_)
    · unfold value
      split
      · next heq => cases heq
      · next heq => cases heq; cases hd
      · next heq => cases heq; cases hd
      · next heq => cases heq; cases hd
      · rfl
    · obtain ⟨a, b, cs, hword, ha, -⟩ := words_start hw
      refine Bool.eq_false_iff.mpr fun hstarts => ?_
      rw [Text.startsWith_iff, Text.ofString, hword] at hstarts
      exact isDigit_ne hd ha (CodePoint.scalar.inj (List.cons_prefix_cons.mp hstarts).1).symm

/-- Integers that are short enough are read back. -/
lemma readsBack_int {n : Int} (hshort : Number.isOverlong n = false) : ReadsBack (.int n) := by
  have hds : ∀ c ∈ Nat.toDigits 10 n.natAbs, c.isDigit = true :=
    fun c hc => Nat.isDigit_of_mem_toDigits (by decide) (by decide) hc
  obtain ⟨d, more, hcons⟩ := List.exists_cons_of_ne_nil (@Nat.toDigits_ne_nil n.natAbs 10)
  have hd : d.isDigit = true := hds d (by simp [hcons])
  constructor
  · rw [write_int, hcons]
    split
    · exact ⟨'-', d :: more, rfl, by decide⟩
    · refine ⟨d, more, rfl, ?_⟩
      have hblank : d ≠ ' ' ∧ d ≠ '\t' ∧ d ≠ '\n' ∧ d ≠ '\r' :=
        ⟨isDigit_ne hd (by decide), isDigit_ne hd (by decide), isDigit_ne hd (by decide), isDigit_ne hd (by decide)⟩
      simp [Input.isBlank, hblank]
  · intro size depth position p rest hp _
    have hnumber := number_digits hds Nat.toDigits_ne_nil (fun _ => eq_nil_of_toDigits_eq_zero_cons)
      (Nat.le_of_not_lt (of_decide_eq_false hshort)) hp (n < 0) position rest
    have hvalue := value_eq_number hd (n < 0) size depth position (Text.ofChars more ++ p :: rest)
    have htext : Text.ofChars (if (n < 0 : Bool) then ['-'] else []) ++ .scalar d :: (Text.ofChars more ++ p :: rest) =
        Text.ofChars ((if (n < 0 : Bool) then ['-'] else []) ++ Nat.toDigits 10 n.natAbs) ++ p :: rest := by
      rw [hcons, Text.ofChars_append, List.append_assoc]
      rfl
    rw [htext, hnumber, ofDecimal_toDigits] at hvalue
    simp only [decide_eq_true_eq] at hvalue
    have hinteger : (if n < 0 then -(n.natAbs : Int) else n.natAbs) = n := by split <;> omega
    have hlength : position + (if n < 0 then 1 else 0) + (Nat.toDigits 10 n.natAbs).length =
        position + ((if n < 0 then ['-'] else []) ++ Nat.toDigits 10 n.natAbs).length := by
      rw [List.length_append]
      split <;> simp [Nat.add_assoc]
    rw [write_int, hvalue, hinteger, hlength]

/-! ## Objects -/

/-- A member with a new name comes last. -/
lemma insert_of_not_mem {name : Text} {v : Json} {done : List (Text × Json)} (h : name ∉ done.map Prod.fst) :
    insert name v done = done ++ [(name, v)] := by
  induction done with
  | nil => rfl
  | cons m done ih =>
    obtain ⟨k, w⟩ := m
    rw [List.map_cons, List.mem_cons, not_or] at h
    unfold insert
    rw [if_neg (Ne.symm h.1), ih h.2, List.cons_append]

/-- Members that can be read back: their names differ, and nothing is lost in a name or a value. -/
structure Readable (members : List (Text × Json)) : Prop where
  nodup : (members.map Prod.fst).Nodup
  pairless : ∀ m ∈ members, m.1.Pairless
  readsBack : ∀ m ∈ members, ReadsBack m.2

/-- One member is read, and another one or the end of the object comes next. -/
lemma members_step {k : Text} {v : Json} (hk : k.Pairless) (hv : ReadsBack v) {size : Nat}
    (hsize : (quote k ++ ':' :: ' ' :: v.write).length ≤ size) {p : CodePoint} (hp : EndsMember p)
    (fuel depth position : Nat) (done : List (Text × Json)) (rest : Text) :
    members size (value size depth) (fuel + 1) done
        ⟨position, Text.ofChars (quote k ++ ':' :: ' ' :: v.write) ++ p :: rest⟩ =
      if p = .scalar '\x7d' then
        .ok (.obj (insert k v done), ⟨position + (quote k ++ ':' :: ' ' :: v.write).length + 1, rest⟩)
      else
        members size (value size depth) fuel (insert k v done)
          (Input.mk (position + (quote k ++ ':' :: ' ' :: v.write).length + 1) rest).skipBlanks := by
  obtain ⟨c, cs, hwrite, hblank⟩ := hv.starts
  have hlength : (quote k ++ ':' :: ' ' :: v.write).length = (quote k).length + 2 + v.write.length := by
    rw [List.length_append, List.length_cons, List.length_cons]
    omega
  have hstring := string_quote hk (.scalar ':' :: .scalar ' ' :: (Text.ofChars v.write ++ p :: rest)) position
    (by omega : (quote k).length ≤ size)
  have hitem := hv.reads depth (position + (quote k).length + 2) rest hp (by omega : v.write.length ≤ size)
  have htext : Text.ofChars (quote k ++ ':' :: ' ' :: v.write) ++ p :: rest =
      Text.ofChars (quote k) ++ .scalar ':' :: .scalar ' ' :: (Text.ofChars v.write ++ p :: rest) := by
    simp [Text.ofChars]
  have hcolon : Input.isBlank (.scalar ':') = false := by decide
  have hafter : ((Input.mk (position + (quote k).length)
      (.scalar ':' :: .scalar ' ' :: (Text.ofChars v.write ++ p :: rest))).advance 1).skipBlanks =
        ⟨position + (quote k).length + 2, Text.ofChars v.write ++ p :: rest⟩ := by
    rw [hwrite]
    exact skipBlanks_cons hblank _ _
  have hend : Input.isBlank p = false := by rcases hp with rfl | rfl <;> decide
  rw [htext, hlength, ← Nat.add_assoc, ← Nat.add_assoc]
  conv_lhs => unfold members
  split
  · rw [hstring]
    dsimp only [Bind.bind, Except.bind]
    rw [skipBlanks_cons hcolon]
    split
    · rw [hafter, hitem]
      dsimp only
      rw [skipBlanks_cons hend]
      rcases hp with rfl | rfl
      · exact (if_neg (by decide)).symm
      · exact (if_pos rfl).symm
    · next hnot => exact absurd rfl (hnot _)
  · next hnot => exact absurd rfl (hnot _)

/-- Members are written with a comma and a blank between them. -/
lemma writeMembers_cons_cons (k : Text) (v : Json) (m : Text × Json) (ms : List (Text × Json)) :
    writeMembers ((k, v) :: m :: ms) = (quote k ++ ':' :: ' ' :: v.write) ++ ',' :: ' ' :: writeMembers (m :: ms) := by
  rw [writeMembers]
  nofun

private lemma writeMembers_starts (m : Text × Json) (ms : List (Text × Json)) :
    ∃ cs, writeMembers (m :: ms) = '"' :: cs := by
  cases ms with
  | nil => exact ⟨_, rfl⟩
  | cons n ms => exact ⟨_, writeMembers_cons_cons m.1 m.2 n ms⟩

/-- The members of an object, where some have been read before. -/
lemma members_written {ms : List (Text × Json)} (hne : ms ≠ []) (hpairless : ∀ m ∈ ms, m.1.Pairless)
    (hreads : ∀ m ∈ ms, ReadsBack m.2) {size fuel : Nat} (depth position : Nat) {done : List (Text × Json)}
    (hnodup : ((done ++ ms).map Prod.fst).Nodup) (hfuel : ms.length ≤ fuel) (hsize : (writeMembers ms).length ≤ size)
    (rest : Text) :
    members size (value size depth) fuel done
        ⟨position, Text.ofChars (writeMembers ms) ++ .scalar '\x7d' :: rest⟩ =
      .ok (.obj (done ++ ms), ⟨position + (writeMembers ms).length + 1, rest⟩) := by
  induction ms generalizing fuel position done with
  | nil => exact absurd rfl hne
  | cons m ms ih =>
    obtain ⟨k, v⟩ := m
    obtain ⟨n, rfl⟩ : ∃ n, fuel = n + 1 := ⟨fuel - 1, by rw [List.length_cons] at hfuel; omega⟩
    have hk : k.Pairless := hpairless (k, v) List.mem_cons_self
    have hv : ReadsBack v := hreads (k, v) List.mem_cons_self
    -- The name is new, so the member goes to the end.
    have hnew : insert k v done = done ++ [(k, v)] := by
      refine insert_of_not_mem fun hmem => ?_
      rw [List.map_append, List.nodup_append] at hnodup
      exact hnodup.2.2 k hmem k (by simp) rfl
    cases ms with
    | nil =>
      rw [writeMembers] at hsize ⊢
      rw [members_step hk hv hsize (Or.inr rfl), if_pos rfl, hnew]
    | cons m ms =>
      obtain ⟨cs, hstarts⟩ := writeMembers_starts m ms
      rw [writeMembers_cons_cons] at hsize ⊢
      rw [List.length_append, List.length_cons, List.length_cons] at hsize
      have htext : Text.ofChars ((quote k ++ ':' :: ' ' :: v.write) ++ ',' :: ' ' :: writeMembers (m :: ms)) ++
          .scalar '\x7d' :: rest = Text.ofChars (quote k ++ ':' :: ' ' :: v.write) ++ .scalar ',' ::
            (.scalar ' ' :: (Text.ofChars (writeMembers (m :: ms)) ++ .scalar '\x7d' :: rest)) := by
        simp [Text.ofChars]
      have hskip : ∀ start, (Input.mk start
          (.scalar ' ' :: (Text.ofChars (writeMembers (m :: ms)) ++ .scalar '\x7d' :: rest))).skipBlanks =
            ⟨start + 1, Text.ofChars (writeMembers (m :: ms)) ++ .scalar '\x7d' :: rest⟩ := by
        intro start
        have hquote : Input.isBlank (.scalar '"') = false := by decide
        rw [hstarts]
        exact skipBlanks_cons hquote (start + 1) _
      have hnodup' : (((done ++ [(k, v)]) ++ (m :: ms)).map Prod.fst).Nodup := by
        rwa [List.append_assoc, List.singleton_append]
      rw [htext, members_step hk hv (by omega) (Or.inl rfl), if_neg (by decide), hnew, hskip,
        ih (List.cons_ne_nil _ _) (fun m hm => hpairless m (List.mem_cons_of_mem _ hm))
          (fun m hm => hreads m (List.mem_cons_of_mem _ hm)) _ hnodup' (by simpa using hfuel) (by omega)]
      have hlength : ((quote k ++ ':' :: ' ' :: v.write) ++ ',' :: ' ' :: writeMembers (m :: ms)).length =
          (quote k ++ ':' :: ' ' :: v.write).length + 1 + 1 + (writeMembers (m :: ms)).length := by
        rw [List.length_append, List.length_cons, List.length_cons]
        omega
      rw [hlength, List.append_assoc, List.singleton_append]
      simp only [Nat.add_assoc]

private lemma write_obj (ms : List (Text × Json)) : (Json.obj ms).write = '\x7b' :: writeMembers ms ++ ['\x7d'] := rfl

private lemma length_le_writeMembers (ms : List (Text × Json)) : ms.length ≤ (writeMembers ms).length := by
  induction ms with
  | nil => exact Nat.le_refl 0
  | cons m ms ih =>
    cases ms with
    | nil =>
      obtain ⟨cs, hstarts⟩ := writeMembers_starts m []
      rw [hstarts]
      exact Nat.succ_le_succ (Nat.zero_le _)
    | cons n ms =>
      rw [writeMembers_cons_cons m.1 m.2]
      simp only [List.length_append, List.length_cons] at ih ⊢
      omega

/-- **Members are read back.** The reader has room for the object that holds them. -/
theorem parse_write_obj {ms : List (Text × Json)} (hne : ms ≠ []) (h : Readable ms) (depth : Nat) :
    parse (depth + 1) (Text.ofChars (Json.obj ms).write) = .ok (.obj ms) := by
  obtain ⟨m, ms, rfl⟩ := List.exists_cons_of_ne_nil hne
  obtain ⟨cs, hstarts⟩ := writeMembers_starts m ms
  have hbrace : Input.isBlank (.scalar '\x7b') = false := by decide
  have hquote : Input.isBlank (.scalar '"') = false := by decide
  have hwrite : Text.ofChars (Json.obj (m :: ms)).write =
      .scalar '\x7b' :: (Text.ofChars (writeMembers (m :: ms)) ++ [.scalar '\x7d']) := by
    rw [write_obj]
    simp [Text.ofChars]
  have hlength := length_le_writeMembers (m :: ms)
  have hskip : (Input.mk 1 (Text.ofChars (writeMembers (m :: ms)) ++ [.scalar '\x7d'])).skipBlanks =
      ⟨1, Text.ofChars (writeMembers (m :: ms)) ++ [.scalar '\x7d']⟩ := by
    rw [hstarts]
    exact skipBlanks_cons hquote 1 _
  have hvalue : ∀ size, (writeMembers (m :: ms)).length ≤ size →
      value size (depth + 1) ⟨0, Text.ofChars (Json.obj (m :: ms)).write⟩ =
        .ok (.obj (m :: ms), ⟨1 + (writeMembers (m :: ms)).length + 1, []⟩) := by
    intro size hsize
    have hread : members size (value size depth) size []
        ⟨1, Text.ofChars (writeMembers (m :: ms)) ++ [.scalar '\x7d']⟩ = _ :=
      members_written hne h.pairless h.readsBack depth 1 h.nodup (by omega) hsize []
    rw [hwrite]
    unfold value
    dsimp only [Input.advance, List.drop]
    rw [hskip, hstarts]
    rw [hstarts] at hread
    exact hread
  have hparse : parse (depth + 1) (Text.ofChars (Json.obj (m :: ms)).write) =
      document (depth + 1) (Text.ofChars (Json.obj (m :: ms)).write) := by
    rw [hwrite]
    rfl
  have hstart : (Input.mk 0 (Text.ofChars (Json.obj (m :: ms)).write)).skipBlanks =
      ⟨0, Text.ofChars (Json.obj (m :: ms)).write⟩ := by
    rw [hwrite]
    exact skipBlanks_cons hbrace 0 _
  have hsize : (writeMembers (m :: ms)).length ≤ (Text.ofChars (Json.obj (m :: ms)).write).length + 1 := by
    rw [hwrite, List.length_cons, List.length_append]
    simp only [Text.ofChars, List.length_map]
    omega
  rw [hparse]
  unfold document
  rw [hstart, hvalue _ hsize]
  rfl

/-! ## Printable text -/

/-- The characters of ASCII that are printed, from the space to the tilde. -/
def IsPrintable (c : Char) : Prop := 0x20 ≤ c.toNat ∧ c.toNat ≤ 0x7E

instance (c : Char) : Decidable (IsPrintable c) := inferInstanceAs (Decidable (_ ∧ _))

private lemma isPrintable_of_isDigit {c : Char} (h : c.isDigit = true) : IsPrintable c := by
  have hrange : 48 ≤ c.toNat ∧ c.toNat ≤ 57 := by simpa [Char.isDigit, UInt32.le_iff_toNat_le] using h
  exact ⟨by omega, by omega⟩

private lemma isPrintable_hexDigit {n : Nat} (h : n < 16) : IsPrintable (hexDigit n) := by
  have hall : ∀ m < 16, IsPrintable (hexDigit m) := by decide
  exact hall n h

/-- The escape of a unit is written with printable characters. -/
lemma isPrintable_of_mem_escapeUnit {n : Nat} {c : Char} (h : c ∈ escapeUnit n) : IsPrintable c := by
  simp only [escapeUnit, hex4, List.mem_cons, List.not_mem_nil, or_false] at h
  rcases h with rfl | rfl | rfl | rfl | rfl | rfl
  · decide
  · decide
  · exact isPrintable_hexDigit (Nat.mod_lt _ (by decide))
  · exact isPrintable_hexDigit (Nat.mod_lt _ (by decide))
  · exact isPrintable_hexDigit (Nat.mod_lt _ (by decide))
  · exact isPrintable_hexDigit (Nat.mod_lt _ (by decide))

private lemma isPrintable_of_simpleEscape? {letter c : Char} (h : simpleEscape? letter = some c) : IsPrintable letter := by
  unfold simpleEscape? at h
  split at h
  case h_9 => cases h
  all_goals decide

/-- Escapes are written with printable characters. -/
theorem Escaped.printable {p : CodePoint} {chars : List Char} (h : Escaped p chars) : ∀ c ∈ chars, IsPrintable c := by
  intro c hc
  cases h with
  | raw _ _ hlow hhigh =>
    rw [List.mem_singleton.mp hc]
    exact ⟨hlow, hhigh⟩
  | letter h =>
    simp only [List.mem_cons, List.not_mem_nil, or_false] at hc
    rcases hc with rfl | rfl
    · decide
    · exact isPrintable_of_simpleEscape? h
  | unit _ => exact isPrintable_of_mem_escapeUnit hc
  | pair _ _ => exact (List.mem_append.mp hc).elim isPrintable_of_mem_escapeUnit isPrintable_of_mem_escapeUnit

/-- Quoted texts are written with printable characters. -/
lemma printable_quote (t : Text) : ∀ c ∈ quote t, IsPrintable c := by
  intro c hc
  simp only [quote, List.cons_append, List.mem_cons, List.mem_append, List.mem_flatMap, List.not_mem_nil,
    or_false] at hc
  rcases hc with rfl | ⟨p, -, hc⟩ | rfl
  · decide
  · exact (escaped_escapePoint p).printable c hc
  · decide

private lemma printable_int (n : Int) : ∀ c ∈ (Json.int n).write, IsPrintable c := by
  intro c hc
  rw [write_int, List.mem_append] at hc
  rcases hc with hc | hc
  · split at hc
    · rw [List.mem_singleton.mp hc]
      decide
    · cases hc
  · exact isPrintable_of_isDigit (Nat.isDigit_of_mem_toDigits (by decide) (by decide) hc)

/-- Members are written with printable characters when their values are. -/
lemma printable_writeMembers {ms : List (Text × Json)} (h : ∀ m ∈ ms, ∀ c ∈ m.2.write, IsPrintable c) :
    ∀ c ∈ writeMembers ms, IsPrintable c := by
  have hmember : ∀ m ∈ ms, ∀ c ∈ quote m.1 ++ ':' :: ' ' :: m.2.write, IsPrintable c := by
    intro m hm c hc
    simp only [List.mem_append, List.mem_cons] at hc
    rcases hc with hc | rfl | rfl | hc
    · exact printable_quote m.1 c hc
    · decide
    · decide
    · exact h m hm c hc
  induction ms with
  | nil => nofun
  | cons m ms ih =>
    cases ms with
    | nil => exact hmember m List.mem_cons_self
    | cons n ms =>
      intro c hc
      rw [writeMembers_cons_cons m.1 m.2, List.mem_append, List.mem_cons, List.mem_cons] at hc
      rcases hc with hc | rfl | rfl | hc
      · exact hmember m List.mem_cons_self c hc
      · decide
      · decide
      · exact ih (fun m hm => h m (List.mem_cons_of_mem _ hm)) (fun m hm => hmember m (List.mem_cons_of_mem _ hm)) c hc

lemma printable_obj {ms : List (Text × Json)} (h : ∀ m ∈ ms, ∀ c ∈ m.2.write, IsPrintable c) :
    ∀ c ∈ (Json.obj ms).write, IsPrintable c := by
  intro c hc
  simp only [write_obj, List.cons_append, List.mem_cons, List.mem_append, List.not_mem_nil, or_false] at hc
  rcases hc with rfl | hc | rfl
  · decide
  · exact printable_writeMembers h c hc
  · decide

/-! ## Texts and integers -/

/-- A text in which no two surrogates make a pair, or an integer. -/
def IsPlain : Json → Prop
  | str t => t.Pairless
  | int _ => True
  | _ => False

/-- Plain values are read back when their integers are short enough. -/
theorem IsPlain.readsBack {v : Json} (h : v.IsPlain) (hshort : ∀ n ∈ v.integers, Number.isOverlong n = false) :
    ReadsBack v := by
  cases v with
  | str t => exact readsBack_str h
  | int n => exact readsBack_int (hshort n (by simp [integers]))
  | null | bool _ | float _ | arr _ | obj _ => exact h.elim

/-- Plain values are written with printable characters. -/
theorem IsPlain.printable {v : Json} (h : v.IsPlain) : ∀ c ∈ v.write, IsPrintable c := by
  cases v with
  | str t => exact printable_quote t
  | int n => exact printable_int n
  | null | bool _ | float _ | arr _ | obj _ => exact h.elim

/-- The only integer in a plain value is the value itself. -/
theorem IsPlain.mem_integers_iff {v : Json} (h : v.IsPlain) {n : Int} : n ∈ v.integers ↔ v = .int n := by
  cases v with
  | str t => simp [integers]
  | int m => simp [integers, eq_comm]
  | null | bool _ | float _ | arr _ | obj _ => exact h.elim

/-- The integers among plain members are values of members. -/
theorem mem_integersOfMembers_iff {ms : List (Text × Json)} (h : ∀ m ∈ ms, m.2.IsPlain) {n : Int} :
    n ∈ integersOfMembers ms ↔ ∃ name, (name, Json.int n) ∈ ms := by
  induction ms with
  | nil => simp [integersOfMembers]
  | cons m ms ih =>
    obtain ⟨k, v⟩ := m
    have hv : v.IsPlain := h (k, v) List.mem_cons_self
    rw [integersOfMembers, List.mem_append, hv.mem_integers_iff, ih fun m hm => h m (List.mem_cons_of_mem _ hm)]
    constructor
    · rintro (rfl | ⟨name, hname⟩)
      · exact ⟨k, List.mem_cons_self⟩
      · exact ⟨name, List.mem_cons_of_mem _ hname⟩
    · rintro ⟨name, hname⟩
      rcases List.mem_cons.mp hname with heq | hname
      · exact Or.inl (Prod.mk.inj heq).2.symm
      · exact Or.inr ⟨name, hname⟩

end Json

end ScriptVet
