import ScriptVet.Proofs.Texts
import ScriptVet.Json.Reader

/-!
# Which texts the reader of JSON gives up on

Two causes for which a text is not read are no problems of syntax: an integer with too many digits, and containers
nested too deep. Both need a long text. `Within` says so of a step of the reader, together with the one thing that
makes it carry over from step to step: no step puts text back. One lemma for each step leads to `parse_needs`.

How deep containers may be nested is up to the caller. `parse_extends` says what comes of allowing more: nothing changes
but for texts that were nested too deep.
-/

namespace ScriptVet.Json

/-- What the cause of a failure needs: so many code points, where containers may go so much deeper. The digits of an
integer that is given up on all stand in the text, and so does a bracket for each level. -/
def ReadError.Needs (depth length : Nat) : ReadError → Prop
  | .malformed _ _ => True
  | .tooManyDigits n => Number.maxIntegerDigits < n ∧ n ≤ length
  | .tooDeep _ => depth < length

/-- What a step of the reader comes to when it starts with so many code points left. -/
def Within {α : Type} (depth length : Nat) : Except ReadError (α × Input) → Prop
  | .ok (_, i) => i.rest.length ≤ length
  | .error e => e.Needs depth length

section Steps

variable {α β : Type} {depth m n : Nat}

/-- What holds of a step with so many code points left holds of it with more. -/
theorem Within.mono {x : Except ReadError (α × Input)} (h : Within depth m x) (hle : m ≤ n) : Within depth n x := by
  match x, h with
  | .ok (_, i), h => exact Nat.le_trans h hle
  | .error (.malformed _ _), _ => trivial
  | .error (.tooManyDigits _), h => exact ⟨h.1, Nat.le_trans h.2 hle⟩
  | .error (.tooDeep _), h => exact Nat.lt_of_lt_of_le h hle

/-- Each container takes a bracket off the text and a level off the depth. -/
lemma Within.deeper {x : Except ReadError (α × Input)} (h : Within depth m x) (hlt : m < n) :
    Within (depth + 1) n x := by
  match x, h with
  | .ok (_, i), h => exact Nat.le_of_lt (Nat.lt_of_le_of_lt h hlt)
  | .error (.malformed _ _), _ => trivial
  | .error (.tooManyDigits _), h => exact ⟨h.1, Nat.le_of_lt (Nat.lt_of_le_of_lt h.2 hlt)⟩
  | .error (.tooDeep _), h => exact Nat.lt_of_le_of_lt h hlt

/-- Steps that follow each other. -/
theorem Within.bind {x : Except ReadError (α × Input)} {f : α × Input → Except ReadError (β × Input)}
    (hx : Within depth n x) (hf : ∀ a i, i.rest.length ≤ n → Within depth n (f (a, i))) : Within depth n (x >>= f) := by
  match x, hx with
  | .ok (a, i), hx => exact hf a i hx
  | .error _, hx => exact hx

/-- A problem of the syntax needs nothing. -/
lemma Input.fail_within (i : Input) (problem : Problem) :
    Within depth n (i.fail problem : Except ReadError (α × Input)) := trivial

/-- Moving over blanks puts no text back. -/
lemma Input.skipBlanks_length (i : Input) : i.skipBlanks.rest.length ≤ i.rest.length := by
  have hgo : ∀ (t : Text) (position : Nat), (Input.skipBlanks.go position t).rest.length ≤ t.length := by
    intro t
    induction t with
    | nil => intro position; exact Nat.le_refl _
    | cons p t ih =>
      intro position
      unfold Input.skipBlanks.go
      split
      · exact Nat.le_succ_of_le (ih _)
      · exact Nat.le_refl _
  exact hgo i.rest i.position

private lemma Input.advance_length (i : Input) (k : Nat) : (i.advance k).rest.length = i.rest.length - k := by
  show (i.rest.drop k).length = _
  rw [List.length_drop]

/-- Moving over code points and then over blanks. -/
lemma Input.advance_skipBlanks_length (i : Input) (k : Nat) :
    (i.advance k).skipBlanks.rest.length ≤ i.rest.length - k := by
  rw [← i.advance_length k]
  exact Input.skipBlanks_length _

end Steps

/-! ## Strings -/

/-- A string has no other problems than those of its syntax. -/
lemma stringTail_within (opened fuel depth : Nat) (done : Text) (i : Input) :
    Within depth i.rest.length (stringTail opened fuel done i) := by
  induction fuel generalizing done i with
  | zero => exact trivial
  | succ fuel ih =>
    obtain ⟨position, rest⟩ := i
    unfold stringTail
    split
    · trivial
    · exact Nat.le_succ _
    · split
      · trivial
      · split
        · trivial
        · split
          · trivial
          · refine (ih _ _).mono ?_
            simp only [List.length_drop, List.length_cons]
            omega
    · trivial
    · split
      · refine (ih _ _).mono ?_
        simp only [List.length_cons]
        omega
      · trivial
    · split
      · trivial
      · exact (ih _ _).mono (Nat.le_succ _)

private lemma string_within (fuel depth : Nat) (i : Input) : Within depth i.rest.length (string fuel i) := by
  refine (stringTail_within i.position fuel depth [] (i.advance 1)).mono ?_
  rw [Input.advance_length]
  omega

/-! ## Numbers -/

/-- Digits are split off and not lost. -/
lemma digits_length (t : Text) : (digits t).1.length + (digits t).2.length = t.length := by
  have hgo : ∀ (t : Text) (done : List Char),
      (digits.go done t).1.length + (digits.go done t).2.length = done.length + t.length := by
    intro t
    induction t with
    | nil => intro done; simp [digits.go]
    | cons p t ih =>
      intro done
      unfold digits.go
      split
      · next c rest heq =>
        obtain ⟨rfl, rfl⟩ := List.cons.inj heq
        split
        · rw [ih, List.length_cons, List.length_cons]
          omega
        · simp
      · simp
  rw [digits, hgo]
  simp

private lemma fraction_length (t : Text) : (fraction t).2.length ≤ t.length := by
  unfold fraction
  split
  · next rest =>
    split
    · exact Nat.le_refl _
    · have := digits_length rest
      rw [List.length_cons]
      omega
  · exact Nat.le_refl _

private lemma exponent_length (t : Text) : (exponent t).2.length ≤ t.length := by
  unfold exponent
  split
  · next mark rest =>
    split
    · split
      next signs negative unsigned hsign =>
      have hunsigned : unsigned.length ≤ rest.length := by
        split at hsign <;> cases hsign
        · exact Nat.le_succ _
        · exact Nat.le_succ _
        · exact Nat.le_refl _
      split
      · exact Nat.le_refl _
      · next ds after _ hdigits =>
        have hlength := digits_length unsigned
        rw [hdigits] at hlength
        dsimp only at hlength ⊢
        rw [List.length_cons]
        omega
    · exact Nat.le_refl _
  · exact Nat.le_refl _

/-- The digits of an integer that is given up on stand in the text. -/
lemma number_within (depth : Nat) (i : Input) : Within depth i.rest.length (number i) := by
  unfold number
  split
  next negative unsigned hsign =>
  have hunsigned : unsigned.length ≤ i.rest.length := by
    split at hsign
    · next rest hrest =>
      cases hsign
      rw [hrest]
      exact Nat.le_succ _
    · cases hsign
      exact Nat.le_refl _
  split
  next whole rest hwhole =>
  have hsplit : whole.length + rest.length = unsigned.length := by
    split at hwhole
    · cases hwhole
      rw [List.length_singleton, List.length_cons, Nat.add_comm]
    · have hlength := digits_length unsigned
      rwa [hwhole] at hlength
  -- The fraction and the exponent come off what is left behind the digits.
  have hrest : (exponent (fraction rest).2).2.length ≤ i.rest.length := by
    have hexponent := exponent_length (fraction rest).2
    have hfraction := fraction_length rest
    omega
  split
  · exact i.fail_within _
  · dsimp only
    split
    · split
      · next hlarge =>
        refine ⟨hlarge, ?_⟩
        omega
      · exact hrest
    · exact hrest

private lemma wordOrNumber_within (depth : Nat) (i : Input) : Within depth i.rest.length (wordOrNumber i) := by
  unfold wordOrNumber
  split
  · next w v _ =>
    show (i.advance w.length).rest.length ≤ _
    rw [Input.advance_length]
    omega
  · exact number_within depth i

/-! ## Containers -/

section Containers

variable {value : Input → Except ReadError (Json × Input)} {depth : Nat}

/-- The items of an array, when what is said holds of each of them. -/
lemma items_within (hvalue : ∀ i, Within depth i.rest.length (value i)) (fuel : Nat) (done : List Json) (i : Input) :
    Within depth i.rest.length (items value fuel done i) := by
  induction fuel generalizing done i with
  | zero => exact i.fail_within _
  | succ fuel ih =>
    refine (hvalue i).bind fun item j hj => ?_
    have hblanks := j.skipBlanks_length
    dsimp only
    split
    · show (j.skipBlanks.advance 1).rest.length ≤ _
      rw [Input.advance_length]
      omega
    · refine (ih _ _).mono ?_
      have hnext := j.skipBlanks.advance_skipBlanks_length 1
      omega
    · exact j.skipBlanks.fail_within _

/-- The members of an object, when what is said holds of each of them. -/
lemma members_within (hvalue : ∀ i, Within depth i.rest.length (value i)) (size fuel : Nat)
    (done : List (Text × Json)) (i : Input) : Within depth i.rest.length (members size value fuel done i) := by
  induction fuel generalizing done i with
  | zero => exact i.fail_within _
  | succ fuel ih =>
    unfold members
    split
    · refine (string_within size depth i).bind fun name j hj => ?_
      have hblanks := j.skipBlanks_length
      dsimp only
      split
      · have hcolon := j.skipBlanks.advance_skipBlanks_length 1
        refine ((hvalue _).mono ?_).bind fun item k hk => ?_
        · omega
        have hitem := k.skipBlanks_length
        dsimp only
        split
        · show (k.skipBlanks.advance 1).rest.length ≤ _
          rw [Input.advance_length]
          omega
        · refine (ih _ _).mono ?_
          have hnext := k.skipBlanks.advance_skipBlanks_length 1
          omega
        · exact k.skipBlanks.fail_within _
      · exact j.skipBlanks.fail_within _
    · exact i.fail_within _

end Containers

/-- The step from the values inside containers to the values that may be such containers. -/
lemma value_step (size : Nat) {depth : Nat}
    (hinner : ∀ d, depth = d + 1 → ∀ i, Within d i.rest.length (value size d i)) (i : Input) :
    Within depth i.rest.length (value size depth i) := by
  unfold value
  split
  · exact i.fail_within _
  · exact (string_within size depth i).bind fun t j hj => hj
  · -- What stands in an array has one level less to itself, and starts behind the bracket.
    next tail hrest =>
    have hpos : 0 < i.rest.length := by rw [hrest]; exact Nat.succ_pos _
    have hinside := i.advance_skipBlanks_length 1
    split
    · exact hpos
    · next d =>
      dsimp only
      split
      · show ((i.advance 1).skipBlanks.advance 1).rest.length ≤ _
        rw [Input.advance_length]
        omega
      · exact (items_within (hinner d rfl) size [] _).deeper (by omega)
  · next tail hrest =>
    have hpos : 0 < i.rest.length := by rw [hrest]; exact Nat.succ_pos _
    have hinside := i.advance_skipBlanks_length 1
    split
    · exact hpos
    · next d =>
      dsimp only
      split
      · show ((i.advance 1).skipBlanks.advance 1).rest.length ≤ _
        rw [Input.advance_length]
        omega
      · exact (members_within (hinner d rfl) size size [] _).deeper (by omega)
  · exact wordOrNumber_within depth i

/-- A value is given up on only for what it needs. -/
lemma value_within (size depth : Nat) (i : Input) : Within depth i.rest.length (value size depth i) := by
  induction depth generalizing i with
  | zero => exact value_step size (fun d hd => by cases hd) i
  | succ depth ih => exact value_step size (fun d hd => Nat.succ.inj hd ▸ ih) i

/-! ## Whole texts -/

lemma document_needs {depth : Nat} {t : Text} {e : ReadError} (h : document depth t = .error e) :
    e.Needs depth t.length := by
  have hwithin : Within depth t.length (value (t.length + 1) depth (Input.mk 0 t).skipBlanks) :=
    (value_within _ _ _).mono (Input.skipBlanks_length (Input.mk 0 t))
  unfold document at h
  split at h
  · next hvalue =>
    cases h
    rw [hvalue] at hwithin
    exact hwithin
  · dsimp only at h
    split at h <;> cases h
    exact trivial

/-- **The reader gives up on long texts only.** An integer that is not read has more digits than allowed, all of them
in the text, and a text that is nested too deep is longer than containers may be deep. -/
theorem parse_needs {depth : Nat} {t : Text} {e : ReadError} (h : parse depth t = .error e) :
    e.Needs depth t.length := by
  unfold parse at h
  split at h
  · cases h
    exact trivial
  · exact document_needs h

/-! ## More room -/

/-- The second result is the first one, unless that was given up on as too deep. -/
def Extends {α : Type} (x y : Except ReadError α) : Prop := (∃ c, x = .error (.tooDeep c)) ∨ y = x

/-- Steps that go on in the same way from what they are given. -/
theorem Extends.bind {α β : Type} {x y : Except ReadError α} {f g : α → Except ReadError β} (h : Extends x y)
    (hfg : ∀ a, Extends (f a) (g a)) : Extends (x >>= f) (y >>= g) := by
  rcases h with ⟨c, rfl⟩ | rfl
  · exact Or.inl ⟨c, rfl⟩
  · cases y with
    | error e => exact Or.inr rfl
    | ok a => exact hfg a

section Containers

variable {inner outer : Input → Except ReadError (Json × Input)}

/-- Arrays are read alike when their items are. -/
lemma items_extends (h : ∀ i, Extends (inner i) (outer i)) (fuel : Nat) (done : List Json) (i : Input) :
    Extends (items inner fuel done i) (items outer fuel done i) := by
  induction fuel generalizing done i with
  | zero => exact Or.inr rfl
  | succ fuel ih =>
    refine (h i).bind fun (item, j) => ?_
    dsimp only
    split
    · exact Or.inr rfl
    · exact ih _ _
    · exact Or.inr rfl

/-- Objects are read alike when their members are. -/
lemma members_extends (h : ∀ i, Extends (inner i) (outer i)) (size fuel : Nat) (done : List (Text × Json))
    (i : Input) : Extends (members size inner fuel done i) (members size outer fuel done i) := by
  induction fuel generalizing done i with
  | zero => exact Or.inr rfl
  | succ fuel ih =>
    unfold members
    split
    · refine Extends.bind (Or.inr rfl) fun (name, j) => ?_
      dsimp only
      split
      · refine (h _).bind fun (item, k) => ?_
        dsimp only
        split
        · exact Or.inr rfl
        · exact ih _ _
        · exact Or.inr rfl
      · exact Or.inr rfl
    · exact Or.inr rfl

end Containers

/-- A value is read alike with more room, unless there was too little for it. -/
lemma value_extends (size : Nat) {depth more : Nat} (h : depth ≤ more) (i : Input) :
    Extends (value size depth i) (value size more i) := by
  induction depth generalizing more i with
  | zero =>
    -- Without room, every container is given up on, and nothing else needs any.
    unfold value
    split
    · exact Or.inr rfl
    · exact Or.inr rfl
    · exact Or.inl ⟨.array, rfl⟩
    · exact Or.inl ⟨.object, rfl⟩
    · exact Or.inr rfl
  | succ depth ih =>
    obtain ⟨more, rfl⟩ : ∃ m, more = m + 1 := ⟨more - 1, by omega⟩
    -- Inside a container both have one level less.
    have hinner : ∀ i, Extends (value size depth i) (value size more i) := fun i => ih (by omega) i
    unfold value
    split
    · exact Or.inr rfl
    · exact Or.inr rfl
    · dsimp only
      split
      · exact Or.inr rfl
      · exact items_extends hinner size [] _
    · dsimp only
      split
      · exact Or.inr rfl
      · exact members_extends hinner size size [] _
    · exact Or.inr rfl

/-- **A text is read alike with more room, unless it was given up on as too deep.** -/
theorem parse_extends {depth more : Nat} (h : depth ≤ more) (t : Text) : Extends (parse depth t) (parse more t) := by
  unfold parse
  split
  · exact Or.inr rfl
  · unfold document
    rcases value_extends (t.length + 1) h (Input.mk 0 t).skipBlanks with ⟨c, hdeep⟩ | hsame
    · rw [hdeep]
      exact Or.inl ⟨c, rfl⟩
    · rw [hsame]
      exact Or.inr rfl

/-- A text that is not given up on has one reading, however much room there is. -/
theorem parse_eq_parse {depth depth' : Nat} {t : Text} (h : ∀ c, parse depth t ≠ .error (.tooDeep c))
    (h' : ∀ c, parse depth' t ≠ .error (.tooDeep c)) : parse depth t = parse depth' t := by
  rcases Nat.le_total depth depth' with hle | hle
  · rcases parse_extends hle t with ⟨c, hc⟩ | hsame
    · exact absurd hc (h c)
    · exact hsame.symm
  · rcases parse_extends hle t with ⟨c, hc⟩ | hsame
    · exact absurd hc (h' c)
    · exact hsame

/-! ## A long integer -/

/-- Digits are split off up to the first code point that is none. -/
theorem digits_ofChars_append {ds : List Char} (hds : ∀ c ∈ ds, (Number.digit? c).isSome = true) {rest : Text}
    (hrest : ∀ c, rest.head? = some (.scalar c) → (Number.digit? c).isSome = false) :
    digits (Text.ofChars ds ++ rest) = (ds, rest) := by
  have hgo : ∀ (ds done : List Char), (∀ c ∈ ds, (Number.digit? c).isSome = true) →
      digits.go done (Text.ofChars ds ++ rest) = (done.reverse ++ ds, rest) := by
    intro ds
    induction ds with
    | nil =>
      intro done _
      rw [Text.ofChars_nil, List.nil_append, List.append_nil]
      unfold digits.go
      split
      · next c rest => rw [if_neg (by simp [hrest c rfl])]
      · rfl
    | cons c ds ih =>
      intro done hds
      rw [List.forall_mem_cons] at hds
      show digits.go done (.scalar c :: (Text.ofChars ds ++ rest)) = _
      rw [digits.go, if_pos hds.1, ih _ hds.2, List.reverse_cons, List.append_assoc, List.singleton_append]
  exact hgo ds [] hds

private lemma digits_ofChars {ds : List Char} (hds : ∀ c ∈ ds, (Number.digit? c).isSome = true) :
    digits (Text.ofChars ds) = (ds, []) := by
  have hdigits := @digits_ofChars_append ds hds [] nofun
  rwa [List.append_nil] at hdigits

/-- The digits that an integer of more than one digit may start with. -/
def leadingDigits : List Char := ['1', '2', '3', '4', '5', '6', '7', '8', '9']

/-- An integer with too many digits is given up on. -/
lemma number_tooManyDigits {d : Char} {ds : List Char} (hd : d ∈ leadingDigits)
    (hds : ∀ c ∈ ds, (Number.digit? c).isSome = true) (hlong : Number.maxIntegerDigits < (d :: ds).length)
    (position : Nat) :
    number ⟨position, Text.ofChars (d :: ds)⟩ = .error (.tooManyDigits (d :: ds).length) := by
  have hall : (leadingDigits.all fun d => decide (d ≠ '-' ∧ d ≠ '0' ∧ (Number.digit? d).isSome = true)) = true := by
    decide
  obtain ⟨hminus, hzero, hdigit⟩ := of_decide_eq_true (List.all_eq_true.mp hall d hd)
  have hdigits : digits (Text.ofChars (d :: ds)) = (d :: ds, []) :=
    digits_ofChars (List.forall_mem_cons.mpr ⟨hdigit, hds⟩)
  unfold number
  split
  next negative unsigned hsign =>
  have hunsigned : unsigned = Text.ofChars (d :: ds) := by
    split at hsign
    · next rest hrest => exact absurd (CodePoint.scalar.inj (List.cons.inj hrest).1) hminus
    · cases hsign
      rfl
  subst hunsigned
  split
  next whole rest hwhole =>
  obtain ⟨rfl, rfl⟩ : whole = d :: ds ∧ rest = [] := by
    split at hwhole
    · next heq => exact absurd (CodePoint.scalar.inj (List.cons.inj heq).1) hzero
    · rw [hdigits] at hwhole
      cases hwhole
      exact ⟨rfl, rfl⟩
  exact if_pos hlong

/-- Digits alone are given up on when they are too many, unless they start with a zero. -/
theorem parse_tooManyDigits {d : Char} {ds : List Char} (hd : d ∈ leadingDigits)
    (hds : ∀ c ∈ ds, (Number.digit? c).isSome = true) (hlong : Number.maxIntegerDigits < (d :: ds).length)
    (depth : Nat) : parse depth (Text.ofChars (d :: ds)) = .error (.tooManyDigits (d :: ds).length) := by
  have hnumber := number_tooManyDigits hd hds hlong 0
  have hvalue : ∀ size, value size depth (Input.mk 0 (Text.ofChars (d :: ds))).skipBlanks =
      number ⟨0, Text.ofChars (d :: ds)⟩ := by
    intro size
    simp only [leadingDigits, List.mem_cons, List.not_mem_nil, or_false] at hd
    rcases hd with rfl | rfl | rfl | rfl | rfl | rfl | rfl | rfl | rfl <;> cases depth <;> rfl
  have hmark : parse depth (Text.ofChars (d :: ds)) = document depth (Text.ofChars (d :: ds)) := by
    simp only [leadingDigits, List.mem_cons, List.not_mem_nil, or_false] at hd
    rcases hd with rfl | rfl | rfl | rfl | rfl | rfl | rfl | rfl | rfl <;> rfl
  rw [hmark]
  unfold document
  rw [hvalue, hnumber]

end ScriptVet.Json
