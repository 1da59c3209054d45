import Mathlib.Data.List.Basic
import ScriptVet.Text.Encode

/-!
# Texts, with and without a UTF-8 form

The facts about texts that the proofs on scripts and answers share:

* `HasUtf8`, the texts without a surrogate, with `encode_eq_ok_iff` and `unencodable?_eq_none_iff` as the two
  ways in which the library asks for them;
* `startsWith_eq_false_of_apart`, which tells texts with different fixed beginnings apart.
-/

namespace ScriptVet

/-! ## Code points and their numbers -/

/-- The number of a character is that of no surrogate. -/
theorem toNat_char_valid (c : Char) : c.toNat < 0xD800 ∨ 0xDFFF < c.toNat ∧ c.toNat < 0x110000 := c.valid

/-- A number that is not that of a surrogate is the number of its character. -/
theorem toNat_ofNat_char {n : Nat} (h : n < 0xD800 ∨ 0xDFFF < n ∧ n < 0x110000) : (Char.ofNat n).toNat = n := by
  have hvalid : n.isValidChar := h
  unfold Char.ofNat
  rw [dif_pos hvalid]
  rfl

namespace CodePoint

/-- The numbers of code points end below 0x110000. -/
theorem toNat_lt (p : CodePoint) : p.toNat < 0x110000 := by
  cases p with
  | scalar c =>
    have hvalid := toNat_char_valid c
    show c.toNat < 0x110000
    omega
  | surrogate n =>
    show 0xD800 + n.val < 0x110000
    omega

/-- A number below the last code point is the number of its code point. -/
theorem toNat_ofNat {n : Nat} (h : n < 0x110000) : (ofNat n).toNat = n := by
  unfold ofNat
  split
  · show 0xD800 + (n - 0xD800) = n
    omega
  · exact toNat_ofNat_char (by omega)

/-- A code point is the one of its number. -/
theorem ofNat_toNat (p : CodePoint) : ofNat p.toNat = p := by
  cases p with
  | scalar c =>
    have hvalid := toNat_char_valid c
    show ofNat c.toNat = .scalar c
    unfold ofNat
    rw [dif_neg (by omega), Char.ofNat_toNat]
  | surrogate n =>
    show ofNat (0xD800 + n.val) = .surrogate n
    unfold ofNat
    rw [dif_pos (by omega), surrogate.injEq, Fin.ext_iff]
    dsimp only
    omega

end CodePoint

namespace Text

/-! ## Texts of strings and of characters -/

@[simp] lemma ofChars_nil : ofChars [] = [] := rfl

/-- The text of characters is put together as they are. -/
@[simp] theorem ofChars_append (cs ds : List Char) : ofChars (cs ++ ds) = ofChars cs ++ ofChars ds :=
  List.map_append

@[simp] lemma ofString_append (s t : String) : ofString (s ++ t) = ofString s ++ ofString t := by
  unfold ofString
  rw [String.toList_append, ofChars_append]

/-- Characters can be read off their text. -/
theorem ofChars_injective {cs ds : List Char} (h : ofChars cs = ofChars ds) : cs = ds :=
  List.map_injective_iff.mpr (fun _ _ => CodePoint.scalar.inj) h

/-! ## Texts with a UTF-8 form -/

/-- The text holds no surrogate. -/
def HasUtf8 (t : Text) : Prop := ∃ cs, t = ofChars cs

lemma hasUtf8_ofChars (cs : List Char) : HasUtf8 (ofChars cs) := ⟨cs, rfl⟩

/-- Strings have a UTF-8 form. -/
theorem hasUtf8_ofString (s : String) : HasUtf8 (ofString s) := ⟨s.toList, rfl⟩

@[simp] lemma hasUtf8_nil : HasUtf8 [] := ⟨[], rfl⟩

/-- One surrogate anywhere takes the UTF-8 form away. -/
theorem hasUtf8_cons {p : CodePoint} {t : Text} : HasUtf8 (p :: t) ↔ (∃ c, p = .scalar c) ∧ HasUtf8 t := by
  constructor
  · rintro ⟨cs, hcs⟩
    cases cs with
    | nil => simp at hcs
    | cons c cs =>
      simp only [ofChars, List.map_cons, List.cons.injEq] at hcs
      exact ⟨⟨c, hcs.1⟩, cs, hcs.2⟩
  · rintro ⟨⟨c, rfl⟩, cs, rfl⟩
    exact ⟨c :: cs, rfl⟩

/-- A text has a UTF-8 form when both of its parts do. -/
theorem hasUtf8_append {t u : Text} : HasUtf8 (t ++ u) ↔ HasUtf8 t ∧ HasUtf8 u := by
  induction t with
  | nil => simp
  | cons p t ih => rw [List.cons_append, hasUtf8_cons, hasUtf8_cons, ih, and_assoc]

/-- The characters of a text are those that it was made from. -/
theorem scalars?_eq_some_iff {t : Text} {cs : List Char} : t.scalars? = some cs ↔ t = ofChars cs := by
  unfold scalars?
  induction t generalizing cs with
  | nil =>
    cases cs <;> simp [ofChars]
  | cons p t ih =>
    rw [List.mapM_cons]
    cases p with
    | surrogate n =>
      refine iff_of_false (fun h => by cases h) fun h => ?_
      cases cs <;> simp [ofChars] at h
    | scalar c =>
      show ((t.mapM CodePoint.scalar?).bind fun ds => some (c :: ds)) = some cs ↔ _
      rw [Option.bind_eq_some_iff]
      cases cs with
      | nil => simp [ofChars]
      | cons d ds =>
        simp only [ih, Option.some.injEq, List.cons.injEq, ofChars, List.map_cons, CodePoint.scalar.injEq]
        constructor
        · rintro ⟨_, ht, rfl, rfl⟩
          exact ⟨rfl, ht⟩
        · rintro ⟨rfl, ht⟩
          exact ⟨ds, ht, rfl, rfl⟩

/-- What stands in the way of a UTF-8 form is found whenever there is something. -/
theorem unencodable?_eq_none_iff {t : Text} : t.unencodable? = none ↔ HasUtf8 t := by
  have hdrop : ∀ t : Text, (HasUtf8 t ∧ t.dropWhile (fun p => !p.scalar?.isNone) = []) ∨
      (¬ HasUtf8 t ∧ ∃ n rest, t.dropWhile (fun p => !p.scalar?.isNone) = .surrogate n :: rest) := by
    intro t
    induction t with
    | nil => simp
    | cons p t ih =>
      rw [hasUtf8_cons]
      cases p with
      | scalar c =>
        rw [List.dropWhile_cons_of_pos (by rfl)]
        simpa using ih
      | surrogate n =>
        rw [List.dropWhile_cons_of_neg (by simp [CodePoint.scalar?])]
        exact Or.inr ⟨by simp, n, t, rfl⟩
  unfold unencodable?
  dsimp only
  rcases hdrop t with ⟨h, hrest⟩ | ⟨h, n, rest, hrest⟩
  · rw [hrest]
    exact iff_of_true rfl h
  · rw [hrest]
    exact iff_of_false (by simp) h

/-- Encoding gives the characters of the text, and fails on a surrogate. -/
theorem encode_eq_ok_iff {t : Text} {cs : List Char} : t.encode = .ok cs ↔ t = ofChars cs := by
  have hchars : ∀ ds : List Char, (ofChars ds).filterMap CodePoint.scalar? = ds := by
    intro ds
    unfold ofChars
    rw [List.filterMap_map]
    exact List.filterMap_some
  unfold encode
  constructor
  · intro h
    split at h
    · cases h
    · next hnone =>
      obtain ⟨ds, rfl⟩ := unencodable?_eq_none_iff.mp hnone
      rw [hchars, Except.ok.injEq] at h
      rw [h]
  · rintro rfl
    rw [unencodable?_eq_none_iff.mpr (hasUtf8_ofChars cs)]
    dsimp only
    rw [hchars]

/-- A text of characters has a UTF-8 form. -/
@[simp] theorem encode_ofChars (cs : List Char) : (ofChars cs).encode = .ok cs := encode_eq_ok_iff.mpr rfl

/-! ## Beginnings -/

/-- The check for the start of a text looks for a part in front. -/
theorem startsWith_iff {t : Text} {s : String} : t.startsWith s = true ↔ ofString s <+: t :=
  List.isPrefixOf_iff_prefix

@[simp] lemma startsWith_ofString_append (s : String) (rest : Text) : (ofString s ++ rest).startsWith s = true :=
  startsWith_iff.mpr (List.prefix_append _ _)

/-- What a text starts with does not change with what follows it. -/
theorem startsWith_append {t : Text} {s : String} (h : t.startsWith s = true) (rest : Text) :
    (t ++ rest).startsWith s = true :=
  startsWith_iff.mpr ((startsWith_iff.mp h).trans (List.prefix_append _ _))

lemma ne_nil_of_startsWith {t : Text} {s : String} (hs : ofString s ≠ []) (h : t.startsWith s = true) : t ≠ [] := by
  rintro rfl
  exact hs (List.prefix_nil.mp (startsWith_iff.mp h))

/-- Two beginnings, neither of which begins with the other. -/
def Apart (s t : String) : Prop :=
  (ofString s).isPrefixOf (ofString t) = false ∧ (ofString t).isPrefixOf (ofString s) = false

instance (s t : String) : Decidable (Apart s t) := inferInstanceAs (Decidable (_ ∧ _))

/-- A text does not start in two ways at once. -/
theorem startsWith_eq_false_of_apart {s q : String} (hapart : Apart s q) {t : Text} (h : t.startsWith s = true) :
    t.startsWith q = false := by
  obtain ⟨hs, hq⟩ := hapart
  rw [Bool.eq_false_iff]
  intro hstart
  rcases List.prefix_or_prefix_of_prefix (startsWith_iff.mp h) (startsWith_iff.mp hstart) with hpre | hpre
  · exact Bool.eq_false_iff.mp hs (List.isPrefixOf_iff_prefix.mpr hpre)
  · exact Bool.eq_false_iff.mp hq (List.isPrefixOf_iff_prefix.mpr hpre)

end Text

end ScriptVet
