import ScriptVet.Json.Bytes
import ScriptVet.Proofs.Texts
import ScriptVet.Text.Utf8

/-!
# Bytes that are texts

The decoders read bytes that an encoder writes, and no others. In UTF-8 these are the bytes of code points one after
another (`Utf8.decode_eq_ok_iff`), surrogates included. In UTF-16 they are any whole units, and in UTF-32 the words of
code points. `Encoding.IsText` puts the three together: it says which bytes are a text in an encoding, and
`exists_decode_eq_ok_iff` that these are decoded.
-/

namespace ScriptVet

/-! ## Numbers and bytes -/

private lemma toNat_toUInt8 {n : Nat} (h : n < 256) : n.toUInt8.toNat = n := by
  rw [Nat.toUInt8, UInt8.toNat_ofNat', Nat.mod_eq_of_lt h]

private lemma toUInt8_eq {n : Nat} {b : UInt8} (h : n = b.toNat) : n.toUInt8 = b := by
  rw [h]
  exact UInt8.ofNat_toNat

namespace Utf8

/-! ## The bytes of a code point -/

/-- Code points of one byte. -/
lemma encodePoint_one {n : Nat} (h : n < 0x80) : encodePoint n = [n.toUInt8] := if_pos h

/-- Code points of two bytes. -/
lemma encodePoint_two {n : Nat} (h : 0x80 ≤ n) (h' : n < 0x800) :
    encodePoint n = [(0xC0 + n / 64).toUInt8, (0x80 + n / 1 % 64).toUInt8] := by
  unfold encodePoint
  rw [if_neg (by omega), if_pos h']

/-- Code points of three bytes. -/
lemma encodePoint_three {n : Nat} (h : 0x800 ≤ n) (h' : n < 0x10000) :
    encodePoint n = [(0xE0 + n / 4096).toUInt8, (0x80 + n / 64 % 64).toUInt8, (0x80 + n / 1 % 64).toUInt8] := by
  unfold encodePoint
  rw [if_neg (by omega), if_neg (by omega), if_pos h']

/-- Code points of four bytes. -/
lemma encodePoint_four {n : Nat} (h : 0x10000 ≤ n) :
    encodePoint n = [(0xF0 + n / 262144).toUInt8, (0x80 + n / 4096 % 64).toUInt8, (0x80 + n / 64 % 64).toUInt8,
      (0x80 + n / 1 % 64).toUInt8] := by
  unfold encodePoint
  rw [if_neg (by omega), if_neg (by omega), if_neg (by omega)]

/-! ## Reading a code point -/

private lemma tail_zero_eq_char_iff {value seen : Nat} {least most : UInt8} {bytes : List UInt8} {c : Char} {more : Nat} :
    tail value seen 0 least most bytes = .char c more ↔ c = Char.ofNat value ∧ more = seen := by
  rw [tail, Reading.char.injEq]
  exact and_congr eq_comm eq_comm

private lemma tail_succ_eq_char_iff {value seen wanted : Nat} {least most : UInt8} {bytes : List UInt8} {c : Char}
    {more : Nat} :
    tail value seen (wanted + 1) least most bytes = .char c more ↔
      ∃ b rest, bytes = b :: rest ∧ least.toNat ≤ b.toNat ∧ b.toNat ≤ most.toNat ∧
        tail (value * 64 + (b.toNat - 0x80)) (seen + 1) wanted 0x80 0xBF rest = .char c more := by
  cases bytes with
  | nil => exact iff_of_false (fun h => by cases h) (by simp)
  | cons b rest =>
    rw [tail]
    by_cases hb : least ≤ b ∧ b ≤ most
    · rw [if_pos (by simpa using hb)]
      constructor
      · intro h
        exact ⟨b, rest, rfl, hb.1, hb.2, h⟩
      · rintro ⟨b', rest', heq, -, -, h⟩
        obtain ⟨rfl, rfl⟩ := List.cons.inj heq
        exact h
    · rw [if_neg (by simpa using hb)]
      refine iff_of_false (fun h => by cases h) ?_
      rintro ⟨b', rest', heq, hleast, hmost, -⟩
      obtain ⟨rfl, rfl⟩ := List.cons.inj heq
      exact hb ⟨hleast, hmost⟩

/-- The lower bound on a second byte, which is higher behind one first byte. -/
lemma least_le_iff {b k least : UInt8} (h : 0x80 ≤ least.toNat) (n : Nat) :
    (if b = k then least else 0x80).toNat ≤ n ↔ 0x80 ≤ n ∧ (b.toNat = k.toNat → least.toNat ≤ n) := by
  rw [UInt8.toNat_inj]
  split
  · next hb => simp [hb]; omega
  · next hb => simp [hb]

/-- The upper bound on a second byte, which is lower behind one first byte. -/
lemma le_most_iff {b k most : UInt8} (h : most.toNat ≤ 0xBF) (n : Nat) :
    n ≤ (if b = k then most else 0xBF).toNat ↔ n ≤ 0xBF ∧ (b.toNat = k.toNat → n ≤ most.toNat) := by
  rw [UInt8.toNat_inj]
  split
  · next hb => simp [hb]; omega
  · next hb => simp [hb]

/-- A byte that may follow another one of the same code point. -/
def IsTail (b : UInt8) : Prop := 0x80 ≤ b.toNat ∧ b.toNat ≤ 0xBF

/-- The ranges of first bytes, as numbers. -/
lemma readPoint_eq (b : UInt8) (rest : List UInt8) :
    readPoint b rest =
      if b.toNat < 0x80 then .char (Char.ofNat b.toNat) 0
      else if b.toNat < 0xC2 then .bad .startByte 0
      else if b.toNat < 0xE0 then tail (b.toNat - 0xC0) 0 1 0x80 0xBF rest
      else if b.toNat < 0xF0 then
        tail (b.toNat - 0xE0) 0 2 (if b = 0xE0 then 0xA0 else 0x80) (if b = 0xED then 0x9F else 0xBF) rest
      else if b.toNat < 0xF5 then
        tail (b.toNat - 0xF0) 0 3 (if b = 0xF0 then 0x90 else 0x80) (if b = 0xF4 then 0x8F else 0xBF) rest
      else .bad .startByte 0 := by
  unfold readPoint
  simp only [UInt8.lt_iff_toNat_lt]
  rfl

section Forms

variable {b : UInt8} {rest : List UInt8} {c : Char} {more : Nat}

private lemma readPoint_one (h : b.toNat < 0x80) :
    readPoint b rest = .char c more ↔ c = Char.ofNat b.toNat ∧ more = 0 := by
  rw [readPoint_eq, if_pos h, Reading.char.injEq]
  exact and_congr eq_comm eq_comm

private lemma readPoint_two (h : 0xC2 ≤ b.toNat) (h' : b.toNat < 0xE0) :
    readPoint b rest = .char c more ↔
      ∃ b₁ after, rest = b₁ :: after ∧ IsTail b₁ ∧
        c = Char.ofNat ((b.toNat - 0xC0) * 64 + (b₁.toNat - 0x80)) ∧ more = 1 := by
  have hread : readPoint b rest = tail (b.toNat - 0xC0) 0 1 0x80 0xBF rest := by
    rw [readPoint_eq, if_neg (by omega), if_neg (by omega), if_pos h']
  rw [hread, tail_succ_eq_char_iff]
  simp only [tail_zero_eq_char_iff, IsTail, and_assoc]
  exact Iff.rfl

/-- The second byte rules out numbers that take fewer bytes, and surrogates. -/
lemma readPoint_three (h : 0xE0 ≤ b.toNat) (h' : b.toNat < 0xF0) :
    readPoint b rest = .char c more ↔
      ∃ b₁ b₂ after, rest = b₁ :: b₂ :: after ∧ IsTail b₁ ∧ IsTail b₂ ∧ (b.toNat = 0xE0 → 0xA0 ≤ b₁.toNat) ∧
        (b.toNat = 0xED → b₁.toNat ≤ 0x9F) ∧
        c = Char.ofNat (((b.toNat - 0xE0) * 64 + (b₁.toNat - 0x80)) * 64 + (b₂.toNat - 0x80)) ∧ more = 2 := by
  have hread : readPoint b rest = tail (b.toNat - 0xE0) 0 2 (if b = 0xE0 then 0xA0 else 0x80)
      (if b = 0xED then 0x9F else 0xBF) rest := by
    rw [readPoint_eq, if_neg (by omega), if_neg (by omega), if_neg (by omega), if_pos h']
  rw [hread, tail_succ_eq_char_iff]
  constructor
  · rintro ⟨b₁, after₁, rfl, h₁, h₁', htail⟩
    obtain ⟨b₂, after, rfl, h₂, h₂', htail⟩ := tail_succ_eq_char_iff.mp htail
    obtain ⟨hc, hmore⟩ := tail_zero_eq_char_iff.mp htail
    obtain ⟨h₁, hlong⟩ := (least_le_iff (by decide) _).mp h₁
    obtain ⟨h₁', hsurrogate⟩ := (le_most_iff (by decide) _).mp h₁'
    exact ⟨b₁, b₂, after, rfl, ⟨h₁, h₁'⟩, ⟨h₂, h₂'⟩, hlong, hsurrogate, hc, hmore⟩
  · rintro ⟨b₁, b₂, after, rfl, h₁, h₂, hlong, hsurrogate, hc, hmore⟩
    refine ⟨b₁, b₂ :: after, rfl, (least_le_iff (by decide) _).mpr ⟨h₁.1, hlong⟩,
      (le_most_iff (by decide) _).mpr ⟨h₁.2, hsurrogate⟩, ?_⟩
    exact tail_succ_eq_char_iff.mpr ⟨b₂, after, rfl, h₂.1, h₂.2, tail_zero_eq_char_iff.mpr ⟨hc, hmore⟩⟩

/-- The second byte rules out numbers that take fewer bytes, and those that no code point has. -/
lemma readPoint_four (h : 0xF0 ≤ b.toNat) (h' : b.toNat < 0xF5) :
    readPoint b rest = .char c more ↔
      ∃ b₁ b₂ b₃ after, rest = b₁ :: b₂ :: b₃ :: after ∧ IsTail b₁ ∧ IsTail b₂ ∧ IsTail b₃ ∧
        (b.toNat = 0xF0 → 0x90 ≤ b₁.toNat) ∧ (b.toNat = 0xF4 → b₁.toNat ≤ 0x8F) ∧
        c = Char.ofNat ((((b.toNat - 0xF0) * 64 + (b₁.toNat - 0x80)) * 64 + (b₂.toNat - 0x80)) * 64 +
          (b₃.toNat - 0x80)) ∧ more = 3 := by
  have hread : readPoint b rest = tail (b.toNat - 0xF0) 0 3 (if b = 0xF0 then 0x90 else 0x80)
      (if b = 0xF4 then 0x8F else 0xBF) rest := by
    rw [readPoint_eq, if_neg (by omega), if_neg (by omega), if_neg (by omega), if_neg (by omega), if_pos h']
  rw [hread, tail_succ_eq_char_iff]
  constructor
  · rintro ⟨b₁, after₁, rfl, h₁, h₁', htail⟩
    obtain ⟨b₂, after₂, rfl, h₂, h₂', htail⟩ := tail_succ_eq_char_iff.mp htail
    obtain ⟨b₃, after, rfl, h₃, h₃', htail⟩ := tail_succ_eq_char_iff.mp htail
    obtain ⟨hc, hmore⟩ := tail_zero_eq_char_iff.mp htail
    obtain ⟨h₁, hlong⟩ := (least_le_iff (by decide) _).mp h₁
    obtain ⟨h₁', hrange⟩ := (le_most_iff (by decide) _).mp h₁'
    exact ⟨b₁, b₂, b₃, after, rfl, ⟨h₁, h₁'⟩, ⟨h₂, h₂'⟩, ⟨h₃, h₃'⟩, hlong, hrange, hc, hmore⟩
  · rintro ⟨b₁, b₂, b₃, after, rfl, h₁, h₂, h₃, hlong, hrange, hc, hmore⟩
    refine ⟨b₁, b₂ :: b₃ :: after, rfl, (least_le_iff (by decide) _).mpr ⟨h₁.1, hlong⟩,
      (le_most_iff (by decide) _).mpr ⟨h₁.2, hrange⟩, ?_⟩
    refine tail_succ_eq_char_iff.mpr ⟨b₂, b₃ :: after, rfl, h₂.1, h₂.2, ?_⟩
    exact tail_succ_eq_char_iff.mpr ⟨b₃, after, rfl, h₃.1, h₃.2, tail_zero_eq_char_iff.mpr ⟨hc, hmore⟩⟩

/-- No other byte starts a character. -/
lemma readPoint_ne_char (h : 0x80 ≤ b.toNat ∧ b.toNat < 0xC2 ∨ 0xF5 ≤ b.toNat) : readPoint b rest ≠ .char c more := by
  rw [readPoint_eq, if_neg (by omega)]
  rcases h with ⟨-, h⟩ | h
  · rw [if_pos h]
    exact fun h => by cases h
  · rw [if_neg (by omega), if_neg (by omega), if_neg (by omega), if_neg (by omega)]
    exact fun h => by cases h

/-- A character that is read is written by the bytes that are taken for it. -/
lemma encodePoint_of_readPoint (h : readPoint b rest = .char c more) :
    ∃ bs after, rest = bs ++ after ∧ more = bs.length ∧ encodePoint c.toNat = b :: bs := by
  by_cases hone : b.toNat < 0x80
  · obtain ⟨hc, hmore⟩ := (readPoint_one hone).mp h
    refine ⟨[], rest, rfl, hmore, ?_⟩
    rw [hc, toNat_ofNat_char (by omega), encodePoint_one hone, toUInt8_eq rfl]
  by_cases htwo : 0xC2 ≤ b.toNat ∧ b.toNat < 0xE0
  · obtain ⟨b₁, after, hrest, ⟨h₁, h₁'⟩, hc, hmore⟩ := (readPoint_two htwo.1 htwo.2).mp h
    refine ⟨[b₁], after, hrest, hmore, ?_⟩
    rw [hc, toNat_ofNat_char (by omega), encodePoint_two (by omega) (by omega), toUInt8_eq (b := b) (by omega),
      toUInt8_eq (b := b₁) (by omega)]
  by_cases hthree : 0xE0 ≤ b.toNat ∧ b.toNat < 0xF0
  · obtain ⟨b₁, b₂, after, hrest, ⟨h₁, h₁'⟩, ⟨h₂, h₂'⟩, hlong, hsurrogate, hc, hmore⟩ :=
      (readPoint_three hthree.1 hthree.2).mp h
    refine ⟨[b₁, b₂], after, hrest, hmore, ?_⟩
    rw [hc, toNat_ofNat_char (by omega), encodePoint_three (by omega) (by omega), toUInt8_eq (b := b) (by omega),
      toUInt8_eq (b := b₁) (by omega), toUInt8_eq (b := b₂) (by omega)]
  by_cases hfour : 0xF0 ≤ b.toNat ∧ b.toNat < 0xF5
  · obtain ⟨b₁, b₂, b₃, after, hrest, ⟨h₁, h₁'⟩, ⟨h₂, h₂'⟩, ⟨h₃, h₃'⟩, hlong, hrange, hc, hmore⟩ :=
      (readPoint_four hfour.1 hfour.2).mp h
    refine ⟨[b₁, b₂, b₃], after, hrest, hmore, ?_⟩
    rw [hc, toNat_ofNat_char (by omega), encodePoint_four (by omega), toUInt8_eq (b := b) (by omega),
      toUInt8_eq (b := b₁) (by omega), toUInt8_eq (b := b₂) (by omega), toUInt8_eq (b := b₃) (by omega)]
  · exact absurd h (readPoint_ne_char (by omega))

end Forms

/-- The bytes of a character are read as the character. -/
lemma readPoint_encodePoint (c : Char) (after : List UInt8) :
    ∃ b bs, encodePoint c.toNat = b :: bs ∧ readPoint b (bs ++ after) = .char c bs.length := by
  have hvalid := toNat_char_valid c
  have hc : ∀ n, n = c.toNat → c = Char.ofNat n := fun n hn => by rw [hn, Char.ofNat_toNat]
  by_cases hone : c.toNat < 0x80
  · have hb : c.toNat.toUInt8.toNat = c.toNat := toNat_toUInt8 (by omega)
    refine ⟨_, _, encodePoint_one hone, ?_⟩
    exact (readPoint_one (by omega)).mpr ⟨hc _ hb, rfl⟩
  by_cases htwo : c.toNat < 0x800
  · have hb : (0xC0 + c.toNat / 64).toUInt8.toNat = 0xC0 + c.toNat / 64 := toNat_toUInt8 (by omega)
    have h₁ : (0x80 + c.toNat / 1 % 64).toUInt8.toNat = 0x80 + c.toNat / 1 % 64 := toNat_toUInt8 (by omega)
    refine ⟨_, _, encodePoint_two (by omega) htwo, ?_⟩
    exact (readPoint_two (by omega) (by omega)).mpr
      ⟨_, after, rfl, ⟨by omega, by omega⟩, hc _ (by omega), rfl⟩
  by_cases hthree : c.toNat < 0x10000
  · have hb : (0xE0 + c.toNat / 4096).toUInt8.toNat = 0xE0 + c.toNat / 4096 := toNat_toUInt8 (by omega)
    have h₁ : (0x80 + c.toNat / 64 % 64).toUInt8.toNat = 0x80 + c.toNat / 64 % 64 := toNat_toUInt8 (by omega)
    have h₂ : (0x80 + c.toNat / 1 % 64).toUInt8.toNat = 0x80 + c.toNat / 1 % 64 := toNat_toUInt8 (by omega)
    refine ⟨_, _, encodePoint_three (by omega) hthree, ?_⟩
    exact (readPoint_three (by omega) (by omega)).mpr
      ⟨_, _, after, rfl, ⟨by omega, by omega⟩, ⟨by omega, by omega⟩, by omega, by omega, hc _ (by omega), rfl⟩
  · have hb : (0xF0 + c.toNat / 262144).toUInt8.toNat = 0xF0 + c.toNat / 262144 := toNat_toUInt8 (by omega)
    have h₁ : (0x80 + c.toNat / 4096 % 64).toUInt8.toNat = 0x80 + c.toNat / 4096 % 64 := toNat_toUInt8 (by omega)
    have h₂ : (0x80 + c.toNat / 64 % 64).toUInt8.toNat = 0x80 + c.toNat / 64 % 64 := toNat_toUInt8 (by omega)
    have h₃ : (0x80 + c.toNat / 1 % 64).toUInt8.toNat = 0x80 + c.toNat / 1 % 64 := toNat_toUInt8 (by omega)
    refine ⟨_, _, encodePoint_four (by omega), ?_⟩
    exact (readPoint_four (by omega) (by omega)).mpr
      ⟨_, _, _, after, rfl, ⟨by omega, by omega⟩, ⟨by omega, by omega⟩, ⟨by omega, by omega⟩, by omega, by omega,
        hc _ (by omega), rfl⟩

/-! ## Surrogates -/

/-- Surrogates are read from three bytes in their ranges. -/
lemma surrogate?_cons (a b : UInt8) (after : List UInt8) :
    surrogate? (0xED :: a :: b :: after) =
      if 0xA0 ≤ a.toNat ∧ a.toNat < 0xC0 ∧ 0x80 ≤ b.toNat ∧ b.toNat < 0xC0 then
        some (.ofNat (0xD000 + (a.toNat - 0x80) * 64 + (b.toNat - 0x80)))
      else none := by
  rw [surrogate?]
  refine if_congr ?_ rfl rfl
  simp only [Bool.and_eq_true, decide_eq_true_eq, and_assoc]
  exact Iff.rfl

/-- The bytes of a surrogate are those of no character, and they are read as the surrogate. -/
lemma surrogate?_encodePoint (n : Fin 2048) (after : List UInt8) :
    ∃ b bs, encodePoint (0xD800 + n.val) = b :: bs ∧ bs.length = 2 ∧
      (∀ c more, readPoint b (bs ++ after) ≠ .char c more) ∧
      surrogate? (b :: (bs ++ after)) = some (.surrogate n) := by
  have hn := n.isLt
  have h₁ : (0x80 + (0xD800 + n.val) / 64 % 64).toUInt8.toNat = 0xA0 + n.val / 64 := by
    rw [toNat_toUInt8 (by omega)]
    omega
  have h₂ : (0x80 + (0xD800 + n.val) / 1 % 64).toUInt8.toNat = 0x80 + n.val % 64 := by
    rw [toNat_toUInt8 (by omega)]
    omega
  have hb : (0xE0 + (0xD800 + n.val) / 4096).toUInt8 = 0xED := toUInt8_eq (show _ = 0xED by omega)
  refine ⟨_, _, encodePoint_three (by omega) (by omega), rfl, fun c more hread => ?_, ?_⟩
  · rw [hb] at hread
    obtain ⟨b₁, b₂, rest, hrest, -, -, -, hsurrogate, -⟩ := (readPoint_three (by decide) (by decide)).mp hread
    obtain ⟨rfl, -⟩ := List.cons.inj hrest
    have := hsurrogate rfl
    omega
  · rw [hb, List.cons_append, List.cons_append, List.nil_append, surrogate?_cons, if_pos (by omega), h₁, h₂]
    have hnumber : 0xD000 + (0xA0 + n.val / 64 - 0x80) * 64 + (0x80 + n.val % 64 - 0x80) =
        (CodePoint.surrogate n).toNat := by
      show _ = 0xD800 + n.val
      omega
    rw [hnumber, CodePoint.ofNat_toNat]

/-- A surrogate that is read is written with the same bytes. -/
lemma encodePoint_of_surrogate? {bytes : List UInt8} {p : CodePoint} (h : surrogate? bytes = some p) :
    ∃ after, bytes = encodePoint p.toNat ++ after := by
  unfold surrogate? at h
  split at h
  · next a b after =>
    have hsurrogate : surrogate? (0xED :: a :: b :: after) = some p := h
    rw [surrogate?_cons] at hsurrogate
    split at hsurrogate
    · next hbounds =>
      obtain ⟨ha, ha', hb, hb'⟩ := hbounds
      have hp := Option.some.inj hsurrogate
      refine ⟨after, ?_⟩
      rw [← hp, CodePoint.toNat_ofNat (by omega), encodePoint_three (by omega) (by omega),
        toUInt8_eq (b := 0xED) (show _ = 0xED by omega), toUInt8_eq (b := a) (by omega), toUInt8_eq (b := b) (by omega)]
      rfl
    · cases hsurrogate
  · cases h

/-! ## Decoding -/

/-- Bytes that belong to what was read before are passed over. -/
lemma decodeFrom_skip (surrogates : Bool) (position : Nat) (done : Text) (bs rest : List UInt8) :
    decodeFrom surrogates position done bs.length (bs ++ rest) =
      decodeFrom surrogates (position + bs.length) done 0 rest := by
  induction bs generalizing position with
  | nil => rfl
  | cons b bs ih =>
    rw [List.length_cons, List.cons_append, decodeFrom, ih]
    congr 1
    omega

/-- The bytes of a code point are decoded as the code point. -/
lemma decodeFrom_encodePoint (position : Nat) (done : Text) (p : CodePoint) (rest : List UInt8) :
    decodeFrom true position done 0 (encodePoint p.toNat ++ rest) =
      decodeFrom true (position + (encodePoint p.toNat).length) (p :: done) 0 rest := by
  cases p with
  | scalar c =>
    obtain ⟨b, bs, hbytes, hread⟩ := readPoint_encodePoint c rest
    show decodeFrom true position done 0 (encodePoint c.toNat ++ rest) =
      decodeFrom true (position + (encodePoint c.toNat).length) (.scalar c :: done) 0 rest
    rw [hbytes, List.cons_append, decodeFrom, hread]
    dsimp only
    rw [decodeFrom_skip, List.length_cons]
    congr 1
    omega
  | surrogate n =>
    obtain ⟨b, bs, hbytes, hlength, hread, hsurrogate⟩ := surrogate?_encodePoint n rest
    show decodeFrom true position done 0 (encodePoint (0xD800 + n.val) ++ rest) =
      decodeFrom true (position + (encodePoint (0xD800 + n.val)).length) (.surrogate n :: done) 0 rest
    rw [hbytes, List.cons_append, decodeFrom]
    cases hbad : readPoint b (bs ++ rest) with
    | char c more => exact absurd hbad (hread c more)
    | bad reason more =>
      dsimp only
      rw [if_pos rfl, hsurrogate]
      dsimp only
      rw [← hlength, decodeFrom_skip, List.length_cons]
      congr 1
      omega

/-- Bytes that are decoded start with those of a code point. -/
lemma exists_encodePoint_of_decodeFrom {position : Nat} {done t : Text} {b : UInt8} {rest : List UInt8}
    (h : decodeFrom true position done 0 (b :: rest) = .ok t) :
    ∃ (p : CodePoint) (after : List UInt8), b :: rest = encodePoint p.toNat ++ after := by
  rw [decodeFrom] at h
  cases hread : readPoint b rest with
  | char c more =>
    obtain ⟨bs, after, rfl, -, hbytes⟩ := encodePoint_of_readPoint hread
    exact ⟨.scalar c, after, (congrArg (· ++ after) hbytes).symm⟩
  | bad reason more =>
    rw [hread] at h
    dsimp only at h
    rw [if_pos rfl] at h
    cases hsurrogate : surrogate? (b :: rest) with
    | none => rw [hsurrogate] at h; cases h
    | some p =>
      obtain ⟨after, hbytes⟩ := encodePoint_of_surrogate? hsurrogate
      exact ⟨p, after, hbytes⟩

private lemma encodePoint_ne_nil (n : Nat) : encodePoint n ≠ [] := by
  unfold encodePoint
  dsimp only
  split
  · exact List.cons_ne_nil _ _
  · split
    · exact List.cons_ne_nil _ _
    · split <;> exact List.cons_ne_nil _ _

/-- The bytes of a text. -/
def encodeText (t : Text) : List UInt8 := t.flatMap fun p => encodePoint p.toNat

/-- What is written is read back. -/
lemma decodeFrom_encodeText (position : Nat) (done u : Text) :
    decodeFrom true position done 0 (encodeText u) = .ok (done.reverse ++ u) := by
  induction u generalizing position done with
  | nil =>
    show Except.ok done.reverse = _
    rw [List.append_nil]
  | cons p u ih =>
    show decodeFrom true position done 0 (encodePoint p.toNat ++ encodeText u) = _
    rw [decodeFrom_encodePoint, ih, List.reverse_cons, List.append_assoc, List.singleton_append]

/-- Bytes that are decoded are those of a text. Each code point takes its bytes off the front, so the induction is on
the number of bytes. -/
lemma exists_encodeText_of_decodeFrom {size position : Nat} {done t : Text} {bytes : List UInt8}
    (hsize : bytes.length = size) (h : decodeFrom true position done 0 bytes = .ok t) : ∃ u, bytes = encodeText u := by
  induction size using Nat.strongRecOn generalizing position done bytes with
  | ind size ih =>
    cases bytes with
    | nil => exact ⟨[], rfl⟩
    | cons b rest =>
      obtain ⟨p, after, hbytes⟩ := exists_encodePoint_of_decodeFrom h
      rw [hbytes, decodeFrom_encodePoint] at h
      have hpos : 0 < (encodePoint p.toNat).length := List.length_pos_iff.mpr (encodePoint_ne_nil _)
      have hlength := congrArg List.length hbytes
      rw [List.length_append] at hlength
      obtain ⟨u, hu⟩ := ih after.length (by omega) rfl h
      exact ⟨p :: u, by rw [hbytes, hu]; rfl⟩

/-- **Bytes are decoded when they are those of a text, and then to this text.** -/
theorem decode_eq_ok_iff {bytes : List UInt8} {t : Text} : decode bytes true = .ok t ↔ bytes = encodeText t := by
  constructor
  · intro h
    obtain ⟨u, rfl⟩ := exists_encodeText_of_decodeFrom rfl h
    rw [decode, decodeFrom_encodeText] at h
    rw [← Except.ok.inj h]
    rfl
  · rintro rfl
    exact decodeFrom_encodeText 0 [] t

end Utf8

/-! ## UTF-16 and UTF-32 -/

/-- Whole units are decoded, whatever they are. -/
lemma Utf16.exists_decodeFrom_eq_ok_iff {order : ByteOrder} {position : Nat} {done : Text} {bytes : List UInt8} :
    (∃ t, decodeFrom order position done bytes = .ok t) ↔ 2 ∣ bytes.length := by
  fun_induction decodeFrom order position done bytes with
  | case1 position done => exact iff_of_true ⟨_, rfl⟩ (by simp)
  | case2 position done b => exact iff_of_false (by simp) (by simp)
  | case3 position done a b rest ih =>
    rw [ih, List.length_cons, List.length_cons]
    omega

namespace ByteOrder

/-- The four bytes of a number. -/
def word (order : ByteOrder) (n : Nat) : List UInt8 :=
  let bytes := [n / 16777216 % 256, n / 65536 % 256, n / 256 % 256, n % 256].map Nat.toUInt8
  match order with
  | little => bytes.reverse
  | big => bytes

private lemma number_big (a b c d : UInt8) :
    big.number [a, b, c, d] = ((a.toNat * 256 + b.toNat) * 256 + c.toNat) * 256 + d.toNat := by
  simp [number]

/-- The bytes that write a number are its word. -/
lemma word_number (order : ByteOrder) (a b c d : UInt8) : order.word (order.number [a, b, c, d]) = [a, b, c, d] := by
  have hbig : ∀ a b c d : UInt8, big.word (big.number [a, b, c, d]) = [a, b, c, d] := by
    intro a b c d
    have ha : a.toNat < 256 := a.toNat_lt
    have hb : b.toNat < 256 := b.toNat_lt
    have hc : c.toNat < 256 := c.toNat_lt
    have hd : d.toNat < 256 := d.toNat_lt
    rw [number_big]
    simp only [word, List.map_cons, List.map_nil]
    rw [toUInt8_eq (b := a) (by omega), toUInt8_eq (b := b) (by omega), toUInt8_eq (b := c) (by omega),
      toUInt8_eq (b := d) (by omega)]
  cases order with
  | big => exact hbig a b c d
  | little => exact congrArg List.reverse (hbig d c b a)

/-- The word of a number writes it. -/
lemma exists_word_eq (order : ByteOrder) {n : Nat} (h : n < 4294967296) :
    ∃ a b c d, order.word n = [a, b, c, d] ∧ order.number [a, b, c, d] = n := by
  have hbig : big.number (big.word n) = n := by
    simp only [word, List.map_cons, List.map_nil]
    rw [number_big, toNat_toUInt8 (by omega), toNat_toUInt8 (by omega), toNat_toUInt8 (by omega),
      toNat_toUInt8 (by omega)]
    omega
  cases order with
  | big => exact ⟨_, _, _, _, rfl, hbig⟩
  | little => exact ⟨_, _, _, _, rfl, hbig⟩

end ByteOrder

namespace Utf32

/-- The words of code points. -/
def encodeText (order : ByteOrder) (t : Text) : List UInt8 := t.flatMap fun p => order.word p.toNat

private lemma cons_eq_encodeText_iff {order : ByteOrder} {a b c d : UInt8} {rest : List UInt8} {t : Text} :
    a :: b :: c :: d :: rest = encodeText order t ↔
      ∃ p u, t = p :: u ∧ order.number [a, b, c, d] = p.toNat ∧ rest = encodeText order u := by
  constructor
  · intro h
    cases t with
    | nil => cases h
    | cons p u =>
      obtain ⟨a', b', c', d', hword, hnumber⟩ := order.exists_word_eq (Nat.lt_trans p.toNat_lt (by decide))
      have happend : a :: b :: c :: d :: rest = [a', b', c', d'] ++ encodeText order u := by
        rw [← hword]
        exact h
      obtain ⟨rfl, rfl, rfl, rfl, rfl⟩ : a = a' ∧ b = b' ∧ c = c' ∧ d = d' ∧ rest = encodeText order u := by
        simpa using happend
      exact ⟨p, u, rfl, hnumber, rfl⟩
  · rintro ⟨p, u, rfl, hnumber, rfl⟩
    show _ = order.word p.toNat ++ encodeText order u
    rw [← hnumber, ByteOrder.word_number]
    rfl

/-- Words are decoded when they are those of code points. -/
lemma exists_decodeFrom_eq_ok_iff {order : ByteOrder} {position : Nat} {done : Text} {bytes : List UInt8} :
    (∃ t, decodeFrom order position done bytes = .ok t) ↔ ∃ t, bytes = encodeText order t := by
  fun_induction decodeFrom order position done bytes with
  | case1 position done => exact iff_of_true ⟨_, rfl⟩ ⟨[], rfl⟩
  | case2 position done a b c d rest n hn ih =>
    rw [ih]
    simp only [cons_eq_encodeText_iff]
    constructor
    · rintro ⟨u, hu⟩
      exact ⟨_, CodePoint.ofNat n, u, rfl, (CodePoint.toNat_ofNat hn).symm, hu⟩
    · rintro ⟨_, p, u, -, -, hu⟩
      exact ⟨u, hu⟩
  | case3 position done a b c d rest n hn =>
    refine iff_of_false (by simp) ?_
    simp only [cons_eq_encodeText_iff]
    rintro ⟨_, p, u, -, hp, -⟩
    refine hn ?_
    show order.number [a, b, c, d] < 0x110000
    rw [hp]
    exact p.toNat_lt
  | case4 position done bytes hnil hcons =>
    refine iff_of_false (by simp) ?_
    rintro ⟨t, ht⟩
    cases t with
    | nil => exact hnil ht
    | cons p u =>
      obtain ⟨a, b, c, d, hword, -⟩ := order.exists_word_eq (Nat.lt_trans p.toNat_lt (by decide))
      refine hcons a b c d (encodeText order u) ?_
      rw [ht]
      show order.word p.toNat ++ encodeText order u = _
      rw [hword]
      rfl

end Utf32

namespace Json.Encoding

/-- Bytes are a text in an encoding: behind the mark stand the bytes of code points, or in UTF-16 whole units. -/
def IsText (bytes : List UInt8) : Encoding → Prop
  | utf8 mark => ∃ t : Text, bytes.drop mark = Utf8.encodeText t
  | utf16 _ mark => 2 ∣ (bytes.drop mark).length
  | utf32 order mark => ∃ t : Text, bytes.drop mark = Utf32.encodeText order t

/-- Bytes can be decoded when they are a text. -/
theorem exists_decode_eq_ok_iff {bytes : List UInt8} {encoding : Encoding} :
    (∃ t, encoding.decode bytes = .ok t) ↔ encoding.IsText bytes := by
  cases encoding with
  | utf8 mark => exact exists_congr fun t => Utf8.decode_eq_ok_iff
  | utf16 order mark => exact Utf16.exists_decodeFrom_eq_ok_iff
  | utf32 order mark => exact Utf32.exists_decodeFrom_eq_ok_iff

end Json.Encoding

end ScriptVet
