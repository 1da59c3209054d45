import ScriptVet.Json.Printer
import ScriptVet.Proofs.ByteTexts
import ScriptVet.Proofs.Steps

/-!
# Compact JSON reads back

A compact JSON text has no blanks, and its strings escape only what they have to: quotes, backslashes and control
characters. `document_compactObject` says that an object with one member, written so, is read as it was meant, and
`parseBytes_compactObject` says the same of its UTF-8 form.

The reader takes a string one character at a time, so there is one lemma for each way to write a character
(`stringTail_raw`, `stringTail_letter`, `stringTail_escapeUnit`), and `stringTail_compact` is the induction over the
string.
-/

namespace ScriptVet.Json

/-! ## Four hexadecimal digits -/

/-- A hexadecimal digit is read back. -/
lemma hexDigit?_hexDigit {n : Nat} (h : n < 16) : Number.hexDigit? (hexDigit n) = some n := by
  have hall : ∀ m < 16, Number.hexDigit? (hexDigit m) = some m := by decide
  exact hall n h

/-- The digits of a UTF-16 unit are read as the unit. -/
theorem hex4?_hex4 {unit : Nat} (h : unit < 0x10000) (rest : Text) :
    hex4? (Text.ofChars (hex4 unit) ++ rest) = some unit := by
  have hvalue : Number.ofDigits 16 [unit / 4096 % 16, unit / 256 % 16, unit / 16 % 16, unit % 16] = unit := by
    simp only [Number.ofDigits, List.foldl_cons, List.foldl_nil]
    omega
  simp only [hex4, Text.ofChars, List.map_cons, List.map_nil, List.cons_append, List.nil_append, hex4?,
    hexDigit?_hexDigit (Nat.mod_lt _ (by decide : 0 < 16)), Option.bind_eq_bind, Option.bind_some, hvalue]
  rfl

/-! ## Characters of a string -/

section Characters

variable {opened fuel position : Nat} {done rest : Text} {c : Char}

/-- A character that needs no escape is read as it is. -/
theorem stringTail_raw (hquote : c ≠ '"') (hbackslash : c ≠ '\\') (hcontrol : 0x20 ≤ c.toNat) :
    stringTail opened (fuel + 1) done ⟨position, .scalar c :: rest⟩ =
      stringTail opened fuel (.scalar c :: done) ⟨position + 1, rest⟩ := by
  have hpoint : ¬ (CodePoint.scalar c).toNat < 0x20 := Nat.not_lt.mpr hcontrol
  conv_lhs => unfold stringTail
  split
  · next heq => cases heq
  · next heq => cases heq; exact absurd rfl hquote
  · next heq => cases heq; exact absurd rfl hbackslash
  · next heq => cases heq; exact absurd rfl hbackslash
  · next heq => cases heq; exact absurd rfl hbackslash
  · next heq =>
    cases heq
    exact if_neg hpoint

/-- A letter behind a backslash stands for its character. -/
theorem stringTail_letter {letter : Char} (h : simpleEscape? letter = some c) :
    stringTail opened (fuel + 1) done ⟨position, .scalar '\\' :: .scalar letter :: rest⟩ =
      stringTail opened fuel (.scalar c :: done) ⟨position + 2, rest⟩ := by
  have hletter : (CodePoint.scalar letter).scalar?.bind simpleEscape? = some c := h
  conv_lhs => unfold stringTail
  split
  · next heq => cases heq
  · next heq => cases heq
  · next heq => cases heq; cases h
  · next heq => cases heq
  · next heq =>
    cases heq
    rw [hletter]
  · next hnot heq =>
    cases heq
    exact absurd rfl (hnot _ _ rfl)

/-- The number of a character is no half of a pair. -/
lemma pairUp_toNat (c : Char) (rest : Text) : pairUp c.toNat rest = some (.scalar c, 0) := by
  have hpoint : CodePoint.ofNat c.toNat = .scalar c := CodePoint.ofNat_toNat (.scalar c)
  unfold pairUp
  rw [hpoint]

/-- Four digits stand for the code point with their number, or for a pair with the escape behind them. A string does not
end right behind them. -/
theorem stringTail_unit {unit more : Nat} (hunit : unit < 0x10000) {p point : CodePoint}
    (hpair : pairUp unit (p :: rest) = some (point, more)) :
    stringTail opened (fuel + 1) done ⟨position, Text.ofChars (escapeUnit unit) ++ p :: rest⟩ =
      stringTail opened fuel (point :: done) ⟨position + 6 + more, (p :: rest).drop more⟩ := by
  have hdigits := hex4?_hex4 hunit (p :: rest)
  have hlength : (Text.ofChars (hex4 unit)).length = 4 := rfl
  have hescape : Text.ofChars (escapeUnit unit) ++ p :: rest =
      .scalar '\\' :: .scalar 'u' :: (Text.ofChars (hex4 unit) ++ p :: rest) := rfl
  have hfive : ¬ ((Text.ofChars (hex4 unit) ++ p :: rest).take 5).length < 5 := by
    rw [List.length_take, List.length_append, hlength, List.length_cons]
    omega
  have hafter : (Text.ofChars (hex4 unit) ++ p :: rest).drop 4 = p :: rest := by
    rw [← hlength, List.drop_left]
  rw [hescape]
  conv_lhs => unfold stringTail
  split
  · next heq => cases heq
  · next heq => cases heq
  · next heq =>
    cases heq
    rw [if_neg hfive, hdigits]
    dsimp only
    rw [hafter, hpair]
    dsimp only
    rw [← List.drop_drop, hafter]
  · next heq => cases heq
  · next hnot heq =>
    cases heq
    exact absurd rfl hnot
  · next hnot _ _ heq =>
    cases heq
    exact absurd rfl (hnot _ rfl)

/-- A character is read from its number. -/
lemma stringTail_escapeUnit (hunit : c.toNat < 0x10000) (p : CodePoint) :
    stringTail opened (fuel + 1) done ⟨position, Text.ofChars (escapeUnit c.toNat) ++ p :: rest⟩ =
      stringTail opened fuel (.scalar c :: done) ⟨position + 6, p :: rest⟩ :=
  stringTail_unit hunit (pairUp_toNat c (p :: rest))

/-- The characters that are written as a letter behind a backslash. -/
def letteredChars : List Char := ['"', '\\', '\n', '\r', '\t', '\x0c', '\x08']

/-- Some characters are escaped by a letter, which is read back. -/
theorem escapePoint_of_mem (h : c ∈ letteredChars) :
    ∃ letter, escapePoint (.scalar c) = ['\\', letter] ∧ simpleEscape? letter = some c := by
  simp only [letteredChars, List.mem_cons, List.not_mem_nil, or_false] at h
  rcases h with rfl | rfl | rfl | rfl | rfl | rfl | rfl
  · exact ⟨'"', rfl, rfl⟩
  · exact ⟨'\\', rfl, rfl⟩
  · exact ⟨'n', rfl, rfl⟩
  · exact ⟨'r', rfl, rfl⟩
  · exact ⟨'t', rfl, rfl⟩
  · exact ⟨'f', rfl, rfl⟩
  · exact ⟨'b', rfl, rfl⟩

/-- Other characters are written as they are or by their units. -/
theorem escapePoint_of_not_mem (h : c ∉ letteredChars) :
    escapePoint (.scalar c) =
      if 0x20 ≤ c.toNat ∧ c.toNat ≤ 0x7E then [c]
      else if c.toNat < 0x10000 then escapeUnit c.toNat
      else escapeUnit (0xD800 + (c.toNat - 0x10000) / 1024) ++ escapeUnit (0xDC00 + (c.toNat - 0x10000) % 1024) := by
  simp only [letteredChars, List.mem_cons, List.not_mem_nil, or_false, not_or] at h
  obtain ⟨hquote, hbackslash, hn, hr, ht, hf, hb⟩ := h
  unfold escapePoint
  dsimp only
  rw [if_neg hquote, if_neg hbackslash, if_neg hn, if_neg hr, if_neg ht, if_neg hf, if_neg hb]

/-- A character inside a compact string. -/
def compactChar (c : Char) : List Char :=
  if c = '"' ∨ c = '\\' ∨ c.toNat < 0x20 then escapePoint (.scalar c) else [c]

/-- How a character is written in a compact string: as it is, by a letter, or by four digits. -/
lemma compactChar_cases (c : Char) :
    (compactChar c = [c] ∧ c ≠ '"' ∧ c ≠ '\\' ∧ 0x20 ≤ c.toNat) ∨
      (∃ letter, compactChar c = ['\\', letter] ∧ simpleEscape? letter = some c) ∨
      (compactChar c = escapeUnit c.toNat ∧ c.toNat < 0x20) := by
  unfold compactChar
  split
  · next hescaped =>
    right
    by_cases hletter : c ∈ letteredChars
    · exact Or.inl (escapePoint_of_mem hletter)
    · have hquote : c ≠ '"' := fun h => hletter (by simp [letteredChars, h])
      have hbackslash : c ≠ '\\' := fun h => hletter (by simp [letteredChars, h])
      have hcontrol : c.toNat < 0x20 := (hescaped.resolve_left hquote).resolve_left hbackslash
      rw [escapePoint_of_not_mem hletter, if_neg (by omega), if_pos (by omega)]
      exact Or.inr ⟨rfl, hcontrol⟩
  · next h =>
    rw [not_or, not_or] at h
    exact Or.inl ⟨rfl, h.1, h.2.1, Nat.le_of_not_lt h.2.2⟩

/-- A character of a compact string is read as itself. The closing quote or another character follows it. -/
lemma stringTail_compactChar (c : Char) (p : CodePoint) :
    stringTail opened (fuel + 1) done ⟨position, Text.ofChars (compactChar c) ++ p :: rest⟩ =
      stringTail opened fuel (.scalar c :: done) ⟨position + (compactChar c).length, p :: rest⟩ := by
  rcases compactChar_cases c with ⟨h, hquote, hbackslash, hcontrol⟩ | ⟨letter, h, hletter⟩ | ⟨h, hcontrol⟩
  · rw [h]
    exact stringTail_raw hquote hbackslash hcontrol
  · rw [h]
    exact stringTail_letter hletter
  · rw [h]
    exact stringTail_escapeUnit (by omega) p

end Characters

/-! ## Strings and objects -/

/-- The characters of a compact string up to its closing quote. -/
lemma stringTail_compact (cs : List Char) (rest : Text) (opened : Nat) {fuel : Nat} (position : Nat) (done : Text)
    (hfuel : cs.length < fuel) :
    stringTail opened fuel done ⟨position, Text.ofChars (cs.flatMap compactChar) ++ .scalar '"' :: rest⟩ =
      .ok (done.reverse ++ Text.ofChars cs, ⟨position + (cs.flatMap compactChar).length + 1, rest⟩) := by
  induction cs generalizing fuel position done with
  | nil =>
    obtain ⟨n, rfl⟩ := Nat.exists_eq_add_of_lt hfuel
    simp [stringTail]
  | cons c cs ih =>
    obtain ⟨n, rfl⟩ : ∃ n, fuel = n + 1 := ⟨fuel - 1, by omega⟩
    rw [List.length_cons] at hfuel
    -- Something follows every character, the closing quote at last.
    obtain ⟨p, tail, htail⟩ : ∃ p tail, Text.ofChars (cs.flatMap compactChar) ++ .scalar '"' :: rest = p :: tail :=
      List.exists_cons_of_ne_nil (by simp)
    rw [List.flatMap_cons, Text.ofChars_append, List.append_assoc, htail, stringTail_compactChar, ← htail,
      ih _ _ (by omega)]
    simp [Text.ofChars, Nat.add_assoc]

/-- A text as a compact string. -/
def compactQuote (cs : List Char) : List Char := '"' :: (cs.flatMap compactChar ++ ['"'])

/-- A compact string is read back, and nothing behind it is touched. -/
lemma string_compactQuote (cs : List Char) (rest : Text) {size : Nat} (position : Nat) (hsize : cs.length < size) :
    string size ⟨position, Text.ofChars (compactQuote cs) ++ rest⟩ =
      .ok (Text.ofChars cs, ⟨position + (compactQuote cs).length, rest⟩) := by
  have htail : (Input.mk position (Text.ofChars (compactQuote cs) ++ rest)).advance 1 =
      ⟨position + 1, Text.ofChars (cs.flatMap compactChar) ++ .scalar '"' :: rest⟩ := by
    simp [Input.advance, compactQuote, Text.ofChars]
  rw [string, htail, stringTail_compact cs rest _ _ _ hsize]
  simp [compactQuote, Nat.add_assoc, Nat.add_comm 1]

/-- An object with one member, a text, in compact form. -/
def compactObject (name value : List Char) : List Char :=
  '\x7b' :: (compactQuote name ++ ':' :: (compactQuote value ++ ['\x7d']))

lemma skipBlanks_cons {p : CodePoint} (h : Input.isBlank p = false) (position : Nat) (rest : Text) :
    (Input.mk position (p :: rest)).skipBlanks = ⟨position, p :: rest⟩ := by
  simp [Input.skipBlanks, Input.skipBlanks.go, h]

private lemma length_lt_compactQuote (cs : List Char) : cs.length < (compactQuote cs).length := by
  have hchar : ∀ c : Char, 1 ≤ (compactChar c).length := by
    intro c
    rcases compactChar_cases c with ⟨h, -⟩ | ⟨letter, h, -⟩ | ⟨h, -⟩
    · rw [h]; exact Nat.succ_pos _
    · rw [h]; exact Nat.succ_pos _
    · rw [h]; exact Nat.succ_pos _
  have hflat : cs.length ≤ (cs.flatMap compactChar).length := by
    induction cs with
    | nil => simp
    | cons c cs ih =>
      have := hchar c
      rw [List.flatMap_cons, List.length_append, List.length_cons]
      omega
  simp only [compactQuote, List.length_cons, List.length_append]
  omega

/-- A compact string is read as a value. -/
lemma value_compactQuote (cs : List Char) (rest : Text) {size : Nat} (depth position : Nat)
    (hsize : cs.length < size) :
    value size depth ⟨position, Text.ofChars (compactQuote cs) ++ rest⟩ =
      .ok (.str (Text.ofChars cs), ⟨position + (compactQuote cs).length, rest⟩) := by
  have hstring := string_compactQuote cs rest position hsize
  unfold value
  exact Steps.bind_eq_ok_iff.mpr ⟨_, hstring, rfl⟩

private lemma skipBlanks_compactQuote (cs : List Char) (position : Nat) (rest : Text) :
    (Input.mk position (Text.ofChars (compactQuote cs) ++ rest)).skipBlanks =
      ⟨position, Text.ofChars (compactQuote cs) ++ rest⟩ :=
  skipBlanks_cons (by decide) position (Text.ofChars (cs.flatMap compactChar ++ ['"']) ++ rest)

/-- The one member of the object, read from behind its brace. -/
lemma members_compactObject (name value : List Char) {size fuel : Nat} (depth position : Nat)
    (hname : name.length < size) (hvalue : value.length < size) :
    members size (Json.value size depth) (fuel + 1) [] ⟨position, Text.ofChars (compactQuote name) ++
        .scalar ':' :: (Text.ofChars (compactQuote value) ++ [.scalar '\x7d'])⟩ =
      .ok (.obj [(Text.ofChars name, .str (Text.ofChars value))],
        ⟨position + (compactQuote name).length + 1 + (compactQuote value).length + 1, []⟩) := by
  have hcolon : Input.isBlank (.scalar ':') = false := by decide
  have hbrace : Input.isBlank (.scalar '\x7d') = false := by decide
  have hstring := string_compactQuote name (.scalar ':' :: (Text.ofChars (compactQuote value) ++ [.scalar '\x7d']))
    position hname
  have hitem := value_compactQuote value [.scalar '\x7d'] depth (position + (compactQuote name).length + 1) hvalue
  rw [← skipBlanks_compactQuote] at hitem
  unfold members
  refine Steps.bind_eq_ok_iff.mpr ⟨_, hstring, ?_⟩
  dsimp only
  rw [skipBlanks_cons hcolon]
  refine Steps.bind_eq_ok_iff.mpr ⟨_, hitem, ?_⟩
  dsimp only
  rw [skipBlanks_cons hbrace]
  rfl

private lemma value_compactObject (name value : List Char) {size : Nat} (depth : Nat) (hname : name.length < size)
    (hvalue : value.length < size) :
    Json.value size (depth + 1) ⟨0, Text.ofChars (compactObject name value)⟩ =
      .ok (.obj [(Text.ofChars name, .str (Text.ofChars value))],
        ⟨1 + (compactQuote name).length + 1 + (compactQuote value).length + 1, []⟩) := by
  have hobject : Text.ofChars (compactObject name value) = .scalar '\x7b' ::
      (Text.ofChars (compactQuote name) ++ .scalar ':' :: (Text.ofChars (compactQuote value) ++ [.scalar '\x7d'])) := by
    simp [compactObject, Text.ofChars]
  obtain ⟨fuel, rfl⟩ : ∃ fuel, size = fuel + 1 := ⟨size - 1, by omega⟩
  rw [hobject]
  unfold Json.value
  dsimp only [Input.advance, List.drop]
  rw [skipBlanks_compactQuote]
  exact members_compactObject name value depth 1 hname hvalue

/-- A compact object is read back whole. -/
lemma document_compactObject (depth : Nat) (name value : List Char) :
    document (depth + 1) (Text.ofChars (compactObject name value)) =
      .ok (.obj [(Text.ofChars name, .str (Text.ofChars value))]) := by
  have hlength : (Text.ofChars (compactObject name value)).length =
      (compactQuote name).length + (compactQuote value).length + 3 := by
    simp [compactObject, Text.ofChars]
    omega
  have hname := length_lt_compactQuote name
  have hvalue := length_lt_compactQuote value
  have hskip : (Input.mk 0 (Text.ofChars (compactObject name value))).skipBlanks =
      ⟨0, Text.ofChars (compactObject name value)⟩ :=
    skipBlanks_cons (by decide) 0 _
  unfold document
  rw [hskip, value_compactObject name value depth (by omega) (by omega)]
  rfl

/-! ## Bytes -/

private lemma encode_eq_encodeText (cs : List Char) : Utf8.encode cs = Utf8.encodeText (Text.ofChars cs) := by
  unfold Utf8.encode Utf8.encodeText Text.ofChars
  rw [List.flatMap_map]
  rfl

private lemma detect_of_brace_quote (rest : List UInt8) : Encoding.detect (0x7B :: 0x22 :: rest) = .utf8 0 := by
  match rest with
  | [] => rfl
  | [_] => rfl
  | _ :: _ :: _ => rfl

/-- The bytes of a compact object show that they are UTF-8, and are read back whole. -/
theorem parseBytes_compactObject (depth : Nat) (name value : List Char) :
    parseBytes (depth + 1) (Utf8.encode (compactObject name value)) =
      .ok (.obj [(Text.ofChars name, .str (Text.ofChars value))]) := by
  have hdetect : Encoding.detect (Utf8.encode (compactObject name value)) = .utf8 0 := detect_of_brace_quote _
  have hdecode : Utf8.decode (Utf8.encode (compactObject name value)) true =
      .ok (Text.ofChars (compactObject name value)) :=
    Utf8.decode_eq_ok_iff.mpr (encode_eq_encodeText _)
  unfold parseBytes
  rw [hdetect, Encoding.decode, List.drop_zero, hdecode]
  dsimp only
  rw [document_compactObject]

end ScriptVet.Json
