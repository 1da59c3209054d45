import ScriptVet.Script.Parse
import ScriptVet.Proofs.Acceptance
import ScriptVet.Proofs.IntegerPrefix

/-!
# The ceiling on virtual users

What the analysis of resources decides about a script that is not too long. It says one thing at most
(`analyze_errors_length_le`). It says nothing exactly when the script can be parsed and the value of its first pair `vus`
is `Affordable` (`analyze_valid_iff`). A number that is too long to be read is not affordable either, so that no number
above the ceiling passes, however many digits it has (`not_affordable_of_scan`).

Nothing is asked of the parser. The tree of a script with faults may hold pairs too, and the ceiling counts for them as
for any others.
-/

namespace ScriptVet

open Script

namespace Resources

/-- A value asks for no more virtual users than there may be: unless it is empty, the integer that it starts with is read
and not above the ceiling. -/
def Affordable (limits : Limits) (value : List Char) : Prop :=
  value ≠ [] → ∃ n : Int, leadingIntegerOf (Text.ofChars value) = .ok (some n) ∧ n ≤ limits.maxVus

private lemma leadingIntegerOf_ofChars (cs : List Char) : leadingIntegerOf (Text.ofChars cs) = leadingInteger cs := by
  unfold leadingIntegerOf
  rw [Text.encode_ofChars]

/-- A value is affordable when it is within the limit of its digits and of its size. -/
lemma affordable_iff_withinLimit {limits : Limits} {value : List Char} :
    Affordable limits value ↔ WithinLimit limits value := by
  unfold Affordable WithinLimit
  rw [leadingIntegerOf_ofChars, ← or_iff_not_imp_left]
  refine or_congr_right ?_
  constructor
  · rintro ⟨n, hread, hle⟩
    obtain ⟨sign, digits, hstarts, hlength, rfl⟩ := leadingInteger_eq_some_iff.mp hread
    exact ⟨sign, digits, hstarts, hlength, hle⟩
  · rintro ⟨sign, digits, hstarts, hlength, hle⟩
    exact ⟨_, leadingInteger_eq_some_iff.mpr ⟨sign, digits, hstarts, hlength, rfl⟩, hle⟩

/-- A number above the ceiling is not affordable, whether it is short enough to be read or not. -/
lemma not_affordable_of_scan {limits : Limits} {value blanks mark digits rest : List Char} {sign : Int}
    (hscan : Scan value blanks mark digits rest sign) (habove : (limits.maxVus : Int) < sign * decimalValue digits) :
    ¬ Affordable limits value := by
  intro h
  have hne : digits ≠ [] := by
    rintro rfl
    have hzero : decimalValue [] = 0 := rfl
    rw [hzero] at habove
    omega
  have hvalue : value ≠ [] := by
    rintro rfl
    have htext := hscan.text
    simp [hne] at htext
  obtain ⟨n, hread, hle⟩ := h hvalue
  rw [leadingIntegerOf_ofChars, hscan.leadingInteger_eq] at hread
  unfold scanResult at hread
  rw [if_neg hne] at hread
  split at hread
  · cases hread
  · obtain rfl : sign * decimalValue digits = n := by simpa using hread
    omega

/-! ## The analysis -/

section Analysis

variable {parse : Parser} {limits : Limits} {script language : Text}

/-- One error is reported at most. -/
lemma analyze_errors_length_le (parse : Parser) (limits : Limits) (script language : Text) :
    (analyze parse limits script language).value.errors.length ≤ 1 := by
  unfold analyze
  dsimp only
  split
  · exact Nat.le_refl 1
  · split
    · exact Nat.zero_le 1
    · exact Nat.le_refl 1
    · exact Nat.le_refl 1

/-- Only a script that can be parsed passes. -/
lemma exists_source_of_valid (hsize : script.units16 ≤ limits.maxScriptSize)
    (h : (analyze parse limits script language).value.valid = true) :
    ∃ (l : Language) (cs : List Char), language = Text.ofString l.name ∧ script = Text.ofChars cs := by
  unfold analyze at h
  dsimp only at h
  rw [if_neg (by omega)] at h
  split at h
  · next hchecked =>
    obtain ⟨value, hvalue, -⟩ := Steps.bind_eq_ok_iff.mp hchecked
    obtain ⟨parsed, hparsed, -⟩ := Steps.bind_eq_ok_iff.mp hvalue
    obtain ⟨l, cs, hlanguage, hscript, -⟩ := Parsed.ofSource_eq_ok_iff.mp (Steps.mapError_eq_ok_iff.mp hparsed)
    exact ⟨l, cs, hlanguage, hscript⟩
  · cases h
  · cases h

/-- What the first pair with a key is worth does not depend on how the pair was found. -/
lemma valueText_eq_of_isFirstPair {root m n : Node} {cs key : List Char} (hm : root.IsFirstPair cs key m)
    (hn : root.IsFirstPair cs key n) : m.valueText cs = n.valueText cs := by
  have hboth := (Node.firstProperty?_eq_some_iff.mpr ⟨m, hm, rfl⟩).symm.trans
    (Node.firstProperty?_eq_some_iff.mpr ⟨n, hn, rfl⟩)
  exact congrArg Property.value (Option.some.inj hboth)

/-- A script that can be parsed passes when the value of its first pair `vus` is affordable. -/
lemma analyze_valid_ofChars_iff {l : Language} {cs : List Char}
    (hsize : (Text.ofChars cs).units16 ≤ limits.maxScriptSize) :
    (analyze parse limits (Text.ofChars cs) (Text.ofString l.name)).value.valid = true ↔
      ∀ n, (parse l cs).IsFirstPair cs vus n → Affordable limits (n.valueText cs) := by
  unfold Verdict.valid
  rw [List.isEmpty_iff, analyze_errors_eq_nil_iff hsize]
  simp only [affordable_iff_withinLimit]
  constructor
  · rintro (hnone | ⟨m, hm, hwithin⟩) n hn
    · obtain ⟨hpair, before, after, hpreorder, -⟩ := hn
      exact absurd hpair (hnone n (by rw [hpreorder]; simp))
    · rwa [valueText_eq_of_isFirstPair hn hm]
  · intro h
    cases hfirst : (parse l cs).firstProperty? cs vus with
    | none => exact .inl (Node.firstProperty?_eq_none_iff.mp hfirst)
    | some p =>
      obtain ⟨n, hn, -⟩ := Node.firstProperty?_eq_some_iff.mp hfirst
      exact .inr ⟨n, hn, h n hn⟩

/-- **A script passes exactly when it can be parsed and asks for no more virtual users than there may be.** -/
theorem analyze_valid_iff (hsize : script.units16 ≤ limits.maxScriptSize) :
    (analyze parse limits script language).value.valid = true ↔
      ∃ (l : Language) (cs : List Char), language = Text.ofString l.name ∧ script = Text.ofChars cs ∧
        ∀ n, (parse l cs).IsFirstPair cs vus n → Affordable limits (n.valueText cs) := by
  constructor
  · intro h
    obtain ⟨l, cs, rfl, rfl⟩ := exists_source_of_valid hsize h
    exact ⟨l, cs, rfl, rfl, (analyze_valid_ofChars_iff hsize).mp h⟩
  · rintro ⟨l, cs, rfl, rfl, h⟩
    exact (analyze_valid_ofChars_iff hsize).mpr h

end Analysis

/-- **The ceiling on virtual users is decided by one scan of a value.** The integer at the start of a text is searched for
with a fixed expression, every text has a scan, and the search comes to what the scan does. Whatever the parser, a script
that is not too long gets one error at most. It gets none exactly when it can be parsed and the value of the first pair
`vus` of its tree is affordable, which no number above the ceiling is, of any length. -/
theorem ceiling_decided_by_scan :
    Regex.compile prefixExpression = .ok integerPrefix ∧
      (∀ cs, ∃ blanks mark digits rest sign, Scan cs blanks mark digits rest sign) ∧
      (∀ cs blanks mark digits rest sign, Scan cs blanks mark digits rest sign →
        leadingIntegerOf (Text.ofChars cs) = scanResult sign digits) ∧
      ∀ (parse : Parser) (limits : Limits) (script language : Text), script.units16 ≤ limits.maxScriptSize →
        (analyze parse limits script language).value.errors.length ≤ 1 ∧
        ((analyze parse limits script language).value.valid = true ↔
          ∃ (l : Language) (cs : List Char), language = Text.ofString l.name ∧ script = Text.ofChars cs ∧
            ∀ n, (parse l cs).IsFirstPair cs vus n → Affordable limits (n.valueText cs)) ∧
        ∀ (l : Language) (cs : List Char) (n : Node) (blanks mark digits rest : List Char) (sign : Int),
          language = Text.ofString l.name → script = Text.ofChars cs → (parse l cs).IsFirstPair cs vus n →
          Scan (n.valueText cs) blanks mark digits rest sign → (limits.maxVus : Int) < sign * decimalValue digits →
          (analyze parse limits script language).value.valid = false := by
  refine ⟨rfl, exists_scan, ?_, ?_⟩
  · intro cs blanks mark digits rest sign hscan
    rw [leadingIntegerOf_ofChars, hscan.leadingInteger_eq]
  · intro parse limits script language hsize
    refine ⟨analyze_errors_length_le parse limits script language, analyze_valid_iff hsize, ?_⟩
    rintro l cs n blanks mark digits rest sign rfl rfl hn hscan habove
    rw [Bool.eq_false_iff, Ne, analyze_valid_ofChars_iff hsize]
    exact fun h => not_affordable_of_scan hscan habove (h n hn)

/-- A script that asks for one virtual user more than the default ceiling. -/
def crowdedScript : List Char := "(\x7bvus:501\x7d)".toList

/-- A script that asks for a thousand virtual users, and then has a fault. -/
def faultyScript : List Char := "export const options = \x7b vus: 1000 \x7d;\nlet x = ;".toList

/-- The tree of the script with a fault from a parser that goes on after one. -/
def recoveredTree : Node :=
  .mk .program none ⟨0, 47⟩
    [.mk .exportStatement none ⟨0, 37⟩ [.mk .variableDeclaration (some .declaration) ⟨7, 37⟩
        [.mk .declarator none ⟨13, 36⟩ [.mk .identifier none ⟨13, 20⟩ [],
          .mk .object (some .value) ⟨23, 36⟩ [.mk .pair none ⟨25, 34⟩
            [.mk .identifier (some .key) ⟨25, 28⟩ [], .mk .number (some .value) ⟨30, 34⟩ []]]]]],
      .mk .variableDeclaration none ⟨38, 47⟩
        [.mk .declarator none ⟨42, 43⟩ [.mk .identifier none ⟨42, 43⟩ []], .mk .error none ⟨44, 45⟩ []]]

private lemma firstProperty?_crowdedScript :
    (Script.parse .javascript crowdedScript).firstProperty? crowdedScript vus = some ⟨vus, ['5', '0', '1'], 1⟩ := by
  cbv

private lemma firstProperty?_recoveredTree :
    recoveredTree.firstProperty? faultyScript vus = some ⟨vus, ['1', '0', '0', '0'], 1⟩ := by
  cbv

/-- The first script is rejected with the default ceiling, and passes with a ceiling that is one higher. The second is
rejected when its tree has the pair in it. -/
theorem ceiling_decided_by_scan_crowdedScript :
    (analyze Script.parse {} (Text.ofChars crowdedScript) (Text.ofString "javascript")).value.valid = false ∧
      (analyze Script.parse { maxVus := 501 } (Text.ofChars crowdedScript) (Text.ofString "javascript")).value.valid =
        true ∧
      (analyze (fun _ _ => recoveredTree) {} (Text.ofChars faultyScript) (Text.ofString "javascript")).value.valid =
        false := by
  obtain ⟨-, -, -, hdecided⟩ := ceiling_decided_by_scan
  obtain ⟨n, hn, hproperty⟩ := Node.firstProperty?_eq_some_iff.mp firstProperty?_crowdedScript
  have hvalue : n.valueText crowdedScript = ['5', '0', '1'] := congrArg Property.value hproperty
  obtain ⟨m, hm, hrecovered⟩ := Node.firstProperty?_eq_some_iff.mp firstProperty?_recoveredTree
  have hthousand : m.valueText faultyScript = ['1', '0', '0', '0'] := congrArg Property.value hrecovered
  refine ⟨?_, ?_, ?_⟩
  · have hscan : Scan (n.valueText crowdedScript) [] [] ['5', '0', '1'] [] 1 := by
      rw [hvalue]
      exact .of_digits (List.all_eq_true.mp rfl)
    exact (hdecided Script.parse {} _ _ (by decide +kernel)).2.2 .javascript crowdedScript n [] [] ['5', '0', '1'] [] 1
      rfl rfl hn hscan (by decide)
  · refine (hdecided Script.parse _ _ _ (by decide +kernel)).2.1.mpr
      ⟨.javascript, crowdedScript, rfl, rfl, fun k hk _ => ?_⟩
    rw [valueText_eq_of_isFirstPair hk hn, hvalue]
    exact ⟨501, rfl, by decide⟩
  · have hscan : Scan (m.valueText faultyScript) [] [] ['1', '0', '0', '0'] [] 1 := by
      rw [hthousand]
      exact .of_digits (List.all_eq_true.mp rfl)
    exact (hdecided _ {} _ _ (by decide +kernel)).2.2 .javascript faultyScript m [] [] ['1', '0', '0', '0'] [] 1
      rfl rfl hm hscan (by decide)

end Resources

end ScriptVet
