import ScriptVet.Proofs.Analyses

/-!
# The default rules as expressions

The default rules are written as texts. Here they are as expressions, put together from a few parts: letters in
either case, blanks, the edge of a word. `default_regexes` says that these are what the texts are read as, so that no
proof on the default rules has to read a text again, and `default_forall_regex_iff` is the way from the rules to them.

What the parts match stands beside them, for any place and any text behind. Most texts do not have the characters that
an expression needs: `leaves` finds that out from the expression, without a search.
-/

namespace ScriptVet

namespace Regex

/-! ## Parts of expressions -/

/-- A character in either case. -/
def letter (c : Char) : Regex := .set (CharSet.single c.toNat).fold

/-- Characters in either case one behind another, and then another expression. -/
def spelled (letters : List Char) (next : Regex) : Regex := letters.foldr (fun c r => .seq (letter c) r) next

/-- At least so many blanks. -/
def blanks (least : Nat) : Regex := .rep least none true (.set CharSet.space.fold.normalize)

/-- The edge of a word. -/
def edge : Regex := .anchor .wordBoundary

/-- A quotation mark of any kind. -/
def quotationMark : Regex := .set ⟨[(0x22, 0x22), (0x27, 0x27), (0x60, 0x60)]⟩

/-- The hexadecimal digits. -/
def hexDigit : CharSet := ⟨[(0x30, 0x39), (0x41, 0x46), (0x61, 0x66)]⟩

/-- So many characters of a set. -/
def exactly (count : Nat) (s : CharSet) : Regex := .rep count (some count) true (.set s)

/-- A set and what follows it match a character and what follows that. -/
theorem matches_seq_set_iff {s : CharSet} {r : Regex} {before : Option Char} {word rest : List Char} :
    (seq (set s) r).Matches before word rest ↔
      ∃ c w, word = c :: w ∧ s.contains c = true ∧ r.Matches (some c) w rest := by
  constructor
  · rintro ⟨u, v, rfl, ⟨c, rfl, hc⟩, hr⟩
    exact ⟨c, v, rfl, hc, hr⟩
  · rintro ⟨c, w, rfl, hc, hr⟩
    exact ⟨[c], w, rfl, ⟨c, rfl, hc⟩, hr⟩

lemma matches_exactly_iff {count : Nat} {s : CharSet} {before : Option Char} {word rest : List Char} :
    (exactly count s).Matches before word rest ↔ word.length = count ∧ ∀ c ∈ word, s.contains c = true := by
  unfold exactly
  rw [matches_rep_set_iff, ← and_assoc]
  refine and_congr_left fun _ => ?_
  constructor
  · rintro ⟨hleast, hmost⟩
    exact Nat.le_antisymm (hmost count rfl) hleast
  · intro hlength
    exact ⟨hlength.ge, fun m hm => hlength.le.trans (Option.some.inj hm).le⟩

/-! ## Texts of a few characters -/

/-- Every match of the expression takes a character that is none of the given ones. -/
def leaves (alphabet : List Char) : Regex → Bool
  | empty => false
  | set s => alphabet.all fun c => !s.contains c
  | anchor _ => false
  | seq r s => leaves alphabet r || leaves alphabet s
  | alt r s => leaves alphabet r && leaves alphabet s
  | rep least _ _ r => 0 < least && leaves alphabet r

/-- An expression that leaves an alphabet matches with a character outside of it. -/
lemma exists_not_mem_of_leaves {alphabet : List Char} {r : Regex} (h : r.leaves alphabet = true)
    {before : Option Char} {word rest : List Char} (hmatch : r.Matches before word rest) :
    ∃ c ∈ word, c ∉ alphabet := by
  induction r generalizing before word rest with
  | empty => cases h
  | set s =>
    obtain ⟨c, rfl, hc⟩ := hmatch
    refine ⟨c, List.mem_singleton.mpr rfl, fun hmem => ?_⟩
    have hnot := List.all_eq_true.mp h c hmem
    simp [hc] at hnot
  | anchor a => cases h
  | seq r s ihr ihs =>
    obtain ⟨u, v, rfl, hu, hv⟩ := hmatch
    rcases Bool.or_eq_true_iff.mp h with h | h
    · obtain ⟨c, hc, hleft⟩ := ihr h hu
      exact ⟨c, List.mem_append_left _ hc, hleft⟩
    · obtain ⟨c, hc, hleft⟩ := ihs h hv
      exact ⟨c, List.mem_append_right _ hc, hleft⟩
  | alt r s ihr ihs =>
    obtain ⟨hr, hs⟩ := Bool.and_eq_true_iff.mp h
    exact hmatch.elim (ihr hr) (ihs hs)
  | rep least most greedy r ih =>
    obtain ⟨hleast, hr⟩ := Bool.and_eq_true_iff.mp h
    obtain ⟨n, hn, -, hrounds⟩ := hmatch
    cases n with
    | zero =>
      have := of_decide_eq_true hleast
      omega
    | succ n =>
      obtain ⟨u, v, rfl, hu, -⟩ := hrounds
      obtain ⟨c, hc, hleft⟩ := ih hr hu
      exact ⟨c, List.mem_append_left _ hc, hleft⟩

/-- An expression that leaves an alphabet does not match in a text within it. -/
theorem not_matchesIn_of_leaves {alphabet : List Char} {r : Regex} (h : r.leaves alphabet = true) {cs : List Char}
    (hcs : ∀ c ∈ cs, c ∈ alphabet) : ¬ r.MatchesIn cs := by
  rintro ⟨u, w, v, rfl, hmatch⟩
  obtain ⟨c, hc, hleft⟩ := exists_not_mem_of_leaves h hmatch
  exact hleft (hcs c (by simp [hc]))

/-! ## The default rules -/

/-- A call of `eval`. -/
def evalCall : Regex := .seq edge (spelled ['e', 'v', 'a', 'l'] (.seq (blanks 0) (letter '(')))

/-- The word `Function`. -/
def functionWord : List Char := ['F', 'u', 'n', 'c', 't', 'i', 'o', 'n']

/-- A call of the constructor of functions. -/
def functionConstructor : Regex :=
  .seq edge (spelled ['n', 'e', 'w'] (.seq (blanks 1) (spelled functionWord (.seq (blanks 0) (letter '(')))))

/-- A call of the constructor of functions by way of the global object. -/
def globalFunction : Regex :=
  .seq edge (.seq
    (.alt (spelled ['w', 'i', 'n', 'd', 'o', 'w'] (letter '.'))
      (spelled ['g', 'l', 'o', 'b', 'a', 'l', 'T', 'h', 'i', 's'] (letter '.')))
    (spelled functionWord (.seq (blanks 0) (letter '('))))

/-- The constructor of functions in brackets. -/
def bracketFunction : Regex :=
  .seq edge (.seq (.alt (spelled ['t', 'h', 'i'] (letter 's')) (spelled ['s', 'e', 'l'] (letter 'f')))
    (.seq (letter '[') (.seq quotationMark (spelled functionWord (.seq quotationMark (letter ']'))))))

/-- A script inside a page. -/
def inlineScript : Regex :=
  spelled ['<', 's', 'c', 'r', 'i', 'p', 't'] (.seq (.rep 0 none true (.set ⟨[(0, 0x3D), (0x3F, lastCode)]⟩))
    (.seq (letter '>') (.seq (.rep 0 none false (.set .all))
      (spelled ['<', '/', 's', 'c', 'r', 'i', 'p', 't'] (letter '>')))))

/-- An address that is a script. -/
def scriptAddress : Regex :=
  spelled ['j', 'a', 'v', 'a', 's', 'c', 'r', 'i', 'p', 't'] (.seq (blanks 0) (letter ':'))

/-- A handler of events inside a page. -/
def eventHandler : Regex :=
  .seq edge (spelled ['o', 'n'] (.seq
    (.alt (spelled ['c', 'l', 'i', 'c'] (letter 'k')) (.alt (spelled ['l', 'o', 'a'] (letter 'd'))
      (.alt (spelled ['e', 'r', 'r', 'o'] (letter 'r')) (.alt (spelled ['f', 'o', 'c', 'u'] (letter 's'))
        (spelled ['b', 'l', 'u'] (letter 'r'))))))
    (.seq (blanks 0) (letter '='))))

/-- A statement that joins two selections. -/
def unionSelect : Regex :=
  .seq edge (spelled ['U', 'N', 'I', 'O', 'N'] (.seq (blanks 1) (spelled ['S', 'E', 'L', 'E', 'C', 'T'] edge)))

/-- What may stand between the words of a selection: characters of words, stars, commas and blanks. The two beyond
ASCII are the long s and the sign of the kelvin, which are letters in another case. -/
def selectedColumns : CharSet :=
  ⟨[(9, 10), (12, 13), (0x20, 0x20), (0x2A, 0x2A), (0x2C, 0x2C), (0x30, 0x39), (0x41, 0x5A), (0x5F, 0x5F),
    (0x61, 0x7A), (0x17F, 0x17F), (0x212A, 0x212A)]⟩

/-- A selection from a table. -/
def selectFrom : Regex :=
  .seq edge (spelled ['S', 'E', 'L', 'E', 'C', 'T'] (.seq (blanks 1) (.seq
    (.rep 1 (some 30) true (.set selectedColumns)) (.seq (blanks 1) (spelled ['F', 'R', 'O', 'M'] edge)))))

/-- A statement that changes a table. -/
def destructiveStatement : Regex :=
  .seq edge (.seq
    (.alt (spelled ['D', 'R', 'O'] (letter 'P')) (.alt (spelled ['D', 'E', 'L', 'E', 'T'] (letter 'E'))
      (.alt (spelled ['I', 'N', 'S', 'E', 'R'] (letter 'T')) (spelled ['U', 'P', 'D', 'A', 'T'] (letter 'E')))))
    (.seq (blanks 1) (.seq
      (.alt (spelled ['T', 'A', 'B', 'L'] (letter 'E')) (.alt (spelled ['F', 'R', 'O'] (letter 'M'))
        (.alt (spelled ['I', 'N', 'T'] (letter 'O')) (spelled ['S', 'E'] (letter 'T')))))
      edge)))

/-- An escape sequence with two hexadecimal digits. -/
def hexEscape : Regex := spelled ['\\', 'x'] (exactly 2 hexDigit)

/-- An escape sequence with four hexadecimal digits. -/
def unicodeEscape : Regex := spelled ['\\', 'u'] (exactly 4 hexDigit)

/-- Text made from the numbers of characters. -/
def charCodeConversion : Regex :=
  spelled ['S', 't', 'r', 'i', 'n', 'g', '.', 'f', 'r', 'o', 'm', 'C', 'h', 'a', 'r', 'C', 'o', 'd'] (letter 'e')

end Regex

namespace Registry

/-- The expressions of the default rules, in order. -/
def defaultRegexes : List Regex :=
  [.evalCall, .functionConstructor, .globalFunction, .bracketFunction, .inlineScript, .scriptAddress, .eventHandler,
    .unionSelect, .selectFrom, .destructiveStatement, .hexEscape, .unicodeEscape, .charCodeConversion]

/-- A compiler reads the text of a rule as an expression. -/
def ReadsAs (compiler : Regex.Compiler) (d : RuleDefinition) (r : Regex) : Prop :=
  ∃ cs, d.expression = Text.ofChars cs ∧ compiler cs = .ok r

end Registry

variable {compiler : Regex.Compiler}

/-- A rule is prepared when its text is read as an expression. What is written down about it stays. -/
theorem Rule.compile_eq_ok_iff {d : RuleDefinition} {r : Rule} :
    compile compiler d = .ok r ↔
      ∃ regex, Registry.ReadsAs compiler d regex ∧ r = { d with regex := some regex } := by
  unfold compile
  constructor
  · intro h
    split at h
    · cases h
    · next cs hencode =>
      split at h
      · cases h
      · next regex hparse =>
        exact ⟨regex, ⟨cs, Text.encode_eq_ok_iff.mp hencode, hparse⟩, (Except.ok.inj h).symm⟩
  · rintro ⟨regex, ⟨cs, htext, hparse⟩, rfl⟩
    rw [htext, Text.encode_ofChars]
    dsimp only
    rw [hparse]

namespace Registry

set_option maxRecDepth 2000 in
/-- Reading a text takes many steps, so it is done once and here. -/
lemma defaultDefinitions_readAs : List.Forall₂ (ReadsAs Regex.compile) defaultDefinitions defaultRegexes := by
  refine .cons ?_ (.cons ?_ (.cons ?_ (.cons ?_ (.cons ?_ (.cons ?_ (.cons ?_ (.cons ?_ (.cons ?_ (.cons ?_
    (.cons ?_ (.cons ?_ (.cons ?_ .nil)))))))))))) <;> exact ⟨_, rfl, rfl⟩

/-- Rules whose texts are read as expressions can be prepared, with these expressions. -/
lemma exists_build_eq_ok {definitions : List RuleDefinition} {regexes : List Regex}
    (h : List.Forall₂ (ReadsAs compiler) definitions regexes) :
    ∃ g, build compiler definitions = .ok g ∧ g.rules.map (·.regex) = regexes.map some := by
  induction h with
  | nil => exact ⟨⟨[]⟩, rfl, rfl⟩
  | @cons d r ds rs hd _ ih =>
    obtain ⟨g, hg, hregexes⟩ := ih
    have hcompile : Rule.compile compiler d = .ok { d with regex := some r } := Rule.compile_eq_ok_iff.mpr ⟨r, hd, rfl⟩
    obtain ⟨rules, hrules, hg⟩ := Steps.bind_eq_ok_iff.mp hg
    obtain rfl := Steps.pure_eq_ok_iff.mp hg
    refine ⟨⟨{ d with regex := some r } :: rules⟩, ?_, ?_⟩
    · refine Steps.bind_eq_ok_iff.mpr ⟨_, Steps.mapM_eq_ok_iff.mpr (.cons hcompile ?_), rfl⟩
      exact Steps.mapM_eq_ok_iff.mp hrules
    · rw [List.map_cons, List.map_cons, hregexes]

/-- **The default rules are these expressions.** -/
theorem default_regexes : default.rules.map (·.regex) = defaultRegexes.map some := by
  obtain ⟨g, hg, hregexes⟩ := exists_build_eq_ok defaultDefinitions_readAs
  unfold default
  rw [hg]
  exact hregexes

/-- What holds of all default rules holds of all these expressions. -/
theorem default_forall_regex_iff {P : Option Regex → Prop} :
    (∀ r ∈ default.rules, P r.regex) ↔ ∀ regex ∈ defaultRegexes, P (some regex) := by
  have hmap : (∀ x ∈ default.rules.map (·.regex), P x) ↔ ∀ x ∈ defaultRegexes.map some, P x := by
    rw [default_regexes]
  simpa only [List.forall_mem_map] using hmap

/-- What holds of the listed expressions holds of those of the rules. -/
theorem of_mem_default_rules {P : Regex → Prop} (h : ∀ regex ∈ defaultRegexes, P regex) {r : Rule}
    (hr : r ∈ default.rules) {regex : Regex} (hregex : r.regex = some regex) : P regex := by
  have hall := default_forall_regex_iff (P := fun x => ∀ regex, x = some regex → P regex)
  refine hall.mpr ?_ r hr regex hregex
  intro regex hmem regex' heq
  rw [← Option.some.inj heq]
  exact h regex hmem

lemma exists_default_rule {regex : Regex} (h : regex ∈ defaultRegexes) :
    ∃ r ∈ default.rules, r.regex = some regex := by
  rw [← List.mem_map, default_regexes]
  exact List.mem_map_of_mem h

/-! ### Rules by category -/

/-- Preparing a rule leaves what is written down about it. -/
lemma map_toRuleDefinition_of_build {definitions : List RuleDefinition} {g : Registry}
    (h : build compiler definitions = .ok g) : g.rules.map (·.toRuleDefinition) = definitions := by
  obtain ⟨rules, hrules, hg⟩ := Steps.bind_eq_ok_iff.mp h
  obtain rfl := Steps.pure_eq_ok_iff.mp hg
  have hcompiled := Steps.mapM_eq_ok_iff.mp hrules
  clear h hg hrules
  induction hcompiled with
  | nil => rfl
  | @cons d r ds rs hd _ ih =>
    obtain ⟨regex, -, rfl⟩ := Rule.compile_eq_ok_iff.mp hd
    rw [List.map_cons, ih]

private lemma default_definitions : default.rules.map (·.toRuleDefinition) = defaultDefinitions := by
  obtain ⟨g, hg, -⟩ := exists_build_eq_ok defaultDefinitions_readAs
  unfold default
  rw [hg]
  exact map_toRuleDefinition_of_build hg

/-- The expressions of the default rules of a category, in order. -/
def defaultRegexesOf : Category → List Regex
  | .dangerousFunctions => [.evalCall, .functionConstructor, .globalFunction, .bracketFunction]
  | .xss => [.inlineScript, .scriptAddress, .eventHandler]
  | .sqlInjection => [.unionSelect, .selectFrom, .destructiveStatement]
  | .obfuscation => [.hexEscape, .unicodeEscape, .charCodeConversion]

/-- **The default rules of a category are these expressions.** -/
theorem default_forCategory_regexes (c : Category) :
    (default.forCategory c).map (·.regex) = (defaultRegexesOf c).map some := by
  have hpairs : default.rules.map (fun r => (r.category, r.regex)) =
      (defaultDefinitions.map (·.category)).zip (defaultRegexes.map some) := by
    rw [← default_regexes, ← default_definitions, List.map_map, List.zip_map']
    rfl
  have hfilter : (default.forCategory c).map (·.regex) =
      ((default.rules.map fun r => (r.category, r.regex)).filter fun p => p.1 = c).map Prod.snd := by
    rw [List.filter_map, List.map_map]
    rfl
  rw [hfilter, hpairs]
  cases c <;> rfl

/-- The default rules, each with its expression. -/
theorem default_rules_eq :
    default.rules =
      List.zipWith (fun d regex => { d with regex := some regex }) defaultDefinitions defaultRegexes := by
  have hsplit : default.rules = List.zipWith Rule.mk (default.rules.map (·.toRuleDefinition))
      (default.rules.map (·.regex)) := by
    rw [List.zipWith_map, List.zipWith_self, List.map_id']
  rw [hsplit, default_definitions, default_regexes, List.zipWith_map_right]

/-- The rules with an identifier. -/
def named (g : Registry) (id : String) : List Rule := g.rules.filter fun r => r.id = Text.ofString id

/-- A default rule that is given by its category and its place there, and its expression. -/
theorem exists_default_rule_at_iff {c : Category} {k : Nat} {regex : Regex} :
    (∃ r, (default.forCategory c)[k]? = some r ∧ r.regex = some regex) ↔ (defaultRegexesOf c)[k]? = some regex := by
  have hmap := congrArg (fun rs => rs[k]?) (default_forCategory_regexes c)
  simp only [List.getElem?_map] at hmap
  constructor
  · rintro ⟨r, hr, hregex⟩
    rw [hr, Option.map_some, hregex] at hmap
    obtain ⟨regex', hregex', heq⟩ := Option.map_eq_some_iff.mp hmap.symm
    rw [hregex', Option.some.inj heq]
  · intro h
    rw [h, Option.map_some] at hmap
    exact Option.map_eq_some_iff.mp hmap

end Registry

/-- The default rules pass a text with a UTF-8 form in which none of their expressions matches. -/
theorem Patterns.analyze_default_valid_iff {cs : List Char} :
    (analyze Registry.default (Text.ofChars cs)).value.valid = true ↔
      ∀ regex ∈ Registry.defaultRegexes, ¬ regex.MatchesIn cs := by
  unfold Verdict.valid
  rw [List.isEmpty_iff, analyze_errors_eq_nil_iff]
  simp only [Rule.search_eq_none_iff]
  rw [Registry.default_forall_regex_iff (P := fun x => ∃ regex, x = some regex ∧ ¬ regex.MatchesIn cs)]
  simp

end ScriptVet
