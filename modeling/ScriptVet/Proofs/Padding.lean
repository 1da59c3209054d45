import ScriptVet.Proofs.Obfuscation
import ScriptVet.Proofs.ViolationList

/-!
# Text around a violation

A rule looks at the whole text of a script. One could try to hide something from it by what stands around: in earlier
text another match may begin, later text may go on with the last word. `onlyEdges` are the expressions that see
nothing of what stands around a match but whether it is a character of words. Lines of their own keep such characters
away on both sides, so what matches in a text matches as well where the text is a few lines of a longer one
(`matchesIn_lines`). All default rules are of this kind.
-/

namespace ScriptVet

namespace Regex

/-! ## Expressions that see edges of words only -/

/-- The expression asks for nothing outside a match but edges of words. -/
def onlyEdges : Regex → Bool
  | empty => true
  | set _ => true
  | anchor a => a = .wordBoundary || a = .noWordBoundary
  | seq r s => onlyEdges r && onlyEdges s
  | alt r s => onlyEdges r && onlyEdges s
  | rep _ _ _ r => onlyEdges r

/-- Two places look alike when words go on or end alike there. -/
lemma isWord_behind_congr {before before' : Option Char} (h : isWord before = isWord before') (word : List Char) :
    isWord (behind before word) = isWord (behind before' word) := by
  unfold behind
  cases word.getLast? with
  | none => exact h
  | some c => rfl

private lemma isWord_head?_append_congr {rest rest' : List Char} (h : isWord rest.head? = isWord rest'.head?)
    (word : List Char) : isWord (word ++ rest).head? = isWord (word ++ rest').head? := by
  cases word with
  | nil => exact h
  | cons c word => rfl

/-- A match stays a match between other texts, as long as words go on or end alike on both sides. -/
lemma matches_of_onlyEdges {r : Regex} (hedges : r.onlyEdges = true) {before before' : Option Char}
    {word rest rest' : List Char} (hbefore : isWord before = isWord before')
    (hrest : isWord rest.head? = isWord rest'.head?) (h : r.Matches before word rest) :
    r.Matches before' word rest' := by
  induction r generalizing before before' word rest rest' with
  | empty => exact h
  | set s => exact h
  | anchor a =>
    obtain ⟨rfl, hholds⟩ := h
    refine ⟨rfl, ?_⟩
    rcases Bool.or_eq_true_iff.mp hedges with ha | ha
    · rw [of_decide_eq_true ha] at hholds ⊢
      unfold Anchor.holds at hholds ⊢
      rwa [← hbefore, ← hrest]
    · rw [of_decide_eq_true ha] at hholds ⊢
      unfold Anchor.holds at hholds ⊢
      rwa [← hbefore, ← hrest]
  | seq r s ihr ihs =>
    obtain ⟨hr, hs⟩ := Bool.and_eq_true_iff.mp hedges
    obtain ⟨u, v, rfl, hu, hv⟩ := h
    refine ⟨u, v, rfl, ?_, ?_⟩
    · exact ihr hr hbefore (isWord_head?_append_congr hrest v) hu
    · exact ihs hs (isWord_behind_congr hbefore u) hrest hv
  | alt r s ihr ihs =>
    obtain ⟨hr, hs⟩ := Bool.and_eq_true_iff.mp hedges
    exact h.imp (ihr hr hbefore hrest) (ihs hs hbefore hrest)
  | rep least most greedy r ih =>
    obtain ⟨n, hleast, hmost, hrounds⟩ := h
    refine ⟨n, hleast, hmost, ?_⟩
    clear hleast hmost
    induction n generalizing before before' word with
    | zero => exact hrounds
    | succ n ihn =>
      obtain ⟨u, v, rfl, hu, hv⟩ := hrounds
      refine ⟨u, v, rfl, ?_, ?_⟩
      · exact ih hedges hbefore (isWord_head?_append_congr hrest v) hu
      · exact ihn (isWord_behind_congr hbefore u) hv

/-- What matches in a text matches where the text stands on lines of its own. -/
lemma matchesIn_lines {r : Regex} (hedges : r.onlyEdges = true) {cs : List Char} (h : r.MatchesIn cs)
    (ps ss : List Char) : r.MatchesIn (ps ++ '\n' :: (cs ++ '\n' :: ss)) := by
  obtain ⟨u, w, v, rfl, hmatch⟩ := h
  have hnewline : isWord none = isWord (some '\n') := by decide
  have hbefore : isWord (behind none u) = isWord (behind none (ps ++ '\n' :: u)) := by
    rw [behind_append, behind_cons]
    exact isWord_behind_congr hnewline u
  have hrest : isWord (v ++ []).head? = isWord (v ++ '\n' :: ss).head? :=
    @isWord_head?_append_congr [] ('\n' :: ss) hnewline v
  rw [List.append_nil] at hrest
  refine ⟨ps ++ '\n' :: u, w, v ++ '\n' :: ss, by simp, ?_⟩
  exact matches_of_onlyEdges hedges hbefore hrest hmatch

/-- The default expressions ask for edges of words and nothing else. -/
lemma default_onlyEdges : ∀ regex ∈ Registry.defaultRegexes, regex.onlyEdges = true :=
  List.all_eq_true.mp (by decide +kernel)

end Regex

/-! ## Rules and lines -/

/-- A text on lines of its own, with other texts before and behind it. -/
def Text.onLines (p t s : Text) : Text := p ++ Text.ofString "\n" ++ t ++ Text.ofString "\n" ++ s

/-- A text on lines of its own has a UTF-8 form when all its parts do. -/
lemma Text.onLines_eq_ofChars {p t s : Text} (h : (Text.onLines p t s).HasUtf8) :
    ∃ ps cs ss, t = Text.ofChars cs ∧ Text.onLines p t s = Text.ofChars (ps ++ '\n' :: (cs ++ '\n' :: ss)) := by
  unfold Text.onLines at h
  simp only [Text.hasUtf8_append] at h
  obtain ⟨⟨⟨⟨⟨ps, rfl⟩, -⟩, cs, rfl⟩, -⟩, ss, rfl⟩ := h
  refine ⟨ps, cs, ss, rfl, ?_⟩
  unfold Text.onLines Text.ofString Text.ofChars
  simp

namespace Rule

variable {r : Rule} {p t s : Text}

/-- A rule that sees edges of words only matches in a text on lines of its own when it matches in the text. -/
lemma MatchesIn.onLines (hedges : ∀ regex, r.regex = some regex → regex.onlyEdges = true)
    (hutf8 : (Text.onLines p t s).HasUtf8) (h : r.MatchesIn t) : r.MatchesIn (Text.onLines p t s) := by
  obtain ⟨ps, cs, ss, rfl, hlines⟩ := Text.onLines_eq_ofChars hutf8
  obtain ⟨regex, cs', hregex, hcs, hmatch⟩ := h
  obtain rfl := Text.ofChars_injective hcs
  exact ⟨regex, _, hregex, hlines, Regex.matchesIn_lines (hedges regex hregex) hmatch ps ss⟩

/-- Where such a rule finds nothing, it finds nothing in the lines either. -/
lemma search_eq_none_of_onLines (hedges : ∀ regex, r.regex = some regex → regex.onlyEdges = true)
    (h : r.search (Text.onLines p t s) = .ok none) : r.search t = .ok none := by
  obtain ⟨ps, cs, ss, rfl, hlines⟩ := Text.onLines_eq_ofChars (hasUtf8_of_search_eq_ok h)
  rw [hlines, search_eq_none_iff] at h
  obtain ⟨regex, hregex, hnot⟩ := h
  refine search_eq_none_iff.mpr ⟨regex, hregex, ?_⟩
  intro hmatch
  exact hnot (Regex.matchesIn_lines (hedges regex hregex) hmatch ps ss)

end Rule

namespace Patterns

/-- **Text around a violation does not hide it.** When the default rules find a text invalid, they find it invalid on
lines of its own between any other texts. And when all of it has a UTF-8 form, each rule, given by its category and its
place there, that finds something in the text finds something in all of it. -/
theorem padding_hides_nothing (p t s : Text) :
    let padded := p ++ Text.ofString "\n" ++ t ++ Text.ofString "\n" ++ s
    ((analyze Registry.default t).value.valid = false → (analyze Registry.default padded).value.valid = false) ∧
      (padded.HasUtf8 → ∀ (c : Category) (k : Nat) (r : Rule), (Registry.default.forCategory c)[k]? = some r →
        (∃ m, r.search t = .ok (some m)) → ∃ m, r.search padded = .ok (some m)) := by
  intro padded
  constructor
  · intro hinvalid
    rw [Bool.eq_false_iff] at hinvalid ⊢
    intro hvalid
    have hnone := analyze_errors_eq_nil_iff.mp (List.isEmpty_iff.mp hvalid)
    refine hinvalid (List.isEmpty_iff.mpr (analyze_errors_eq_nil_iff.mpr fun r hr => ?_))
    refine Rule.search_eq_none_of_onLines ?_ (hnone r hr)
    exact fun _ => Registry.of_mem_default_rules Regex.default_onlyEdges hr
  · intro hutf8 c k r hr hfound
    have hmem : r ∈ Registry.default.rules := (List.mem_filter.mp (List.mem_of_getElem? hr)).1
    simp only [Rule.search_eq_some_iff, Rule.exists_finds_iff] at hfound ⊢
    exact hfound.onLines (fun _ => Registry.of_mem_default_rules Regex.default_onlyEdges hmem) hutf8

/-- A call of `eval` on a line of its own, between words that would hide it if they stood right beside it. -/
theorem padding_hides_nothing_evalCall :
    let call := Text.ofChars ['e', 'V', 'a', 'l', ' ', '(']
    let padded := Text.ofString "x" ++ Text.ofString "\n" ++ call ++ Text.ofString "\n" ++ Text.ofString "y"
    (analyze Registry.default call).value.valid = false ∧ (analyze Registry.default padded).value.valid = false ∧
      padded.HasUtf8 ∧ ∃ r, (Registry.default.forCategory .dangerousFunctions)[0]? = some r ∧
        (∃ m, r.search call = .ok (some m)) ∧ ∃ m, r.search padded = .ok (some m) := by
  intro call padded
  have hmatch : Regex.evalCall.MatchesIn ['e', 'V', 'a', 'l', ' ', '('] := by
    by_contra hnot
    have hnone := (Regex.search_eq_none_iff _ _).mpr hnot
    revert hnone
    decide +kernel
  have hinvalid : (analyze Registry.default call).value.valid = false := by
    rw [Bool.eq_false_iff, Ne, analyze_default_valid_iff]
    intro hnone
    exact hnone _ (List.mem_cons_self ..) hmatch
  have hutf8 : padded.HasUtf8 := ⟨['x', '\n', 'e', 'V', 'a', 'l', ' ', '(', '\n', 'y'], by decide⟩
  obtain ⟨r, hr, hregex⟩ := Registry.exists_default_rule_at_iff.mpr (rfl :
    (Registry.defaultRegexesOf .dangerousFunctions)[0]? = some .evalCall)
  have hfound : ∃ m, r.search call = .ok (some m) := by
    simp only [Rule.search_eq_some_iff, Rule.exists_finds_iff]
    exact ⟨_, _, hregex, rfl, hmatch⟩
  obtain ⟨hpadded, hrules⟩ := padding_hides_nothing (Text.ofString "x") call (Text.ofString "y")
  exact ⟨hinvalid, hpadded hinvalid, hutf8, r, hr, hfound, hrules hutf8 _ 0 r hr hfound⟩

end Patterns

end ScriptVet
