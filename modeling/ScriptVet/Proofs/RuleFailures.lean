import ScriptVet.Proofs.ViolationList

/-!
# Rules that cannot be applied

A rule fails when it was never prepared, and every rule fails on a text without a UTF-8 form. One failure takes the
whole analysis with it: the verdict then holds the message of the first rule that fails, by category and then by rule,
and nothing of what the other rules find. `analyze_all_or_nothing` says this of every registry and every text.
-/

namespace ScriptVet

/-- A rule fails when it was never prepared or the text has no UTF-8 form. -/
lemma Rule.exists_search_eq_error_iff {r : Rule} {text : Text} :
    (∃ e, r.search text = .error e) ↔ r.regex = none ∨ ¬ text.HasUtf8 := by
  unfold search
  cases r.regex with
  | none => exact iff_of_true ⟨_, rfl⟩ (Or.inl rfl)
  | some regex =>
    dsimp only
    rw [or_iff_right (Option.some_ne_none regex)]
    constructor
    · rintro ⟨e, h⟩ ⟨cs, rfl⟩
      rw [Text.encode_ofChars] at h
      cases h
    · intro hnot
      cases hencode : text.encode with
      | error bad => exact ⟨_, rfl⟩
      | ok cs => exact absurd ⟨cs, Text.encode_eq_ok_iff.mp hencode⟩ hnot

namespace Patterns

variable {g : Registry} {text : Text}

/-- A rule that fails is all that is reported, and all that is logged. -/
lemma analyze_of_firstFailure {e : RuleError} (h : Steps.FirstFailure (Rule.search · text) g.inOrder e) :
    analyze g text =
      ⟨⟨[if e.message = [] then Text.ofString "Security pattern analysis failed" else e.message]⟩,
        [.analysisFailed .pattern (.rule e)]⟩ := by
  have hreport : (Failure.rule e).report "Security pattern analysis failed" =
      if e.message = [] then Text.ofString "Security pattern analysis failed" else e.message := by
    unfold Failure.report
    simp only [Failure.message, List.isEmpty_iff]
  rw [analyze, Registry.violations_eq_error_iff.mpr h]
  dsimp only
  rw [hreport]

private lemma analyze_of_violations {vs : List Violation} (h : g.violations text = .ok vs) :
    analyze g text = ⟨⟨vs.map violationError⟩, vs.map fun v => .patternViolation v.category⟩ := by
  rw [analyze, h]

/-- **The analysis reports all violations or none.** If a rule fails, the first one that does, by category and then by
rule, gives the only error and the only record, whatever the rules before and after it find: no violation is reported
and none is logged. If no rule fails, the errors and the records are those of the list of violations, one for each. One
of the two is always the case. A rule fails when it was never prepared or the text has no UTF-8 form. -/
theorem analyze_all_or_nothing (g : Registry) (text : Text) :
    (∀ before r after e, g.inOrder = before ++ r :: after → (∀ q ∈ before, ∃ found, q.search text = .ok found) →
        r.search text = .error e →
        (analyze g text).value.valid = false ∧
          (analyze g text).value.errors =
            [if e.message = [] then Text.ofString "Security pattern analysis failed" else e.message] ∧
          (analyze g text).events = [.analysisFailed .pattern (.rule e)]) ∧
      ((∀ r ∈ g.inOrder, ∃ found, r.search text = .ok found) →
        ∃ vs, g.violations text = .ok vs ∧ g.Lists text vs ∧
          (analyze g text).value.errors = vs.map violationError ∧
          (analyze g text).events = vs.map fun v => .patternViolation v.category) ∧
      ((∀ r ∈ g.inOrder, ∃ found, r.search text = .ok found) ∨
        ∃ before r after e, g.inOrder = before ++ r :: after ∧ (∀ q ∈ before, ∃ found, q.search text = .ok found) ∧
          r.search text = .error e) ∧
      ∀ r : Rule, (∃ e, r.search text = .error e) ↔ r.regex = none ∨ ¬ text.HasUtf8 := by
  refine ⟨?_, ?_, ?_, fun r => Rule.exists_search_eq_error_iff⟩
  · intro before r after e horder hbefore hr
    rw [analyze_of_firstFailure ⟨before, r, after, horder, hbefore, hr⟩]
    exact ⟨rfl, rfl, rfl⟩
  · intro hall
    obtain ⟨vs, hvs, hordered, hmem⟩ := Registry.violations_spec fun r hr => hall r (Registry.mem_inOrder_iff.mpr hr)
    rw [analyze_of_violations hvs]
    exact ⟨vs, hvs, ⟨hordered, hmem⟩, rfl, rfl⟩
  · by_cases hall : ∀ r ∈ g.inOrder, ∃ found, r.search text = .ok found
    · exact Or.inl hall
    · obtain ⟨e, before, r, after, h⟩ := Steps.exists_firstFailure_iff.mpr hall
      exact Or.inr ⟨before, r, after, e, h⟩

/-- Rules that find a letter, and rules that were never prepared. The first rule of the list is not the first that is
applied. -/
def halfPrepared : Registry where
  rules :=
    [("A", .xss, none), ("B", .dangerousFunctions, some (.set ⟨[(120, 120)]⟩)), ("C", .dangerousFunctions, none),
      ("D", .xss, some (.set ⟨[(120, 120)]⟩))].map
    fun (id, category, regex) => ⟨⟨Text.ofString id, category, [], []⟩, regex⟩

theorem analyze_all_or_nothing_halfPrepared :
    (analyze halfPrepared (Text.ofString "x")).value.errors = [Text.ofString "Pattern C was not compiled"] ∧
      (analyze halfPrepared (Text.ofString "x")).events =
        [.analysisFailed .pattern (.rule (.notCompiled (Text.ofString "C")))] := by
  obtain ⟨hfailed, -⟩ := analyze_all_or_nothing halfPrepared (Text.ofString "x")
  obtain ⟨-, herrors, hevents⟩ := hfailed (halfPrepared.inOrder.take 1) _ _ (.notCompiled (Text.ofString "C")) rfl
    (fun q hq => ⟨some ⟨['x'], 0, 1⟩, by obtain rfl := List.mem_singleton.mp hq; rfl⟩) rfl
  exact ⟨herrors.trans (by decide), hevents⟩

end Patterns

end ScriptVet
