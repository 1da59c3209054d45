import Mathlib.Algebra.Ring.Nat
import ScriptVet.Proofs.DefaultRules

/-!
# From definitions to the rules of each category

A registry is built from definitions in any order, with any compiler of expressions. Two things are said about it here:

* a definition whose expression cannot be read stops the building, and the first one that does is named
  (`Rule.compile_eq_error_iff`, `build_of_first`);
* otherwise the registry holds, for each category, the definitions of the category in the order in which they stand
  (`partitions_of_build`). It comes to the same as preparing one definition after another and putting each rule behind
  those of its category (`fill_eq`).

The rules are only ever applied by category. So of the order of the definitions nothing matters but the order within each
category (`groups_congr`).
-/

namespace ScriptVet

variable {compiler : Regex.Compiler}

/-! ## Definitions that cannot be prepared -/

namespace RuleDefinition

/-- The expression can be written in UTF-8, and the compiler rejects it for a reason. -/
def Rejected (compiler : Regex.Compiler) (d : RuleDefinition) (reason : List Char) : Prop :=
  ∃ cs, d.expression = Text.ofChars cs ∧ compiler cs = .error reason

/-- The expression can be prepared. -/
def Readable (compiler : Regex.Compiler) (d : RuleDefinition) : Prop := ∃ regex, Registry.ReadsAs compiler d regex

/-- What is reported about a definition: that its expression is rejected, and then the definition is named, or that its
expression has no UTF-8 form. -/
def FailsWith (compiler : Regex.Compiler) (d : RuleDefinition) (e : CompileError) : Prop :=
  (∃ reason, d.Rejected compiler reason ∧ e = .rejected d.id reason ∧
      ∃ shown, e.message = Text.ofString "Pattern " ++ d.id ++ Text.ofString " failed to compile: " ++ shown) ∨
    ∃ bad, d.expression.encode = .error bad ∧ e = .unencodable bad

end RuleDefinition

namespace Rule

/-- A definition can be prepared when its expression can. -/
lemma exists_compile_eq_ok_iff {d : RuleDefinition} : (∃ r, compile compiler d = .ok r) ↔ d.Readable compiler := by
  simp only [compile_eq_ok_iff]
  constructor
  · rintro ⟨r, regex, hreads, -⟩
    exact ⟨regex, hreads⟩
  · rintro ⟨regex, hreads⟩
    exact ⟨_, regex, hreads, rfl⟩

/-- A definition that cannot be prepared fails as reported. -/
lemma compile_eq_error_iff {d : RuleDefinition} {e : CompileError} :
    compile compiler d = .error e ↔ d.FailsWith compiler e := by
  unfold compile
  cases hencode : d.expression.encode with
  | error bad =>
    -- An expression without a UTF-8 form never reaches the compiler.
    have hnone : ∀ reason, ¬ d.Rejected compiler reason := by
      rintro reason ⟨cs, htext, -⟩
      rw [htext, Text.encode_ofChars] at hencode
      cases hencode
    constructor
    · intro h
      exact Or.inr ⟨bad, hencode, (Except.error.inj h).symm⟩
    · rintro (⟨reason, hrejected, -⟩ | ⟨bad', hbad, rfl⟩)
      · exact absurd hrejected (hnone reason)
      · rw [hencode] at hbad
        rw [Except.error.inj hbad]
  | ok cs =>
    have htext : d.expression = Text.ofChars cs := Text.encode_eq_ok_iff.mp hencode
    dsimp only
    constructor
    · intro h
      cases hcompiled : compiler cs with
      | ok regex => rw [hcompiled] at h; cases h
      | error reason =>
        rw [hcompiled] at h
        have he : e = .rejected d.id reason := (Except.error.inj h).symm
        exact Or.inl ⟨reason, ⟨cs, htext, hcompiled⟩, he, _, by rw [he]; rfl⟩
    · rintro (⟨reason, ⟨cs', htext', hcompiled⟩, rfl, -⟩ | ⟨bad, hbad, -⟩)
      · obtain rfl : cs = cs' := Text.ofChars_injective (htext.symm.trans htext')
        rw [hcompiled]
      · rw [hencode] at hbad
        cases hbad

end Rule

namespace Registry

/-- The first definition that cannot be prepared stops the building. -/
lemma build_of_first {before after : List RuleDefinition} {d : RuleDefinition} {e : CompileError}
    (hbefore : ∀ q ∈ before, q.Readable compiler) (he : d.FailsWith compiler e) :
    build compiler (before ++ d :: after) = .error e := by
  have hfirst : Steps.FirstFailure (Rule.compile compiler) (before ++ d :: after) e :=
    ⟨before, d, after, rfl, fun q hq => Rule.exists_compile_eq_ok_iff.mpr (hbefore q hq),
      Rule.compile_eq_error_iff.mpr he⟩
  exact Steps.bind_eq_error_iff.mpr (Or.inl (Steps.mapM_eq_error_iff.mpr hfirst))

private lemma exists_failsWith {d : RuleDefinition} (h : ¬ d.Readable compiler) : ∃ e, d.FailsWith compiler e := by
  cases hcompile : Rule.compile compiler d with
  | ok r => exact absurd (Rule.exists_compile_eq_ok_iff.mp ⟨r, hcompile⟩) h
  | error e => exact ⟨e, Rule.compile_eq_error_iff.mp hcompile⟩

/-! ## Filling the categories -/

private lemma build_eq_ok_iff {ds : List RuleDefinition} {g : Registry} :
    build compiler ds = .ok g ↔ List.Forall₂ (fun d r => Rule.compile compiler d = .ok r) ds g.rules := by
  unfold build
  rw [← Steps.mapM_eq_ok_iff, Steps.bind_eq_ok_iff]
  constructor
  · rintro ⟨rules, hrules, hg⟩
    rw [← Steps.pure_eq_ok_iff.mp hg]
    exact hrules
  · intro h
    exact ⟨g.rules, h, rfl⟩

/-- A registry is built from the first definition and the others. -/
lemma build_cons (compiler : Regex.Compiler) (d : RuleDefinition) (ds : List RuleDefinition) :
    build compiler (d :: ds) =
      Rule.compile compiler d >>= fun r => (build compiler ds).map fun g => ⟨r :: g.rules⟩ := by
  unfold build
  rw [List.mapM_cons]
  cases Rule.compile compiler d with
  | error e => rfl
  | ok r => cases ds.mapM (Rule.compile compiler) <;> rfl

/-- The rules of each category, kept apart. -/
abbrev Grouped := Category → List Rule

namespace Grouped

/-- Puts a rule behind those of its category. -/
def add (held : Grouped) (r : Rule) : Grouped := fun c => if r.category = c then held c ++ [r] else held c

/-- Prepares one definition after another and puts each rule behind those of its category. -/
def fill (compiler : Regex.Compiler) (held : Grouped) : List RuleDefinition → Except CompileError Grouped
  | [] => .ok held
  | d :: ds => do
    let r ← Rule.compile compiler d
    fill compiler (held.add r) ds

/-- One rule more: it is the next of its category, and the other categories stay as they are. -/
lemma add_append_forCategory (held : Grouped) (r : Rule) (rules : List Rule) (c : Category) :
    held.add r c ++ forCategory ⟨rules⟩ c = held c ++ forCategory ⟨r :: rules⟩ c := by
  unfold add forCategory
  by_cases hc : r.category = c
  · rw [if_pos hc, List.filter_cons_of_pos (by simpa using hc), List.append_assoc]
    rfl
  · rw [if_neg hc, List.filter_cons_of_neg (by simpa using hc)]

/-- **Filling the categories one definition after another gives the rules of the registry.** -/
theorem fill_eq (compiler : Regex.Compiler) (held : Grouped) (ds : List RuleDefinition) :
    held.fill compiler ds = (build compiler ds).map fun g c => held c ++ g.forCategory c := by
  induction ds generalizing held with
  | nil =>
    have hheld : (fun c => held c ++ forCategory ⟨[]⟩ c) = held := by
      funext c
      exact List.append_nil _
    show Except.ok held = Except.ok fun c => held c ++ forCategory ⟨[]⟩ c
    rw [hheld]
  | cons d ds ih =>
    rw [fill, build_cons]
    cases Rule.compile compiler d with
    | error e => rfl
    | ok r =>
      show (held.add r).fill compiler ds = _
      rw [ih]
      cases build compiler ds with
      | error e => rfl
      | ok g =>
        have hstep : (fun c => held.add r c ++ g.forCategory c) = fun c => held c ++ forCategory ⟨r :: g.rules⟩ c := by
          funext c
          exact held.add_append_forCategory r g.rules c
        exact congrArg Except.ok hstep

end Grouped

/-! ## What a registry holds -/

/-- The registry holds these definitions, sorted by category. -/
structure Partitions (compiler : Regex.Compiler) (g : Registry) (ds : List RuleDefinition) : Prop where
  /-- Each category has its definitions in the order in which they stand, each with its expression ready to run. -/
  forCategory : ∀ c, List.Forall₂
    (fun d r => r.toRuleDefinition = d ∧ ∃ regex, ReadsAs compiler d regex ∧ r.regex = some regex)
    (ds.filter fun d => d.category = c) (g.forCategory c)
  /-- The categories come one after another, each once and with its rules. -/
  groups : g.groups = [(.dangerousFunctions, g.forCategory .dangerousFunctions), (.xss, g.forCategory .xss),
    (.sqlInjection, g.forCategory .sqlInjection), (.obfuscation, g.forCategory .obfuscation)]
  /-- No definition is lost and none is there twice. -/
  size : g.size = ds.length
  /-- The size is that of all categories together. -/
  sum : (g.groups.map fun group => group.2.length).sum = ds.length

/-- The prepared rules of a category come from its definitions. -/
lemma forCategory_of_build {ds : List RuleDefinition} {g : Registry} (h : build compiler ds = .ok g) (c : Category) :
    List.Forall₂ (fun d r => Rule.compile compiler d = .ok r) (ds.filter fun d => d.category = c) (g.forCategory c) := by
  refine List.rel_filter ?_ (build_eq_ok_iff.mp h)
  intro d r hr
  obtain ⟨regex, -, rfl⟩ := Rule.compile_eq_ok_iff.mp hr
  exact Iff.rfl

/-- Every rule counts for its own category and for no other. -/
lemma sum_groups (g : Registry) : (g.groups.map fun group => group.2.length).sum = g.rules.length := by
  obtain ⟨rules⟩ := g
  induction rules with
  | nil => rfl
  | cons r rules ih =>
    simp only [groups, Category.all, List.map_cons, List.map_nil, List.sum_cons, List.sum_nil, forCategory,
      List.filter_cons, List.length_cons] at ih ⊢
    cases r.category <;> simp <;> omega

private lemma partitions_of_build {ds : List RuleDefinition} {g : Registry} (h : build compiler ds = .ok g) :
    g.Partitions compiler ds := by
  have hlength : g.rules.length = ds.length := (build_eq_ok_iff.mp h).length_eq.symm
  refine ⟨fun c => (forCategory_of_build h c).imp ?_, rfl, hlength, (sum_groups g).trans hlength⟩
  intro d r hr
  obtain ⟨regex, hreads, rfl⟩ := Rule.compile_eq_ok_iff.mp hr
  exact ⟨rfl, regex, hreads, rfl⟩

/-! ## The order that matters -/

section Order

variable {ds ds' : List RuleDefinition} {g g' : Registry}

/-- Definitions that are the same within each category make the same groups. -/
lemma groups_congr (h : build compiler ds = .ok g) (h' : build compiler ds' = .ok g')
    (hsame : ∀ c : Category, (ds.filter fun d => d.category = c) = ds'.filter fun d => d.category = c) :
    g.groups = g'.groups := by
  have hrules : ∀ c, g.forCategory c = g'.forCategory c := by
    intro c
    have hg := Steps.mapM_eq_ok_iff.mpr (forCategory_of_build h c)
    have hg' := Steps.mapM_eq_ok_iff.mpr (forCategory_of_build h' c)
    rw [hsame c, hg'] at hg
    exact (Except.ok.inj hg).symm
  unfold groups
  simp only [hrules]

/-- What is reported depends on the groups alone. -/
lemma violations_congr (h : g.groups = g'.groups) (text : Text) : g.violations text = g'.violations text := by
  unfold violations
  rw [h]

end Order

end Registry

private lemma Patterns.analyze_congr {g g' : Registry} (h : g.groups = g'.groups) (text : Text) :
    analyze g text = analyze g' text := by
  unfold analyze
  rw [Registry.violations_congr h]

/-- A check sees the rules only through the patterns that they find. -/
lemma Validator.validate_congr {g g' : Registry} (h : g.groups = g'.groups) (parse : Script.Parser) (limits : Limits)
    (script language : Text) :
    validate ⟨parse, limits, g⟩ script language = validate ⟨parse, limits, g'⟩ script language := by
  unfold validate stages
  dsimp only
  rw [Patterns.analyze_congr h]

namespace Registry

/-- **A registry sorts its definitions by category and keeps their order.** Building it stops at the first definition
that cannot be prepared. The error names the definition when its expression has a fault; an expression without a UTF-8
form is reported as such. When every definition can be prepared, the registry holds in each category the definitions of
the category in the order in which they stand, the categories come in their own order, and nothing is lost. It is what
comes of putting the rules one after another behind those of their category.

So for definitions that are the same within each category, however the categories are mixed, what is found in any text,
what is said about it and how any script is checked are the same. -/
theorem build_sorts (compiler : Regex.Compiler) (ds : List RuleDefinition) :
    (∀ before d after, ds = before ++ d :: after → (∀ q ∈ before, q.Readable compiler) → ¬ d.Readable compiler →
        ∃ e, build compiler ds = .error e ∧ d.FailsWith compiler e) ∧
      ((∀ d ∈ ds, d.Readable compiler) → ∃ g, build compiler ds = .ok g ∧ g.Partitions compiler ds) ∧
      Grouped.fill compiler (fun _ => []) ds = (build compiler ds).map forCategory ∧
      ∀ ds' g g', build compiler ds = .ok g → build compiler ds' = .ok g' →
        (∀ c : Category, (ds.filter fun d => d.category = c) = ds'.filter fun d => d.category = c) →
        (∀ text, g.violations text = g'.violations text) ∧
          (∀ text, Patterns.analyze g text = Patterns.analyze g' text) ∧
          ∀ parse limits script language,
            Validator.validate ⟨parse, limits, g⟩ script language =
              Validator.validate ⟨parse, limits, g'⟩ script language := by
  refine ⟨?_, ?_, Grouped.fill_eq compiler _ ds, ?_⟩
  · rintro before d after rfl hbefore hd
    obtain ⟨e, he⟩ := exists_failsWith hd
    exact ⟨e, build_of_first hbefore he, he⟩
  · intro hall
    obtain ⟨rules, hrules⟩ := Steps.exists_mapM_eq_ok_iff.mpr fun d hd => Rule.exists_compile_eq_ok_iff.mpr (hall d hd)
    have hbuild : build compiler ds = .ok ⟨rules⟩ := build_eq_ok_iff.mpr (Steps.mapM_eq_ok_iff.mp hrules)
    exact ⟨⟨rules⟩, hbuild, partitions_of_build hbuild⟩
  · intro ds' g g' hg hg' hsame
    have hgroups := groups_congr hg hg' hsame
    exact ⟨violations_congr hgroups, Patterns.analyze_congr hgroups, Validator.validate_congr hgroups⟩

/-- A rule that looks for one character. -/
def seeks (id : String) (category : Category) (c : Char) : RuleDefinition :=
  ⟨Text.ofString id, category, Text.ofString "one character", Text.ofChars [c]⟩

/-- Rules of two categories in two orders, and rules of which the second has a fault, and so has the third. -/
theorem build_sorts_mixedOrders :
    (∃ g g', build Regex.compile [seeks "A" .xss 'a', seeks "B" .sqlInjection 'b', seeks "C" .xss 'c'] = .ok g ∧
        build Regex.compile [seeks "B" .sqlInjection 'b', seeks "A" .xss 'a', seeks "C" .xss 'c'] = .ok g' ∧
        g.Partitions Regex.compile [seeks "A" .xss 'a', seeks "B" .sqlInjection 'b', seeks "C" .xss 'c'] ∧
        (∀ text, g.violations text = g'.violations text) ∧
        ∀ parse limits script language,
          Validator.validate ⟨parse, limits, g⟩ script language =
            Validator.validate ⟨parse, limits, g'⟩ script language) ∧
      ∃ e, build Regex.compile [seeks "A" .xss 'a', seeks "B" .sqlInjection '(', seeks "C" .xss ')'] = .error e ∧
        (seeks "B" .sqlInjection '(').FailsWith Regex.compile e := by
  have hreadable : ∀ id category c, c ∈ ['a', 'b', 'c'] → (seeks id category c).Readable Regex.compile := by
    intro id category c hc
    simp only [List.mem_cons, List.not_mem_nil, or_false] at hc
    obtain rfl | rfl | rfl := hc
    · exact ⟨_, ['a'], rfl, rfl⟩
    · exact ⟨_, ['b'], rfl, rfl⟩
    · exact ⟨_, ['c'], rfl, rfl⟩
  constructor
  · obtain ⟨-, hbuilt, -, hsame⟩ :=
      build_sorts Regex.compile [seeks "A" .xss 'a', seeks "B" .sqlInjection 'b', seeks "C" .xss 'c']
    obtain ⟨-, hmixed, -⟩ :=
      build_sorts Regex.compile [seeks "B" .sqlInjection 'b', seeks "A" .xss 'a', seeks "C" .xss 'c']
    obtain ⟨g, hg, hpartitions⟩ := hbuilt (by simp [hreadable])
    obtain ⟨g', hg', -⟩ := hmixed (by simp [hreadable])
    obtain ⟨hviolations, -, hvalidate⟩ := hsame _ g g' hg hg' (fun c => by cases c <;> rfl)
    exact ⟨g, g', hg, hg', hpartitions, hviolations, hvalidate⟩
  · obtain ⟨hfails, -⟩ := build_sorts Regex.compile [seeks "A" .xss 'a', seeks "B" .sqlInjection '(', seeks "C" .xss ')']
    have hnot : ¬ (seeks "B" .sqlInjection '(').Readable Regex.compile := by
      rintro ⟨regex, cs, htext, hparse⟩
      obtain rfl : ['('] = cs := Text.ofChars_injective htext
      cases hparse
    exact hfails [seeks "A" .xss 'a'] _ _ rfl (by simp [hreadable]) hnot

/-- An expression without a UTF-8 form stops the building before the first one with a fault is looked at. -/
theorem build_stops_before_rejected :
    let lone : RuleDefinition := ⟨Text.ofString "A-1", .xss, Text.ofString "lone", [.surrogate 0]⟩
    let opened : RuleDefinition := ⟨Text.ofString "B-1", .xss, Text.ofString "open", Text.ofChars ['(']⟩
    (∀ reason, ¬ lone.Rejected Regex.compile reason) ∧ opened.Rejected Regex.compile "missing ): (".toList ∧
      build Regex.compile [lone, opened] = .error (.unencodable ⟨0, 1, 0⟩) ∧
      build Regex.compile [lone, opened] ≠ .error (.rejected opened.id "missing ): (".toList) := by
  intro lone opened
  have hbuild : build Regex.compile [lone, opened] = .error (.unencodable ⟨0, 1, 0⟩) := rfl
  refine ⟨?_, ⟨['('], rfl, rfl⟩, hbuild, ?_⟩
  · rintro reason ⟨cs, htext, -⟩
    cases cs with
    | nil => cases htext
    | cons c cs => cases htext
  · rw [hbuild]
    simp

end Registry

end ScriptVet
