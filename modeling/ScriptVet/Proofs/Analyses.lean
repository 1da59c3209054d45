import ScriptVet.Proofs.IntegerPrefix
import ScriptVet.Proofs.SyntaxTree
import ScriptVet.Proofs.Texts
import ScriptVet.Validator

/-!
# What the analyses of a script find

One spec for each analysis, in terms of the text and the tree of a script and no longer of the steps that may fail:

* the structure: `facts_eq_ok_iff` says when a script has imports and exports to speak of, `analyze_eq_of_ok` and
  `analyze_eq_of_error` what is reported then and otherwise, and `fill_leaves_nothing` that no failure leaves a part of
  a result behind;
* the patterns: `Rule.search_eq_none_iff` and `violations_eq_nil_iff`, nothing is found when every rule can be
  applied and matches nowhere;
* the resources: `checkVus_eq`, what is asked of the first pair `vus`.
-/

namespace ScriptVet

open Script (Language Node Parsed Parser ScriptError Import)

variable {parse : Parser}

/-! ## Parsing -/

namespace Script

/-- A language is known by its name. -/
theorem Language.ofName?_eq_some_iff {t : Text} {l : Language} :
    Language.ofName? t = some l ↔ t = Text.ofString l.name := by
  constructor
  · intro h
    have hname := List.find?_some h
    exact (of_decide_eq_true hname).symm
  · rintro rfl
    cases l <;> decide

/-- A script is parsed when its language is known and it has a UTF-8 form. -/
theorem Parsed.ofSource_eq_ok_iff {script language : Text} {p : Parsed} :
    Parsed.ofSource parse script language = .ok p ↔
      ∃ l cs, language = Text.ofString l.name ∧ script = Text.ofChars cs ∧ p = ⟨l, cs, some (parse l cs)⟩ := by
  unfold Parsed.ofSource
  constructor
  · intro h
    cases hname : Language.ofName? language with
    | none => rw [hname] at h; cases h
    | some l =>
      rw [hname] at h
      cases hencode : script.encode with
      | error bad => rw [hencode] at h; cases h
      | ok cs =>
        rw [hencode] at h
        exact ⟨l, cs, Language.ofName?_eq_some_iff.mp hname, Text.encode_eq_ok_iff.mp hencode, (Except.ok.inj h).symm⟩
  · rintro ⟨l, cs, hname, hencode, rfl⟩
    rw [Language.ofName?_eq_some_iff.mpr hname, Text.encode_eq_ok_iff.mpr hencode]

/-- The syntax of a parsed script is fine when its tree has no fault. -/
theorem Parsed.checkSyntax_eq_ok_iff {l : Language} {cs : List Char} {root : Node} :
    (⟨l, cs, some root⟩ : Parsed).checkSyntax = .ok () ↔ root.firstFault? = none := by
  unfold Parsed.checkSyntax
  rw [Steps.bind_eq_ok_iff]
  constructor
  · rintro ⟨fault, hfault, hnone⟩
    obtain rfl : root.firstFault? = fault := Except.ok.inj hfault
    cases hroot : root.firstFault? with
    | none => rfl
    | some n => rw [hroot] at hnone; cases hnone
  · intro h
    exact ⟨none, congrArg Except.ok h, rfl⟩

/-- How the message about a failure begins, which tells the kinds of failures apart. -/
def ScriptError.head : ScriptError → String
  | unsupportedLanguage _ => "Unsupported "
  | unencodable _ => "'utf-8' "
  | syntaxError _ _ => "Script parsing "
  | escape _ => "Python int "
  | released => "Syntax tree "

end Script

lemma Unencodable.message_startsWith (bad : Unencodable) :
    (Text.ofString bad.message).startsWith "'utf-8' " = true := by
  have hcodec : (Text.ofString "'utf-8' codec can't encode ").startsWith "'utf-8' " = true := by decide
  unfold Unencodable.message
  split <;> simp only [String.append_assoc, Text.ofString_append, ToString.toString] <;>
    exact Text.startsWith_append hcodec _

lemma Script.ScriptError.message_startsWith_head (e : ScriptError) : e.message.startsWith e.head = true := by
  cases e with
  | unsupportedLanguage name =>
    have hlead : (Text.ofString "Unsupported language: ").startsWith "Unsupported " = true := by decide
    exact Text.startsWith_append (Text.startsWith_append hlead _) _
  | unencodable bad => exact bad.message_startsWith
  | syntaxError line column =>
    have hlead : (Text.ofString "Script parsing failed: syntax error at line ").startsWith
        "Script parsing " = true := by decide
    simp only [message, head, String.append_assoc, Text.ofString_append, ToString.toString]
    exact Text.startsWith_append hlead _
  | escape e => cases e; decide
  | released => decide

lemma Number.tooManyDigitsMessage_startsWith (n : Nat) :
    (Text.ofString (tooManyDigitsMessage n)).startsWith "Exceeds the " = true := by
  have hlead : (Text.ofString "Exceeds the limit (").startsWith "Exceeds the " = true := by decide
  unfold tooManyDigitsMessage
  simp only [String.append_assoc, Text.ofString_append, ToString.toString]
  exact Text.startsWith_append hlead _

/-- A failure that has a message is reported by it. -/
theorem Failure.report_of_startsWith {f : Failure} {s : String} (hs : Text.ofString s ≠ [])
    (h : f.message.startsWith s = true) (fallback : String) : f.report fallback = f.message := by
  unfold Failure.report
  exact if_neg (by rw [List.isEmpty_iff]; exact Text.ne_nil_of_startsWith hs h)

private lemma Failure.report_script (e : ScriptError) (fallback : String) :
    (Failure.script e).report fallback = e.message := by
  have hhead : Text.ofString e.head ≠ [] := by cases e <;> dsimp only [ScriptError.head] <;> decide
  have hstart : (Failure.script e).message.startsWith e.head = true := e.message_startsWith_head
  rw [Failure.report_of_startsWith hhead hstart]
  rfl

/-! ## Structure -/

namespace Structure

/-- The structure of a script that imports these modules. -/
def ofImports (imports : List Import) (hasExportedFunction : Bool) : Structure :=
  { errors := imports.filterMap importError
    imports
    hasK6Import := imports.any fun i => Specifier.isAllowed i.module
    hasProtocolImport := imports.any fun i => Specifier.isAllowed i.module && Specifier.isProtocol i.module
    hasExportedFunction }

/-- The imports of a script without faults, and whether it exports a function to run. -/
def facts (parse : Parser) (script language : Text) : Except ScriptError (List Import × Bool) := do
  let parsed ← Parsed.ofSource parse script language
  parsed.checkSyntax
  return (← parsed.imports, ← parsed.hasExportedFunction)

/-- A script has imports and exports to speak of when it can be parsed, its tree has no fault and the string of
each import has a value. -/
theorem facts_eq_ok_iff {script language : Text} {imports : List Import} {exported : Bool} :
    facts parse script language = .ok (imports, exported) ↔
      ∃ l cs, language = Text.ofString l.name ∧ script = Text.ofChars cs ∧
        (parse l cs).Faultless ∧ (parse l cs).imports cs = .ok imports ∧
        exported = (parse l cs).hasExportedFunction := by
  unfold facts
  rw [Steps.bind_eq_ok_iff]
  constructor
  · rintro ⟨p, hp, h⟩
    obtain ⟨l, cs, hlanguage, hscript, rfl⟩ := Parsed.ofSource_eq_ok_iff.mp hp
    refine ⟨l, cs, hlanguage, hscript, ?_⟩
    obtain ⟨⟨⟩, hfaults, h⟩ := Steps.bind_eq_ok_iff.mp h
    obtain ⟨is, his, h⟩ := Steps.bind_eq_ok_iff.mp h
    obtain ⟨ex, hex, h⟩ := Steps.bind_eq_ok_iff.mp h
    obtain ⟨rfl, rfl⟩ := Prod.mk.inj (Steps.pure_eq_ok_iff.mp h)
    refine ⟨Node.firstFault?_eq_none_iff.mp (Parsed.checkSyntax_eq_ok_iff.mp hfaults), ?_, ?_⟩
    · exact Steps.mapError_eq_ok_iff.mp his
    · exact (Except.ok.inj hex).symm
  · rintro ⟨l, cs, hlanguage, hscript, hfault, himports, rfl⟩
    refine ⟨_, Parsed.ofSource_eq_ok_iff.mpr ⟨l, cs, hlanguage, hscript, rfl⟩, ?_⟩
    have hfaults : (⟨l, cs, some (parse l cs)⟩ : Parsed).checkSyntax = .ok () :=
      Parsed.checkSyntax_eq_ok_iff.mpr (Node.firstFault?_eq_none_iff.mpr hfault)
    refine Steps.bind_eq_ok_iff.mpr ⟨(), hfaults, Steps.bind_eq_ok_iff.mpr ⟨imports, ?_, ?_⟩⟩
    · exact Steps.mapError_eq_ok_iff.mpr himports
    · exact Steps.bind_eq_ok_iff.mpr ⟨_, rfl, rfl⟩

/-- Imports are added one by one, and come to the same as all of them at once. -/
lemma foldl_addImport (imports : List Import) (r : Logged Structure) :
    imports.foldl addImport r =
      ⟨{ r.value with
          errors := r.value.errors ++ imports.filterMap importError
          imports := r.value.imports ++ imports
          hasK6Import := r.value.hasK6Import || imports.any fun i => Specifier.isAllowed i.module
          hasProtocolImport := r.value.hasProtocolImport ||
            imports.any fun i => Specifier.isAllowed i.module && Specifier.isProtocol i.module },
        r.events ++ imports.filterMap importEvent⟩ := by
  induction imports generalizing r with
  | nil => simp
  | cons i imports ih =>
    have herrors : (i :: imports).filterMap importError = (importError i).toList ++ imports.filterMap importError := by
      cases h : importError i <;> simp [h]
    have hevents : (i :: imports).filterMap importEvent = (importEvent i).toList ++ imports.filterMap importEvent := by
      cases h : importEvent i <;> simp [h]
    rw [List.foldl_cons, ih, herrors, hevents]
    simp [addImport, Bool.or_assoc]

/-- A script whose imports can be told can be asked for its exports. -/
lemma exported_of_imports {p : Parsed} {imports : List Import} (h : p.imports = .ok imports) :
    ∃ exported, p.hasExportedFunction = .ok exported := by
  obtain ⟨root, hroot, -⟩ := Steps.bind_eq_ok_iff.mp h
  exact ⟨root.hasExportedFunction, Steps.bind_eq_ok_iff.mpr ⟨root, hroot, rfl⟩⟩

/-- **A failure leaves nothing behind.** The steps that can fail are over before the first import is added. -/
theorem fill_leaves_nothing {p : Parsed} {r : Logged Structure} {e : ScriptError} (h : (fill p r).1 = .error e) :
    (fill p r).2 = r := by
  unfold fill at h ⊢
  cases hfaults : p.checkSyntax with
  | error e => rfl
  | ok u =>
    cases himports : p.imports with
    | error e => rfl
    | ok imports =>
      obtain ⟨exported, hexported⟩ := exported_of_imports himports
      rw [hfaults, himports, hexported] at h
      cases h

/-- What fills a result from nothing, and what it fails with, are the facts of a script. -/
lemma fill_unknown {p : Parsed} {imports : List Import} {exported : Bool} (hfaults : p.checkSyntax = .ok ())
    (himports : p.imports = .ok imports) (hexported : p.hasExportedFunction = .ok exported) :
    fill p unknown = (.ok (), ⟨ofImports imports exported, imports.filterMap importEvent⟩) := by
  unfold fill
  rw [hfaults, himports, hexported]
  dsimp only
  rw [foldl_addImport]
  simp [unknown, ofImports]

/-- The result is filled in the order in which the facts are asked for, so the first failure is the same. -/
lemma fill_fst_eq_error {p : Parsed} {e : ScriptError} (r : Logged Structure)
    (h : (do p.checkSyntax; return (← p.imports, ← p.hasExportedFunction)) = Except.error e) :
    (fill p r).1 = .error e := by
  unfold fill
  rcases Steps.bind_eq_error_iff.mp h with hfaults | ⟨⟨⟩, hfaults, h⟩
  · rw [hfaults]
  rcases Steps.bind_eq_error_iff.mp h with himports | ⟨imports, himports, h⟩
  · rw [hfaults, himports]
  rcases Steps.bind_eq_error_iff.mp h with hexported | ⟨exported, hexported, h⟩
  · rw [hfaults, himports, hexported]
  · cases h

/-- What is reported about a script with facts. -/
theorem analyze_eq_of_ok {script language : Text} {imports : List Import} {exported : Bool}
    (h : facts parse script language = .ok (imports, exported)) :
    analyze parse script language = ⟨ofImports imports exported, imports.filterMap importEvent⟩ := by
  obtain ⟨p, hp, h⟩ := Steps.bind_eq_ok_iff.mp h
  obtain ⟨⟨⟩, hfaults, h⟩ := Steps.bind_eq_ok_iff.mp h
  obtain ⟨is, his, h⟩ := Steps.bind_eq_ok_iff.mp h
  obtain ⟨ex, hex, h⟩ := Steps.bind_eq_ok_iff.mp h
  obtain ⟨rfl, rfl⟩ := Prod.mk.inj (Steps.pure_eq_ok_iff.mp h)
  have hwithin : (p.within fun p => fill p unknown).1 = fill p unknown := rfl
  unfold analyze
  rw [hp]
  dsimp only
  rw [hwithin, fill_unknown hfaults his hex]

/-- What is reported about a script without facts: the failure, and nothing else. -/
theorem analyze_eq_of_error {script language : Text} {e : ScriptError} (h : facts parse script language = .error e) :
    analyze parse script language = addFailure unknown e := by
  unfold analyze
  rcases Steps.bind_eq_error_iff.mp h with hp | ⟨p, hp, h⟩
  · rw [hp]
  · have hfailed := fill_fst_eq_error unknown h
    have hleft := fill_leaves_nothing hfailed
    have hwithin : (p.within fun p => fill p unknown).1 = (.error e, unknown) := Prod.ext hfailed hleft
    rw [hp]
    dsimp only
    rw [hwithin]

lemma analyze_of_ok {script language : Text} {imports : List Import} {exported : Bool}
    (h : facts parse script language = .ok (imports, exported)) :
    (analyze parse script language).value = ofImports imports exported := by
  rw [analyze_eq_of_ok h]

/-- A failure is the one thing that is reported, and nothing else is known then. -/
theorem analyze_of_error {script language : Text} {e : ScriptError} (h : facts parse script language = .error e) :
    (analyze parse script language).value = { errors := [e.message] } := by
  rw [analyze_eq_of_error h]
  cases e with
  | syntaxError line column => rfl
  | unsupportedLanguage name => simp [addFailure, unknown, Failure.report_script]
  | unencodable bad => simp [addFailure, unknown, Failure.report_script]
  | escape e => simp [addFailure, unknown, Failure.report_script]
  | released => simp [addFailure, unknown, Failure.report_script]

/-- Nothing is wrong with an import of an allowed module. -/
lemma importError_eq_none_iff {i : Import} : importError i = none ↔ Specifier.isAllowed i.module = true := by
  unfold importError
  split
  · next h => simp [h]
  · next h => split <;> simp [h]

lemma ofImports_errors_eq_nil_iff {imports : List Import} {exported : Bool} :
    (ofImports imports exported).errors = [] ↔ ∀ i ∈ imports, Specifier.isAllowed i.module = true := by
  show imports.filterMap importError = [] ↔ _
  simp only [List.filterMap_eq_nil_iff, importError_eq_none_iff]

end Structure

/-! ## Patterns -/

/-- A rule finds nothing in a text when it was prepared and its expression matches nowhere. -/
theorem Rule.search_eq_none_iff {r : Rule} {cs : List Char} :
    r.search (Text.ofChars cs) = .ok none ↔ ∃ regex, r.regex = some regex ∧ ¬ regex.MatchesIn cs := by
  unfold Rule.search
  cases hregex : r.regex with
  | none => exact iff_of_false (fun h => by cases h) (by rintro ⟨regex, h, -⟩; cases h)
  | some regex =>
    have hsome : (∃ x, some regex = some x ∧ ¬ x.MatchesIn cs) ↔ ¬ regex.MatchesIn cs := by
      simp only [Option.some.injEq, exists_eq_left']
    dsimp only
    rw [hsome, ← Regex.search_eq_none_iff, Text.encode_ofChars]
    dsimp only
    rw [Except.ok.injEq, Option.map_eq_none_iff]

namespace Registry

/-- The rules of a category find nothing when each of them can be applied and matches nowhere. As long as nothing is
found nothing is remembered, so no match can pass for one seen before. -/
lemma scanRules_eq_nil_iff {category : Category} {text : Text} {rules : List Rule} (index : Nat) :
    scanRules category text index [] rules = .ok [] ↔ ∀ r ∈ rules, r.search text = .ok none := by
  induction rules generalizing index with
  | nil => simp [scanRules]
  | cons r rest ih =>
    rw [scanRules, Steps.bind_eq_ok_iff, List.forall_mem_cons]
    constructor
    · rintro ⟨found, hsearch, hrest⟩
      cases found with
      | none => exact ⟨hsearch, (ih _).mp hrest⟩
      | some m =>
        -- Nothing was seen before this match, so it is listed.
        simp only [List.contains_nil, Bool.false_eq_true, if_false] at hrest
        obtain ⟨more, -, hmore⟩ := Steps.bind_eq_ok_iff.mp hrest
        exact absurd (Steps.pure_eq_ok_iff.mp hmore) (List.cons_ne_nil _ _)
    · rintro ⟨hsearch, hrest⟩
      exact ⟨none, hsearch, (ih _).mpr hrest⟩

/-- Every rule belongs to a group. -/
lemma forall_mem_groups_iff {g : Registry} {P : Rule → Prop} :
    (∀ group ∈ g.groups, ∀ r ∈ group.2, P r) ↔ ∀ r ∈ g.rules, P r := by
  constructor
  · intro h r hr
    have hall : r.category ∈ Category.all := by cases r.category <;> simp [Category.all]
    refine h (r.category, g.forCategory r.category) (List.mem_map.mpr ⟨r.category, hall, rfl⟩) r ?_
    exact List.mem_filter.mpr ⟨hr, by simp⟩
  · rintro h group hgroup r hr
    obtain ⟨c, -, rfl⟩ := List.mem_map.mp hgroup
    exact h r (List.mem_filter.mp hr).1

/-- Nothing is found in a text when each rule of the registry can be applied and matches nowhere. -/
lemma violations_eq_nil_iff {g : Registry} {text : Text} :
    g.violations text = .ok [] ↔ ∀ r ∈ g.rules, r.search text = .ok none := by
  rw [← forall_mem_groups_iff]
  unfold violations
  rw [Steps.bind_eq_ok_iff]
  constructor
  · rintro ⟨found, hfound, hflat⟩ group hgroup
    have hnil := List.flatten_eq_nil_iff.mp (Steps.pure_eq_ok_iff.mp hflat)
    obtain ⟨vs, hvs⟩ := Steps.exists_mapM_eq_ok_iff.mp ⟨found, hfound⟩ group hgroup
    obtain rfl := hnil vs ((Steps.mem_of_mapM_eq_ok hfound).mpr ⟨group, hgroup, hvs⟩)
    exact (scanRules_eq_nil_iff 0).mp hvs
  · intro h
    have hgroups : ∀ group ∈ g.groups, scanRules group.1 text 0 [] group.2 = .ok [] := fun group hgroup =>
      (scanRules_eq_nil_iff 0).mpr (h group hgroup)
    obtain ⟨found, hfound⟩ := Steps.exists_mapM_eq_ok_iff.mpr fun group hgroup => ⟨[], hgroups group hgroup⟩
    refine ⟨found, hfound, Steps.pure_eq_ok_iff.mpr (List.flatten_eq_nil_iff.mpr fun vs hvs => ?_)⟩
    obtain ⟨group, hgroup, hscan⟩ := (Steps.mem_of_mapM_eq_ok hfound).mp hvs
    rw [hgroups group hgroup] at hscan
    exact (Except.ok.inj hscan).symm

/-- The scan of a category fails where the first of its rules fails, whatever was found before. -/
lemma scanRules_eq_error_iff {category : Category} {text : Text} {rules : List Rule} {e : RuleError} (index : Nat)
    (seen : List (List Char)) :
    scanRules category text index seen rules = .error e ↔ Steps.FirstFailure (Rule.search · text) rules e := by
  induction rules generalizing index seen with
  | nil => exact iff_of_false (fun h => by cases h) Steps.not_firstFailure_nil
  | cons r rest ih =>
    rw [scanRules, Steps.bind_eq_error_iff, Steps.firstFailure_cons_iff]
    refine or_congr_right ?_
    rw [← exists_and_right]
    refine exists_congr fun found => and_congr_right fun _ => ?_
    cases found with
    | none => exact ih (index + 1) seen
    | some m =>
      dsimp only
      split
      · exact ih (index + 1) seen
      · rw [Steps.bind_eq_error_iff, ih]
        refine or_iff_left ?_
        rintro ⟨more, -, h⟩
        cases h

private lemma exists_scanRules_eq_ok_iff {category : Category} {text : Text} {rules : List Rule} (index : Nat)
    (seen : List (List Char)) :
    (∃ vs, scanRules category text index seen rules = .ok vs) ↔ ∀ r ∈ rules, ∃ found, r.search text = .ok found := by
  have herror := fun e => @scanRules_eq_error_iff category text rules e index seen
  rw [← not_iff_not, ← Steps.exists_firstFailure_iff]
  simp only [← herror]
  cases scanRules category text index seen rules <;> simp

/-- The rules in the order in which they are applied: by category, and within a category as they were defined. -/
def inOrder (g : Registry) : List Rule := g.groups.flatMap Prod.snd

lemma mem_inOrder_iff {g : Registry} {r : Rule} : r ∈ g.inOrder ↔ r ∈ g.rules := by
  have hgroups := @forall_mem_groups_iff g fun q => q ≠ r
  rw [← not_iff_not]
  unfold inOrder
  simp only [List.mem_flatMap, not_exists, not_and]
  constructor
  · intro h hr
    exact hgroups.mp (fun group hgroup q hq heq => h group hgroup (heq ▸ hq)) r hr rfl
  · intro h group hgroup hr
    exact hgroups.mpr (fun q hq heq => h (heq ▸ hq)) group hgroup r hr rfl

/-- The violations cannot be told when a rule fails, and the first that does says why. -/
theorem violations_eq_error_iff {g : Registry} {text : Text} {e : RuleError} :
    g.violations text = .error e ↔ Steps.FirstFailure (Rule.search · text) g.inOrder e := by
  unfold violations inOrder
  rw [Steps.bind_eq_error_iff, Steps.mapM_eq_error_iff, Steps.firstFailure_flatMap_iff
    (fun group => exists_scanRules_eq_ok_iff 0 []) (fun group => scanRules_eq_error_iff 0 [])]
  refine or_iff_left ?_
  rintro ⟨found, -, h⟩
  cases h

end Registry

namespace Patterns

/-- There are no errors when no rule finds anything. -/
theorem analyze_errors_eq_nil_iff {g : Registry} {script : Text} :
    (analyze g script).value.errors = [] ↔ ∀ r ∈ g.rules, r.search script = .ok none := by
  rw [← Registry.violations_eq_nil_iff]
  unfold analyze
  cases g.violations script with
  | error e => exact iff_of_false (List.cons_ne_nil _ _) (fun h => by cases h)
  | ok found => simp

end Patterns

/-! ## Resources -/

namespace Resources

private lemma vusKey_scalars? : vusKey.scalars? = some ['v', 'u', 's'] := by decide

/-- The pairs that declare a number of virtual users. -/
abbrev vus : List Char := ['v', 'u', 's']

/-- The value of the first pair `vus` of a script that can be parsed. -/
lemma declaredVus_eq (parse : Parser) (l : Language) (cs : List Char) :
    declaredVus parse (Text.ofChars cs) (Text.ofString l.name) =
      .ok (((parse l cs).firstProperty? cs vus).map (·.value)) := by
  have hparsed : Parsed.ofSource parse (Text.ofChars cs) (Text.ofString l.name) = .ok ⟨l, cs, some (parse l cs)⟩ :=
    Parsed.ofSource_eq_ok_iff.mpr ⟨l, cs, rfl, rfl, rfl⟩
  unfold declaredVus
  rw [hparsed]
  show Except.ok ((vusKey.scalars?.bind ((parse l cs).firstProperty? cs)).map (·.value)) = _
  rw [vusKey_scalars?]
  rfl

/-- What is asked of a script that can be parsed: the value of its first pair `vus`, unless there is none or it is
empty, is judged. -/
theorem checkVus_eq (parse : Parser) (limits : Limits) (l : Language) (cs : List Char) :
    checkVus parse limits (Text.ofChars cs) (Text.ofString l.name) =
      match ((parse l cs).firstProperty? cs vus).map (·.value) with
      | none | some [] => .ok none
      | some value => judge limits value := by
  unfold checkVus
  rw [declaredVus_eq]
  show (match ((parse l cs).firstProperty? cs vus).map (·.value) with
    | none | some [] => Except.ok none
    | some value => judge limits value) = _
  rfl

/-- A value is fine when it starts with an integer that is read and within the limit. -/
theorem judge_eq_none_iff {limits : Limits} {value : List Char} :
    judge limits value = .ok none ↔
      ∃ sign digits, StartsWithInteger value sign digits ∧ digits.length ≤ Number.maxIntegerDigits ∧
        sign * Number.ofDecimal digits ≤ (limits.maxVus : Int) := by
  unfold judge
  rw [Steps.bind_eq_ok_iff]
  constructor
  · rintro ⟨found, hfound, h⟩
    cases found with
    | none => cases h
    | some n =>
      obtain ⟨sign, digits, hstarts, hlen, rfl⟩ := leadingInteger_eq_some_iff.mp hfound
      dsimp only at h
      split at h
      · cases h
      · next hle => exact ⟨sign, digits, hstarts, hlen, by omega⟩
  · rintro ⟨sign, digits, hstarts, hlen, hle⟩
    refine ⟨_, leadingInteger_eq_some_iff.mpr ⟨sign, digits, hstarts, hlen, rfl⟩, ?_⟩
    exact if_neg (by omega)

/-- A number of virtual users that is not read has too many digits. -/
theorem judge_eq_error {limits : Limits} {value : List Char} {e : Failure} (h : judge limits value = .error e) :
    ∃ n, e = .tooManyDigits n := by
  unfold judge at h
  rcases Steps.bind_eq_error_iff.mp h with h | ⟨found, -, h⟩
  · by_cases hstarts : ∃ sign digits, StartsWithInteger value sign digits
    · obtain ⟨sign, digits, hstarts⟩ := hstarts
      rw [leadingInteger_of_starts hstarts] at h
      split at h
      · exact ⟨_, (Except.error.inj h).symm⟩
      · cases h
    · rw [leadingInteger_of_not_starts hstarts] at h
      cases h
  · cases found with
    | none => cases h
    | some n =>
      dsimp only at h
      split at h <;> cases h

/-- What is said about the resources of a script that can be parsed and is not too long: what a value is judged
to be, or that it cannot be read. -/
theorem error_cases {limits : Limits} {l : Language} {cs : List Char} {e : Text}
    (hsize : (Text.ofChars cs).units16 ≤ limits.maxScriptSize)
    (h : e ∈ (analyze parse limits (Text.ofChars cs) (Text.ofString l.name)).value.errors) :
    (∃ value event, judge limits value = .ok (some (e, event))) ∨
      ∃ n, e = Text.ofString (Number.tooManyDigitsMessage n) := by
  unfold analyze at h
  dsimp only at h
  rw [if_neg (by omega), checkVus_eq] at h
  split at h
  · cases h
  · next error event hjudge =>
    obtain rfl := List.mem_singleton.mp h
    split at hjudge
    · cases hjudge
    · cases hjudge
    · exact Or.inl ⟨_, event, hjudge⟩
  · next cause hjudge =>
    -- The script can be parsed, so that only a value can fail, for the number of its digits.
    have hcause : ∃ n, cause = .tooManyDigits n := by
      split at hjudge
      · cases hjudge
      · cases hjudge
      · exact judge_eq_error hjudge
    obtain ⟨n, rfl⟩ := hcause
    have hreport := Failure.report_of_startsWith (f := .tooManyDigits n) (by decide)
      (Number.tooManyDigitsMessage_startsWith n) "Resource analysis failed"
    rw [hreport] at h
    exact Or.inr ⟨n, List.mem_singleton.mp h⟩

end Resources

end ScriptVet
