import ScriptVet.Proofs.Stages

/-!
# The log of a check

Each analysis logs while it collects its errors, and the check itself logs once at the end. `validate_logged` says that
the log and the answer agree: what each analysis reports is logged in the same order, and nothing else is. The log is that
of the check and its analyses. What is written at the level `debug` while a tree is looked at for faults is no part of it.

A record is compared with an error by what both say (`Record.Tells`), not by where they come from. Which errors report
an import, a pattern or virtual users can be read off their beginnings (`findingHeads`), since no other error begins in
one of these ways. For each analysis there is a lemma that pairs its records with its errors (`Record.Accounts`), and
the check puts the pairs of its analyses one behind another.
-/

namespace ScriptVet

open Script (Language Node Parsed Parser ScriptError Import)

/-! ## Records and errors -/

namespace Log.Record

/-- The value of a further field of a record. -/
def field? (r : Record) (name : String) : Option Json := (r.fields.find? fun f => f.1 = name).map Prod.snd

/-- The record is about an event of this name. -/
def IsAbout (r : Record) (event : String) : Prop := r.field? "event" = some (.str (Text.ofString event))

/-- What a warning warns of: the error says of the same module, category or number that it is not accepted. -/
inductive Warns (r : Record) : Text → Prop where
  | forbiddenImport {m : Text} (hevent : r.IsAbout "forbidden_import")
      (hmodule : r.field? "import_module" = some (.str m)) :
      Warns r (Text.ofString "Forbidden Node.js module: " ++ m)
  | unknownImport {m : Text} (hevent : r.IsAbout "unknown_import")
      (hmodule : r.field? "import_module" = some (.str m)) :
      Warns r (Text.ofString "Unknown/disallowed import: " ++ m)
  | patternViolation {c : Category} {found : Text} (hevent : r.IsAbout "pattern_violation")
      (hcategory : r.field? "category" = some (.str (Text.ofString c.name))) :
      Warns r (Text.ofString c.description ++ Text.ofString " (found: " ++ found ++ Text.ofString ")")
  | invalidVus {value : Text} (hevent : r.IsAbout "invalid_vus")
      (hmessage : r.message =
        Text.ofString "Invalid VUs value detected: '" ++ value ++ Text.ofString "' is not a number") :
      Warns r (Text.ofString "Invalid VUs value: '" ++ value ++ Text.ofString "' is not a number (found: vus: " ++
        value ++ Text.ofString ")")
  | vusExceeded {vus : Int} {ceiling : Nat} (hevent : r.IsAbout "vus_limit_exceeded")
      (hmessage : r.message = Text.ofString s!"Hard limit violation: VUs {vus} exceeds maximum {ceiling}") :
      Warns r (Text.ofString s!"VUs limit exceeded: {vus} > {ceiling} (found: vus: {vus})")

/-- What a record tells: it warns of something, gives the reason why a script is not parsed, or holds the failure of an
analysis. -/
inductive Tells (r : Record) : Text → Prop where
  | warning {t : Text} (hlevel : r.level = .warning) (hwarns : r.Warns t) : Tells r t
  | notParsed (hlevel : r.level = .info) (hevent : r.IsAbout "parse_failed") : Tells r r.message
  | failed {cause : Failure} (hlevel : r.level = .error) (hcause : r.failure = some cause) : Tells r cause.message

end Log.Record

open Log (Record Event)

/-! ## Kinds of errors -/

/-- Errors about an import, a pattern or virtual users begin in one of these ways. -/
def findingHeads : List String :=
  ["Forbidden Node.js module: ", "Unknown/disallowed import: ", "Script contains ", "Invalid VUs value: ",
    "VUs limit exceeded: "]

/-- Errors about the size of a script and about what it lacks begin in one of these ways. -/
def lackHeads : List String := ["Script size (", "Script must "]

/-- Errors about an analysis that failed begin in one of these ways. -/
def failureHeads : List String :=
  ["Script parsing ", "Unsupported ", "'utf-8' ", "Python int ", "Syntax tree ", "Pattern ", "Exceeds the "]

/-- A text begins in one of some ways. -/
def Text.beginsIn (heads : List String) (t : Text) : Bool := heads.any t.startsWith

private lemma Text.beginsIn_of_mem {heads : List String} {s : String} (hs : s ∈ heads) {t : Text}
    (h : t.startsWith s = true) : t.beginsIn heads = true :=
  List.any_eq_true.mpr ⟨s, hs, h⟩

private lemma Text.beginsIn_eq_false {heads : List String} {s : String} (hs : ∀ q ∈ heads, Text.Apart s q) {t : Text}
    (h : t.startsWith s = true) : t.beginsIn heads = false :=
  List.any_eq_false.mpr fun q hq => by simp [Text.startsWith_eq_false_of_apart (hs q hq) h]

private lemma finding_apart_lack : ∀ s ∈ findingHeads, ∀ q ∈ lackHeads, Text.Apart s q := by decide +kernel

private lemma failure_apart_finding : ∀ s ∈ failureHeads, ∀ q ∈ findingHeads, Text.Apart s q := by decide +kernel

private lemma failure_apart_lack : ∀ s ∈ failureHeads, ∀ q ∈ lackHeads, Text.Apart s q := by decide +kernel

private lemma failureHeads_ne_nil : ∀ s ∈ failureHeads, Text.ofString s ≠ [] := by decide +kernel

/-- A record accounts for an error: it tells it while the check goes on, and it is a warning when the error is of the
kind that is warned of. -/
structure Log.Record.Accounts (r : Record) (t : Text) : Prop where
  tells : r.Tells t
  warning_iff : r.level = .warning ↔ t.beginsIn findingHeads = true
  no_lack : t.beginsIn lackHeads = false
  early : ¬ r.IsAbout "validation_complete"

namespace Log.Record

/-- A record is about one event. -/
lemma IsAbout.not_other {r : Record} {event other : String} (h : r.IsAbout event)
    (hne : Text.ofString event ≠ Text.ofString other) : ¬ r.IsAbout other :=
  fun hother => hne (Json.str.inj (Option.some.inj (h.symm.trans hother)))

private lemma Warns.early {r : Record} {t : Text} (h : r.Warns t) : ¬ r.IsAbout "validation_complete" := by
  cases h with
  | forbiddenImport hevent _ => exact hevent.not_other (by decide)
  | unknownImport hevent _ => exact hevent.not_other (by decide)
  | patternViolation hevent _ => exact hevent.not_other (by decide)
  | invalidVus hevent _ => exact hevent.not_other (by decide)
  | vusExceeded hevent _ => exact hevent.not_other (by decide)

/-- What a warning tells is what it warns of. -/
lemma Tells.warns {r : Record} {t : Text} (h : r.Tells t) (hlevel : r.level = .warning) : r.Warns t := by
  cases h with
  | warning _ hwarns => exact hwarns
  | notParsed hinfo _ => exact absurd (hinfo.symm.trans hlevel) nofun
  | failed herror _ => exact absurd (herror.symm.trans hlevel) nofun

/-- A warning accounts for the finding that it tells. -/
lemma Accounts.of_warns {r : Record} {t : Text} (hlevel : r.level = .warning) (hwarns : r.Warns t) {s : String}
    (hs : s ∈ findingHeads) (hstart : t.startsWith s = true) : r.Accounts t where
  tells := .warning hlevel hwarns
  warning_iff := iff_of_true hlevel (Text.beginsIn_of_mem hs hstart)
  no_lack := Text.beginsIn_eq_false (finding_apart_lack s hs) hstart
  early := hwarns.early

/-- A failure that is told accounts for the error about it. -/
lemma Accounts.of_failure {r : Record} {t : Text} (htells : r.Tells t) (hlevel : r.level ≠ .warning)
    (hearly : ¬ r.IsAbout "validation_complete") {s : String} (hs : s ∈ failureHeads)
    (hstart : t.startsWith s = true) : r.Accounts t where
  tells := htells
  warning_iff := iff_of_false hlevel (by simp [Text.beginsIn_eq_false (failure_apart_finding s hs) hstart])
  no_lack := Text.beginsIn_eq_false (failure_apart_lack s hs) hstart
  early := hearly

/-- The failure of an analysis is told by its message. -/
lemma accounts_analysisFailed (a : Analyzer) (cause : Failure) {s : String} (hs : s ∈ failureHeads)
    (hstart : cause.message.startsWith s = true) (fallback : String) :
    (Event.analysisFailed a cause).record.Accounts (cause.report fallback) := by
  rw [Failure.report_of_startsWith (failureHeads_ne_nil s hs) hstart]
  exact .of_failure (.failed rfl rfl) nofun nofun hs hstart

/-- Why a script is not parsed is told in the words of the record. -/
lemma accounts_parseFailed {t : Text} {s : String} (hs : s ∈ failureHeads) (hstart : t.startsWith s = true) :
    (Event.parseFailed t).record.Accounts t := by
  have habout : (Event.parseFailed t).record.IsAbout "parse_failed" := rfl
  exact .of_failure (.notParsed rfl habout) nofun (habout.not_other (by decide)) hs hstart

lemma head_mem_failureHeads (e : ScriptError) : e.head ∈ failureHeads := by
  cases e <;> simp [ScriptError.head, failureHeads]

/-- A script that an analysis could not read is told of in the words of the reader. -/
lemma accounts_scriptFailed (a : Analyzer) (e : ScriptError) (fallback : String) :
    (Event.analysisFailed a (.script e)).record.Accounts ((Failure.script e).report fallback) :=
  accounts_analysisFailed a (.script e) (head_mem_failureHeads e) e.message_startsWith_head fallback

end Log.Record

/-- The records of an analysis account for its errors, one by one. -/
def Logged.Accounted {α : Type} (l : Logged α) (errors : List Text) : Prop :=
  List.Forall₂ Record.Accounts (l.events.map Event.record) errors

/-! ## Analyses -/

namespace Structure

/-- What is logged about an import is what is said about it. -/
lemma accounts_import (i : Import) :
    (importEvent i = none ∧ importError i = none) ∨
      ∃ e t, importEvent i = some e ∧ importError i = some t ∧ e.record.Accounts t := by
  unfold importEvent importError
  split
  · exact Or.inl ⟨rfl, rfl⟩
  · right
    split
    · refine ⟨_, _, rfl, rfl, .of_warns rfl (.forbiddenImport rfl rfl) (s := "Forbidden Node.js module: ") ?_ ?_⟩
      · simp [findingHeads]
      · simp
    · refine ⟨_, _, rfl, rfl, .of_warns rfl (.unknownImport rfl rfl) (s := "Unknown/disallowed import: ") ?_ ?_⟩
      · simp [findingHeads]
      · simp

/-- Each import that is not allowed has its record. -/
lemma accounts_imports (imports : List Import) :
    List.Forall₂ Record.Accounts ((imports.filterMap importEvent).map Event.record)
      (imports.filterMap importError) := by
  induction imports with
  | nil => exact .nil
  | cons i imports ih =>
    rcases accounts_import i with ⟨hevent, herror⟩ | ⟨e, t, hevent, herror, haccounts⟩
    · rw [List.filterMap_cons_none hevent, List.filterMap_cons_none herror]
      exact ih
    · rw [List.filterMap_cons_some hevent, List.filterMap_cons_some herror, List.map_cons]
      exact .cons haccounts ih

private lemma analyze_accounted (parse : Parser) (script language : Text) :
    (analyze parse script language).Accounted (analyze parse script language).value.errors := by
  unfold Logged.Accounted
  cases hfacts : facts parse script language with
  | ok found =>
    rw [analyze_eq_of_ok hfacts]
    exact accounts_imports found.1
  | error e =>
    rw [analyze_eq_of_error hfacts]
    cases e with
    | syntaxError line column =>
      have hstart := (ScriptError.syntaxError line column).message_startsWith_head
      exact .cons (Record.accounts_parseFailed (Record.head_mem_failureHeads _) hstart) .nil
    | unsupportedLanguage name => exact .cons (Record.accounts_scriptFailed _ _ _) .nil
    | unencodable bad => exact .cons (Record.accounts_scriptFailed _ _ _) .nil
    | escape e => exact .cons (Record.accounts_scriptFailed _ _ _) .nil
    | released => exact .cons (Record.accounts_scriptFailed _ _ _) .nil

end Structure

namespace Patterns

/-- Each violation has its record. -/
lemma accounts_violation (v : Violation) :
    (Event.patternViolation v.category).record.Accounts (violationError v) :=
  .of_warns rfl (.patternViolation rfl rfl) (by simp [findingHeads]) (violationError_startsWith v)

private lemma analyze_accounted (g : Registry) (script : Text) :
    (analyze g script).Accounted (analyze g script).value.errors := by
  unfold Logged.Accounted analyze
  cases g.violations script with
  | ok found =>
    dsimp only
    rw [List.map_map, List.forall₂_map_left_iff, List.forall₂_map_right_iff, List.forall₂_same]
    exact fun v _ => accounts_violation v
  | error e =>
    refine .cons ?_ .nil
    cases e with
    | notCompiled id =>
      exact Record.accounts_analysisFailed _ (.rule (.notCompiled id)) (by simp [failureHeads])
        (Failure.notCompiled_startsWith id) _
    | unencodable bad =>
      exact Record.accounts_analysisFailed _ (.rule (.unencodable bad)) (by simp [failureHeads])
        bad.message_startsWith _

end Patterns

namespace Resources

/-- What is wrong with a number of virtual users is logged as it is said. -/
lemma accounts_judge {limits : Limits} {value : List Char} {t : Text} {e : Event}
    (h : judge limits value = .ok (some (t, e))) : e.record.Accounts t := by
  unfold judge at h
  obtain ⟨found, -, h⟩ := Steps.bind_eq_ok_iff.mp h
  cases found with
  | none =>
    obtain ⟨rfl, rfl⟩ := Prod.mk.inj (Option.some.inj (Except.ok.inj h))
    refine .of_warns rfl (.invalidVus rfl rfl) (s := "Invalid VUs value: ") (by simp [findingHeads]) ?_
    have hlead : (Text.ofString "Invalid VUs value: '").startsWith "Invalid VUs value: " = true := by decide
    simp only [List.append_assoc]
    exact Text.startsWith_append hlead _
  | some vus =>
    dsimp only at h
    split at h
    · obtain ⟨rfl, rfl⟩ := Prod.mk.inj (Option.some.inj (Except.ok.inj h))
      refine .of_warns rfl (.vusExceeded rfl rfl) (s := "VUs limit exceeded: ") (by simp [findingHeads]) ?_
      simp only [String.append_assoc, Text.ofString_append, ToString.toString, Text.startsWith_ofString_append]
    · cases h

/-- Virtual users are not checked when the script is not parsed or their number has too many digits. -/
lemma checkVus_eq_error {parse : Parser} {limits : Limits} {script language : Text} {cause : Failure}
    (h : checkVus parse limits script language = .error cause) :
    (∃ e, cause = .script e) ∨ ∃ n, cause = .tooManyDigits n := by
  unfold checkVus at h
  rcases Steps.bind_eq_error_iff.mp h with h | ⟨value, -, h⟩
  · left
    unfold declaredVus at h
    rcases Steps.bind_eq_error_iff.mp h with h | ⟨p, -, h⟩
    · obtain ⟨e, -, rfl⟩ := Steps.mapError_eq_error_iff.mp h
      exact ⟨e, rfl⟩
    · rcases Steps.bind_eq_error_iff.mp h with h | ⟨found, -, h⟩
      · obtain ⟨e, -, rfl⟩ := Steps.mapError_eq_error_iff.mp h
        exact ⟨e, rfl⟩
      · cases h
  · right
    split at h
    · cases h
    · cases h
    · exact judge_eq_error h

/-- What is wrong with virtual users has its record. -/
lemma accounts_checkVus {parse : Parser} {limits : Limits} {script language : Text} {t : Text} {e : Event}
    (h : checkVus parse limits script language = .ok (some (t, e))) : e.record.Accounts t := by
  obtain ⟨value, -, h⟩ := Steps.bind_eq_ok_iff.mp h
  split at h
  · cases h
  · cases h
  · exact accounts_judge h

/-- A script that is not too long is checked, and what is found is logged. -/
lemma analyze_accounted {limits : Limits} {script : Text} (hsize : script.units16 ≤ limits.maxScriptSize)
    (parse : Parser) (language : Text) :
    (analyze parse limits script language).Accounted (analyze parse limits script language).value.errors := by
  unfold Logged.Accounted analyze
  dsimp only
  rw [if_neg (by omega)]
  cases hchecked : checkVus parse limits script language with
  | ok found =>
    cases found with
    | none => exact .nil
    | some found => exact .cons (accounts_checkVus hchecked) .nil
  | error cause =>
    refine .cons ?_ .nil
    rcases checkVus_eq_error hchecked with ⟨e, rfl⟩ | ⟨n, rfl⟩
    · exact Record.accounts_scriptFailed _ e _
    · exact Record.accounts_analysisFailed _ (.tooManyDigits n) (by simp [failureHeads])
        (Number.tooManyDigitsMessage_startsWith n) _

end Resources

/-! ## The check -/

namespace Logged.Accounted

variable {α : Type} {l : Logged α} {errors : List Text}

/-- An analysis without errors logs nothing. -/
lemma events_eq_nil (h : l.Accounted []) : l.events = [] :=
  List.map_eq_nil_iff.mp (List.forall₂_nil_right_iff.mp h)

/-- No error that is accounted for is about what a script lacks. -/
lemma filter_lack (h : l.Accounted errors) : errors.filter (fun t => !t.beginsIn lackHeads) = errors := by
  refine List.filter_eq_self.mpr fun t ht => ?_
  obtain ⟨i, hi, rfl⟩ := List.mem_iff_getElem.mp ht
  have haccounts := List.Forall₂.get h (h.length_eq ▸ hi) hi
  exact congrArg (!·) haccounts.no_lack

/-- The warnings among the records warn of the errors that are warned of. -/
lemma warns_filter (h : l.Accounted errors) :
    List.Forall₂ Record.Warns ((l.events.map Event.record).filter fun r => r.level = .warning)
      (errors.filter (Text.beginsIn findingHeads)) := by
  unfold Logged.Accounted at h
  generalize l.events.map Event.record = records at h
  induction h with
  | nil => exact .nil
  | @cons r t records errors haccounts _ ih =>
    by_cases hlevel : r.level = .warning
    · rw [List.filter_cons_of_pos (by simpa using hlevel), List.filter_cons_of_pos (haccounts.warning_iff.mp hlevel)]
      exact .cons (haccounts.tells.warns hlevel) ih
    · rw [List.filter_cons_of_neg (by simpa using hlevel),
        List.filter_cons_of_neg fun h => hlevel (haccounts.warning_iff.mpr h)]
      exact ih

end Logged.Accounted

namespace Validator

/-- A script that is too large has no record of its own. -/
lemma filter_sizeErrors (limits : Limits) (script : Text) :
    (sizeErrors limits script).filter (fun t => !t.beginsIn lackHeads) = [] := by
  rw [List.filter_eq_nil_iff]
  intro t ht
  have hlack : t.beginsIn lackHeads = true := Text.beginsIn_of_mem (by simp [lackHeads]) (sizeErrors_startsWith ht)
  simp [hlack]

/-- What is missing has no record of its own. -/
lemma filter_missingErrors (s : Structure) :
    (missingErrors s).filter (fun t => !t.beginsIn lackHeads) = [] := by
  rw [List.filter_eq_nil_iff]
  intro t ht
  have hlack : t.beginsIn lackHeads = true := Text.beginsIn_of_mem (by simp [lackHeads]) (missingErrors_startsWith ht)
  simp [hlack]

/-- Both stages, by the errors of the first. -/
lemma stages_eq (v : Validator) (script language : Text) :
    v.stages script language =
      if !(v.firstErrors script language).isEmpty then
        ⟨respond (v.firstErrors script language), (Structure.analyze v.parse script language).events⟩
      else
        ⟨respond (v.secondErrors script language), (Structure.analyze v.parse script language).events ++
          (Patterns.analyze v.registry script).events ++ (Resources.analyze v.parse v.limits script language).events⟩ := rfl

/-- Without the errors about the size of a script and about what it lacks, what is answered is what is logged. -/
lemma stages_accounted (v : Validator) (script language : Text) :
    (v.stages script language).Accounted
      ((v.stagedErrors script language).filter fun t => !t.beginsIn lackHeads) := by
  have hstructure := Structure.analyze_accounted v.parse script language
  rw [stages_eq]
  unfold stagedErrors
  by_cases hfirst : v.firstErrors script language = []
  · -- The first stage has no errors, so it has logged nothing either.
    rw [if_pos hfirst, hfirst]
    obtain ⟨hrest, -⟩ := List.append_eq_nil_iff.mp hfirst
    obtain ⟨hsize, hnone⟩ := List.append_eq_nil_iff.mp hrest
    rw [hnone] at hstructure
    have hpatterns := Patterns.analyze_accounted v.registry script
    have hresources := Resources.analyze_accounted (sizeErrors_eq_nil_iff.mp hsize) v.parse language
    unfold secondErrors
    rw [List.filter_append, hpatterns.filter_lack, hresources.filter_lack]
    unfold Logged.Accounted at hpatterns hresources ⊢
    simp only [List.isEmpty_nil, Bool.not_true, Bool.false_eq_true, if_false, hstructure.events_eq_nil, List.nil_append,
      List.map_append]
    exact List.rel_append hpatterns hresources
  · -- Only the structure is logged: what stands around its errors is about the size and what is lacking.
    rw [if_neg hfirst, if_pos (by simpa using hfirst)]
    unfold firstErrors
    dsimp only
    rw [List.filter_append, List.filter_append, filter_sizeErrors, filter_missingErrors, hstructure.filter_lack,
      List.nil_append, List.append_nil]
    exact hstructure

/-- Errors that are warned of are among those that are logged. -/
lemma filter_finding_filter_lack (errors : List Text) :
    (errors.filter fun t => !t.beginsIn lackHeads).filter (Text.beginsIn findingHeads) =
      errors.filter (Text.beginsIn findingHeads) := by
  rw [List.filter_filter]
  refine List.filter_congr fun t _ => ?_
  cases hfinding : t.beginsIn findingHeads with
  | false => rfl
  | true =>
    obtain ⟨s, hs, hstart⟩ := List.any_eq_true.mp hfinding
    rw [Text.beginsIn_eq_false (finding_apart_lack s hs) hstart]
    rfl

/-- **The log agrees with the answer.** The last record of a check, and no other, says that it is complete, with the
verdict and the number of errors of the answer. The warnings before it are, in order, those errors of the answer that
report an import, a pattern or virtual users. With the records of analyses that failed they are all errors of the answer
but those about the size of the script and about what it lacks. These are the records of the check and its analyses, all
of them above the level `debug`: what is written below that about the first fault of a tree is left out. -/
theorem validate_logged (v : Validator) (script language : Text) :
    let answer := (v.validate script language).value
    ∃ earlier last, (v.validate script language).events.map Event.record = earlier ++ [last] ∧
      last.IsAbout "validation_complete" ∧ last.level ≠ .warning ∧
      last.field? "status" = some (.str (Text.ofString (if answer.valid then "valid" else "invalid"))) ∧
      last.field? "error_count" = some (.int answer.errors.length) ∧
      (∀ r ∈ earlier, ¬ r.IsAbout "validation_complete") ∧
      List.Forall₂ Record.Warns (earlier.filter fun r => r.level = .warning)
        (answer.errors.filter (Text.beginsIn findingHeads)) ∧
      List.Forall₂ Record.Tells earlier (answer.errors.filter fun t => !t.beginsIn lackHeads) := by
  intro answer
  have herrors : answer.errors = v.stagedErrors script language := by
    show (v.validate script language).value.errors = _
    rw [validate_value_eq, (respond_spec _).1]
  have haccounted := v.stages_accounted script language
  rw [← herrors] at haccounted
  refine ⟨(v.stages script language).events.map Event.record,
    (Event.validationComplete answer.valid answer.errors.length script.length).record, ?_, rfl, nofun, ?_, rfl, ?_, ?_,
    ?_⟩
  · exact List.map_append
  · cases answer.valid <;> rfl
  · intro r hr
    obtain ⟨i, hi, rfl⟩ := List.mem_iff_getElem.mp hr
    exact (List.Forall₂.get haccounted hi (haccounted.length_eq ▸ hi)).early
  · rw [← filter_finding_filter_lack]
    exact haccounted.warns_filter
  · exact haccounted.imp fun _ _ h => h.tells

end Validator

end ScriptVet
