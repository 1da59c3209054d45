import ScriptVet.Proofs.Analyses

/-!
# The two stages of a check

The errors about a script come from two stages and never from both. `firstErrors` are those about its size and its
structure, `secondErrors` those about patterns and resources, and `validate_value_eq` says which of the two are
answered. That the stages do not mix can be read off the texts alone: the errors of each stage begin in ways of its
own (`firstHeads`, `secondHeads`), and no beginning of the one stage fits one of the other.
-/

namespace ScriptVet

open Script (Language Node Parsed Parser ScriptError Import)

namespace Validator

/-- The errors about the size of a script, its structure and what it lacks. -/
def firstErrors (v : Validator) (script language : Text) : List Text :=
  let structural := (Structure.analyze v.parse script language).value
  sizeErrors v.limits script ++ structural.errors ++ missingErrors structural

/-- The errors about patterns in a script and the resources it asks for. -/
def secondErrors (v : Validator) (script language : Text) : List Text :=
  (Patterns.analyze v.registry script).value.errors ++ (Resources.analyze v.parse v.limits script language).value.errors

/-- The errors that are answered. -/
def stagedErrors (v : Validator) (script language : Text) : List Text :=
  if v.firstErrors script language = [] then v.secondErrors script language else v.firstErrors script language

/-- The answer is made from the errors of the stages. -/
theorem validate_value_eq (v : Validator) (script language : Text) :
    (v.validate script language).value = respond (v.stagedErrors script language) := by
  unfold validate completed stages stagedErrors secondErrors firstErrors
  dsimp only
  -- Both sides look only at whether the errors of the first stage are empty.
  generalize sizeErrors v.limits script ++ (Structure.analyze v.parse script language).value.errors ++
    missingErrors (Structure.analyze v.parse script language).value = first
  cases first <;> rfl

/-- An answer passes a script, has no errors and says so, or does none of the three. -/
theorem respond_spec (errors : List Text) :
    (respond errors).errors = errors ∧ (respond errors).warnings = [] ∧ ((respond errors).valid = true ↔ errors = []) ∧
      (respond errors).message =
        Text.ofString (if errors = [] then "Script validation passed" else "Script validation failed") := by
  unfold respond
  cases errors with
  | nil => exact ⟨rfl, rfl, iff_of_true rfl rfl, rfl⟩
  | cons e es => exact ⟨rfl, rfl, iff_of_false Bool.false_ne_true (List.cons_ne_nil _ _), rfl⟩

/-! ## A script that passes the first stage -/

/-- A script within the ceiling is not too large. -/
theorem sizeErrors_eq_nil_iff {limits : Limits} {script : Text} :
    sizeErrors limits script = [] ↔ script.units16 ≤ limits.maxScriptSize := by
  unfold sizeErrors
  dsimp only
  split
  · next h => exact iff_of_false (List.cons_ne_nil _ _) (by omega)
  · next h => exact iff_of_true rfl (by omega)

/-- Nothing is missing when all three things are there. -/
lemma missingErrors_eq_nil_iff {s : Structure} :
    missingErrors s = [] ↔
      s.hasK6Import = true ∧ s.hasProtocolImport = true ∧ s.hasExportedFunction = true := by
  unfold missingErrors
  cases s.hasK6Import <;> cases s.hasProtocolImport <;> cases s.hasExportedFunction <;> simp

/-- Nothing is wrong in the first stage when the script is not too long, all its imports are allowed, one of them makes
requests, and it exports a function. -/
theorem firstErrors_eq_nil_iff {v : Validator} {script language : Text} :
    v.firstErrors script language = [] ↔
      script.units16 ≤ v.limits.maxScriptSize ∧
        ∃ imports, Structure.facts v.parse script language = .ok (imports, true) ∧
          (∀ i ∈ imports, Specifier.isAllowed i.module = true) ∧
          ∃ i ∈ imports, Specifier.isProtocol i.module = true := by
  unfold firstErrors
  rw [List.append_eq_nil_iff, List.append_eq_nil_iff, sizeErrors_eq_nil_iff, missingErrors_eq_nil_iff, and_assoc]
  refine and_congr_right fun _ => ?_
  cases hfacts : Structure.facts v.parse script language with
  | error e =>
    rw [Structure.analyze_of_error hfacts]
    exact iff_of_false (fun h => List.cons_ne_nil _ _ h.1) (by rintro ⟨is, h, -⟩; cases h)
  | ok found =>
    obtain ⟨imports, exported⟩ := found
    rw [Structure.analyze_of_ok hfacts, Structure.ofImports_errors_eq_nil_iff]
    unfold Structure.ofImports
    simp only [List.any_eq_true, Bool.and_eq_true]
    constructor
    · rintro ⟨hallowed, -, ⟨i, hi, -, hprotocol⟩, rfl⟩
      exact ⟨imports, rfl, hallowed, i, hi, hprotocol⟩
    · rintro ⟨is, his, hallowed, i, hi, hprotocol⟩
      obtain ⟨rfl, rfl⟩ := Prod.mk.inj (Except.ok.inj his)
      exact ⟨hallowed, ⟨i, hi, hallowed i hi⟩, ⟨i, hi, hallowed i hi, hprotocol⟩, rfl⟩

/-- A script that passes the first stage can be parsed. -/
theorem parses_of_firstErrors_eq_nil {v : Validator} {script language : Text}
    (h : v.firstErrors script language = []) :
    ∃ (l : Language) (cs : List Char), language = Text.ofString l.name ∧ script = Text.ofChars cs := by
  obtain ⟨-, imports, hfacts, -⟩ := firstErrors_eq_nil_iff.mp h
  obtain ⟨l, cs, hlanguage, hscript, -⟩ := Structure.facts_eq_ok_iff.mp hfacts
  exact ⟨l, cs, hlanguage, hscript⟩

/-! ## How errors begin -/

/-- The errors of the first stage begin in one of these ways. -/
def firstHeads : List String :=
  ["Script size (", "Script must ", "Script parsing ", "Forbidden ", "Unknown/", "Unsupported ", "'utf-8' ",
    "Python int ", "Syntax tree "]

/-- The errors of the second stage begin in one of these ways. -/
def secondHeads : List String := ["Script contains ", "Pattern ", "Invalid VUs ", "VUs limit ", "Exceeds the "]

/-- A text begins in one of some ways. -/
def BeginsIn (heads : List String) (t : Text) : Prop := ∃ s ∈ heads, t.startsWith s = true

/-- A text with a fixed lead begins as its lead does. -/
lemma BeginsIn.of_lead {heads : List String} {s lead : String} (hs : s ∈ heads)
    (hlead : (Text.ofString lead).startsWith s = true) (rest : Text) : BeginsIn heads (Text.ofString lead ++ rest) :=
  ⟨s, hs, Text.startsWith_append hlead rest⟩

/-- No beginning of the one stage fits one of the other. -/
lemma heads_apart : ∀ s ∈ firstHeads, ∀ t ∈ secondHeads, Text.Apart s t := by decide +kernel

/-- No error begins like one of each stage. -/
lemma not_beginsIn_secondHeads {e : Text} (h : BeginsIn firstHeads e) : ¬ BeginsIn secondHeads e := by
  obtain ⟨s, hs, hstart⟩ := h
  rintro ⟨t, ht, htstart⟩
  rw [Text.startsWith_eq_false_of_apart (heads_apart s hs t ht) hstart] at htstart
  exact Bool.false_ne_true htstart

private lemma scriptError_beginsIn (e : ScriptError) : BeginsIn firstHeads e.message := by
  refine ⟨e.head, ?_, e.message_startsWith_head⟩
  cases e <;> simp [ScriptError.head, firstHeads]

private lemma importError_beginsIn {i : Import} {e : Text} (h : Structure.importError i = some e) :
    BeginsIn firstHeads e := by
  unfold Structure.importError at h
  split at h
  · cases h
  · split at h
    · cases h
      exact BeginsIn.of_lead (s := "Forbidden ") (by simp [firstHeads]) (by decide) _
    · cases h
      exact BeginsIn.of_lead (s := "Unknown/") (by simp [firstHeads]) (by decide) _

lemma sizeErrors_startsWith {limits : Limits} {script e : Text} (h : e ∈ sizeErrors limits script) :
    e.startsWith "Script size (" = true := by
  unfold sizeErrors at h
  dsimp only at h
  split at h
  · rw [List.mem_singleton.mp h]
    simp only [String.append_assoc, Text.ofString_append, ToString.toString, Text.startsWith_ofString_append]
  · cases h

/-- What a script lacks is said in one of three texts. -/
theorem eq_of_mem_missingErrors {s : Structure} {e : Text} (h : e ∈ missingErrors s) :
    e = missingImport ∨ e = missingProtocol ∨ e = missingFunction := by
  have hone : ∀ {b : Bool} {m : Text}, e ∈ (if b then [] else [m]) → e = m := by
    intro b m he
    cases b with
    | true => cases he
    | false => exact List.mem_singleton.mp he
  unfold missingErrors at h
  rcases List.mem_append.mp h with h | h
  · rcases List.mem_append.mp h with h | h
    · exact Or.inl (hone h)
    · exact Or.inr (Or.inl (hone h))
  · exact Or.inr (Or.inr (hone h))

lemma missingErrors_startsWith {s : Structure} {e : Text} (h : e ∈ missingErrors s) :
    e.startsWith "Script must " = true := by
  rcases eq_of_mem_missingErrors h with rfl | rfl | rfl <;> decide +kernel

/-- The errors of the first stage begin as listed. -/
lemma firstErrors_beginsIn {v : Validator} {script language e : Text} (h : e ∈ v.firstErrors script language) :
    BeginsIn firstHeads e := by
  unfold firstErrors at h
  rcases List.mem_append.mp h with h | h
  · rcases List.mem_append.mp h with h | h
    · exact ⟨_, by simp [firstHeads], sizeErrors_startsWith h⟩
    · cases hfacts : Structure.facts v.parse script language with
      | error cause =>
        rw [Structure.analyze_of_error hfacts] at h
        rw [List.mem_singleton.mp h]
        exact scriptError_beginsIn cause
      | ok found =>
        rw [Structure.analyze_of_ok hfacts] at h
        obtain ⟨i, -, hi⟩ := List.mem_filterMap.mp h
        exact importError_beginsIn hi
  · exact ⟨_, by simp [firstHeads], missingErrors_startsWith h⟩

end Validator

/-! ## Errors of the second stage -/

/-- A search that fails says which rule was not prepared or what has no UTF-8 form. -/
theorem Registry.exists_search_eq_error {g : Registry} {text : Text} {e : RuleError}
    (h : g.violations text = .error e) : ∃ r ∈ g.rules, r.search text = .error e := by
  obtain ⟨before, r, after, horder, -, hr⟩ := violations_eq_error_iff.mp h
  have hmem : r ∈ g.inOrder := by simp [horder]
  exact ⟨r, mem_inOrder_iff.mp hmem, hr⟩

/-- In a text with a UTF-8 form a search fails only when the rule was not prepared. -/
lemma Rule.search_ofChars_eq_error {r : Rule} {cs : List Char} {e : RuleError}
    (h : r.search (Text.ofChars cs) = .error e) : e = .notCompiled r.id := by
  unfold Rule.search at h
  split at h
  · exact (Except.error.inj h).symm
  · rw [Text.encode_ofChars] at h
    cases h

/-- What was found is said behind the description of its category. -/
theorem Patterns.violationError_startsWith (v : Violation) :
    (violationError v).startsWith "Script contains " = true := by
  have hlead : (Text.ofString v.category.description).startsWith "Script contains " = true := by
    cases v.category <;> decide +kernel
  unfold violationError
  rw [List.append_assoc, List.append_assoc]
  exact Text.startsWith_append hlead _

lemma Failure.notCompiled_startsWith (id : Text) :
    (Failure.rule (.notCompiled id)).message.startsWith "Pattern " = true := by
  show (Text.ofString "Pattern " ++ id ++ Text.ofString " was not compiled").startsWith "Pattern " = true
  rw [List.append_assoc, Text.startsWith_ofString_append]

namespace Validator

private lemma patterns_beginsIn {g : Registry} {cs : List Char} {e : Text}
    (h : e ∈ (Patterns.analyze g (Text.ofChars cs)).value.errors) : BeginsIn secondHeads e := by
  unfold Patterns.analyze at h
  cases hfound : g.violations (Text.ofChars cs) with
  | ok found =>
    rw [hfound] at h
    obtain ⟨violation, -, rfl⟩ := List.mem_map.mp h
    exact ⟨_, by simp [secondHeads], Patterns.violationError_startsWith violation⟩
  | error cause =>
    rw [hfound] at h
    obtain ⟨r, -, hsearch⟩ := Registry.exists_search_eq_error hfound
    obtain rfl := Rule.search_ofChars_eq_error hsearch
    have hstart := Failure.notCompiled_startsWith r.id
    rw [List.mem_singleton.mp h, Failure.report_of_startsWith (by decide) hstart]
    exact ⟨_, by simp [secondHeads], hstart⟩

/-- What is said about a number of virtual users. -/
lemma judge_beginsIn {limits : Limits} {value : List Char} {e : Text} {event : Log.Event}
    (h : Resources.judge limits value = .ok (some (e, event))) : BeginsIn secondHeads e := by
  unfold Resources.judge at h
  obtain ⟨found, -, h⟩ := Steps.bind_eq_ok_iff.mp h
  cases found with
  | none =>
    obtain ⟨rfl, -⟩ := Prod.mk.inj (Option.some.inj (Except.ok.inj h))
    simp only [List.append_assoc]
    exact BeginsIn.of_lead (s := "Invalid VUs ") (by simp [secondHeads]) (by decide) _
  | some n =>
    dsimp only at h
    split at h
    · obtain ⟨rfl, -⟩ := Prod.mk.inj (Option.some.inj (Except.ok.inj h))
      simp only [String.append_assoc, Text.ofString_append, ToString.toString]
      exact BeginsIn.of_lead (s := "VUs limit ") (by simp [secondHeads]) (by decide) _
    · cases h

private lemma resources_beginsIn {parse : Parser} {limits : Limits} {l : Language} {cs : List Char} {e : Text}
    (hsize : (Text.ofChars cs).units16 ≤ limits.maxScriptSize)
    (h : e ∈ (Resources.analyze parse limits (Text.ofChars cs) (Text.ofString l.name)).value.errors) :
    BeginsIn secondHeads e := by
  rcases Resources.error_cases hsize h with ⟨value, event, hjudge⟩ | ⟨n, rfl⟩
  · exact judge_beginsIn hjudge
  · exact ⟨"Exceeds the ", by simp [secondHeads], Number.tooManyDigitsMessage_startsWith n⟩

/-- When nothing is wrong in the first stage, all errors are about patterns or resources. -/
lemma secondErrors_beginsIn {v : Validator} {script language e : Text} (hfirst : v.firstErrors script language = [])
    (h : e ∈ v.secondErrors script language) : BeginsIn secondHeads e := by
  obtain ⟨l, cs, rfl, rfl⟩ := parses_of_firstErrors_eq_nil hfirst
  have hsize := (firstErrors_eq_nil_iff.mp hfirst).1
  unfold secondErrors at h
  rcases List.mem_append.mp h with h | h
  · exact patterns_beginsIn h
  · exact resources_beginsIn hsize h

/-! ## The answer -/

/-- All errors begin as listed. -/
lemma stagedErrors_beginsIn {v : Validator} {script language e : Text} (h : e ∈ v.stagedErrors script language) :
    BeginsIn (firstHeads ++ secondHeads) e := by
  unfold stagedErrors at h
  split at h
  · next hfirst =>
    obtain ⟨s, hs, hstart⟩ := secondErrors_beginsIn hfirst h
    exact ⟨s, List.mem_append_right _ hs, hstart⟩
  · obtain ⟨s, hs, hstart⟩ := firstErrors_beginsIn h
    exact ⟨s, List.mem_append_left _ hs, hstart⟩

/-- **The stages do not mix.** A script always gets an answer without warnings, which passes it when there are
no errors and says so. The errors are those of the first stage when there are any, and then none of them is
about a pattern or virtual users; else they are those of the second stage, and all of them are. The size of a
script is never complained about in the words of the second stage. -/
theorem validate_staged (v : Validator) (script language : Text) :
    let r := (v.validate script language).value
    r.warnings = [] ∧ (r.valid = true ↔ r.errors = []) ∧
      (r.errors = [] ↔ r.message = Text.ofString "Script validation passed") ∧
      (r.errors ≠ [] → r.message = Text.ofString "Script validation failed") ∧
      (v.firstErrors script language ≠ [] →
        r.errors = v.firstErrors script language ∧ ∀ e ∈ r.errors, ¬ BeginsIn secondHeads e) ∧
      (v.firstErrors script language = [] →
        r.errors = v.secondErrors script language ∧
          ∀ e ∈ r.errors, BeginsIn secondHeads e ∧ ¬ BeginsIn firstHeads e) ∧
      ∀ e ∈ r.errors, e.startsWith "Script size exceeds maximum allowed length" = false := by
  intro r
  obtain ⟨herrors, hwarnings, hvalid, hmessage⟩ := respond_spec (v.stagedErrors script language)
  rw [← validate_value_eq] at herrors hwarnings hvalid hmessage
  refine ⟨hwarnings, by rw [hvalid, herrors], ?_, ?_, ?_, ?_, ?_⟩
  · rw [herrors, hmessage]
    by_cases hnil : v.stagedErrors script language = []
    · rw [if_pos hnil]
      exact iff_of_true hnil rfl
    · rw [if_neg hnil]
      exact iff_of_false hnil (by decide)
  · intro hne
    rw [herrors] at hne
    rw [hmessage, if_neg hne]
  · intro hfirst
    have hstaged : r.errors = v.firstErrors script language := by rw [herrors, stagedErrors, if_neg hfirst]
    refine ⟨hstaged, fun e he => ?_⟩
    rw [hstaged] at he
    exact not_beginsIn_secondHeads (firstErrors_beginsIn he)
  · intro hfirst
    have hstaged : r.errors = v.secondErrors script language := by rw [herrors, stagedErrors, if_pos hfirst]
    refine ⟨hstaged, fun e he => ?_⟩
    rw [hstaged] at he
    have hsecond := secondErrors_beginsIn hfirst he
    exact ⟨hsecond, fun h => not_beginsIn_secondHeads h hsecond⟩
  · intro e he
    rw [herrors] at he
    obtain ⟨s, hs, hstart⟩ := stagedErrors_beginsIn he
    have hapart : ∀ s ∈ firstHeads ++ secondHeads, Text.Apart s "Script size exceeds maximum allowed length" := by
      decide +kernel
    exact Text.startsWith_eq_false_of_apart (hapart s hs) hstart

end Validator

end ScriptVet
