import ScriptVet.Proofs.Acceptance
import ScriptVet.Service.Route

/-!
# Which answers can be sent

An answer is sent as UTF-8, so none of its texts may hold a surrogate. Most errors are put together from fixed
texts, numbers and stretches of a script that was itself read from UTF-8. One kind is not: the name of a module
is shown decoded, and an escape sequence can write a surrogate. `stagedErrors_hasUtf8_iff` says that nothing
else stands in the way. What is answered to a payload may also list the extensions of file names, which are whatever the
limits say: `payload_sendable_iff` says when it can be sent.
-/

namespace ScriptVet

open Script (Language Node Parsed Parser ScriptError Import)

/-! ## Texts of answers -/

/-- All texts of an answer have a UTF-8 form. -/
def Response.Sendable (r : Response) : Prop :=
  r.message.HasUtf8 ∧ (∀ e ∈ r.errors, e.HasUtf8) ∧ ∀ w ∈ r.warnings, w.HasUtf8

/-- Whether an answer can be sent is up to its errors when its other texts are plain strings. -/
theorem Response.sendable_iff {r : Response} {message : String} (hmessage : r.message = Text.ofString message)
    (hwarnings : r.warnings = []) : r.Sendable ↔ ∀ e ∈ r.errors, e.HasUtf8 := by
  unfold Sendable
  rw [hmessage, hwarnings]
  simp [Text.hasUtf8_ofString]

namespace Service

/-- An answer that can be sent is sent as it is. -/
theorem encode_of_sendable {a : Answer} (h : a.response.Sendable) : encode a = .ok ⟨a.status, a.response.toJson⟩ := by
  obtain ⟨hmessage, herrors, hwarnings⟩ := h
  have hnone : (a.response.message :: a.response.errors ++ a.response.warnings).findSome? Text.unencodable? = none := by
    rw [List.findSome?_eq_none_iff]
    intro t ht
    rw [Text.unencodable?_eq_none_iff]
    rcases List.mem_append.mp ht with ht | ht
    · rcases List.mem_cons.mp ht with rfl | ht
      · exact hmessage
      · exact herrors t ht
    · exact hwarnings t ht
  unfold encode
  rw [hnone]

/-- An answer that cannot be sent gives no reply. -/
theorem encode_of_not_sendable {a : Answer} (h : ¬ a.response.Sendable) : ∃ cause, encode a = .error cause := by
  cases hsome : (a.response.message :: a.response.errors ++ a.response.warnings).findSome? Text.unencodable? with
  | some bad =>
    refine ⟨.unencodable bad, ?_⟩
    unfold encode
    rw [hsome]
  | none =>
    rw [List.findSome?_eq_none_iff] at hsome
    have hall : ∀ t ∈ a.response.message :: a.response.errors ++ a.response.warnings, t.HasUtf8 := fun t ht =>
      Text.unencodable?_eq_none_iff.mp (hsome t ht)
    refine absurd ⟨hall _ ?_, fun e he => hall e ?_, fun w hw => hall w ?_⟩ h
    · exact List.mem_append_left _ (List.mem_cons_self ..)
    · exact List.mem_append_left _ (List.mem_cons_of_mem _ he)
    · exact List.mem_append_right _ hw

end Service

/-! ## Errors about the structure -/

/-- The script names a module that it may not import and whose name has no UTF-8 form. This counts only for a
script without faults all of whose imports have a name, since of another script no module is looked at. -/
def NamesUnsendable (parse : Parser) (script : Text) (l : Language) : Prop :=
  ∃ cs, script = Text.ofChars cs ∧ (parse l cs).Faultless ∧
    (∀ n ∈ (parse l cs).children, ∀ s, n.ImportsFrom s → ∃ m, s.stringValue cs = .ok m) ∧
    ∃ m, (parse l cs).Imports cs m ∧ ¬ Specifier.Allowed m ∧ ¬ m.HasUtf8

private lemma Failure.report_hasUtf8 {f : Failure} (h : f.message.HasUtf8) (fallback : String) :
    (f.report fallback).HasUtf8 := by
  unfold Failure.report
  split
  · exact Text.hasUtf8_ofString _
  · exact h

namespace Structure

/-- A language of the library is not complained about. -/
lemma facts_ne_unsupportedLanguage (parse : Parser) (script : Text) (l : Language) (name : Text) :
    facts parse script (Text.ofString l.name) ≠ .error (.unsupportedLanguage name) := by
  unfold facts
  rw [ne_eq, Steps.bind_eq_error_iff]
  rintro (h | ⟨p, hp, h⟩)
  · unfold Parsed.ofSource at h
    rw [Script.Language.ofName?_eq_some_iff.mpr rfl] at h
    dsimp only at h
    split at h <;> cases h
  · obtain ⟨l', cs, -, -, rfl⟩ := Parsed.ofSource_eq_ok_iff.mp hp
    rcases Steps.bind_eq_error_iff.mp h with h | ⟨-, -, h⟩
    · unfold Parsed.checkSyntax at h
      rcases Steps.bind_eq_error_iff.mp h with h | ⟨fault, -, h⟩
      · cases h
      · cases fault <;> cases h
    · rcases Steps.bind_eq_error_iff.mp h with h | ⟨is, -, h⟩
      · have hescape : ((parse l' cs).imports cs).mapError ScriptError.escape = .error (.unsupportedLanguage name) := h
        cases himports : (parse l' cs).imports cs with
        | ok is => rw [himports] at hescape; cases hescape
        | error e => rw [himports] at hescape; cases hescape
      · cases h

/-- The error about a script without facts can be sent. -/
lemma message_hasUtf8_of_facts_eq_error {parse : Parser} {script : Text} {l : Language} {e : ScriptError}
    (h : facts parse script (Text.ofString l.name) = .error e) : e.message.HasUtf8 := by
  cases e with
  | unsupportedLanguage name => exact absurd h (facts_ne_unsupportedLanguage parse script l name)
  | unencodable bad => exact Text.hasUtf8_ofString _
  | syntaxError line column => exact Text.hasUtf8_ofString _
  | escape e => exact Text.hasUtf8_ofString _
  | released => exact Text.hasUtf8_ofString _

/-- An import is complained about by the name of its module. -/
lemma importError_hasUtf8_iff {i : Import} :
    (∀ e, importError i = some e → e.HasUtf8) ↔ Specifier.Allowed i.module ∨ i.module.HasUtf8 := by
  have hnamed : ∀ (s : String) (m : Text), (∀ e, some (Text.ofString s ++ m) = some e → e.HasUtf8) ↔ m.HasUtf8 := by
    intro s m
    simp only [Option.some.injEq, forall_eq', Text.hasUtf8_append]
    exact and_iff_right (Text.hasUtf8_ofString s)
  rw [← Specifier.isAllowed_iff]
  unfold importError
  split
  · next h => exact iff_of_true (fun e he => by cases he) (Or.inl h)
  · next h =>
    rw [or_iff_right h]
    split <;> exact hnamed _ _

/-- The errors about the structure of a script can be sent unless it names a module that cannot. -/
lemma analyze_hasUtf8_iff {parse : Parser} {script : Text} {l : Language} :
    (∀ e ∈ (analyze parse script (Text.ofString l.name)).value.errors, e.HasUtf8) ↔ ¬ NamesUnsendable parse script l := by
  cases hfacts : facts parse script (Text.ofString l.name) with
  | error cause =>
    -- The one error says why no module was looked at, so none of them stands in the way.
    rw [analyze_of_error hfacts]
    refine iff_of_true (fun e he => ?_) ?_
    · rw [List.mem_singleton.mp he]
      exact message_hasUtf8_of_facts_eq_error hfacts
    · rintro ⟨cs, hscript, hfaultless, hvalues, -⟩
      obtain ⟨imports, himports⟩ := Node.exists_imports_eq_ok_iff.mpr hvalues
      have hok := facts_eq_ok_iff.mpr ⟨l, cs, rfl, hscript, hfaultless, himports, rfl⟩
      rw [hfacts] at hok
      cases hok
  | ok found =>
    obtain ⟨imports, exported⟩ := found
    obtain ⟨l', cs, hname, rfl, hfaultless, himports, -⟩ := facts_eq_ok_iff.mp hfacts
    obtain rfl : l = l' := Option.some.inj
      ((Script.Language.ofName?_eq_some_iff.mpr rfl).symm.trans (Script.Language.ofName?_eq_some_iff.mpr hname))
    have herrors : (∀ e ∈ (analyze parse (Text.ofChars cs) (Text.ofString l.name)).value.errors, e.HasUtf8) ↔
        ∀ i ∈ imports, Specifier.Allowed i.module ∨ i.module.HasUtf8 := by
      rw [analyze_of_ok hfacts]
      show (∀ e ∈ imports.filterMap importError, e.HasUtf8) ↔ _
      simp only [List.mem_filterMap, forall_exists_index, and_imp, ← importError_hasUtf8_iff]
      exact ⟨fun h i hi e he => h e i hi he, fun h e i hi he => h i hi e he⟩
    rw [herrors]
    constructor
    · rintro h ⟨cs', hcs, -, -, m, hm, hforbidden, hbad⟩
      obtain rfl := Text.ofChars_injective hcs
      obtain ⟨i, hi, rfl⟩ := (Node.mem_imports_iff himports).mpr hm
      exact (h i hi).elim hforbidden hbad
    · intro h i hi
      by_contra hnot
      rw [not_or] at hnot
      exact h ⟨cs, rfl, hfaultless, Node.exists_imports_eq_ok_iff.mp ⟨imports, himports⟩, i.module,
        (Node.mem_imports_iff himports).mp ⟨i, hi, rfl⟩, hnot⟩

end Structure

/-! ## All errors about a script -/

/-- Every rule of the registry was prepared. -/
def Registry.Prepared (g : Registry) : Prop := ∀ r ∈ g.rules, r.regex.isSome = true

/-- All rules of a registry that was built were prepared. -/
lemma Registry.prepared_of_build {compiler : Regex.Compiler} {definitions : List RuleDefinition} {g : Registry}
    (h : build compiler definitions = .ok g) : g.Prepared := by
  unfold build at h
  obtain ⟨rules, hrules, h⟩ := Steps.bind_eq_ok_iff.mp h
  obtain rfl := Steps.pure_eq_ok_iff.mp h
  intro r hr
  obtain ⟨d, -, hd⟩ := (Steps.mem_of_mapM_eq_ok hrules).mp hr
  unfold Rule.compile at hd
  split at hd
  · cases hd
  · split at hd
    · cases hd
    · obtain rfl := Except.ok.inj hd
      rfl

lemma Registry.default_prepared : Registry.default.Prepared := by
  unfold Registry.default
  cases hbuild : build Regex.compile defaultDefinitions with
  | error e => exact fun r hr => by cases hr
  | ok g => exact prepared_of_build hbuild

/-- The errors about patterns can be sent. -/
lemma Patterns.analyze_hasUtf8 {g : Registry} (hg : g.Prepared) {script e : Text}
    (h : e ∈ (analyze g script).value.errors) : e.HasUtf8 := by
  unfold analyze at h
  cases hfound : g.violations script with
  | ok found =>
    rw [hfound] at h
    obtain ⟨violation, -, rfl⟩ := List.mem_map.mp h
    unfold violationError
    simp only [Text.hasUtf8_append, Text.hasUtf8_ofString, Text.hasUtf8_ofChars, and_self]
  | error cause =>
    rw [hfound] at h
    rw [List.mem_singleton.mp h]
    -- The name of a rule may be any text, but only a rule that was not prepared is called by it.
    obtain ⟨r, hr, hsearch⟩ := Registry.exists_search_eq_error hfound
    apply Failure.report_hasUtf8
    cases cause with
    | unencodable bad => exact Text.hasUtf8_ofString _
    | notCompiled id =>
      obtain ⟨regex, hregex⟩ := Option.isSome_iff_exists.mp (hg r hr)
      unfold Rule.search at hsearch
      rw [hregex] at hsearch
      dsimp only at hsearch
      split at hsearch <;> cases hsearch

/-- The errors about virtual users can be sent. -/
lemma Resources.judge_hasUtf8 {limits : Limits} {value : List Char} {e : Text} {event : Log.Event}
    (h : judge limits value = .ok (some (e, event))) : e.HasUtf8 := by
  unfold judge at h
  obtain ⟨found, -, h⟩ := Steps.bind_eq_ok_iff.mp h
  cases found with
  | none =>
    obtain ⟨rfl, -⟩ := Prod.mk.inj (Option.some.inj (Except.ok.inj h))
    simp only [Text.hasUtf8_append, Text.hasUtf8_ofString, Text.hasUtf8_ofChars, and_self]
  | some n =>
    dsimp only at h
    split at h
    · obtain ⟨rfl, -⟩ := Prod.mk.inj (Option.some.inj (Except.ok.inj h))
      exact Text.hasUtf8_ofString _
    · cases h

namespace Validator

private lemma sizeErrors_hasUtf8 {limits : Limits} {script e : Text} (h : e ∈ sizeErrors limits script) : e.HasUtf8 := by
  unfold sizeErrors at h
  dsimp only at h
  split at h
  · rw [List.mem_singleton.mp h]
    exact Text.hasUtf8_ofString _
  · cases h

private lemma missingErrors_hasUtf8 {s : Structure} {e : Text} (h : e ∈ missingErrors s) : e.HasUtf8 := by
  rcases eq_of_mem_missingErrors h with rfl | rfl | rfl <;> exact Text.hasUtf8_ofString _

/-- The errors of the first stage can be sent unless the script names a module that cannot. -/
lemma firstErrors_hasUtf8_iff {v : Validator} {script : Text} {l : Language} :
    (∀ e ∈ v.firstErrors script (Text.ofString l.name), e.HasUtf8) ↔ ¬ NamesUnsendable v.parse script l := by
  rw [← Structure.analyze_hasUtf8_iff]
  unfold firstErrors
  simp only [List.mem_append]
  constructor
  · intro h e he
    exact h e (Or.inl (Or.inr he))
  · rintro h e ((he | he) | he)
    · exact sizeErrors_hasUtf8 he
    · exact h e he
    · exact missingErrors_hasUtf8 he

/-- The errors of the second stage can be sent. -/
lemma secondErrors_hasUtf8 {v : Validator} (hv : v.registry.Prepared) {script language e : Text}
    (hfirst : v.firstErrors script language = []) (h : e ∈ v.secondErrors script language) : e.HasUtf8 := by
  obtain ⟨l, cs, rfl, rfl⟩ := parses_of_firstErrors_eq_nil hfirst
  unfold secondErrors at h
  rcases List.mem_append.mp h with h | h
  · exact Patterns.analyze_hasUtf8 hv h
  · rcases Resources.error_cases (firstErrors_eq_nil_iff.mp hfirst).1 h with ⟨value, event, hjudge⟩ | ⟨n, rfl⟩
    · exact Resources.judge_hasUtf8 hjudge
    · exact Text.hasUtf8_ofString _

/-- The errors about a script can be sent unless it names a module that cannot. -/
lemma stagedErrors_hasUtf8_iff {v : Validator} (hv : v.registry.Prepared) {script : Text} {l : Language} :
    (∀ e ∈ v.stagedErrors script (Text.ofString l.name), e.HasUtf8) ↔ ¬ NamesUnsendable v.parse script l := by
  unfold stagedErrors
  split
  · next hfirst =>
    -- No error in the first stage, so no module is named that may not be.
    refine iff_of_true (fun e he => secondErrors_hasUtf8 hv hfirst he) ?_
    rw [← firstErrors_hasUtf8_iff (v := v), hfirst]
    exact fun e he => by cases he
  · exact firstErrors_hasUtf8_iff

/-- The answer about a script can be sent unless it names a module that cannot. -/
lemma validate_sendable_iff {v : Validator} (hv : v.registry.Prepared) {script : Text} {l : Language} :
    (v.validate script (Text.ofString l.name)).value.Sendable ↔ ¬ NamesUnsendable v.parse script l := by
  rw [← stagedErrors_hasUtf8_iff hv, validate_value_eq]
  obtain ⟨herrors, hwarnings, -, hmessage⟩ := respond_spec (v.stagedErrors script (Text.ofString l.name))
  rw [Response.sendable_iff hmessage hwarnings, herrors]

/-- A script that names a module that cannot be sent fails. -/
lemma not_valid_of_namesUnsendable {v : Validator} (hv : v.registry.Prepared) {script : Text} {l : Language}
    (h : NamesUnsendable v.parse script l) : (v.validate script (Text.ofString l.name)).value.valid = false := by
  rw [Bool.eq_false_iff]
  intro hvalid
  rw [validate_value_eq, (respond_spec _).2.2.1] at hvalid
  refine (stagedErrors_hasUtf8_iff hv).mp ?_ h
  rw [hvalid]
  exact fun e he => by cases he

end Validator

/-! ## Answers to payloads -/

namespace Text

/-- Texts that are put together can be sent when each of them can. -/
lemma join_hasUtf8_iff {separator : Text} (hseparator : separator.HasUtf8) {ts : List Text} :
    (join separator ts).HasUtf8 ↔ ∀ t ∈ ts, t.HasUtf8 := by
  induction ts with
  | nil => exact iff_of_true hasUtf8_nil nofun
  | cons t ts ih =>
    rw [List.forall_mem_cons]
    cases ts with
    | nil => exact (and_iff_left nofun).symm
    | cons u us =>
      rw [join, hasUtf8_append, hasUtf8_append, ih, and_iff_left hseparator]
      exact fun hnil => List.cons_ne_nil _ _ hnil

end Text

namespace Submission

variable {depth : Nat} {limits : Limits}

private lemma scriptErrors_hasUtf8 {value : Json} {e : Text} (h : e ∈ scriptErrors limits value) : e.HasUtf8 := by
  unfold scriptErrors at h
  split at h
  · rw [List.mem_singleton.mp h]; exact Text.hasUtf8_ofString _
  · rw [List.mem_singleton.mp h]; exact Text.hasUtf8_ofString _
  · split at h
    · rw [List.mem_singleton.mp h]; exact Text.hasUtf8_ofString _
    · cases h
  · rw [List.mem_singleton.mp h]; exact Text.hasUtf8_ofString _

/-- A wrong file name is answered with a list of the extensions. -/
lemma mem_filenameErrors {value : Json} {e : Text} (h : e ∈ filenameErrors limits value) :
    e = Text.ofString "Script filename must end with one of: " ++ Text.join (Text.ofString ", ") limits.extensions := by
  unfold filenameErrors at h
  dsimp only at h
  split at h
  · cases h
  · split at h
    · cases h
    · exact List.mem_singleton.mp h
  · exact List.mem_singleton.mp h

/-- The file name is wrong, and one of the extensions that are listed then has no UTF-8 form. -/
def ListsUnsendable (limits : Limits) (members : List (Text × Json)) : Prop :=
  filenameErrors limits (fieldOf members "filename") ≠ [] ∧ ∃ x ∈ limits.extensions, ¬ x.HasUtf8

/-- The error about a file name can be sent unless it lists extensions that cannot. -/
lemma filenameErrors_hasUtf8_iff {members : List (Text × Json)} :
    (∀ e ∈ filenameErrors limits (fieldOf members "filename"), e.HasUtf8) ↔ ¬ ListsUnsendable limits members := by
  have hlist : (Text.ofString "Script filename must end with one of: " ++
      Text.join (Text.ofString ", ") limits.extensions).HasUtf8 ↔ ∀ x ∈ limits.extensions, x.HasUtf8 := by
    rw [Text.hasUtf8_append, and_iff_right (Text.hasUtf8_ofString _), Text.join_hasUtf8_iff (Text.hasUtf8_ofString _)]
  constructor
  · rintro h ⟨hwrong, x, hx, hbad⟩
    obtain ⟨e, he⟩ := List.exists_mem_of_ne_nil _ hwrong
    have hsent := h e he
    rw [mem_filenameErrors he, hlist] at hsent
    exact hbad (hsent x hx)
  · intro h e he
    rw [mem_filenameErrors he, hlist]
    intro x hx
    by_contra hbad
    exact h ⟨List.ne_nil_of_mem he, x, hx, hbad⟩

private lemma readOptions_eq_error {value : Json} {e : Text} (h : readOptions depth value = .ok (.error e)) :
    e = badOptions := by
  unfold readOptions at h
  split at h
  · cases h
  · cases h
  · split at h <;> cases h <;> rfl
  · cases h; rfl

/-- What is wrong with the fields of a request are the errors about them, one after another. -/
lemma mem_of_read_eq_invalid {members : List (Text × Json)} {errors : List Text}
    (h : read depth limits members = .error (.invalid errors)) {e : Text} :
    e ∈ errors ↔ e ∈ scriptErrors limits (fieldOf members "script") ∨
      e ∈ filenameErrors limits (fieldOf members "filename") ∨
      (e = badOptions ∧ readOptions depth (fieldOf members "options") = .ok (.error e)) := by
  unfold read at h
  dsimp only at h
  split at h
  · cases h
  · next wrong hoptions =>
    cases h
    obtain rfl := readOptions_eq_error hoptions
    rw [List.mem_append, List.mem_append, List.mem_singleton, hoptions]
    constructor
    · rintro ((he | he) | rfl)
      · exact Or.inl he
      · exact Or.inr (Or.inl he)
      · exact Or.inr (Or.inr ⟨rfl, rfl⟩)
    · rintro (he | he | ⟨he, -⟩)
      · exact Or.inl (Or.inl he)
      · exact Or.inl (Or.inr he)
      · exact Or.inr he
  · next options hoptions =>
    split at h
    · cases h
    · cases h
      rw [List.mem_append, hoptions]
      simp

/-- What is wrong with the fields of a request can be sent unless extensions are listed that cannot. -/
lemma read_hasUtf8_iff {members : List (Text × Json)} {errors : List Text}
    (h : read depth limits members = .error (.invalid errors)) :
    (∀ e ∈ errors, e.HasUtf8) ↔ ¬ ListsUnsendable limits members := by
  rw [← filenameErrors_hasUtf8_iff]
  constructor
  · exact fun hall e he => hall e ((mem_of_read_eq_invalid h).mpr (Or.inr (Or.inl he)))
  · intro hnames e he
    rcases (mem_of_read_eq_invalid h).mp he with he | he | ⟨rfl, -⟩
    · exact scriptErrors_hasUtf8 he
    · exact hnames e he
    · exact Text.hasUtf8_ofString _

/-- A payload with a wrong file name submits nothing. -/
lemma not_listsUnsendable_of_read {members : List (Text × Json)} {s : Submission}
    (h : read depth limits members = .ok s) : ¬ ListsUnsendable limits members := by
  rintro ⟨hwrong, -⟩
  unfold read at h
  dsimp only at h
  split at h
  · cases h
  · cases h
  · split at h
    · next hnil _ => exact hwrong (List.append_eq_nil_iff.mp hnil).2
    · cases h

end Submission

/-- The answer to a payload shows something that cannot be sent: the name of a module in a submitted script, or the
extensions that a file name may have. -/
inductive ShowsUnsendable (parse : Parser) (depth : Nat) (limits : Limits) (members : List (Text × Json)) : Prop where
  | module {s : Submission} (hread : Submission.read depth limits members = .ok s)
      (hnames : NamesUnsendable parse s.script s.language)
  | extension (hlists : Submission.ListsUnsendable limits members)

namespace Checking

/-- What is answered to a payload can be sent unless it shows something that cannot, and then the payload is refused or
its script fails. -/
theorem payload_sendable_iff {v : Validator} (hv : v.registry.Prepared) {depth : Nat} {limits : Limits}
    {members : List (Text × Json)} {a : Logged Answer} (h : payload v.checker depth limits members = .ok a) :
    (a.value.response.Sendable ↔ ¬ ShowsUnsendable v.parse depth limits members) ∧
      (ShowsUnsendable v.parse depth limits members → a.value.status = 400) := by
  unfold payload at h
  cases hread : Submission.read depth limits members with
  | error wrong =>
    rw [hread] at h
    cases wrong with
    | failed cause => cases h
    | invalid errors =>
      -- The errors are answered as they are, and of them only a list of extensions can hold what cannot be sent.
      obtain rfl := Except.ok.inj h
      have hshows : ShowsUnsendable v.parse depth limits members ↔ Submission.ListsUnsendable limits members := by
        refine ⟨?_, .extension⟩
        rintro (⟨hs, -⟩ | hlists)
        · rw [hread] at hs
          cases hs
        · exact hlists
      rw [hshows, ← Submission.read_hasUtf8_iff hread]
      exact ⟨Response.sendable_iff rfl rfl, fun _ => rfl⟩
  | ok s =>
    -- Nothing is wrong with the fields, so that no extension is listed.
    rw [hread] at h
    obtain rfl := Except.ok.inj h
    have hshows : ShowsUnsendable v.parse depth limits members ↔ NamesUnsendable v.parse s.script s.language := by
      refine ⟨?_, .module hread⟩
      rintro (⟨hs, hnames⟩ | hlists)
      · rw [hread] at hs
        obtain rfl := Except.ok.inj hs
        exact hnames
      · exact absurd hlists (Submission.not_listsUnsendable_of_read hread)
    rw [hshows]
    refine ⟨Validator.validate_sendable_iff hv, fun hnames => ?_⟩
    show (if (v.validate s.script (Text.ofString s.language.name)).value.valid then 200 else 400) = 400
    rw [Validator.not_valid_of_namesUnsendable hv hnames]
    rfl

end Checking

end ScriptVet
