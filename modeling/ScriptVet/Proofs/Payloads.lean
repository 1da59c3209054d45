import ScriptVet.Proofs.JsonLimits
import ScriptVet.Proofs.Stages
import ScriptVet.Script.Parse
import ScriptVet.Service.Checking

/-!
# Every payload is answered, but for one kind

A payload may hold any values. Whatever they are, it is answered with one of three statuses and with a response that
holds together, unless its options are a text that the reader of JSON gives up on: then the failure is passed on to the
caller. `GivesUp` says which options these are, for any depth down to which the reader goes, and they are long texts only.
-/

namespace ScriptVet

/-! ## Fields -/

namespace Submission

/-- The options are a text that the reader of JSON gives up on, for a cause that is no problem of its syntax. -/
def GivesUp (depth : Nat) (options : Json) (cause : Failure) : Prop :=
  ∃ t, options = .str t ∧
    ((∃ n, Json.parse depth t = .error (.tooManyDigits n) ∧ cause = .tooManyDigits n) ∨
      ∃ c, Json.parse depth t = .error (.tooDeep c) ∧ cause = .tooDeep c)

variable {depth : Nat}

/-- Only long options are given up on: they hold a bracket for each level, or the digits of an integer. -/
theorem GivesUp.min_lt_length {options : Json} {cause : Failure} (h : GivesUp depth options cause) :
    ∃ t, options = .str t ∧ min depth Number.maxIntegerDigits < t.length := by
  obtain ⟨t, rfl, ⟨n, hparse, -⟩ | ⟨c, hparse, -⟩⟩ := h
  · obtain ⟨hlarge, hle⟩ := Json.parse_needs hparse
    exact ⟨t, rfl, min_lt_of_right_lt (by omega)⟩
  · exact ⟨t, rfl, min_lt_of_left_lt (Json.parse_needs hparse)⟩

/-- Options fail exactly when they are given up on. -/
lemma readOptions_eq_error_iff {options : Json} {cause : Failure} :
    readOptions depth options = .error cause ↔ GivesUp depth options cause := by
  constructor
  · intro h
    unfold readOptions at h
    split at h
    · cases h
    · cases h
    · -- Only a text is parsed, and of the ways in which that fails two are passed on.
      next t =>
      split at h
      · cases h
      · cases h
      · cases h
      · next n hparse =>
        cases h
        exact ⟨t, rfl, Or.inl ⟨n, hparse, rfl⟩⟩
      · next c hparse =>
        cases h
        exact ⟨t, rfl, Or.inr ⟨c, hparse, rfl⟩⟩
    · cases h
  · rintro ⟨t, rfl, ⟨n, hparse, rfl⟩ | ⟨c, hparse, rfl⟩⟩
    · unfold readOptions
      dsimp only
      rw [hparse]
    · unfold readOptions
      dsimp only
      rw [hparse]

/-- A script with which nothing is wrong is a text. -/
lemma exists_str_of_scriptErrors_eq_nil {limits : Limits} {script : Json} (h : scriptErrors limits script = []) :
    ∃ t, script = .str t := by
  cases script with
  | str t => exact ⟨t, rfl⟩
  | _ => cases h

/-- What the fields of a payload come to: a submission, something that is wrong with them, or options that are given
up on. -/
theorem read_cases (depth : Nat) (limits : Limits) (members : List (Text × Json)) :
    (∃ s, read depth limits members = .ok s) ∨
      (∃ errors, errors ≠ [] ∧ read depth limits members = .error (.invalid errors)) ∨
      ∃ cause, GivesUp depth (fieldOf members "options") cause := by
  cases hoptions : readOptions depth (fieldOf members "options") with
  | error cause => exact Or.inr (Or.inr ⟨cause, readOptions_eq_error_iff.mp hoptions⟩)
  | ok found =>
    unfold read
    dsimp only
    rw [hoptions]
    cases found with
    | error wrong => exact Or.inr (Or.inl ⟨_, List.append_ne_nil_of_right_ne_nil _ (List.cons_ne_nil _ _), rfl⟩)
    | ok options =>
      dsimp only
      split
      · exact Or.inl ⟨_, rfl⟩
      · next hnot =>
        refine Or.inr (Or.inl ⟨_, fun hnil => ?_, rfl⟩)
        obtain ⟨t, ht⟩ := exists_str_of_scriptErrors_eq_nil (List.append_eq_nil_iff.mp hnil).1
        exact hnot t hnil ht

/-- Options that are given up on fail the whole payload, whatever else is wrong with it. -/
theorem read_of_givesUp (limits : Limits) {members : List (Text × Json)} {cause : Failure}
    (h : GivesUp depth (fieldOf members "options") cause) : read depth limits members = .error (.failed cause) := by
  unfold read
  dsimp only
  rw [readOptions_eq_error_iff.mpr h]

end Submission

/-! ## Answers -/

/-- A check passes a script when it finds no errors, and only then. -/
def Checker.Honest (check : Checker) : Prop :=
  ∀ script language r, check script language = .ok r → (r.value.valid = true ↔ r.value.errors = [])

private lemma Validator.checker_honest (v : Validator) : v.checker.Honest := by
  intro script language r hr
  obtain rfl := Except.ok.inj hr
  rw [validate_value_eq]
  obtain ⟨herrors, -, hvalid, -⟩ := respond_spec (v.stagedErrors script language.name)
  rw [herrors]
  exact hvalid

/-- The four parts of the response are sent, each under its name. -/
def Response.SentWhole (r : Response) : Prop :=
  ∃ fields, r.toJson = .obj fields ∧
    fields.map Prod.fst = ["valid", "errors", "warnings", "message"].map Text.ofString ∧
    Json.lookup (Text.ofString "valid") fields = some (.bool r.valid) ∧
    Json.lookup (Text.ofString "errors") fields = some (Json.texts r.errors)

private lemma Response.sentWhole (r : Response) : r.SentWhole := ⟨_, rfl, rfl, rfl, rfl⟩

/-- An answer that holds together. -/
structure Answer.Proper (a : Answer) : Prop where
  status_mem : a.status ∈ [200, 400, 500]
  /-- The status is that of success when the script passes. -/
  status_iff : a.status = 200 ↔ a.response.valid = true
  /-- The script passes when there are no errors. -/
  valid_iff : a.response.valid = true ↔ a.response.errors = []
  body : a.response.SentWhole

/-- An answer that reports errors and has another status than that of success. -/
lemma Answer.proper_error {status : Nat} (hstatus : status = 400 ∨ status = 500) {errors : List Text}
    (herrors : errors ≠ []) (message : Text) : (⟨status, .error errors message⟩ : Answer).Proper where
  status_mem := by rcases hstatus with rfl | rfl <;> simp
  status_iff := by rcases hstatus with rfl | rfl <;> simp [Response.error]
  valid_iff := iff_of_false Bool.false_ne_true herrors
  body := Response.sentWhole _

/-- An answer whose status is read off the response. -/
lemma Answer.proper_checked {r : Response} (h : r.valid = true ↔ r.errors = []) :
    (⟨if r.valid then 200 else 400, r⟩ : Answer).Proper where
  status_mem := by dsimp only; split <;> simp
  status_iff := by dsimp only; split <;> simp_all
  valid_iff := h
  body := Response.sentWhole _

namespace Checking

/-- What is answered to a submission holds together. -/
lemma submission_proper {check : Checker} (hcheck : check.Honest) (s : Submission) :
    (submission check s).value.Proper := by
  unfold submission
  dsimp only
  cases hchecked : check s.script s.language with
  | error cause => exact Answer.proper_error (Or.inr rfl) (List.cons_ne_nil _ _) _
  | ok r => exact Answer.proper_checked (hcheck s.script s.language r hchecked)

/-- The answer says that the service failed when the check does. -/
lemma submission_status_iff (check : Checker) (s : Submission) :
    (submission check s).value.status = 500 ↔ ∃ cause, check s.script s.language = .error cause := by
  unfold submission
  dsimp only
  cases hchecked : check s.script s.language with
  | error cause => exact iff_of_true rfl ⟨cause, rfl⟩
  | ok r =>
    dsimp only
    split <;> simp

variable {check : Checker} {depth : Nat}

/-- A submission is checked. -/
theorem payload_of_read {limits : Limits} {members : List (Text × Json)} {s : Submission}
    (h : Submission.read depth limits members = .ok s) :
    payload check depth limits members = .ok (submission check s) := by
  unfold payload
  rw [h]

/-- A payload with wrong fields is answered with what is wrong. -/
theorem payload_of_invalid {limits : Limits} {members : List (Text × Json)} {errors : List Text}
    (h : Submission.read depth limits members = .error (.invalid errors)) :
    payload check depth limits members = .ok ⟨⟨400, .error errors "Validation failed"⟩, []⟩ := by
  unfold payload
  rw [h]

lemma payload_of_failed {limits : Limits} {members : List (Text × Json)} {cause : Failure}
    (h : Submission.read depth limits members = .error (.failed cause)) :
    payload check depth limits members = .error cause := by
  unfold payload
  rw [h]

/-- **Every payload is answered properly unless its options are given up on.** The check may be any that passes what it
finds no errors in, and it may fail: that is answered too. A failure of the reader of JSON on the options is the only
one that is passed on, and it takes options of more code points than containers may be deep or integers may have
digits. -/
theorem payload_answered_unless_givesUp {check : Checker} (hcheck : check.Honest) (depth : Nat)
    (limits : Limits) (members : List (Text × Json)) :
    let options := Submission.fieldOf members "options"
    ((∀ cause, ¬ Submission.GivesUp depth options cause) →
        (∃ a, payload check depth limits members = .ok a ∧ a.value.Proper ∧
          (a.value.status = 500 ↔ ∃ s cause, Submission.read depth limits members = .ok s ∧
            check s.script s.language = .error cause)) ∧
        ((∃ s, Submission.read depth limits members = .ok s) ∨
          ∃ errors, errors ≠ [] ∧ Submission.read depth limits members = .error (.invalid errors))) ∧
      ∀ cause, Submission.GivesUp depth options cause →
        payload check depth limits members = .error cause ∧
          Submission.read depth limits members = .error (.failed cause) ∧
          ∃ t, options = .str t ∧ min depth Number.maxIntegerDigits < t.length := by
  intro options
  refine ⟨fun hreads => ?_, fun cause hgivesUp => ?_⟩
  · rcases Submission.read_cases depth limits members with ⟨s, hread⟩ | ⟨errors, hne, hread⟩ | ⟨cause, hgivesUp⟩
    · refine ⟨⟨_, payload_of_read hread, submission_proper hcheck s, ?_⟩, Or.inl ⟨s, hread⟩⟩
      rw [submission_status_iff, hread]
      simp only [Except.ok.injEq, exists_and_left, exists_eq_left']
    · have hproper : (⟨400, .error errors "Validation failed"⟩ : Answer).Proper :=
        Answer.proper_error (Or.inl rfl) hne _
      refine ⟨⟨_, payload_of_invalid hread, hproper, iff_of_false (by simp) ?_⟩, Or.inr ⟨errors, hne, hread⟩⟩
      rintro ⟨s, cause, hs, -⟩
      rw [hread] at hs
      cases hs
    · exact absurd hgivesUp (hreads cause)
  · have hread := Submission.read_of_givesUp limits hgivesUp
    exact ⟨payload_of_failed hread, hread, hgivesUp.min_lt_length⟩

/-! ## Options that are given up on -/

/-- A payload whose options are an integer with one digit too many. -/
def longOptions : List (Text × Json) :=
  [(Text.ofString "script", .str (Text.ofString "x")),
    (Text.ofString "options", .str (Text.ofChars ('1' :: List.replicate 4300 '1')))]

private lemma longOptions_givesUp (depth : Nat) :
    Submission.GivesUp depth (Submission.fieldOf longOptions "options") (.tooManyDigits 4301) := by
  have hlength : ('1' :: List.replicate 4300 '1').length = 4301 := by rw [List.length_cons, List.length_replicate]
  have hdigits : ∀ c ∈ List.replicate 4300 '1', (Number.digit? c).isSome = true := by
    intro c hc
    rw [List.eq_of_mem_replicate hc]
    decide
  have hparse := Json.parse_tooManyDigits (d := '1') (by decide) hdigits (by rw [hlength]; decide) depth
  rw [hlength] at hparse
  exact ⟨_, rfl, Or.inl ⟨4301, hparse, rfl⟩⟩

theorem payload_not_answered_longOptions :
    (Validator.checker { parse := Script.parse }).Honest ∧
      payload (Validator.checker { parse := Script.parse }) 990 {} longOptions = .error (.tooManyDigits 4301) := by
  have hcheck := Validator.checker_honest { parse := Script.parse }
  exact ⟨hcheck, ((payload_answered_unless_givesUp hcheck 990 {} longOptions).2 _ (longOptions_givesUp 990)).1⟩

end Checking

end ScriptVet
