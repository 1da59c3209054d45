import ScriptVet.Proofs.Stages

/-!
# Which scripts pass

`Acceptable` says what a script must be to pass, in terms of its text and its tree alone: no analysis, no stage
and no failing step is left in it. `validate_valid_iff` says that these scripts pass and no others do.
-/

namespace ScriptVet

open Script (Language Node Parser)

/-- A module that a script may import: one of the tool's, or a file next to the script or above it. -/
def Specifier.Allowed (m : Text) : Prop :=
  m = Text.ofString "k6" ∨ m.startsWith "k6/" = true ∨ m.startsWith "./" = true ∨ m.startsWith "../" = true

/-- The check for allowed modules allows these. -/
theorem Specifier.isAllowed_iff {m : Text} : isAllowed m = true ↔ Allowed m := by
  have hslash : root ++ "/" = "k6/" := by decide
  unfold isAllowed isK6 isRelative Allowed
  rw [hslash]
  simp only [Bool.or_eq_true, decide_eq_true_eq, or_assoc]
  rfl

/-- Three modules make requests. -/
theorem Specifier.isProtocol_iff {m : Text} :
    isProtocol m = true ↔
      m = Text.ofString "k6/http" ∨ m = Text.ofString "k6/ws" ∨ m = Text.ofString "k6/net/grpc" := by
  simp [isProtocol, protocols]

namespace Resources

/-- The text of a value asks for no more virtual users than the limit: it is empty, or starts with an integer
that is not too long to be read and not above the limit. -/
def WithinLimit (limits : Limits) (value : List Char) : Prop :=
  value = [] ∨ ∃ sign digits, StartsWithInteger value sign digits ∧ digits.length ≤ Number.maxIntegerDigits ∧
    sign * Number.ofDecimal digits ≤ (limits.maxVus : Int)

/-- Nothing is said about the resources of a script that is not too long when its first pair `vus`, if there is
one, is within the limit. -/
theorem analyze_errors_eq_nil_iff {parse : Parser} {limits : Limits} {l : Language} {cs : List Char}
    (hsize : (Text.ofChars cs).units16 ≤ limits.maxScriptSize) :
    (analyze parse limits (Text.ofChars cs) (Text.ofString l.name)).value.errors = [] ↔
      (∀ n ∈ (parse l cs).preorder, ¬ n.IsPairOf cs vus) ∨
        ∃ n, (parse l cs).IsFirstPair cs vus n ∧ WithinLimit limits (n.valueText cs) := by
  have hchecked : (analyze parse limits (Text.ofChars cs) (Text.ofString l.name)).value.errors = [] ↔
      checkVus parse limits (Text.ofChars cs) (Text.ofString l.name) = .ok none := by
    unfold analyze
    dsimp only
    rw [if_neg (by omega)]
    split
    · next h => exact iff_of_true rfl h
    · next h => exact iff_of_false (List.cons_ne_nil _ _) (by rw [h]; exact fun h => by cases h)
    · next h => exact iff_of_false (List.cons_ne_nil _ _) (by rw [h]; exact fun h => by cases h)
  rw [hchecked, checkVus_eq]
  cases hfirst : (parse l cs).firstProperty? cs vus with
  | none => exact iff_of_true rfl (Or.inl (Node.firstProperty?_eq_none_iff.mp hfirst))
  | some p =>
    -- The pair is there, so only the second alternative is left, and it is about this pair.
    obtain ⟨n, hn, rfl⟩ := Node.firstProperty?_eq_some_iff.mp hfirst
    have hsome : ¬ ∀ n ∈ (parse l cs).preorder, ¬ n.IsPairOf cs vus := by
      rw [← Node.firstProperty?_eq_none_iff, hfirst]
      exact fun h => by cases h
    have hunique : ∀ m, (parse l cs).IsFirstPair cs vus m → m.valueText cs = n.valueText cs := by
      intro m hm
      have hboth := Node.firstProperty?_eq_some_iff.mpr ⟨m, hm, rfl⟩
      rw [hfirst] at hboth
      exact (congrArg Script.Property.value (Option.some.inj hboth)).symm
    rw [or_iff_right hsome, Option.map_some, Node.toProperty_value]
    cases hvalue : n.valueText cs with
    | nil => exact iff_of_true rfl ⟨n, hn, Or.inl hvalue⟩
    | cons c rest =>
      show judge limits (c :: rest) = .ok none ↔ _
      rw [judge_eq_none_iff]
      constructor
      · intro h
        exact ⟨n, hn, Or.inr (by rw [hvalue]; exact h)⟩
      · rintro ⟨m, hm, hwithin⟩
        rw [hunique m hm, hvalue] at hwithin
        exact hwithin.resolve_left (List.cons_ne_nil _ _)

end Resources

/-- What a script must be to pass, where `cs` are its characters and `l` is its language. -/
structure Acceptable (v : Validator) (script language : Text) (l : Language) (cs : List Char) : Prop where
  /-- The language is known. -/
  language_eq : language = Text.ofString l.name
  /-- The script has a UTF-8 form. -/
  script_eq : script = Text.ofChars cs
  /-- The script is not too long. -/
  size : script.units16 ≤ v.limits.maxScriptSize
  /-- The tree has no fault. -/
  faultless : (v.parse l cs).Faultless
  /-- Every string that an import names has a value, and it may be imported. -/
  imports : ∀ n ∈ (v.parse l cs).children, ∀ s, n.ImportsFrom s →
    ∃ m, s.stringValue cs = .ok m ∧ Specifier.Allowed m
  /-- One of the imports makes requests. -/
  protocol : ∃ m, (v.parse l cs).Imports cs m ∧
    (m = Text.ofString "k6/http" ∨ m = Text.ofString "k6/ws" ∨ m = Text.ofString "k6/net/grpc")
  /-- A function is exported. -/
  exported : ∃ n ∈ (v.parse l cs).children, n.ExportsFunction
  /-- Every rule was prepared and matches nowhere. -/
  patterns : ∀ r ∈ v.registry.rules, ∃ regex, r.regex = some regex ∧ ¬ regex.MatchesIn cs
  /-- There is no pair `vus`, or the first one is within the limit. -/
  vus : (∀ n ∈ (v.parse l cs).preorder, ¬ n.IsPairOf cs Resources.vus) ∨
    ∃ n, (v.parse l cs).IsFirstPair cs Resources.vus n ∧ Resources.WithinLimit v.limits (n.valueText cs)

namespace Validator

/-- The imports of a script that passes the first stage, without the list that they are collected in. -/
theorem firstErrors_eq_nil_iff_tree {v : Validator} {script language : Text} :
    v.firstErrors script language = [] ↔
      script.units16 ≤ v.limits.maxScriptSize ∧
        ∃ (l : Language) (cs : List Char), language = Text.ofString l.name ∧ script = Text.ofChars cs ∧
          (v.parse l cs).Faultless ∧
          (∀ n ∈ (v.parse l cs).children, ∀ s, n.ImportsFrom s →
            ∃ m, s.stringValue cs = .ok m ∧ Specifier.Allowed m) ∧
          (∃ m, (v.parse l cs).Imports cs m ∧ Specifier.isProtocol m = true) ∧
          ∃ n ∈ (v.parse l cs).children, n.ExportsFunction := by
  rw [firstErrors_eq_nil_iff]
  refine and_congr_right fun _ => ?_
  constructor
  · rintro ⟨imports, hfacts, hallowed, i, hi, hprotocol⟩
    obtain ⟨l, cs, hlanguage, hscript, hfault, himports, hexported⟩ := Structure.facts_eq_ok_iff.mp hfacts
    refine ⟨l, cs, hlanguage, hscript, hfault, fun n hn s hs => ?_, ?_, Node.hasExportedFunction_iff.mp hexported.symm⟩
    · obtain ⟨m, hm⟩ := Node.exists_imports_eq_ok_iff.mp ⟨imports, himports⟩ n hn s hs
      obtain ⟨j, hj, rfl⟩ := (Node.mem_imports_iff himports).mpr ⟨n, hn, s, hs, hm⟩
      exact ⟨j.module, hm, Specifier.isAllowed_iff.mp (hallowed j hj)⟩
    · exact ⟨i.module, (Node.mem_imports_iff himports).mp ⟨i, hi, rfl⟩, hprotocol⟩
  · rintro ⟨l, cs, hlanguage, hscript, hfault, hnamed, ⟨m, hm, hprotocol⟩, hexported⟩
    -- There is a list of imports as soon as every source has a value.
    have hvalues : ∀ n ∈ (v.parse l cs).children, ∀ s, n.ImportsFrom s → ∃ m, s.stringValue cs = .ok m :=
      fun n hn s hs => (hnamed n hn s hs).imp fun _ h => h.1
    obtain ⟨imports, himports⟩ := Node.exists_imports_eq_ok_iff.mpr hvalues
    refine ⟨imports, Structure.facts_eq_ok_iff.mpr ⟨l, cs, hlanguage, hscript, hfault, himports,
      (Node.hasExportedFunction_iff.mpr hexported).symm⟩, fun i hi => ?_, ?_⟩
    · obtain ⟨n, hn, s, hs, hvalue⟩ := (Node.mem_imports_iff himports).mp ⟨i, hi, rfl⟩
      obtain ⟨m', hm', hallowed⟩ := hnamed n hn s hs
      obtain rfl := Except.ok.inj (hm'.symm.trans hvalue)
      exact Specifier.isAllowed_iff.mpr hallowed
    · obtain ⟨i, hi, rfl⟩ := (Node.mem_imports_iff himports).mpr hm
      exact ⟨i, hi, hprotocol⟩

/-- **The scripts that pass are the acceptable ones.** Every way in which a check can go wrong (a language that
is not known, a text without a UTF-8 form, a fault in the tree, a string without a value, a rule that was not
prepared, a number too long to be read) makes a script fail, and nothing else does but what `Acceptable` rules
out. -/
theorem validate_valid_iff (v : Validator) (script language : Text) :
    (v.validate script language).value.valid = true ↔ ∃ l cs, Acceptable v script language l cs := by
  rw [validate_value_eq, (respond_spec _).2.2.1]
  unfold stagedErrors
  constructor
  · intro h
    split at h
    · next hfirst =>
      obtain ⟨hsize, l, cs, rfl, rfl, hfault, himports, ⟨m, hm, hprotocol⟩, hexported⟩ :=
        firstErrors_eq_nil_iff_tree.mp hfirst
      obtain ⟨hpatterns, hresources⟩ := List.append_eq_nil_iff.mp h
      have hsearch := Patterns.analyze_errors_eq_nil_iff.mp hpatterns
      exact ⟨l, cs, rfl, rfl, hsize, hfault, himports, ⟨m, hm, Specifier.isProtocol_iff.mp hprotocol⟩, hexported,
        fun r hr => Rule.search_eq_none_iff.mp (hsearch r hr),
        (Resources.analyze_errors_eq_nil_iff hsize).mp hresources⟩
    · next hfirst => exact absurd h hfirst
  · rintro ⟨l, cs, ⟨rfl, rfl, hsize, hfault, himports, ⟨m, hm, hprotocol⟩, hexported, hpatterns, hvus⟩⟩
    have hfirst : v.firstErrors (Text.ofChars cs) (Text.ofString l.name) = [] :=
      firstErrors_eq_nil_iff_tree.mpr ⟨hsize, l, cs, rfl, rfl, hfault, himports,
        ⟨m, hm, Specifier.isProtocol_iff.mpr hprotocol⟩, hexported⟩
    have hsearch : ∀ r ∈ v.registry.rules, r.search (Text.ofChars cs) = .ok none := fun r hr =>
      Rule.search_eq_none_iff.mpr (hpatterns r hr)
    rw [if_pos hfirst]
    exact List.append_eq_nil_iff.mpr ⟨Patterns.analyze_errors_eq_nil_iff.mpr hsearch,
      (Resources.analyze_errors_eq_nil_iff hsize).mpr hvus⟩

end Validator

end ScriptVet
