import ScriptVet.Proofs.Acceptance

/-!
# What is known of the structure of a script

The parser that gives the tree of a script can be any. A script can be read when its language is known, it has a UTF-8
form, its tree has no fault and the string of each of its imports has a value (`Readable`). Of such a script everything is
known: `Structure.Describes` says what, in terms of its text and its tree. Of any other script nothing is known but the
first thing that is wrong (`Structure.Fails`). `analyze_describes_or_fails` says that these are the only two results and
that each goes with its scripts.
-/

namespace ScriptVet

open Script (Language Node Parsed Parser ScriptError Import lineAt columnAt)

/-! ## Classes of modules -/

namespace Specifier

/-- A module on the denylist is not allowed. -/
lemma isAllowed_of_isForbidden {m : Text} (h : isForbidden m = true) : isAllowed m = false := by
  have hlist : (denylist.all fun p => !isAllowed (Text.ofString p)) = true := by decide +kernel
  obtain ⟨p, hp, hm⟩ := List.any_eq_true.mp h
  rw [of_decide_eq_true hm, ← Bool.not_eq_true']
  exact List.all_eq_true.mp hlist p hp

/-- A module that makes requests is allowed. -/
lemma isAllowed_of_isProtocol {m : Text} (h : isProtocol m = true) : isAllowed m = true := by
  have hlist : (protocols.all fun p => isAllowed (Text.ofString p)) = true := by decide +kernel
  obtain ⟨p, hp, hm⟩ := List.any_eq_true.mp h
  rw [of_decide_eq_true hm]
  exact List.all_eq_true.mp hlist p hp

/-- A module is in one of three classes. -/
lemma count_classes (m : Text) : [isAllowed m, isForbidden m, isUnknown m].count true = 1 := by
  have hdisjoint := @isAllowed_of_isForbidden m
  unfold isUnknown
  cases hallowed : isAllowed m <;> cases hforbidden : isForbidden m <;> simp_all

end Specifier

/-! ## Imports -/

namespace Script.Node

instance : DecidablePred fun n : Node => ∃ s, n.ImportsFrom s := fun n =>
  decidable_of_iff (n.moduleString?.isSome = true) (by
    rw [Option.isSome_iff_exists]
    simp only [moduleString?_eq_some_iff])

/-- The statements at the top of a script that name a module. -/
def importStatements (root : Node) : List Node :=
  root.children.filter fun n => ∃ s, n.ImportsFrom s

/-- An import is what its statement says: the module that the string names, and the line where the statement starts,
which is one more than the number of line feeds before it. -/
def States (source : List Char) (n : Node) (i : Import) : Prop :=
  ∃ s, n.ImportsFrom s ∧ s.stringValue source = .ok i.module ∧ i.line = (source.take n.span.start).count '\n' + 1

lemma States.names {source : List Char} {n : Node} {i : Import} (h : n.States source i) : ∃ s, n.ImportsFrom s := by
  obtain ⟨s, hs, -⟩ := h
  exact ⟨s, hs⟩

lemma imports_eq_mapM_importStatements (source : List Char) (root : Node) :
    root.imports source = root.importStatements.mapM (importOf source) := by
  rw [imports_eq_mapM, importStatements]
  congr 1
  refine List.filter_congr fun n _ => ?_
  rw [Bool.eq_iff_iff, decide_eq_true_iff, Option.isSome_iff_exists]
  simp only [moduleString?_eq_some_iff]

lemma mem_importStatements {root n : Node} :
    n ∈ root.importStatements ↔ n ∈ root.children ∧ ∃ s, n.ImportsFrom s := by
  rw [importStatements, List.mem_filter, decide_eq_true_iff]

lemma importOf_eq_ok_iff_states {source : List Char} {n : Node} (h : ∃ s, n.ImportsFrom s) {i : Import} :
    importOf source n = .ok i ↔ n.States source i := by
  obtain ⟨s, hs⟩ := h
  rw [importOf_eq_ok_iff hs]
  constructor
  · rintro ⟨hvalue, hline⟩
    exact ⟨s, hs, hvalue, hline⟩
  · rintro ⟨s', hs', hvalue, hline⟩
    obtain rfl : s' = s := Option.some.inj (hs'.2.1.symm.trans hs.2.1)
    exact ⟨hvalue, hline⟩

/-- The imports of a script are what its statements say, in their order. -/
theorem imports_eq_ok_iff {source : List Char} {root : Node} {imports : List Import} :
    root.imports source = .ok imports ↔ List.Forall₂ (States source) root.importStatements imports := by
  rw [imports_eq_mapM_importStatements, Steps.mapM_eq_ok_iff]
  constructor
  · intro h
    have hnames : ∀ n ∈ root.importStatements, ∃ s, n.ImportsFrom s := fun n hn => (mem_importStatements.mp hn).2
    have hboth := (List.forall₂_and_left _ _).mpr ⟨hnames, h⟩
    exact hboth.imp fun n i hni => (importOf_eq_ok_iff_states hni.1).mp hni.2
  · intro h
    exact h.imp fun n i hni => (importOf_eq_ok_iff_states hni.names).mpr hni

end Script.Node

/-! ## Readable scripts -/

/-- A script can be read, where `cs` are its characters and `l` is its language. -/
structure Readable (parse : Parser) (script language : Text) (l : Language) (cs : List Char) : Prop where
  /-- The language is known. -/
  language_eq : language = Text.ofString l.name
  /-- The script has a UTF-8 form. -/
  script_eq : script = Text.ofChars cs
  /-- The tree has no fault. -/
  faultless : (parse l cs).Faultless
  /-- Every string that an import names has a value. -/
  values : ∀ n ∈ (parse l cs).children, ∀ s, n.ImportsFrom s → ∃ m, s.stringValue cs = .ok m

namespace Structure

private lemma exists_facts_eq_ok_iff {parse : Parser} {script language : Text} :
    (∃ found, facts parse script language = .ok found) ↔ ∃ l cs, Readable parse script language l cs := by
  constructor
  · rintro ⟨⟨imports, exported⟩, hfacts⟩
    obtain ⟨l, cs, hlanguage, hscript, hfaultless, himports, -⟩ := facts_eq_ok_iff.mp hfacts
    exact ⟨l, cs, hlanguage, hscript, hfaultless, Node.exists_imports_eq_ok_iff.mp ⟨imports, himports⟩⟩
  · rintro ⟨l, cs, hlanguage, hscript, hfaultless, hvalues⟩
    obtain ⟨imports, himports⟩ := Node.exists_imports_eq_ok_iff.mpr hvalues
    exact ⟨(imports, (parse l cs).hasExportedFunction),
      facts_eq_ok_iff.mpr ⟨l, cs, hlanguage, hscript, hfaultless, himports, rfl⟩⟩

/-- All that is known of the structure of a script that can be read. -/
structure Describes (s : Structure) (source : List Char) (root : Node) : Prop where
  /-- There is one import for each statement at the top that names a module, in the order of the script. -/
  imports : List.Forall₂ (Node.States source) root.importStatements s.imports
  /-- Each module is allowed, forbidden or unknown, and only one of these. -/
  classes : ∀ i ∈ s.imports,
    [Specifier.isAllowed i.module, Specifier.isForbidden i.module, Specifier.isUnknown i.module].count true = 1
  /-- The errors are those about forbidden and unknown modules, in the order of the imports. -/
  errors : s.errors = s.imports.filterMap fun i =>
    if Specifier.isForbidden i.module then some (Text.ofString "Forbidden Node.js module: " ++ i.module)
    else if Specifier.isUnknown i.module then some (Text.ofString "Unknown/disallowed import: " ++ i.module)
    else none
  /-- One of the modules is allowed. -/
  k6 : s.hasK6Import = true ↔ ∃ i ∈ s.imports, Specifier.Allowed i.module
  /-- One of the modules makes requests. -/
  protocol : s.hasProtocolImport = true ↔ ∃ i ∈ s.imports,
    i.module = Text.ofString "k6/http" ∨ i.module = Text.ofString "k6/ws" ∨ i.module = Text.ofString "k6/net/grpc"
  /-- A module that makes requests is an allowed one. -/
  k6_of_protocol : s.hasProtocolImport = true → s.hasK6Import = true
  /-- A function is exported. -/
  exported : s.hasExportedFunction = true ↔ ∃ n ∈ root.children, n.ExportsFunction
  /-- The script passes when there are no errors. -/
  valid : s.valid = true ↔ s.errors = []

/-- The first thing that is wrong with a script that cannot be read: its language, its characters, its tree or the
string of an import. -/
inductive Fails (parse : Parser) (script language : Text) : ScriptError → Prop where
  | language (h : ∀ l : Language, language ≠ Text.ofString l.name) :
      Fails parse script language (.unsupportedLanguage language)
  | characters {l : Language} {bad : Unencodable} (hl : language = Text.ofString l.name)
      (h : script.encode = .error bad) : Fails parse script language (.unencodable bad)
  | fault {l : Language} {cs : List Char} {before after : List Node} {n : Node} (hl : language = Text.ofString l.name)
      (hcs : script = Text.ofChars cs) (h : (parse l cs).preorder = before ++ n :: after)
      (hbefore : ∀ m ∈ before, m.kind ≠ .error ∧ m.kind ≠ .missing) (hn : n.kind = .error ∨ n.kind = .missing) :
      Fails parse script language (.syntaxError (lineAt cs n.span.start) (columnAt cs n.span.start))
  | value {l : Language} {cs : List Char} {before after : List Node} {n s : Node} {e : Script.EscapeError}
      (hl : language = Text.ofString l.name) (hcs : script = Text.ofChars cs) (hfaultless : (parse l cs).Faultless)
      (h : (parse l cs).importStatements = before ++ n :: after)
      (hbefore : ∀ m ∈ before, ∃ i, Node.States cs m i) (hs : n.ImportsFrom s) (he : s.stringValue cs = .error e) :
      Fails parse script language (.escape e)

/-- A script that is not parsed has an unknown language or characters without a UTF-8 form. -/
lemma fails_of_ofSource {parse : Parser} {script language : Text} {e : ScriptError}
    (h : Parsed.ofSource parse script language = .error e) : Fails parse script language e := by
  unfold Parsed.ofSource at h
  cases hname : Language.ofName? language with
  | none =>
    rw [hname] at h
    obtain rfl := Except.error.inj h
    refine Fails.language fun l hl => ?_
    rw [Language.ofName?_eq_some_iff.mpr hl] at hname
    cases hname
  | some l =>
    rw [hname] at h
    cases hencode : script.encode with
    | ok cs => rw [hencode] at h; cases h
    | error bad =>
      rw [hencode] at h
      obtain rfl := Except.error.inj h
      exact Fails.characters (Language.ofName?_eq_some_iff.mp hname) hencode

section Parsed

variable {parse : Parser} {script language : Text} {l : Language} {cs : List Char} {e : ScriptError}

/-- The fault of a script is the first one of its tree. -/
lemma fails_of_checkSyntax (hl : language = Text.ofString l.name) (hcs : script = Text.ofChars cs)
    (h : (⟨l, cs, some (parse l cs)⟩ : Parsed).checkSyntax = .error e) : Fails parse script language e := by
  unfold Parsed.checkSyntax at h
  rcases Steps.bind_eq_error_iff.mp h with h | ⟨fault, hfault, h⟩
  · cases h
  · obtain rfl : (parse l cs).firstFault? = fault := Except.ok.inj hfault
    cases hfirst : (parse l cs).firstFault? with
    | none => rw [hfirst] at h; cases h
    | some n =>
      rw [hfirst] at h
      obtain rfl := Except.error.inj h
      rw [Node.firstFault?, Node.walk_eq_preorder, List.find?_eq_some_iff_append] at hfirst
      obtain ⟨hn, before, after, hpreorder, hbefore⟩ := hfirst
      refine Fails.fault hl hcs hpreorder (fun m hm => ?_) ?_
      · exact Node.isFault_eq_false_iff.mp (by simpa using hbefore m hm)
      · simpa [Node.isFault] using hn

/-- The string without a value is that of the first import that has none. -/
lemma fails_of_imports (hl : language = Text.ofString l.name) (hcs : script = Text.ofChars cs)
    (hfaultless : (parse l cs).Faultless) {e : Script.EscapeError} (h : (parse l cs).imports cs = .error e) :
    Fails parse script language (.escape e) := by
  rw [Node.imports_eq_mapM_importStatements] at h
  obtain ⟨before, n, after, hstatements, hbefore, hn⟩ := Steps.mapM_eq_error_iff.mp h
  have hnames : ∀ m ∈ before ++ n :: after, ∃ s, m.ImportsFrom s := by
    rw [← hstatements]
    exact fun m hm => (Node.mem_importStatements.mp hm).2
  obtain ⟨s, hs⟩ := hnames n (by simp)
  refine Fails.value hl hcs hfaultless hstatements (fun m hm => ?_) hs ?_
  · obtain ⟨i, hi⟩ := hbefore m hm
    exact ⟨i, (Node.importOf_eq_ok_iff_states (hnames m (by simp [hm]))).mp hi⟩
  · unfold Node.importOf at hn
    rw [Node.moduleString?_eq_some_iff.mpr hs] at hn
    rcases Steps.bind_eq_error_iff.mp hn with hvalue | ⟨m, -, hn⟩
    · exact hvalue
    · cases hn

end Parsed

/-- A script of which nothing is known fails at the first thing that is wrong with it. -/
lemma fails_of_facts {parse : Parser} {script language : Text} {e : ScriptError}
    (h : facts parse script language = .error e) : Fails parse script language e := by
  unfold facts at h
  rcases Steps.bind_eq_error_iff.mp h with h | ⟨p, hp, h⟩
  · exact fails_of_ofSource h
  · obtain ⟨l, cs, hl, hcs, rfl⟩ := Parsed.ofSource_eq_ok_iff.mp hp
    rcases Steps.bind_eq_error_iff.mp h with hsyntax | ⟨⟨⟩, hsyntax, h⟩
    · exact fails_of_checkSyntax hl hcs hsyntax
    · rcases Steps.bind_eq_error_iff.mp h with himports | ⟨imports, -, h⟩
      · have hfaultless := Node.firstFault?_eq_none_iff.mp (Parsed.checkSyntax_eq_ok_iff.mp hsyntax)
        obtain ⟨e, he, rfl⟩ := Steps.mapError_eq_error_iff.mp himports
        exact fails_of_imports hl hcs hfaultless he
      · rcases Steps.bind_eq_error_iff.mp h with h | ⟨exported, -, h⟩ <;> cases h

/-! ## The two results -/

/-- The error about an import, by the class of its module. The order in which the classes are looked at does not matter,
as no module is in two of them. -/
lemma importError_eq (i : Import) :
    importError i =
      if Specifier.isForbidden i.module then some (Text.ofString "Forbidden Node.js module: " ++ i.module)
      else if Specifier.isUnknown i.module then some (Text.ofString "Unknown/disallowed import: " ++ i.module)
      else none := by
  have hdisjoint := @Specifier.isAllowed_of_isForbidden i.module
  unfold importError Specifier.isUnknown
  cases hallowed : Specifier.isAllowed i.module <;> cases hforbidden : Specifier.isForbidden i.module <;> simp_all

private lemma ofImports_describes {source : List Char} {root : Node} {imports : List Import}
    (h : root.imports source = .ok imports) : (ofImports imports root.hasExportedFunction).Describes source root where
  imports := Node.imports_eq_ok_iff.mp h
  classes := fun i _ => Specifier.count_classes i.module
  errors := List.filterMap_congr fun i _ => importError_eq i
  k6 := by
    show (imports.any fun i => Specifier.isAllowed i.module) = true ↔ _
    rw [List.any_eq_true]
    simp only [Specifier.isAllowed_iff]
    rfl
  protocol := by
    show (imports.any fun i => Specifier.isAllowed i.module && Specifier.isProtocol i.module) = true ↔ _
    rw [List.any_eq_true]
    refine exists_congr fun i => and_congr_right fun _ => ?_
    rw [Bool.and_eq_true, and_iff_right_of_imp Specifier.isAllowed_of_isProtocol, Specifier.isProtocol_iff]
  k6_of_protocol := by
    intro hprotocol
    obtain ⟨i, hi, hboth⟩ := List.any_eq_true.mp hprotocol
    exact List.any_eq_true.mpr ⟨i, hi, (Bool.and_eq_true_iff.mp hboth).1⟩
  exported := Node.hasExportedFunction_iff
  valid := List.isEmpty_iff

/-- **A script that can be read is described in full.** Of any other script nothing is known, and the one error is the
first thing that is wrong with it. -/
theorem analyze_describes_or_fails (parse : Parser) (script language : Text) :
    (∃ l cs, Readable parse script language l cs ∧ (analyze parse script language).value.Describes cs (parse l cs)) ∨
      ((¬ ∃ l cs, Readable parse script language l cs) ∧
        ∃ e, Fails parse script language e ∧ (analyze parse script language).value.errors = [e.message] ∧
          (analyze parse script language).value.valid = false ∧ (analyze parse script language).value.imports = [] ∧
          (analyze parse script language).value.hasK6Import = false ∧
          (analyze parse script language).value.hasProtocolImport = false ∧
          (analyze parse script language).value.hasExportedFunction = false) := by
  cases hfacts : facts parse script language with
  | ok found =>
    obtain ⟨imports, exported⟩ := found
    obtain ⟨l, cs, hl, hcs, hfaultless, himports, rfl⟩ := facts_eq_ok_iff.mp hfacts
    refine Or.inl ⟨l, cs, ⟨hl, hcs, hfaultless, ?_⟩, ?_⟩
    · exact Node.exists_imports_eq_ok_iff.mp ⟨imports, himports⟩
    · rw [analyze_of_ok hfacts]
      exact ofImports_describes himports
  | error e =>
    have hread : ¬ ∃ l cs, Readable parse script language l cs := by
      rw [← exists_facts_eq_ok_iff, hfacts]
      rintro ⟨found, h⟩
      cases h
    rw [analyze_of_error hfacts]
    exact Or.inr ⟨hread, e, fails_of_facts hfacts, rfl, rfl, rfl, rfl, rfl, rfl⟩

end Structure

end ScriptVet
