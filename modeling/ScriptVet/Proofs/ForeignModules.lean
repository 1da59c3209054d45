import ScriptVet.Script.Parse
import ScriptVet.Proofs.Acceptance
import ScriptVet.Proofs.DefaultRules

/-!
# The modules that a script names

A script loads a module by an import, and also by an export that passes on what another module exports. A script that
passes imports allowed modules only. What it exports from is not asked, so that a module which may not be imported can
be loaded by way of an export, and the script passes all the same.
-/

namespace ScriptVet

open Script (Language Node)

namespace Script.Node

/-- The node is an export that passes on what the module named by a string exports. -/
def ExportsFrom (n s : Node) : Prop := n.kind = .exportStatement ∧ n.child? .source = some s ∧ s.kind = .string

/-- The node loads the module that is named by a string. -/
def Loads (n s : Node) : Prop := n.ImportsFrom s ∨ n.ExportsFrom s

/-- The strings by which the top of a script names modules have values, and each is a module that a script may
import. `names` says which nodes name a module by which strings. -/
def AllowedAtTop (names : Node → Node → Prop) (source : List Char) (root : Node) : Prop :=
  ∀ n ∈ root.children, ∀ s, names n s → ∃ m, s.stringValue source = .ok m ∧ Specifier.Allowed m

/-- What is loaded is what is imported and what is exported from. -/
lemma allowedAtTop_loads_iff {source : List Char} {root : Node} :
    root.AllowedAtTop Loads source ↔ root.AllowedAtTop ImportsFrom source ∧ root.AllowedAtTop ExportsFrom source := by
  constructor
  · intro h
    exact ⟨fun n hn s hs => h n hn s (Or.inl hs), fun n hn s hs => h n hn s (Or.inr hs)⟩
  · rintro ⟨himports, hexports⟩ n hn s (hs | hs)
    · exact himports n hn s hs
    · exact hexports n hn s hs

end Script.Node

namespace Validator

/-- A script passes when neither stage has anything to say about it. -/
lemma valid_iff_stages {v : Validator} {script language : Text} :
    (v.validate script language).value.valid = true ↔
      v.firstErrors script language = [] ∧ v.secondErrors script language = [] := by
  rw [validate_value_eq, (respond_spec _).2.2.1]
  unfold stagedErrors
  split
  · next hfirst => exact (and_iff_right hfirst).symm
  · next hfirst => exact iff_of_false hfirst (fun h => hfirst h.1)

/-- **A script that passes imports allowed modules only, and loads allowed modules only when it exports from no
other.** -/
theorem loads_allowed_iff_of_valid {v : Validator} {script language : Text}
    (h : (v.validate script language).value.valid = true) :
    ∃ (l : Language) (cs : List Char), language = Text.ofString l.name ∧ script = Text.ofChars cs ∧
      (v.parse l cs).AllowedAtTop Node.ImportsFrom cs ∧
      ((v.parse l cs).AllowedAtTop Node.Loads cs ↔ (v.parse l cs).AllowedAtTop Node.ExportsFrom cs) := by
  obtain ⟨hfirst, -⟩ := valid_iff_stages.mp h
  obtain ⟨-, l, cs, hlanguage, hscript, -, himports, -⟩ := firstErrors_eq_nil_iff_tree.mp hfirst
  refine ⟨l, cs, hlanguage, hscript, himports, ?_⟩
  rw [Node.allowedAtTop_loads_iff]
  exact and_iff_right himports

/-! ## A script that exports from another module -/

/-- A script that imports an allowed module and exports from one that is not. -/
def foreignExport : List Char :=
  "import http from 'k6/http';\nexport * from 'net';\nexport function f() \x7b\x7d".toList

private lemma parse_foreignExport :
    Script.parse .javascript foreignExport = .mk .program none ⟨0, 71⟩
      [.mk .importStatement none ⟨0, 26⟩ [.mk .string (some .source) ⟨17, 26⟩ [.mk .stringFragment none ⟨18, 25⟩ []]],
        .mk .exportStatement none ⟨28, 47⟩ [.mk .string (some .source) ⟨42, 47⟩ [.mk .stringFragment none ⟨43, 46⟩ []]],
        .mk .exportStatement none ⟨49, 71⟩ [.mk .functionDeclaration (some .declaration) ⟨56, 71⟩
          [.mk .identifier none ⟨65, 66⟩ [], .mk .parameters none ⟨66, 68⟩ [], .mk .block none ⟨69, 71⟩ []]]] := by
  cbv

/-- No default expression can match with the characters of the script. -/
lemma default_leaves_foreignExport : (Registry.defaultRegexes.all fun r => r.leaves foreignExport) = true := by
  decide +kernel

/-- The script has one import, of a module that makes requests, and exports a function. -/
lemma facts_foreignExport :
    Structure.facts Script.parse (Text.ofChars foreignExport) (Text.ofString Language.javascript.name) =
      .ok ([⟨Text.ofString "k6/http", 1⟩], true) := by
  refine Structure.facts_eq_ok_iff.mpr ⟨.javascript, foreignExport, rfl, rfl, ?_⟩
  rw [parse_foreignExport]
  unfold Node.Faultless
  decide

private lemma firstErrors_foreignExport :
    firstErrors { parse := Script.parse } (Text.ofChars foreignExport) (Text.ofString "javascript") = [] := by
  rw [firstErrors_eq_nil_iff]
  exact ⟨by decide +kernel, _, facts_foreignExport, by decide, by decide⟩

private lemma secondErrors_foreignExport :
    secondErrors { parse := Script.parse } (Text.ofChars foreignExport) (Text.ofString Language.javascript.name) =
      [] := by
  have hpatterns : (Patterns.analyze Registry.default (Text.ofChars foreignExport)).value.valid = true := by
    rw [Patterns.analyze_default_valid_iff]
    intro regex hregex
    have hleaves : regex.leaves foreignExport = true := List.all_eq_true.mp default_leaves_foreignExport regex hregex
    exact Regex.not_matchesIn_of_leaves hleaves fun c hc => hc
  have hresources : (Resources.analyze Script.parse {} (Text.ofChars foreignExport)
      (Text.ofString Language.javascript.name)).value.errors = [] := by
    rw [Resources.analyze_errors_eq_nil_iff (by decide +kernel), parse_foreignExport]
    unfold Node.IsPairOf
    exact Or.inl (by decide)
  unfold secondErrors
  dsimp only
  rw [hresources, List.isEmpty_iff.mp hpatterns]
  rfl

private lemma foreignExport_valid :
    (validate { parse := Script.parse } (Text.ofChars foreignExport) (Text.ofString "javascript")).value.valid = true :=
  valid_iff_stages.mpr ⟨firstErrors_foreignExport, secondErrors_foreignExport⟩

/-- The script passes and loads a module that it may not import. -/
theorem loads_foreignExport :
    (validate { parse := Script.parse } (Text.ofChars foreignExport) (Text.ofString "javascript")).value.valid = true ∧
      ∃ (l : Language) (cs : List Char), Text.ofString "javascript" = Text.ofString l.name ∧
        Text.ofChars foreignExport = Text.ofChars cs ∧ ¬ (Script.parse l cs).AllowedAtTop Node.Loads cs := by
  obtain ⟨l, cs, hlanguage, hscript, -, hloads⟩ := loads_allowed_iff_of_valid foreignExport_valid
  refine ⟨foreignExport_valid, l, cs, hlanguage, hscript, fun hall => ?_⟩
  have hl : l = .javascript := Option.some.inj
    ((Script.Language.ofName?_eq_some_iff.mpr hlanguage).symm.trans (by decide))
  obtain rfl := Text.ofChars_injective hscript
  rw [hloads, hl] at hall
  dsimp only at hall
  rw [parse_foreignExport] at hall
  obtain ⟨m, hm, hallowed⟩ := hall _ (List.mem_cons_of_mem _ (List.mem_cons_self ..)) _ ⟨rfl, rfl, rfl⟩
  have hvalue : Except.ok m = (Except.ok (Text.ofString "net") : Except Script.EscapeError Text) :=
    hm.symm.trans (by decide)
  rw [Except.ok.inj hvalue] at hallowed
  exact absurd (Specifier.isAllowed_iff.mpr hallowed) (by decide)

end Validator

end ScriptVet
