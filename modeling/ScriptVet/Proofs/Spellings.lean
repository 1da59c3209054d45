import ScriptVet.Script.Parse
import ScriptVet.Proofs.EscapeValues
import ScriptVet.Proofs.StructureResult

/-!
# Spellings of a string

A string can be written in many ways: each of its characters as it stands, by the number of its code point, by a letter
or behind a backslash, and with lines continued anywhere. `Spells` lists the ways for one piece of a string, and
`Node.Spelling` those for a whole string. Whatever the way, the value is the string that was spelled
(`stringValue_of_spelling`), so what an import is taken for does not depend on how its module is spelled.
-/

namespace ScriptVet

namespace Script

/-! ## One piece -/

namespace Escape

/-- The ends of lines. -/
def lineEnds : List (List Char) := [['\n'], ['\r'], ['\r', '\n'], ['\u2028'], ['\u2029']]

/-- The characters that do not stand for themselves behind a backslash. -/
def special : List Char :=
  ['x', 'u', '0', '1', '2', '3', '4', '5', '6', '7', 'n', 't', 'r', 'b', 'f', 'v', '\n', '\r', '\u2028', '\u2029']

/-- A letter behind a backslash stands for its character. -/
lemma decode_letter {l c : Char} (h : (l, c) ∈ letters) : decode (Text.ofChars ['\\', l]) = .ok [.scalar c] := by
  apply StandsFor.decode_eq
  exact .letter rfl h

/-- The end of a line behind a backslash is left out. -/
lemma decode_lineEnd {e : List Char} (h : e ∈ lineEnds) : decode (Text.ofChars ('\\' :: e)) = .ok [] := by
  have hall : (lineEnds.all fun e => decide (decode (Text.ofChars ('\\' :: e)) = .ok [])) = true := by decide
  exact of_decide_eq_true (List.all_eq_true.mp hall e h)

/-- A character that is not special begins no number, is no end of a line and stands for no other character. -/
lemma decode_identity {c : Char} (h : c ∉ special) : decode (Text.ofChars ['\\', c]) = .ok [.scalar c] := by
  have hne : ∀ d ∈ special, CodePoint.scalar c ≠ .scalar d := fun d hd heq => h (CodePoint.scalar.inj heq ▸ hd)
  apply StandsFor.decode_eq
  apply StandsFor.itself
  · exact holdsNoNumber_cons (hne 'x' (by decide)) (hne 'u' (by decide))
  · intro p rest hbody hp
    obtain ⟨rfl, -⟩ := List.cons.inj hbody
    have hall : (lineEndNumbers.all fun n => decide (Char.ofNat n ∈ special)) = true := by decide
    have hspecial := of_decide_eq_true (List.all_eq_true.mp hall c.toNat hp)
    rw [Char.ofNat_toNat] at hspecial
    exact h hspecial
  · intro l d hl hbody
    have hall : (letters.all fun (l, _) => decide (l ∈ special)) = true := by decide
    have hspecial := of_decide_eq_true (List.all_eq_true.mp hall (l, d) hl)
    exact hne l hspecial (List.cons.inj hbody).1

end Escape

/-- The ways to write a part of a string: its characters as they stand, a character by its number, by its letter or
behind a backslash, and the end of a line that is left out. Pieces of other kinds, such as marks around the string,
write nothing. -/
inductive Spells : Kind → List Char → List Char → Prop where
  | raw (cs : List Char) : Spells .stringFragment cs cs
  | number {form : Escape.HexForm} {e : List Char} {c : Char} (h : Escape.Hexadecimal form e c.toNat) :
    Spells .escapeSequence e [c]
  | letter {l c : Char} (h : (l, c) ∈ Escape.letters) : Spells .escapeSequence ['\\', l] [c]
  | identity {c : Char} (h : c ∉ Escape.special) : Spells .escapeSequence ['\\', c] [c]
  | lineEnd {e : List Char} (h : e ∈ Escape.lineEnds) : Spells .escapeSequence ('\\' :: e) []
  | mark {k : Kind} {e : List Char} (hfragment : k ≠ .stringFragment) (hescape : k ≠ .escapeSequence) : Spells k e []

/-- The value of a piece is what it spells. -/
theorem Spells.value {k : Kind} {e part : List Char} (h : Spells k e part) :
    (if k = .stringFragment then .ok (Text.ofChars e)
      else if k = .escapeSequence then Escape.decode (Text.ofChars e) else .ok []) =
      (.ok (Text.ofChars part) : Except EscapeError Text) := by
  cases h with
  | raw => rfl
  | @number form e c h =>
    have hpoint : CodePoint.ofNat c.toNat = .scalar c := CodePoint.ofNat_toNat (.scalar c)
    have hdecode := Escape.decode_of_hexadecimal h
    rw [hpoint] at hdecode
    exact hdecode
  | letter h => exact Escape.decode_letter h
  | identity h => exact Escape.decode_identity h
  | lineEnd h => exact Escape.decode_lineEnd h
  | mark hfragment hescape =>
    rw [if_neg hfragment, if_neg hescape]
    rfl

/-! ## Whole strings -/

namespace Node

/-- A string is spelled as some text, piece by piece. -/
def Spelling (source : List Char) (s : Node) (m : List Char) : Prop :=
  ∃ parts, List.Forall₂ (fun piece part => Spells piece.kind (piece.span.slice source) part) s.children parts ∧
    m = parts.flatten

/-- However a string is spelled, its value is what was spelled. -/
lemma stringValue_of_spelling {source : List Char} {s : Node} {m : List Char} (h : s.Spelling source m) :
    s.stringValue source = .ok (Text.ofChars m) := by
  obtain ⟨parts, hparts, rfl⟩ := h
  refine Steps.bind_eq_ok_iff.mpr ⟨parts.map Text.ofChars, ?_, ?_⟩
  · rw [Steps.mapM_eq_ok_iff, List.forall₂_map_right_iff]
    exact hparts.imp fun piece part hpart => hpart.value
  · rw [Steps.pure_eq_ok_iff]
    exact (List.map_flatten ..).symm

/-! ## Imports -/

/-- A statement imports the module whose name is spelled in its string. -/
def Names (source : List Char) (n : Node) (m : List Char) : Prop :=
  ∃ s, n.ImportsFrom s ∧ s.Spelling source m

/-- Statements that spell modules state imports of these modules. -/
lemma exists_states_of_names {source : List Char} {ns : List Node} {ms : List (List Char)}
    (h : List.Forall₂ (Names source) ns ms) :
    ∃ imports, List.Forall₂ (States source) ns imports ∧ imports.map (·.module) = ms.map Text.ofChars := by
  induction h with
  | nil => exact ⟨[], List.Forall₂.nil, rfl⟩
  | @cons n m ns ms hn _ ih =>
    obtain ⟨imports, hstates, hmodules⟩ := ih
    obtain ⟨s, hs, hspelling⟩ := hn
    have hstate : n.States source ⟨Text.ofChars m, lineAt source n.span.start⟩ :=
      ⟨s, hs, stringValue_of_spelling hspelling, rfl⟩
    exact ⟨_ :: imports, List.Forall₂.cons hstate hstates, by simp [hmodules]⟩

/-- The modules of the imports are those that are spelled. -/
lemma imports_of_names {source : List Char} {root : Node} {ms : List (List Char)}
    (h : List.Forall₂ (Names source) root.importStatements ms) :
    ∃ imports, root.imports source = .ok imports ∧ imports.map (·.module) = ms.map Text.ofChars := by
  obtain ⟨imports, hstates, hmodules⟩ := exists_states_of_names h
  exact ⟨imports, imports_eq_ok_iff.mpr hstates, hmodules⟩

end Node

end Script

namespace Structure

open Script (Node Spells parse)
open Script.Escape (Hexadecimal)

/-- What is known of imports but their lines depends on their modules alone. -/
lemma ofImports_congr {imports imports' : List Script.Import}
    (h : imports.map (·.module) = imports'.map (·.module)) (exported : Bool) :
    (ofImports imports exported).errors = (ofImports imports' exported).errors ∧
      (ofImports imports exported).hasK6Import = (ofImports imports' exported).hasK6Import ∧
      (ofImports imports exported).hasProtocolImport = (ofImports imports' exported).hasProtocolImport := by
  have herrors : ∀ is : List Script.Import,
      is.filterMap importError = (is.map (·.module)).filterMap fun m => importError ⟨m, 0⟩ := by
    intro is
    rw [List.filterMap_map]
    rfl
  have hany : ∀ (p : Text → Bool) (is : List Script.Import),
      (is.any fun i => p i.module) = (is.map (·.module)).any p := by
    intro p is
    rw [List.any_map]
    rfl
  unfold ofImports
  dsimp only
  rw [herrors, herrors imports', hany, hany _ imports', hany (fun m => _ && _), hany (fun m => _ && _) imports', h]
  exact ⟨rfl, rfl, rfl⟩

/-- **The value of a string is what it spells, in whatever way it does.** So two scripts whose imports spell the same
modules, of which one may have nothing escaped, have imports of the same modules, and these are taken for the same. -/
theorem spelling_invariant :
    (∀ (source : List Char) (s : Node) (m : List Char), s.Spelling source m →
      s.stringValue source = .ok (Text.ofChars m)) ∧
    ∀ (source source' : List Char) (root root' : Node) (ms : List (List Char)),
      List.Forall₂ (Node.Names source) root.importStatements ms →
      List.Forall₂ (Node.Names source') root'.importStatements ms →
      ∃ imports imports', root.imports source = .ok imports ∧ root'.imports source' = .ok imports' ∧
        imports.map (·.module) = ms.map Text.ofChars ∧ imports'.map (·.module) = ms.map Text.ofChars ∧
        ∀ exported, (ofImports imports exported).errors = (ofImports imports' exported).errors ∧
          (ofImports imports exported).hasK6Import = (ofImports imports' exported).hasK6Import ∧
          (ofImports imports exported).hasProtocolImport = (ofImports imports' exported).hasProtocolImport := by
  refine ⟨fun source s m h => Node.stringValue_of_spelling h, ?_⟩
  intro source source' root root' ms h h'
  obtain ⟨imports, himports, hmodules⟩ := Node.imports_of_names h
  obtain ⟨imports', himports', hmodules'⟩ := Node.imports_of_names h'
  exact ⟨imports, imports', himports, himports', hmodules, hmodules',
    ofImports_congr (hmodules.trans hmodules'.symm)⟩

/-- The import of a module whose name has two characters, spelled by their numbers. -/
def escapedImport : List Char := "import '\\x66\\u\x7b0073\x7d'".toList

/-- The same import with nothing escaped. -/
def plainImport : List Char := "import 'fs'".toList

/-- The tree of a script that is one import of a string of some pieces. -/
def importTree (stop : Nat) (pieces : List Node) : Node :=
  .mk .program none ⟨0, stop⟩
    [.mk .importStatement none ⟨0, stop⟩ [.mk .string (some .source) ⟨7, stop⟩ pieces]]

private lemma parse_escapedImport :
    parse .javascript escapedImport =
      importTree 21 [.mk .escapeSequence none ⟨8, 12⟩ [], .mk .escapeSequence none ⟨12, 20⟩ []] := by
  cbv

private lemma parse_plainImport :
    parse .javascript plainImport = importTree 11 [.mk .stringFragment none ⟨8, 10⟩ []] := by
  cbv

/-- A script that is one import names the module that the pieces of its string spell. -/
lemma importTree_names {source m : List Char} {stop : Nat} {pieces : List Node}
    (h : (Node.mk .string (some .source) ⟨7, stop⟩ pieces).Spelling source m) :
    List.Forall₂ (Node.Names source) (importTree stop pieces).importStatements [m] :=
  List.Forall₂.cons ⟨_, ⟨rfl, rfl, rfl⟩, h⟩ List.Forall₂.nil

theorem spelling_invariant_escapedImport :
    ∃ imports imports', (parse .javascript escapedImport).imports escapedImport = .ok imports ∧
      (parse .javascript plainImport).imports plainImport = .ok imports' ∧
      imports.map (·.module) = [Text.ofString "fs"] ∧
      (ofImports imports true).errors = (ofImports imports' true).errors := by
  have htwo : ∀ c ∈ ['6', '6'], Number.isHex c = true := List.all_eq_true.mp (by decide)
  have hbraced : ∀ c ∈ ['0', '0', '7', '3'], Number.isHex c = true := List.all_eq_true.mp (by decide)
  have hescaped : List.Forall₂ (Node.Names escapedImport) (parse .javascript escapedImport).importStatements
      [['f', 's']] := by
    rw [parse_escapedImport]
    refine importTree_names ⟨[['f'], ['s']], List.Forall₂.cons ?_ (List.Forall₂.cons ?_ List.Forall₂.nil), rfl⟩
    · exact Spells.number (Hexadecimal.two rfl htwo)
    · exact Spells.number (Hexadecimal.braced (List.cons_ne_nil _ _) hbraced (by decide))
  have hplain : List.Forall₂ (Node.Names plainImport) (parse .javascript plainImport).importStatements
      [['f', 's']] := by
    rw [parse_plainImport]
    exact importTree_names ⟨[['f', 's']], List.Forall₂.cons (Spells.raw _) List.Forall₂.nil, rfl⟩
  obtain ⟨imports, imports', himports, himports', hmodules, -, hsame⟩ :=
    spelling_invariant.2 _ _ _ _ _ hescaped hplain
  exact ⟨imports, imports', himports, himports', hmodules, (hsame true).1⟩

end Structure

end ScriptVet
