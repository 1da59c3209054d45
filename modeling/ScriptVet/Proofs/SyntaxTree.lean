import ScriptVet.Proofs.Steps
import ScriptVet.Script.Query

/-!
# Walking a tree and asking about it

`walk_eq_preorder` removes the stack and its fuel from everything that is asked about a tree: a walk lists the nodes
in the order of the recursion. On top of it stand what the three questions mean:

* `firstFault?_eq_none_iff`: no node of the tree is a fault;
* `exists_imports_eq_ok_iff`, `mem_imports_iff`: the modules named by the imports at the top of a script;
* `firstProperty?_eq_none_iff`, `firstProperty?_eq_some_iff`: the first pair with a key, in the order of the recursion.
-/

namespace ScriptVet.Script.Node

/-! ## Walking -/

/-- A node comes before all that is below it. -/
theorem preorder_eq (n : Node) : n.preorder = n :: preorderAll n.children := by
  cases n; rw [preorder]; rfl

lemma size_eq (n : Node) : n.size = 1 + sizeAll n.children := by
  cases n; rw [size]; rfl

/-- Trees that stand side by side are listed one after another. -/
theorem preorderAll_append (ms ns : List Node) : preorderAll (ms ++ ns) = preorderAll ms ++ preorderAll ns := by
  induction ms with
  | nil => simp [preorderAll]
  | cons m ms ih => rw [List.cons_append, preorderAll, ih, preorderAll, List.append_assoc]

lemma sizeAll_append (ms ns : List Node) : sizeAll (ms ++ ns) = sizeAll ms + sizeAll ns := by
  induction ms with
  | nil => simp [sizeAll]
  | cons m ms ih => rw [List.cons_append, sizeAll, ih, sizeAll, Nat.add_assoc]

/-- The walk with a stack: what is listed already, then the trees on the stack one after another. The fuel lasts as long
as it covers the nodes that can still be reached from the stack; each step uses one of both. -/
theorem walkStack_eq (fuel : Nat) (stack listed : List Node) (hfuel : sizeAll stack ≤ fuel) :
    walkStack fuel stack listed = listed.reverse ++ preorderAll stack := by
  induction fuel generalizing stack listed with
  | zero =>
    cases stack with
    | nil => simp [walkStack, preorderAll]
    | cons n stack =>
      rw [sizeAll, size_eq] at hfuel
      omega
  | succ fuel ih =>
    cases stack with
    | nil => simp [walkStack, preorderAll]
    | cons n stack =>
      rw [sizeAll, size_eq] at hfuel
      have hrest : sizeAll (n.children ++ stack) ≤ fuel := by rw [sizeAll_append]; omega
      rw [walkStack, ih _ _ hrest, preorderAll_append, preorderAll, preorder_eq]
      simp

/-- The walk with a stack lists a tree in the order of the recursion. -/
theorem walk_eq_preorder (n : Node) : n.walk = n.preorder := by
  have hsize : sizeAll [n] ≤ n.size := by simp [sizeAll]
  rw [walk, walkStack_eq _ _ _ hsize]
  simp [preorderAll]

/-! ## Faults -/

/-- No node of the tree stands for text that no rule reads. -/
def Faultless (root : Node) : Prop := ∀ n ∈ root.preorder, n.kind ≠ .error ∧ n.kind ≠ .missing

lemma isFault_eq_false_iff {n : Node} : n.isFault = false ↔ n.kind ≠ .error ∧ n.kind ≠ .missing := by
  simp [isFault]

/-- No fault is found exactly when there is none. -/
theorem firstFault?_eq_none_iff {root : Node} : root.firstFault? = none ↔ root.Faultless := by
  unfold firstFault? Faultless
  rw [walk_eq_preorder, List.find?_eq_none]
  simp only [Bool.not_eq_true, isFault_eq_false_iff]

/-! ## Imports -/

/-- A statement at the top of a script imports the module that the string `s` names. -/
def ImportsFrom (n s : Node) : Prop := n.kind = .importStatement ∧ n.child? .source = some s ∧ s.kind = .string

/-- The string of an import is the one that it imports from. -/
theorem moduleString?_eq_some_iff {n s : Node} : n.moduleString? = some s ↔ n.ImportsFrom s := by
  unfold moduleString? ImportsFrom
  split
  · next hkind => simp [hkind, Option.filter_eq_some_iff]
  · next hkind => simp [hkind]

/-- A script names the module `m` in an import. -/
def Imports (source : List Char) (root : Node) (m : Text) : Prop :=
  ∃ n ∈ root.children, ∃ s, n.ImportsFrom s ∧ s.stringValue source = .ok m

/-- One import: a statement that names a module. -/
def importOf (source : List Char) (n : Node) : Except EscapeError Import := do
  let module ← ((n.moduleString?.map (stringValue source)).getD (.ok []))
  return { module, line := lineAt source n.span.start }

/-- An import is its module and the line where it starts. -/
theorem importOf_eq_ok_iff {source : List Char} {n s : Node} (hs : n.ImportsFrom s) {i : Import} :
    importOf source n = .ok i ↔ s.stringValue source = .ok i.module ∧ i.line = lineAt source n.span.start := by
  unfold importOf
  rw [moduleString?_eq_some_iff.mpr hs, Steps.bind_eq_ok_iff]
  constructor
  · rintro ⟨m, hm, hi⟩
    obtain rfl := Steps.pure_eq_ok_iff.mp hi
    exact ⟨hm, rfl⟩
  · rintro ⟨hm, hline⟩
    exact ⟨i.module, hm, Steps.pure_eq_ok_iff.mpr (by cases i; simp_all)⟩

/-- The imports are read in order from the statements that name a module. -/
theorem imports_eq_mapM (source : List Char) (root : Node) :
    root.imports source = (root.children.filter fun n => n.moduleString?.isSome).mapM (importOf source) := rfl

/-- A node counts as an import when it names a module. -/
lemma mem_filter_moduleString? {root n : Node} :
    n ∈ root.children.filter (fun n => n.moduleString?.isSome) ↔ n ∈ root.children ∧ ∃ s, n.ImportsFrom s := by
  rw [List.mem_filter, Option.isSome_iff_exists]
  simp only [moduleString?_eq_some_iff]

/-- The imports of a script can be listed when each of its strings has a value. -/
theorem exists_imports_eq_ok_iff {source : List Char} {root : Node} :
    (∃ is, root.imports source = .ok is) ↔
      ∀ n ∈ root.children, ∀ s, n.ImportsFrom s → ∃ m, s.stringValue source = .ok m := by
  rw [imports_eq_mapM, Steps.exists_mapM_eq_ok_iff]
  constructor
  · intro h n hn s hs
    obtain ⟨i, hi⟩ := h n (mem_filter_moduleString?.mpr ⟨hn, s, hs⟩)
    exact ⟨i.module, ((importOf_eq_ok_iff hs).mp hi).1⟩
  · intro h n hn
    obtain ⟨hmem, s, hs⟩ := mem_filter_moduleString?.mp hn
    obtain ⟨m, hm⟩ := h n hmem s hs
    exact ⟨⟨m, lineAt source n.span.start⟩, (importOf_eq_ok_iff hs).mpr ⟨hm, rfl⟩⟩

/-- The modules of the listed imports are those that the script names. -/
theorem mem_imports_iff {source : List Char} {root : Node} {is : List Import} (h : root.imports source = .ok is)
    {m : Text} : (∃ i ∈ is, i.module = m) ↔ root.Imports source m := by
  rw [imports_eq_mapM] at h
  constructor
  · rintro ⟨i, hi, rfl⟩
    obtain ⟨n, hn, hni⟩ := (Steps.mem_of_mapM_eq_ok h).mp hi
    obtain ⟨hmem, s, hs⟩ := mem_filter_moduleString?.mp hn
    exact ⟨n, hmem, s, hs, ((importOf_eq_ok_iff hs).mp hni).1⟩
  · rintro ⟨n, hmem, s, hs, hm⟩
    have hn := mem_filter_moduleString?.mpr ⟨hmem, s, hs⟩
    refine ⟨⟨m, lineAt source n.span.start⟩, ?_, rfl⟩
    exact (Steps.mem_of_mapM_eq_ok h).mpr ⟨n, hn, (importOf_eq_ok_iff hs).mpr ⟨hm, rfl⟩⟩

/-! ## Exports -/

/-- A statement at the top of a script exports a function: a declaration of one, or a function that is the
default export. -/
def ExportsFunction (n : Node) : Prop :=
  n.kind = .exportStatement ∧
    ((∃ d, n.child? .declaration = some d ∧ (d.kind = .functionDeclaration ∨ d.kind = .generatorDeclaration)) ∨
      (∃ f, n.child? .value = some f ∧ (f.kind = .functionExpression ∨ f.kind = .generatorExpression)))

private lemma exportsFunction_iff {n : Node} : n.exportsFunction = true ↔ n.ExportsFunction := by
  simp [exportsFunction, ExportsFunction, Option.any_eq_true]

/-- An exported function is found when there is one at the top. -/
theorem hasExportedFunction_iff {root : Node} :
    root.hasExportedFunction = true ↔ ∃ n ∈ root.children, n.ExportsFunction := by
  simp [hasExportedFunction, exportsFunction_iff]

/-! ## Properties -/

/-- A node is a pair whose key is written as `key`. -/
def IsPairOf (source key : List Char) (n : Node) : Prop :=
  n.kind = .pair ∧ ∃ k, n.child? .key = some k ∧ k.span.slice source = key

lemma hasKey_iff {source key : List Char} {n : Node} : n.hasKey source key = true ↔ n.IsPairOf source key := by
  simp [hasKey, IsPairOf, Option.any_eq_true]

/-- The value of a pair as it is written. A pair without a value has the empty text. -/
def valueText (source : List Char) (n : Node) : List Char :=
  ((n.child? .value).map fun v => v.span.slice source).getD []

/-- `n` is the first pair with the key, in the order of the recursion. -/
def IsFirstPair (source key : List Char) (root n : Node) : Prop :=
  n.IsPairOf source key ∧
    ∃ before after, root.preorder = before ++ n :: after ∧ ∀ m ∈ before, ¬ m.IsPairOf source key

/-- No pair is found exactly when there is none with the key. -/
theorem firstProperty?_eq_none_iff {source key : List Char} {root : Node} :
    root.firstProperty? source key = none ↔ ∀ n ∈ root.preorder, ¬ n.IsPairOf source key := by
  unfold firstProperty?
  rw [walk_eq_preorder, Option.map_eq_none_iff, List.find?_eq_none]
  simp only [hasKey_iff]

/-- The pair that is found is the first one with the key. -/
theorem firstProperty?_eq_some_iff {source key : List Char} {root : Node} {p : Property} :
    root.firstProperty? source key = some p ↔
      ∃ n, root.IsFirstPair source key n ∧ n.toProperty source key = p := by
  unfold firstProperty?
  rw [walk_eq_preorder, Option.map_eq_some_iff]
  refine exists_congr fun n => and_congr_left fun _ => ?_
  rw [List.find?_eq_some_iff_append, hasKey_iff]
  unfold IsFirstPair
  simp only [Bool.not_eq_true', Bool.eq_false_iff, ne_eq, hasKey_iff]

lemma toProperty_value (source key : List Char) (n : Node) :
    (n.toProperty source key).value = n.valueText source := rfl

end ScriptVet.Script.Node
