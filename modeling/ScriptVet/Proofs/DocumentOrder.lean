import Mathlib.Logic.Relation
import ScriptVet.Proofs.SyntaxTree
import ScriptVet.Proofs.Texts
import ScriptVet.Script.Parsed

/-!
# The order of a walk

A walk holds a stack of trees and the nodes it has listed. In each turn the top of the stack is listed and its children
take its place. `walk_in_document_order` says that this ends, and in which order the nodes come.

The order is told in two ways. One is the recursion `preorder`. The other needs no recursion: the place of a node is the
way to it from the root, and the nodes come in the lexicographic order of their places, each place once. So a parent
comes before its children, as its place is the beginning of theirs, and all that is below a child comes before the next
child, as the places differ first where the children do.

What ends a walk is not the size of its stack, which may grow, but the number of nodes that can still be reached from
it (`sizeAll`): each turn lists one of them.
-/

namespace ScriptVet.Script

namespace Node

/-! ## Turns -/

/-- What a walk holds between two turns. -/
structure Walk where
  /-- The trees that are left, the next one first. -/
  stack : List Node
  /-- The nodes listed so far. -/
  listed : List Node

/-- One turn of a walk. -/
inductive Turn : Walk → Walk → Prop where
  | visit (n : Node) (stack listed : List Node) : Turn ⟨n :: stack, listed⟩ ⟨n.children ++ stack, listed ++ [n]⟩

/-- Each turn lists one of the nodes that were left. -/
lemma Turn.sizeAll_eq {w w' : Walk} (h : Turn w w') : sizeAll w.stack = sizeAll w'.stack + 1 := by
  obtain ⟨n, stack, listed⟩ := h
  show sizeAll (n :: stack) = sizeAll (n.children ++ stack) + 1
  rw [sizeAll_append, sizeAll, size_eq]
  omega

/-- No walk goes on for ever. -/
lemma wellFounded_turn : WellFounded fun later earlier => Turn earlier later := by
  refine Subrelation.wf ?_ (InvImage.wf (fun w : Walk => sizeAll w.stack) Nat.lt_wfRel.wf)
  intro later earlier hturn
  have hsize := hturn.sizeAll_eq
  show sizeAll later.stack < sizeAll earlier.stack
  omega

/-- A walk goes on until its stack is empty. It has then listed the trees that were on the stack, one after another. -/
lemma turns_to_end (w : Walk) :
    Relation.ReflTransGen Turn w ⟨[], w.listed ++ preorderAll w.stack⟩ := by
  -- The induction is over the turns that are left, since the children that a turn puts on the stack are new there.
  induction w using wellFounded_turn.induction with
  | _ w ih =>
    obtain ⟨stack, listed⟩ := w
    cases stack with
    | nil =>
      rw [preorderAll, List.append_nil]
    | cons n stack =>
      have hturn := Turn.visit n stack listed
      have hrest := ih _ hturn
      rw [preorderAll_append, List.append_assoc, List.singleton_append, ← List.cons_append, ← preorder_eq] at hrest
      exact Relation.ReflTransGen.head hturn hrest

/-- More fuel than there are nodes changes nothing. -/
lemma walkStack_eq_walk {root : Node} {fuel : Nat} (h : root.size ≤ fuel) :
    walkStack fuel [root] [] = root.walk := by
  have hsize : sizeAll [root] ≤ fuel := by simpa [sizeAll] using h
  rw [walkStack_eq fuel _ _ hsize, walk_eq_preorder]
  simp [preorderAll]

/-! ## Places -/

/-- The node at a place: the place says which child to take at each step from the root. -/
def at? (root : Node) : List Nat → Option Node
  | [] => some root
  | i :: place => root.children[i]?.bind fun c => c.at? place

mutual

/-- The places of a tree in the order of `preorder`. -/
def places : Node → List (List Nat)
  | mk _ _ _ cs => [] :: placesAll 0 cs

/-- The places of several trees next to each other, the first of which is child number `first`. -/
def placesAll (first : Nat) : List Node → List (List Nat)
  | [] => []
  | n :: ns => (places n).map (first :: ·) ++ placesAll (first + 1) ns

end

private lemma places_eq (n : Node) : n.places = [] :: placesAll 0 n.children := by
  cases n; rw [places]; rfl

private lemma size_le_sizeAll {c : Node} {ns : List Node} (h : c ∈ ns) : c.size ≤ sizeAll ns := by
  induction ns with
  | nil => cases h
  | cons n ns ih =>
    rw [sizeAll]
    rcases List.mem_cons.mp h with rfl | h
    · omega
    · have := ih h
      omega

/-- What holds of a tree when it holds of its children holds of all trees. -/
lemma childwise {P : Node → Prop} (step : ∀ n : Node, (∀ c ∈ n.children, P c) → P n) (n : Node) : P n := by
  refine step n fun c hc => ?_
  have hsmaller : c.size < n.size := by
    have := size_le_sizeAll hc
    rw [size_eq n]
    omega
  exact childwise step c
termination_by n.size

/-- The nodes of several trees stand at their places, where `before` are the children to the left of them. -/
lemma map_at?_placesAll {before ns : List Node} {root : Node} (hroot : root.children = before ++ ns)
    (h : ∀ n ∈ ns, n.preorder.map some = n.places.map n.at?) :
    (preorderAll ns).map some = (placesAll before.length ns).map root.at? := by
  induction ns generalizing before with
  | nil => simp [preorderAll, placesAll]
  | cons n ns ih =>
    have hnext : root.children = (before ++ [n]) ++ ns := by rw [hroot, List.append_assoc, List.singleton_append]
    have hrest := ih hnext fun m hm => h m (List.mem_cons_of_mem _ hm)
    have hchild : root.children[before.length]? = some n := by rw [hroot]; simp
    have hbelow : (n.places.map (before.length :: ·)).map root.at? = n.places.map n.at? := by
      rw [List.map_map]
      refine List.map_congr_left fun place _ => ?_
      show root.children[before.length]?.bind (fun c => c.at? place) = n.at? place
      rw [hchild, Option.bind_some]
    rw [List.length_append, List.length_singleton] at hrest
    rw [preorderAll, placesAll, List.map_append, List.map_append, hrest, hbelow, h n (List.mem_cons_self ..)]

/-- The nodes of a tree stand at its places. -/
lemma map_at?_places (n : Node) : n.preorder.map some = n.places.map n.at? := by
  induction n using childwise with
  | step n ih =>
    have hbelow := map_at?_placesAll (List.nil_append n.children).symm ih
    rw [List.length_nil] at hbelow
    rw [preorder_eq, places_eq, List.map_cons, List.map_cons, hbelow]
    rfl

private lemma cons_mem_placesAll {ns : List Node} {i : Nat} {c : Node} (hc : ns[i]? = some c) {place : List Nat}
    (hplace : place ∈ c.places) (first : Nat) : (first + i) :: place ∈ placesAll first ns := by
  induction ns generalizing first i with
  | nil => cases hc
  | cons n ns ih =>
    rw [placesAll, List.mem_append]
    cases i with
    | zero =>
      obtain rfl := Option.some.inj hc
      exact Or.inl (List.mem_map_of_mem hplace)
    | succ i =>
      have hmem := ih hc (first + 1)
      rw [show first + 1 + i = first + (i + 1) by omega] at hmem
      exact Or.inr hmem

/-- The places of a tree are those at which it has a node. -/
lemma mem_places_iff {n : Node} {place : List Nat} : place ∈ n.places ↔ ∃ m, n.at? place = some m := by
  constructor
  · intro h
    have hmem : n.at? place ∈ n.preorder.map some := by
      rw [map_at?_places]
      exact List.mem_map_of_mem h
    obtain ⟨m, -, hm⟩ := List.mem_map.mp hmem
    exact ⟨m, hm.symm⟩
  · rintro ⟨m, hm⟩
    induction place generalizing n with
    | nil =>
      rw [places_eq]
      exact List.mem_cons_self ..
    | cons i place ih =>
      obtain ⟨c, hc, hm⟩ := Option.bind_eq_some_iff.mp hm
      have hmem := cons_mem_placesAll hc (ih hm) 0
      rw [Nat.zero_add] at hmem
      rw [places_eq]
      exact List.mem_cons_of_mem _ hmem

/-- The places of several trees start with the numbers of these. -/
lemma exists_cons_of_mem_placesAll {ns : List Node} {first : Nat} {place : List Nat}
    (h : place ∈ placesAll first ns) :
    ∃ i rest, place = i :: rest ∧ first ≤ i := by
  induction ns generalizing first with
  | nil => rw [placesAll] at h; cases h
  | cons n ns ih =>
    rw [placesAll, List.mem_append] at h
    rcases h with h | h
    · obtain ⟨rest, -, rfl⟩ := List.mem_map.mp h
      exact ⟨first, rest, rfl, Nat.le_refl first⟩
    · obtain ⟨i, rest, rfl, hi⟩ := ih h
      exact ⟨i, rest, rfl, by omega⟩

/-- The places of trees that stand side by side are sorted when those of each tree are. -/
lemma placesAll_sorted {ns : List Node} (h : ∀ n ∈ ns, n.places.Pairwise (List.Lex (· < ·))) (first : Nat) :
    (placesAll first ns).Pairwise (List.Lex (· < ·)) := by
  induction ns generalizing first with
  | nil => rw [placesAll]; exact List.Pairwise.nil
  | cons n ns ih =>
    rw [placesAll, List.pairwise_append]
    refine ⟨?_, ih (fun m hm => h m (List.mem_cons_of_mem _ hm)) _, ?_⟩
    · -- below one child
      exact (h n (List.mem_cons_self ..)).map _ fun _ _ hlex => List.Lex.cons hlex
    · -- from one child to a later one
      intro place hplace later hlater
      obtain ⟨rest, -, rfl⟩ := List.mem_map.mp hplace
      obtain ⟨i, rest', rfl, hi⟩ := exists_cons_of_mem_placesAll hlater
      exact List.Lex.rel (by omega)

/-- Places come in their lexicographic order. -/
lemma places_sorted (n : Node) : n.places.Pairwise (List.Lex (· < ·)) := by
  induction n using childwise with
  | step n ih =>
    rw [places_eq, List.pairwise_cons]
    refine ⟨fun place hplace => ?_, placesAll_sorted ih 0⟩
    obtain ⟨i, rest, rfl, -⟩ := exists_cons_of_mem_placesAll hplace
    exact List.Lex.nil

/-! ## The first node that is asked for -/

/-- `n` is the first of the nodes with a property. -/
def IsFirstOf (P : Node → Prop) (ns : List Node) (n : Node) : Prop :=
  P n ∧ ∃ before after, ns = before ++ n :: after ∧ ∀ m ∈ before, ¬ P m

/-- The node stands for text that no rule reads, or for text that is missing. -/
def IsFault (n : Node) : Prop := n.kind = .error ∨ n.kind = .missing

private lemma isFault_iff {n : Node} : n.isFault = true ↔ n.IsFault := by
  simp [isFault, IsFault]

/-- The first node that is found is the first one with the property. -/
lemma find?_spec {P : Node → Prop} {p : Node → Bool} (hp : ∀ n, p n = true ↔ P n) (ns : List Node) :
    (ns.find? p = none ↔ ∀ n ∈ ns, ¬ P n) ∧ ∀ n, ns.find? p = some n → IsFirstOf P ns n := by
  constructor
  · rw [List.find?_eq_none]
    simp only [hp]
  · intro n hn
    obtain ⟨hholds, before, after, hsplit, hbefore⟩ := List.find?_eq_some_iff_append.mp hn
    refine ⟨(hp n).mp hholds, before, after, hsplit, fun m hm hP => ?_⟩
    have hnot := hbefore m hm
    rw [(hp m).mpr hP] at hnot
    cases hnot

/-- The node is a pair whose key is written as `key`. -/
def HasKeyText (source : List Char) (key : Text) (n : Node) : Prop :=
  n.kind = .pair ∧ ∃ k, n.child? .key = some k ∧ Text.ofChars (k.span.slice source) = key

/-- A pair is reported by its key and its value as they are written, and by the line of its key. -/
def ReportedAs (source : List Char) (n : Node) (found : Property) : Prop :=
  ∃ k, n.child? .key = some k ∧ found.key = k.span.slice source ∧ found.value = n.valueText source ∧
    found.line = lineAt source k.span.start

private lemma hasKey_iff_hasKeyText {source key : List Char} {n : Node} :
    n.hasKey source key = true ↔ n.HasKeyText source (Text.ofChars key) := by
  rw [hasKey_iff]
  refine and_congr_right fun _ => exists_congr fun k => and_congr_right fun _ => ?_
  exact ⟨congrArg Text.ofChars, Text.ofChars_injective⟩

/-- A pair is reported with its key, its value and its line. -/
lemma HasKeyText.reportedAs {source key : List Char} {n : Node} (h : n.HasKeyText source (Text.ofChars key)) :
    n.ReportedAs source (n.toProperty source key) := by
  obtain ⟨-, k, hk, hkey⟩ := h
  refine ⟨k, hk, (Text.ofChars_injective hkey).symm, rfl, ?_⟩
  show lineAt source (((n.child? .key).map fun k => k.span.start).getD n.span.start) = lineAt source k.span.start
  rw [hk]
  rfl

end Node

open Node (Turn Walk IsFirstOf IsFault HasKeyText ReportedAs)

/-! ## Scripts -/

namespace Parsed

variable {l : Language} {source : List Char} {root : Node}

private lemma firstFault?_spec :
    ∃ found, (⟨l, source, some root⟩ : Parsed).firstFault? = .ok found ∧
      (found = none ↔ ∀ n ∈ root.preorder, ¬ IsFault n) ∧
      ∀ n, found = some n → IsFirstOf IsFault root.preorder n := by
  have hfind := Node.find?_spec (fun n => @Node.isFault_iff n) root.preorder
  rw [← Node.walk_eq_preorder] at hfind ⊢
  exact ⟨root.walk.find? Node.isFault, rfl, hfind⟩

/-- A key without a UTF-8 form is written nowhere. -/
lemma firstProperty?_spec (key : Text) :
    ∃ found, (⟨l, source, some root⟩ : Parsed).firstProperty? key = .ok found ∧
      (found = none ↔ ∀ n ∈ root.preorder, ¬ HasKeyText source key n) ∧
      ∀ q, found = some q → ∃ n, IsFirstOf (HasKeyText source key) root.preorder n ∧ ReportedAs source n q := by
  by_cases hkey : ∃ cs, key = Text.ofChars cs
  · obtain ⟨cs, rfl⟩ := hkey
    have hscalars : (Text.ofChars cs).scalars? = some cs := Text.scalars?_eq_some_iff.mpr rfl
    have hfind := Node.find?_spec (fun n => @Node.hasKey_iff_hasKeyText source cs n) root.preorder
    refine ⟨root.firstProperty? source cs, ?_, ?_, ?_⟩
    · show Except.ok ((Text.ofChars cs).scalars?.bind (root.firstProperty? source)) = _
      rw [hscalars, Option.bind_some]
    · rw [← hfind.1, Node.firstProperty?, Node.walk_eq_preorder, Option.map_eq_none_iff]
    · intro q hq
      rw [Node.firstProperty?, Node.walk_eq_preorder] at hq
      obtain ⟨n, hn, rfl⟩ := Option.map_eq_some_iff.mp hq
      have hfirst := hfind.2 n hn
      exact ⟨n, hfirst, hfirst.1.reportedAs⟩
  · have hscalars : key.scalars? = none :=
      Option.eq_none_iff_forall_ne_some.mpr fun cs hcs => hkey ⟨cs, Text.scalars?_eq_some_iff.mp hcs⟩
    refine ⟨none, ?_, ?_, fun q hq => by cases hq⟩
    · show Except.ok (key.scalars?.bind (root.firstProperty? source)) = _
      rw [hscalars, Option.bind_none]
    · refine iff_of_true rfl fun n _ hn => hkey ?_
      obtain ⟨-, k, -, hk⟩ := hn
      exact ⟨_, hk.symm⟩

/-- **A walk lists a tree in the order of the document.** It ends, whatever the depth and the branching of the tree, and
has then listed what the recursion lists: every place of the tree once, in lexicographic order. So the property and
the fault that are found are the first ones of that order, and none is found when there is none. -/
theorem walk_in_document_order (l : Language) (source : List Char) (root : Node) (key : Text) :
    let script : Parsed := ⟨l, source, some root⟩
    -- the walk ends, and fuel is no part of the result
    (WellFounded fun later earlier => Turn earlier later) ∧
      Relation.ReflTransGen Turn ⟨[root], []⟩ ⟨[], root.walk⟩ ∧
      (∀ fuel, root.size ≤ fuel → Node.walkStack fuel [root] [] = root.walk) ∧
      -- the order of the nodes
      root.walk = root.preorder ∧
      (∃ places : List (List Nat), root.walk.map some = places.map root.at? ∧
        places.Pairwise (List.Lex (· < ·)) ∧ ∀ place, place ∈ places ↔ ∃ n, root.at? place = some n) ∧
      -- the first property with a key
      (∃ found, script.firstProperty? key = .ok found ∧
        (found = none ↔ ∀ n ∈ root.preorder, ¬ HasKeyText source key n) ∧
        ∀ q, found = some q → ∃ n, IsFirstOf (HasKeyText source key) root.preorder n ∧ ReportedAs source n q) ∧
      -- the first fault
      (∃ found, script.firstFault? = .ok found ∧
        (found = none ↔ ∀ n ∈ root.preorder, ¬ IsFault n) ∧
        (∀ n, found = some n → IsFirstOf IsFault root.preorder n) ∧
        (script.hasFault = .ok true ↔ ∃ n ∈ root.preorder, IsFault n)) := by
  intro script
  have hturns := Node.turns_to_end ⟨[root], []⟩
  have hall : [] ++ Node.preorderAll [root] = root.walk := by
    simp [Node.preorderAll, Node.walk_eq_preorder]
  rw [hall] at hturns
  obtain ⟨found, hfound, hnone, hfirst⟩ := @firstFault?_spec l source root
  refine ⟨Node.wellFounded_turn, hturns, fun fuel => Node.walkStack_eq_walk, Node.walk_eq_preorder root, ?_,
    firstProperty?_spec key, found, hfound, hnone, hfirst, ?_⟩
  · refine ⟨root.places, ?_, root.places_sorted, fun place => Node.mem_places_iff⟩
    rw [Node.walk_eq_preorder, Node.map_at?_places]
  · have hflag : script.hasFault = .ok found.isSome := by
      unfold hasFault
      rw [hfound]
      rfl
    rw [hflag, Except.ok.injEq, Option.isSome_iff_ne_none, ne_eq, hnone]
    simp

end Parsed

end ScriptVet.Script
