import ScriptVet.Proofs.FirstMatch

/-!
# Trying an expression part by part

`firstLength` tries the ways in which expressions start. Here it gets an equation for each kind of expression at the
front, so that a proof about one expression follows the expression and never looks at its heads:

* a sequence is tried as its parts one behind another (`firstLength_seq`);
* a set takes one character, a condition takes none (`firstLength_set_cons`, `firstLength_anchor`);
* a repetition that takes as much as it can is tried with one more character first, and without it only when that leads
  nowhere (`firstLength_greedy_cons`); one that takes as little as it can is tried the other way round
  (`firstLength_lazy_cons`).

From these follows what a repetition of one set comes to. A greedy one passes over a whole run of its characters when
what follows matches behind them (`firstLength_greedy_run`). A lazy one goes to the first place where what follows matches
(`firstLength_lazy_first`).
-/

namespace ScriptVet.Regex

/-! ## Heads of expressions one behind another -/

/-- Heads of a second list are tried when those of the first fail. -/
lemma tried_append (c : Option Char) (more : List Regex → Option Nat) (hs ks : List Head) :
    tried c more (hs ++ ks) = (tried c more hs).or (tried c more ks) := by
  induction hs with
  | nil => rfl
  | cons h hs ih =>
    cases h with
    | done => rfl
    | take s rest => rw [List.cons_append, tried, tried, ih, Option.or_assoc]

/-- Expressions with the same heads at every place are tried alike. -/
lemma firstLength_congr {rs ss : List Regex} (h : ∀ p, headsAll p rs = headsAll p ss) (cs : List Char)
    (before : Option Char) : firstLength cs before rs = firstLength cs before ss := by
  cases cs with
  | nil => rw [firstLength, firstLength, h]
  | cons c cs => rw [firstLength, firstLength, h]

section Equations

variable (s : CharSet) (c : Char) (cs : List Char) (before : Option Char) (todo : List Regex)

@[simp] lemma firstLength_nil_todo : firstLength cs before [] = some 0 := by
  cases cs <;> rfl

/-- Expressions in a row are tried as one list. -/
theorem firstLength_seq (r r' : Regex) :
    firstLength cs before (seq r r' :: todo) = firstLength cs before (r :: r' :: todo) := by
  refine firstLength_congr (fun p => ?_) cs before
  rw [headsAll, heads, headsAll, List.flatMap_assoc]
  congr 1
  funext h
  cases h with
  | done => rfl
  | take t rest => simp [Head.followedBy]

/-- A set takes a character that it holds. -/
theorem firstLength_set_cons :
    firstLength (c :: cs) before (set s :: todo) =
      if s.contains c then (firstLength cs (some c) todo).map (· + 1) else none := by
  have hheads : headsAll ⟨before, some c⟩ (set s :: todo) = [.take s todo] := rfl
  rw [firstLength, hheads, tried, tried, Option.or_none]
  rfl

/-- A condition is asked for and takes nothing. -/
theorem firstLength_anchor (a : Anchor) :
    firstLength cs before (anchor a :: todo) =
      if a.holds ⟨before, cs.head?⟩ then firstLength cs before todo else none := by
  by_cases hholds : a.holds ⟨before, cs.head?⟩ = true
  · have hheads : headsAll ⟨before, cs.head?⟩ (anchor a :: todo) = headsAll ⟨before, cs.head?⟩ todo := by
      rw [headsAll, heads, if_pos hholds]
      exact List.append_nil _
    rw [if_pos hholds]
    cases cs with
    | nil => exact congrArg (tried none _) hheads
    | cons c cs => exact congrArg (tried (some c) _) hheads
  · have hheads : headsAll ⟨before, cs.head?⟩ (anchor a :: todo) = [] := by
      rw [headsAll, heads, if_neg hholds]
      rfl
    rw [if_neg hholds]
    cases cs with
    | nil => exact congrArg (tried none _) hheads
    | cons c cs => exact congrArg (tried (some c) _) hheads

/-! ## Repetitions of a set -/

/-- A greedy run tries to go on first. -/
lemma headsAll_greedy (p : Around) :
    headsAll p (rep 0 none true (set s) :: todo) = .take s (rep 0 none true (set s) :: todo) :: headsAll p todo := by
  have hheads : heads p (rep 0 none true (set s)) = [.take s [rep 0 none true (set s)], .done] := rfl
  rw [headsAll, hheads]
  simp [Head.followedBy]

/-- A lazy run tries to stop first. -/
lemma headsAll_lazy (p : Around) :
    headsAll p (rep 0 none false (set s) :: todo) =
      headsAll p todo ++ [.take s (rep 0 none false (set s) :: todo)] := by
  have hheads : heads p (rep 0 none false (set s)) = [.done, .take s [rep 0 none false (set s)]] := rfl
  rw [headsAll, hheads]
  simp [Head.followedBy]

private lemma firstLength_greedy_nil :
    firstLength [] before (rep 0 none true (set s) :: todo) = firstLength [] before todo := by
  rw [firstLength, headsAll_greedy, tried]
  rfl

/-- A greedy run takes a character if it can, and else stops. -/
lemma firstLength_greedy_cons :
    firstLength (c :: cs) before (rep 0 none true (set s) :: todo) =
      (if s.contains c then (firstLength cs (some c) (rep 0 none true (set s) :: todo)).map (· + 1) else none).or
        (firstLength (c :: cs) before todo) := by
  rw [firstLength, headsAll_greedy, tried]
  rfl

private lemma firstLength_lazy_nil :
    firstLength [] before (rep 0 none false (set s) :: todo) = firstLength [] before todo := by
  rw [firstLength, headsAll_lazy, tried_append]
  exact Option.or_none

/-- A lazy run stops if it can, and else takes a character. -/
lemma firstLength_lazy_cons :
    firstLength (c :: cs) before (rep 0 none false (set s) :: todo) =
      (firstLength (c :: cs) before todo).or
        (if s.contains c then (firstLength cs (some c) (rep 0 none false (set s) :: todo)).map (· + 1) else none) := by
  rw [firstLength, headsAll_lazy, tried_append, tried, tried, Option.or_none]
  rfl

/-- At least one character is one, and then any number of them. -/
theorem firstLength_plus :
    firstLength cs before (rep 1 none true (set s) :: todo) =
      firstLength cs before (set s :: rep 0 none true (set s) :: todo) := by
  refine firstLength_congr (fun p => ?_) cs before
  have hheads : heads p (rep 1 none true (set s)) = [.take s [rep 0 none true (set s)]] := rfl
  rw [headsAll, hheads]
  rfl

private lemma headsAll_option (p : Around) :
    headsAll p (rep 0 (some 1) true (set s) :: todo) = .take s todo :: headsAll p todo := by
  have hheads : heads p (rep 0 (some 1) true (set s)) = [.take s [], .done] := rfl
  rw [headsAll, hheads]
  simp [Head.followedBy]

/-- A character that may be there is taken when it is, unless what follows does not match behind it. -/
theorem firstLength_option_cons :
    firstLength (c :: cs) before (rep 0 (some 1) true (set s) :: todo) =
      (if s.contains c then (firstLength cs (some c) todo).map (· + 1) else none).or
        (firstLength (c :: cs) before todo) := by
  rw [firstLength, headsAll_option, tried]
  rfl

end Equations

/-! ## Runs of characters -/

section Runs

variable {s : CharSet} {run rest : List Char} {before : Option Char} {todo : List Regex}

/-- Where no character of the set stands, a repetition takes nothing. -/
lemma firstLength_greedy_stop (hrest : ∀ c, rest.head? = some c → s.contains c = false) :
    firstLength rest before (rep 0 none true (set s) :: todo) = firstLength rest before todo := by
  cases rest with
  | nil => exact firstLength_greedy_nil s before todo
  | cons c rest =>
    have hc : s.contains c = false := hrest c rfl
    rw [firstLength_greedy_cons, hc]
    exact Option.none_or

/-- A greedy repetition passes over the whole run of its characters when what follows matches there. -/
theorem firstLength_greedy_run {n : Nat} (hrun : ∀ c ∈ run, s.contains c = true)
    (hrest : ∀ c, rest.head? = some c → s.contains c = false)
    (h : firstLength rest (behind before run) todo = some n) :
    firstLength (run ++ rest) before (rep 0 none true (set s) :: todo) = some (run.length + n) := by
  induction run generalizing before with
  | nil =>
    rw [List.nil_append, firstLength_greedy_stop hrest, List.length_nil, Nat.zero_add]
    exact h
  | cons c run ih =>
    rw [List.forall_mem_cons] at hrun
    rw [behind_cons] at h
    have htail := ih hrun.2 h
    rw [List.cons_append, firstLength_greedy_cons, if_pos hrun.1, htail, List.length_cons]
    show some (run.length + n + 1) = some (run.length + 1 + n)
    congr 1
    omega

/-- A lazy repetition of a set that holds every character on the way goes to the first place where what follows
matches. -/
theorem firstLength_lazy_first {n : Nat} (hrun : ∀ c ∈ run, s.contains c = true)
    (hnone : ∀ u v, run = u ++ v → v ≠ [] → firstLength (v ++ rest) (behind before u) todo = none)
    (h : firstLength rest (behind before run) todo = some n) :
    firstLength (run ++ rest) before (rep 0 none false (set s) :: todo) = some (run.length + n) := by
  induction run generalizing before with
  | nil =>
    rw [behind_nil] at h
    rw [List.nil_append, List.length_nil, Nat.zero_add]
    cases rest with
    | nil => rw [firstLength_lazy_nil, h]
    | cons c rest => rw [firstLength_lazy_cons, h, Option.some_or]
  | cons c run ih =>
    rw [List.forall_mem_cons] at hrun
    rw [behind_cons] at h
    have hhere : firstLength (c :: (run ++ rest)) before todo = none :=
      hnone [] (c :: run) rfl (List.cons_ne_nil _ _)
    have htail : firstLength (run ++ rest) (some c) (rep 0 none false (set s) :: todo) = some (run.length + n) := by
      refine ih hrun.2 (fun u v huv hv => ?_) h
      have hlater := hnone (c :: u) v (congrArg (c :: ·) huv) hv
      rwa [behind_cons] at hlater
    rw [List.cons_append, firstLength_lazy_cons, hhere, Option.none_or, if_pos hrun.1, htail, List.length_cons]
    show some (run.length + n + 1) = some (run.length + 1 + n)
    congr 1
    omega

end Runs

end ScriptVet.Regex
