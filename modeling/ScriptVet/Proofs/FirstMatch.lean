import Mathlib.Order.Bounds.Defs
import ScriptVet.Proofs.Matching

/-!
# Which match a search finds

The search walks over a text once and moves all unfinished matches at the same time. Here it is compared with the plain
way to look for a match: try the ways in which the expression starts one after another, each to its end, and start anew
at the next place only when none of them leads to a match. `firstLength` tries at one place, `firstFrom` at one place
after another.

* `stepAll_tried` is the argument: behind a character, the threads that are kept and the one that is done come to the
  same as trying the threads in order. A thread that is dropped has the same left to match as one that is preferred.
* `search_eq_firstFrom` carries it over the whole text.
* `search_eq_none_iff` and `search_eq_some_iff` say what is found: nothing only when there is nothing to be found, and
  else a match such that none starts before it, and of those that start there the one that is preferred.
* `isLeast_of_search` says the same by places: an expression matches from a place on (`MatchesAt`), and a search gives
  the least such place.
-/

namespace ScriptVet.Regex

/-! ## One way after another -/

/-- Tries heads in order, where `c` is the next character and `more` says how long a match of the remaining expressions
behind it is. -/
def tried (c : Option Char) (more : List Regex → Option Nat) : List Head → Option Nat
  | [] => none
  | .done :: _ => some 0
  | .take s rest :: hs => (if c.any s.contains then (more rest).map (· + 1) else none).or (tried c more hs)

/-- The length of the first match at the front of a text, when the ways in which the expressions start are tried in
order, each to its end. -/
def firstLength : List Char → Option Char → List Regex → Option Nat
  | [], before, todo => tried none (fun _ => none) (headsAll ⟨before, none⟩ todo)
  | c :: cs, before, todo => tried (some c) (firstLength cs (some c)) (headsAll ⟨before, some c⟩ todo)

/-- The first match in a text when one place is tried after another: where it starts and where it ends. -/
def firstFrom (r : Regex) (position : Nat) (before : Option Char) : List Char → Option (Nat × Nat)
  | [] => (firstLength [] before [r]).map fun n => (position, position + n)
  | c :: cs =>
    ((firstLength (c :: cs) before [r]).map fun n => (position, position + n)).or
      (firstFrom r (position + 1) (some c) cs)

section Tried

variable {c : Option Char} {more : List Regex → Option Nat} {hs : List Head}

private lemma tried_eq_none_iff :
    tried c more hs = none ↔
      .done ∉ hs ∧ ∀ s rest, .take s rest ∈ hs → c.any s.contains = true → more rest = none := by
  induction hs with
  | nil => simp [tried]
  | cons h hs ih =>
    cases h with
    | done => simp [tried]
    | take s rest =>
      rw [tried, Option.or_eq_none_iff, ih]
      constructor
      · rintro ⟨hfirst, hdone, hrest⟩
        refine ⟨by simpa using hdone, fun s' rest' hmem hc => ?_⟩
        rcases List.mem_cons.mp hmem with heq | hmem
        · obtain ⟨rfl, rfl⟩ := Head.take.inj heq
          rw [if_pos hc] at hfirst
          exact Option.map_eq_none_iff.mp hfirst
        · exact hrest s' rest' hmem hc
      · rintro ⟨hdone, hrest⟩
        refine ⟨?_, fun hmem => hdone (List.mem_cons_of_mem _ hmem), fun s' rest' hmem =>
          hrest s' rest' (List.mem_cons_of_mem _ hmem)⟩
        split
        · next hc => rw [hrest s rest (List.mem_cons_self ..) hc]; rfl
        · rfl

/-- What is found by trying comes from one of the heads. -/
lemma tried_eq_some {n : Nat} (h : tried c more hs = some n) :
    (.done ∈ hs ∧ n = 0) ∨
      ∃ s rest k, .take s rest ∈ hs ∧ c.any s.contains = true ∧ more rest = some k ∧ n = k + 1 := by
  induction hs with
  | nil => cases h
  | cons head hs ih =>
    cases head with
    | done =>
      have hn : 0 = n := Option.some.inj h
      exact Or.inl ⟨List.mem_cons_self .., hn.symm⟩
    | take s rest =>
      rw [tried, Option.or_eq_some_iff] at h
      rcases h with h | ⟨-, h⟩
      · split at h
        · next hc =>
          obtain ⟨k, hk, rfl⟩ := Option.map_eq_some_iff.mp h
          exact Or.inr ⟨s, rest, k, List.mem_cons_self .., hc, hk, rfl⟩
        · cases h
      · rcases ih h with ⟨hdone, rfl⟩ | ⟨s', rest', k, hmem, hc, hk, rfl⟩
        · exact Or.inl ⟨List.mem_cons_of_mem _ hdone, rfl⟩
        · exact Or.inr ⟨s', rest', k, List.mem_cons_of_mem _ hmem, hc, hk, rfl⟩

end Tried

/-- Trying at one place fails only when no match starts there. -/
lemma firstLength_eq_none_iff {cs : List Char} {before : Option Char} {todo : List Regex} :
    firstLength cs before todo = none ↔ ∀ w v, cs = w ++ v → ¬ MatchesAll todo before w v := by
  induction cs generalizing before todo with
  | nil =>
    rw [firstLength, tried_eq_none_iff]
    constructor
    · rintro ⟨hdone, -⟩ w v hwv hmatch
      obtain ⟨rfl, rfl⟩ := List.append_eq_nil_iff.mp hwv.symm
      exact hdone ((done_mem_headsAll_iff todo before []).mpr hmatch)
    · intro h
      refine ⟨fun hdone => ?_, fun s rest _ hc => by cases hc⟩
      exact h [] [] rfl ((done_mem_headsAll_iff todo before []).mp hdone)
  | cons c cs ih =>
    rw [firstLength, tried_eq_none_iff]
    constructor
    · rintro ⟨hdone, htake⟩ w v hwv hmatch
      rw [matchesAll_iff_starts, ← hwv] at hmatch
      obtain ⟨h, hmem, hmatch⟩ := hmatch
      cases h with
      | done => exact hdone hmem
      | take s rest =>
        obtain ⟨c', w, rfl, hc, hmatch⟩ := hmatch
        obtain ⟨rfl, rfl⟩ := List.cons.inj hwv
        exact ih.mp (htake s rest hmem hc) w v rfl hmatch
    · intro h
      refine ⟨fun hdone => ?_, fun s rest hmem hc => ?_⟩
      · exact h [] (c :: cs) rfl ((done_mem_headsAll_iff todo before (c :: cs)).mp hdone)
      · rw [ih]
        rintro w v rfl hmatch
        refine h (c :: w) v rfl ?_
        rw [matchesAll_iff_starts]
        exact ⟨.take s rest, hmem, c, w, rfl, hc, hmatch⟩

lemma firstLength_singleton_eq_none_iff {cs : List Char} {before : Option Char} {r : Regex} :
    firstLength cs before [r] = none ↔ ∀ w v, cs = w ++ v → ¬ r.Matches before w v := by
  rw [firstLength_eq_none_iff]
  simp only [matchesAll_singleton]

/-- What is found by trying at one place is the length of a match there. -/
lemma matchesAll_of_firstLength {cs : List Char} {before : Option Char} {todo : List Regex} {n : Nat}
    (h : firstLength cs before todo = some n) : ∃ w v, cs = w ++ v ∧ w.length = n ∧ MatchesAll todo before w v := by
  induction cs generalizing before todo n with
  | nil =>
    rw [firstLength] at h
    rcases tried_eq_some h with ⟨hdone, rfl⟩ | ⟨s, rest, k, -, hc, -⟩
    · exact ⟨[], [], rfl, rfl, (done_mem_headsAll_iff todo before []).mp hdone⟩
    · cases hc
  | cons c cs ih =>
    rw [firstLength] at h
    rcases tried_eq_some h with ⟨hdone, rfl⟩ | ⟨s, rest, k, hmem, hc, hk, rfl⟩
    · exact ⟨[], c :: cs, rfl, rfl, (done_mem_headsAll_iff todo before (c :: cs)).mp hdone⟩
    · obtain ⟨w, v, rfl, rfl, hmatch⟩ := ih hk
      refine ⟨c :: w, v, rfl, rfl, ?_⟩
      rw [matchesAll_iff_starts]
      exact ⟨.take s rest, hmem, c, w, rfl, hc, hmatch⟩

/-! ## Threads -/

/-- The match that threads lead to when they are tried in order, where `more` says how long a match of what a thread has
left is. -/
def firstOf (position : Nat) (more : List Regex → Option Nat) (ts : List Thread) : Option (Nat × Nat) :=
  ts.findSome? fun t => (more t.todo).map fun n => (t.start, position + n)

private lemma firstOf_append (position : Nat) (more : List Regex → Option Nat) (ts us : List Thread) :
    firstOf position more (ts ++ us) = (firstOf position more ts).or (firstOf position more us) :=
  List.findSome?_append

private lemma firstOf_cons (position : Nat) (more : List Regex → Option Nat) (t : Thread) (ts : List Thread) :
    firstOf position more (t :: ts) =
      ((more t.todo).map fun n => (t.start, position + n)).or (firstOf position more ts) := by
  unfold firstOf
  rw [List.findSome?_cons]
  cases more t.todo <;> rfl

private lemma more_eq_none_of_firstOf {position : Nat} {more : List Regex → Option Nat} {ts : List Thread}
    (h : firstOf position more ts = none) {t : Thread} (ht : t ∈ ts) : more t.todo = none :=
  Option.map_eq_none_iff.mp (List.findSome?_eq_none_iff.mp h t ht)

/-- The threads that a thread leaves behind a character, and its being done, come to the same as trying its heads. The
threads in `kept` are preferred to all of them, the last one most. -/
lemma stepHeads_tried (c : Option Char) (more : List Regex → Option Nat) (position start : Nat) (hs : List Head)
    (kept : List Thread) :
    (firstOf (position + 1) more (stepHeads c start hs kept).1.reverse).or
        ((stepHeads c start hs kept).2.map fun s => (s, position)) =
      (firstOf (position + 1) more kept.reverse).or ((tried c more hs).map fun n => (start, position + n)) := by
  induction hs generalizing kept with
  | nil => rfl
  | cons h hs ih =>
    cases h with
    | done => rfl
    | take s todo =>
      rw [stepHeads, tried]
      split
      · next hnew =>
        have hc : c.any s.contains = true := (Bool.and_eq_true_iff.mp hnew).1
        have hstep : (more todo).map (fun n => (start, position + 1 + n)) =
            ((more todo).map (· + 1)).map fun n => (start, position + n) := by
          rw [Option.map_map]
          congr 1
          funext n
          simp only [Function.comp_apply]
          congr 1
          omega
        rw [ih, List.reverse_cons, firstOf_append, firstOf_cons, if_pos hc, hstep]
        simp only [firstOf, List.findSome?_nil, Option.or_none, Option.or_assoc, Option.map_or]
      · next hold =>
        rw [ih]
        cases hkept : firstOf (position + 1) more kept.reverse with
        | some found => rfl
        | none =>
          -- The character is not asked for, or a preferred thread has the same left to match and leads nowhere.
          have hnone : (if c.any s.contains then (more todo).map (· + 1) else none) = none := by
            split
            · next hc =>
              have hsame : kept.any (fun t => t.todo = todo) = true := by
                by_contra hnot
                exact hold (Bool.and_eq_true_iff.mpr ⟨hc, by rw [Bool.not_eq_true']; simpa using hnot⟩)
              obtain ⟨t, ht, htodo⟩ := List.any_eq_true.mp hsame
              have hmore := more_eq_none_of_firstOf hkept (List.mem_reverse.mpr ht)
              rw [of_decide_eq_true htodo] at hmore
              rw [hmore]
              rfl
            · rfl
          rw [hnone]
          rfl

/-- The threads that are kept behind a character and the one that is done come to the same as trying all threads in
order. -/
lemma stepAll_tried (p : Around) (more : List Regex → Option Nat) (position : Nat) (ts kept : List Thread) :
    (firstOf (position + 1) more (stepAll p ts kept).1).or ((stepAll p ts kept).2.map fun s => (s, position)) =
      (firstOf (position + 1) more kept.reverse).or
        (firstOf position (fun todo => tried p.after more (headsAll p todo)) ts) := by
  induction ts generalizing kept with
  | nil => rfl
  | cons t ts ih =>
    have hheads := stepHeads_tried p.after more position t.start (headsAll p t.todo) kept
    rw [stepAll, firstOf_cons, ← Option.or_assoc, ← hheads]
    split
    · next heq =>
      rw [heq]
      simp
    · next heq =>
      rw [heq, ih]
      simp

/-! ## The walk -/

/-- The threads at a place: those that are under way, and one that starts there as long as nothing is found. -/
def starting (r : Regex) (position : Nat) (threads : List Thread) (found : Option (Nat × Nat)) : List Thread :=
  if found.isNone then threads ++ [⟨position, [r]⟩] else threads

private lemma searchFrom_nil (r : Regex) (position : Nat) (before : Option Char) (threads : List Thread)
    (found : Option (Nat × Nat)) :
    searchFrom r position before threads found [] =
      ((stepAll ⟨before, none⟩ (starting r position threads found) []).2.map fun start =>
        (start, position)).or found := by
  rw [searchFrom]
  generalize hstep : stepAll ⟨before, none⟩ (starting r position threads found) [] = step
  unfold starting at hstep
  rw [hstep]
  obtain ⟨kept, done⟩ := step
  cases done <;> rfl

private lemma searchFrom_cons (r : Regex) (position : Nat) (before : Option Char) (threads : List Thread)
    (found : Option (Nat × Nat)) (c : Char) (rest : List Char) :
    searchFrom r position before threads found (c :: rest) =
      let step := stepAll ⟨before, some c⟩ (starting r position threads found) []
      let found := (step.2.map fun start => (start, position)).or found
      if step.1.isEmpty && found.isSome then found else searchFrom r (position + 1) (some c) step.1 found rest := by
  rw [searchFrom]
  generalize hstep : stepAll ⟨before, some c⟩ (starting r position threads found) [] = step
  unfold starting at hstep
  dsimp only
  rw [hstep]
  obtain ⟨kept, done⟩ := step
  cases done <;> rfl

/-- The thread that starts at a place is tried behind those that are under way. -/
lemma firstOf_starting (r : Regex) (position : Nat) (more : List Regex → Option Nat) (threads : List Thread)
    (found ahead : Option (Nat × Nat)) :
    (firstOf position more (starting r position threads found)).or (found.or ahead) =
      (firstOf position more threads).or
        (found.or (((more [r]).map fun n => (position, position + n)).or ahead)) := by
  unfold starting
  cases found with
  | some f => rfl
  | none =>
    rw [Option.isNone_none, if_pos rfl, firstOf_append, firstOf_cons]
    simp [firstOf, Option.or_assoc]

/-- The walk over the rest of a text: the threads under way come first, then what is found already, and then the places
that lie ahead. -/
lemma searchFrom_eq (r : Regex) (cs : List Char) (position : Nat) (before : Option Char) (threads : List Thread)
    (found : Option (Nat × Nat)) :
    searchFrom r position before threads found cs =
      (firstOf position (firstLength cs before) threads).or (found.or (firstFrom r position before cs)) := by
  induction cs generalizing position before threads found with
  | nil =>
    have hkept : ∀ ts : List Thread, firstOf (position + 1) (fun _ => none) ts = none := by
      intro ts
      simp [firstOf]
    have hstep : (stepAll ⟨before, none⟩ (starting r position threads found) []).2.map (fun s => (s, position)) =
        firstOf position (firstLength [] before) (starting r position threads found) := by
      have h := stepAll_tried ⟨before, none⟩ (fun _ => none) position (starting r position threads found) []
      rwa [hkept, hkept, Option.none_or, Option.none_or] at h
    have hstarting := firstOf_starting r position (firstLength [] before) threads found none
    rw [Option.or_none, Option.or_none] at hstarting
    rw [searchFrom_nil, hstep, firstFrom, hstarting]
  | cons c cs ih =>
    rw [searchFrom_cons]
    dsimp only
    have hstep : (firstOf (position + 1) (firstLength cs (some c))
          (stepAll ⟨before, some c⟩ (starting r position threads found) []).1).or
        ((stepAll ⟨before, some c⟩ (starting r position threads found) []).2.map fun s => (s, position)) =
        firstOf position (firstLength (c :: cs) before) (starting r position threads found) :=
      stepAll_tried ⟨before, some c⟩ (firstLength cs (some c)) position (starting r position threads found) []
    generalize stepAll ⟨before, some c⟩ (starting r position threads found) [] = step at hstep ⊢
    generalize hfound : (step.2.map fun s => (s, position)).or found = found'
    have hwalk : (if step.1.isEmpty && found'.isSome then found'
          else searchFrom r (position + 1) (some c) step.1 found' cs) =
        (firstOf (position + 1) (firstLength cs (some c)) step.1).or
          (found'.or (firstFrom r (position + 1) (some c) cs)) := by
      split
      · next hstop =>
        -- No thread is left and something is found, so the rest of the text is not looked at.
        obtain ⟨hempty, hsome⟩ := Bool.and_eq_true_iff.mp hstop
        obtain ⟨f, rfl⟩ := Option.isSome_iff_exists.mp hsome
        rw [List.isEmpty_iff.mp hempty]
        rfl
      · exact ih ..
    rw [hwalk, ← hfound, Option.or_assoc, ← Option.or_assoc, hstep, firstOf_starting]
    rfl

/-- **The search finds what trying one place after another finds.** -/
theorem search_eq_firstFrom (r : Regex) (cs : List Char) : r.search cs = firstFrom r 0 none cs := by
  unfold search
  rw [searchFrom_eq]
  rfl

/-! ## The first match -/

/-- Trying one place after another fails only when no match starts from the first place on. -/
lemma firstFrom_eq_none_iff (r : Regex) (cs : List Char) (position : Nat) (before : Option Char) :
    firstFrom r position before cs = none ↔
      ∀ u w v, cs = u ++ (w ++ v) → ¬ r.Matches (behind before u) w v := by
  induction cs generalizing position before with
  | nil =>
    rw [firstFrom, Option.map_eq_none_iff, firstLength_singleton_eq_none_iff]
    constructor
    · intro h u w v hsplit
      obtain ⟨rfl, hrest⟩ := List.append_eq_nil_iff.mp hsplit.symm
      exact h w v hrest.symm
    · intro h w v hsplit
      exact h [] w v hsplit
  | cons c cs ih =>
    rw [firstFrom, Option.or_eq_none_iff, Option.map_eq_none_iff, firstLength_singleton_eq_none_iff, ih]
    constructor
    · rintro ⟨hhere, hbehind⟩ u w v hsplit
      cases u with
      | nil => exact hhere w v hsplit
      | cons c' u =>
        obtain ⟨rfl, hrest⟩ := List.cons.inj hsplit
        rw [behind_cons]
        exact hbehind u w v hrest
    · intro h
      refine ⟨fun w v hsplit => h [] w v hsplit, fun u w v hsplit => ?_⟩
      rw [← behind_cons before]
      exact h (c :: u) w v (congrArg (c :: ·) hsplit)

/-- **A search finds nothing only when there is nothing to be found.** -/
theorem search_eq_none_iff (r : Regex) (cs : List Char) : r.search cs = none ↔ ¬ r.MatchesIn cs := by
  rw [search_eq_firstFrom, firstFrom_eq_none_iff]
  unfold MatchesIn
  constructor
  · rintro h ⟨u, w, v, hsplit, hmatch⟩
    exact h u w v hsplit hmatch
  · intro h u w v hsplit hmatch
    exact h ⟨u, w, v, hsplit, hmatch⟩

/-- In a text that is made of three parts, the middle one is the match to be found: it is a match, none starts before
it, and trying gives its length among those that start there. -/
structure IsFirst (r : Regex) (u w v : List Char) : Prop where
  matches_word : r.Matches (behind none u) w v
  leftmost : ∀ u' w' v', u ++ (w ++ v) = u' ++ (w' ++ v') → r.Matches (behind none u') w' v' → u.length ≤ u'.length
  preferred : firstLength (w ++ v) (behind none u) [r] = some w.length

/-- What is to be found from a place on: none starts before it, and trying gives its length where it starts. -/
def FoundFrom (r : Regex) (position : Nat) (before : Option Char) (cs : List Char) (start stop : Nat) : Prop :=
  ∃ u w v, cs = u ++ (w ++ v) ∧ start = position + u.length ∧ stop = start + w.length ∧
    firstLength (w ++ v) (behind before u) [r] = some w.length ∧
    ∀ u' w' v', cs = u' ++ (w' ++ v') → r.Matches (behind before u') w' v' → u.length ≤ u'.length

/-- A match at the front of the text is found there, and no other can start before it. -/
lemma foundFrom_of_firstLength {r : Regex} {cs : List Char} {position : Nat} {before : Option Char} {start stop : Nat}
    (h : (firstLength cs before [r]).map (fun n => (position, position + n)) = some (start, stop)) :
    FoundFrom r position before cs start stop := by
  obtain ⟨n, hn, hspan⟩ := Option.map_eq_some_iff.mp h
  obtain ⟨rfl, rfl⟩ := Prod.mk.inj hspan
  obtain ⟨w, v, rfl, rfl, -⟩ := matchesAll_of_firstLength hn
  exact ⟨[], w, v, rfl, rfl, rfl, hn, fun u' _ _ _ _ => Nat.zero_le _⟩

/-- A place that is passed leads to no match. -/
lemma foundFrom_of_firstFrom {r : Regex} {cs : List Char} {position : Nat} {before : Option Char} {start stop : Nat}
    (h : firstFrom r position before cs = some (start, stop)) : FoundFrom r position before cs start stop := by
  induction cs generalizing position before with
  | nil => exact foundFrom_of_firstLength h
  | cons c cs ih =>
    rw [firstFrom, Option.or_eq_some_iff] at h
    rcases h with h | ⟨hnone, h⟩
    · exact foundFrom_of_firstLength h
    · obtain ⟨u, w, v, rfl, rfl, rfl, hlength, hleft⟩ := ih h
      refine ⟨c :: u, w, v, rfl, by simp only [List.length_cons]; omega, rfl, by rwa [behind_cons], ?_⟩
      intro u' w' v' hsplit hmatch
      cases u' with
      | nil =>
        have hnot := firstLength_singleton_eq_none_iff.mp (Option.map_eq_none_iff.mp hnone) w' v' hsplit
        exact absurd hmatch hnot
      | cons c' u' =>
        obtain ⟨rfl, hrest⟩ := List.cons.inj hsplit
        rw [behind_cons] at hmatch
        have hle := hleft u' w' v' hrest hmatch
        simp only [List.length_cons]
        omega

private lemma isFirst_of_search {r : Regex} {cs : List Char} {start stop : Nat} (h : r.search cs = some (start, stop)) :
    ∃ u w v, cs = u ++ (w ++ v) ∧ start = u.length ∧ stop = u.length + w.length ∧ r.IsFirst u w v := by
  rw [search_eq_firstFrom] at h
  obtain ⟨u, w, v, rfl, rfl, rfl, hlength, hleft⟩ := foundFrom_of_firstFrom h
  obtain ⟨w', v', hsplit, hsame, hmatch⟩ := matchesAll_of_firstLength hlength
  obtain ⟨rfl, rfl⟩ := List.append_inj hsplit.symm hsame
  refine ⟨u, w', v', rfl, Nat.zero_add _, by omega, matchesAll_singleton.mp hmatch, ?_, hlength⟩
  exact hleft

/-- There is one match to be found at most. -/
theorem IsFirst.unique {r : Regex} {u w v u' w' v' : List Char} (h : r.IsFirst u w v) (h' : r.IsFirst u' w' v')
    (hsame : u ++ (w ++ v) = u' ++ (w' ++ v')) : u = u' ∧ w = w' ∧ v = v' := by
  have hle := h.leftmost u' w' v' hsame h'.matches_word
  have hge := h'.leftmost u w v hsame.symm h.matches_word
  obtain ⟨rfl, hrest⟩ := List.append_inj hsame (by omega)
  have hlength : some w.length = some w'.length := by rw [← h.preferred, ← h'.preferred, hrest]
  obtain ⟨rfl, rfl⟩ := List.append_inj hrest (Option.some.inj hlength)
  exact ⟨rfl, rfl, rfl⟩

/-- **The search finds the match to be found.** -/
theorem search_eq_some_iff {r : Regex} {cs : List Char} {start stop : Nat} :
    r.search cs = some (start, stop) ↔
      ∃ u w v, cs = u ++ (w ++ v) ∧ start = u.length ∧ stop = u.length + w.length ∧ r.IsFirst u w v := by
  constructor
  · exact isFirst_of_search
  · rintro ⟨u, w, v, rfl, rfl, rfl, hfirst⟩
    cases hsearch : r.search (u ++ (w ++ v)) with
    | none => exact absurd ⟨u, w, v, rfl, hfirst.matches_word⟩ ((search_eq_none_iff r _).mp hsearch)
    | some span =>
      obtain ⟨start, stop⟩ := span
      obtain ⟨u', w', v', hsplit, rfl, rfl, hfirst'⟩ := isFirst_of_search hsearch
      obtain ⟨rfl, rfl, rfl⟩ := hfirst.unique hfirst' hsplit
      rfl

/-! ## Places of matches -/

/-- The expression matches from a place of a text on. -/
def MatchesAt (r : Regex) (cs : List Char) (i : Nat) : Prop :=
  ∃ u w v, cs = u ++ (w ++ v) ∧ u.length = i ∧ r.Matches (behind none u) w v

section Places

variable {r : Regex} {cs : List Char}

lemma exists_matchesAt_iff : (∃ i, r.MatchesAt cs i) ↔ r.MatchesIn cs := by
  constructor
  · rintro ⟨i, u, w, v, hcs, -, hmatch⟩
    exact ⟨u, w, v, hcs, hmatch⟩
  · rintro ⟨u, w, v, hcs, hmatch⟩
    exact ⟨u.length, u, w, v, hcs, rfl, hmatch⟩

/-- **A search finds the least place from which the expression matches.** -/
theorem isLeast_of_search {start stop : Nat} (h : r.search cs = some (start, stop)) :
    IsLeast {i | r.MatchesAt cs i} start := by
  obtain ⟨u, w, v, rfl, rfl, -, hfirst⟩ := search_eq_some_iff.mp h
  refine ⟨⟨u, w, v, rfl, rfl, hfirst.matches_word⟩, ?_⟩
  rintro i ⟨u', w', v', hcs, rfl, hmatch⟩
  exact hfirst.leftmost u' w' v' hcs hmatch

/-- A match is the one to be found when trying gives it where it starts, and none starts before. -/
theorem search_eq_some_of_firstLength {u w v : List Char} (hcs : cs = u ++ (w ++ v))
    (hlength : firstLength (w ++ v) (behind none u) [r] = some w.length)
    (hleast : ∀ i, r.MatchesAt cs i → u.length ≤ i) : r.search cs = some (u.length, u.length + w.length) := by
  obtain ⟨w', v', hsplit, hsame, hmatch⟩ := matchesAll_of_firstLength hlength
  obtain ⟨rfl, rfl⟩ := List.append_inj hsplit.symm hsame
  refine search_eq_some_iff.mpr ⟨u, w', v', hcs, rfl, rfl, matchesAll_singleton.mp hmatch, ?_, hlength⟩
  intro u₂ w₂ v₂ hcs₂ hmatch₂
  exact hleast u₂.length ⟨u₂, w₂, v₂, hcs.trans hcs₂, rfl, hmatch₂⟩

end Places

end ScriptVet.Regex
