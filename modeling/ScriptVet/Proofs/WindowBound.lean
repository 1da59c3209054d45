import ScriptVet.Proofs.SlidingLog

/-!
# No window lets too many requests through

A limiter looks at what it keeps, and only when a request comes in. What it promises is about all requests that it
let through, and about every stretch of time as long as a window, whether or not a request comes in at its end.

`admittedTimes` reads the requests that were let through off a run and its answers. On the side of the log these
are the times that it holds (`times_after`), and each call keeps them sparse (`Sparse.perform`): a new time is only
added when there is room in the window that ends with it, and any window that holds the new time ends no earlier.
-/

namespace ScriptVet

namespace Limiter

variable {Time : Type}

/-! ## Runs and where they lead -/

section Runs

variable {State : Type} (step : State → Time → Call → State × Outcome Time)

/-- The state that a run of calls leads to. -/
def after : State → List (Time × Call) → State
  | s, [] => s
  | s, (now, call) :: rest => after (step s now call).1 rest

private lemma answers_length (s : State) (run : List (Time × Call)) : (answers step s run).length = run.length := by
  induction run generalizing s with
  | nil => rfl
  | cons entry rest ih => rw [answers, List.length_cons, List.length_cons, ih]

lemma answers_append (s : State) (before run : List (Time × Call)) :
    answers step s (before ++ run) = answers step s before ++ answers step (after step s before) run := by
  induction before generalizing s with
  | nil => rfl
  | cons entry rest ih => rw [List.cons_append, answers, ih, answers, after, List.cons_append]

lemma after_append (s : State) (before run : List (Time × Call)) :
    after step s (before ++ run) = after step (after step s before) run := by
  induction before generalizing s with
  | nil => rfl
  | cons entry rest ih => rw [List.cons_append, after, ih, after]

end Runs

/-- The client whose request a call is. A question about what is left is no request. -/
def Call.requester? : Call → Option Text
  | tryAcquire client => some client
  | check client => some client
  | remaining _ => none
  | reset => none

/-- The answer lets a request through. -/
def Outcome.admits : Outcome Time → Bool
  | admission .admitted => true
  | checked (.ok _) => true
  | _ => false

/-- The times at which requests of a client were let through, in a run with its answers. -/
def admittedTimes (client : Text) (run : List (Time × Call)) (outcomes : List (Outcome Time)) : List Time :=
  (run.zip outcomes).filterMap fun ((now, call), outcome) =>
    if call.requester? = some client ∧ outcome.admits then some now else none

private lemma admittedTimes_cons (client : Text) (now : Time) (call : Call) (run : List (Time × Call))
    (outcome : Outcome Time) (outcomes : List (Outcome Time)) :
    admittedTimes client ((now, call) :: run) (outcome :: outcomes) =
      (if call.requester? = some client ∧ outcome.admits then [now] else []) ++ admittedTimes client run outcomes := by
  unfold admittedTimes
  by_cases h : call.requester? = some client ∧ outcome.admits
  · simp [h]
  · simp [if_neg h]

end Limiter

open Limiter (Call Outcome answers after admittedTimes)

namespace SlidingLog

variable {Time : Type} [Sub Time] [LinearOrder Time]

/-! ## The log of a run -/

/-- What a call does to a log: a reset empties it, a request for which there is room is let through and logged, and
nothing else changes it. -/
theorem perform_cases (log : SlidingLog Time) (now : Time) (call : Call) :
    (call = .reset ∧ (log.perform now call).1 = new log.calls log.period) ∨
      (∃ client, call.requester? = some client ∧ log.admits now client = true ∧
        (log.perform now call).2.admits = true ∧ (log.perform now call).1 = log.record now client) ∨
      (call ≠ .reset ∧ (log.perform now call).2.admits = false ∧ (log.perform now call).1 = log) := by
  cases call with
  | tryAcquire client | check client =>
    by_cases hroom : log.admits now client = true
    · exact Or.inr (Or.inl ⟨client, rfl, hroom, by simp [perform, hroom, Outcome.admits], by simp [perform, hroom]⟩)
    · exact Or.inr (Or.inr ⟨by simp, by simp [perform, hroom, Outcome.admits], by simp [perform, hroom]⟩)
  | remaining client => exact Or.inr (Or.inr ⟨by simp, rfl, rfl⟩)
  | reset => exact Or.inl ⟨rfl, rfl⟩

/-- A call that is no reset adds its time when it is a request that is let through. -/
lemma times_perform (log : SlidingLog Time) (now : Time) {call : Call} (hcall : call ≠ .reset) (c : Text) :
    (log.perform now call).1.times c =
      log.times c ++ if call.requester? = some c ∧ (log.perform now call).2.admits then [now] else [] := by
  rcases perform_cases log now call with ⟨hreset, -⟩ | ⟨client, hclient, -, hadmits, hlog⟩ | ⟨-, hturned, hlog⟩
  · exact absurd hreset hcall
  · rw [hlog, hadmits, hclient]
    by_cases hc : c = client
    · simp [record, hc]
    · simp [record, hc, eq_comm]
  · rw [hlog, hturned]
    simp

/-- At the end of a run a log holds the times that it held and those of the requests that were let through, less
what a reset dropped. -/
theorem times_after (log : SlidingLog Time) (run : List (Time × Call)) (c : Text) :
    ∃ dropped, log.times c ++ admittedTimes c run (answers perform log run) =
        dropped ++ (after perform log run).times c ∧ ((∀ e ∈ run, e.2 ≠ .reset) → dropped = []) := by
  induction run generalizing log with
  | nil => exact ⟨[], by simp [admittedTimes, after], fun _ => rfl⟩
  | cons entry rest ih =>
    obtain ⟨now, call⟩ := entry
    obtain ⟨dropped, hsplit, hnone⟩ := ih (log.perform now call).1
    rw [answers, Limiter.admittedTimes_cons, after]
    by_cases hcall : call = .reset
    · subst hcall
      -- The reset drops what was held before it, and what is held in the end was let through behind it.
      refine ⟨log.times c ++ dropped, ?_, fun h => absurd rfl (h _ (List.mem_cons_self ..))⟩
      have hempty : (log.perform now .reset).1.times c = [] := rfl
      rw [hempty, List.nil_append] at hsplit
      rw [if_neg (by simp [Call.requester?]), List.nil_append, hsplit, List.append_assoc]
    · refine ⟨dropped, ?_, fun h => hnone fun e he => h e (List.mem_cons_of_mem _ he)⟩
      rw [← hsplit, times_perform log now hcall, List.append_assoc]

end SlidingLog

/-! ## Sparse logs -/

namespace SlidingLog

variable {Time : Type} [AddCommGroup Time] [LinearOrder Time]

/-- No window of length `period`, whenever it ends, holds more than `calls` times of a client. -/
structure Sparse (calls : Int) (period : Time) (log : SlidingLog Time) : Prop where
  calls_eq : log.calls = calls
  period_eq : log.period = period
  calls_nonneg : 0 ≤ calls
  count_le : ∀ (c : Text) (t : Time), ((log.times c).countP fun s => t - period < s ∧ s ≤ t) ≤ calls

namespace Sparse

variable {calls : Int} {period : Time} {log : SlidingLog Time}

lemma new (hcalls : 0 ≤ calls) (period : Time) : Sparse calls period (SlidingLog.new calls period) where
  calls_eq := rfl
  period_eq := rfl
  calls_nonneg := hcalls
  count_le _ _ := by simpa [SlidingLog.new] using hcalls

variable [IsOrderedAddMonoid Time]

/-- Logging a request for which there is room. A window that holds the new time ends no earlier than it, so what
else the window holds counts at the new time as well. -/
theorem record (h : Sparse calls period log) {now : Time} {client : Text} (hroom : log.admits now client = true) :
    Sparse calls period (log.record now client) where
  calls_eq := h.calls_eq
  period_eq := h.period_eq
  calls_nonneg := h.calls_nonneg
  count_le c t := by
    unfold SlidingLog.record
    dsimp only
    split
    · next hc =>
      subst hc
      rw [List.countP_append, List.countP_singleton]
      by_cases hnow : t - period < now ∧ now ≤ t
      · have hle : ((log.times c).countP fun s => t - period < s ∧ s ≤ t) ≤ (log.live now c).length := by
          rw [live, h.period_eq, ← List.countP_eq_length_filter]
          refine List.countP_mono_left fun s _ hs => ?_
          simp only [decide_eq_true_eq] at hs ⊢
          exact (sub_le_sub_right hnow.2 _).trans_lt hs.1
        have hlt : ((log.live now c).length : Int) < log.calls := of_decide_eq_true hroom
        rw [h.calls_eq] at hlt
        rw [if_pos (by simpa using hnow)]
        omega
      · rw [if_neg (by simpa using hnow), Nat.add_zero]
        exact h.count_le c t
    · exact h.count_le c t

/-- One call keeps a log sparse. -/
theorem perform (h : Sparse calls period log) (now : Time) (call : Call) :
    Sparse calls period (log.perform now call).1 := by
  rcases perform_cases log now call with ⟨-, hlog⟩ | ⟨client, -, hroom, -, hlog⟩ | ⟨-, -, hlog⟩
  · rw [hlog, h.calls_eq, h.period_eq]
    exact new h.calls_nonneg period
  · rw [hlog]
    exact h.record hroom
  · rw [hlog]
    exact h

/-- Every run keeps a log sparse. -/
theorem after (h : Sparse calls period log) (run : List (Time × Call)) :
    Sparse calls period (after SlidingLog.perform log run) := by
  induction run generalizing log with
  | nil => exact h
  | cons entry rest ih => exact ih (h.perform entry.1 entry.2)

/-- What is let through in a run without a reset is sparse, since the log still holds all of it in the end. -/
lemma countP_admittedTimes_le (h : Sparse calls period log) {run : List (Time × Call)}
    (hreset : ∀ e ∈ run, e.2 ≠ .reset) (c : Text) (t : Time) :
    ((admittedTimes c run (answers SlidingLog.perform log run)).countP fun s => t - period < s ∧ s ≤ t) ≤ calls := by
  obtain ⟨dropped, hsplit, hnone⟩ := log.times_after run c
  rw [hnone hreset, List.nil_append] at hsplit
  have hcount := (h.after run).count_le c t
  rw [← hsplit, List.countP_append] at hcount
  omega

end Sparse

end SlidingLog

namespace Limiter

variable {Time : Type} [AddCommGroup Time] [LinearOrder Time]

/-! ## The limiter beside the log -/

/-- A limiter that turns a request away has kept as many times in the window that ends now as are allowed. -/
lemma Keeps.calls_le_of_not_admitted {l : Limiter Time} {log : SlidingLog Time} {now : Time} (h : Keeps l log now)
    {client : Text} (hturned : (l.tryAcquire now client).2 ≠ .admitted) :
    log.calls ≤ (log.times client).countP fun s => now - log.period < s ∧ s ≤ now := by
  have hfull : ¬ log.admits now client = true := fun hroom => hturned (by rw [h.tryAcquire_of_admits hroom])
  have hge : ¬ ((log.live now client).length : Int) < log.calls := fun hlt => hfull (decide_eq_true hlt)
  have hlive : (log.live now client).length ≤ (log.times client).countP fun s => now - log.period < s ∧ s ≤ now := by
    rw [SlidingLog.live, ← List.countP_eq_length_filter]
    refine List.countP_mono_left fun s hs hcounts => ?_
    simp only [decide_eq_true_eq] at hcounts ⊢
    exact ⟨hcounts, h.past client s hs⟩
  omega

variable [IsOrderedAddMonoid Time]

/-- Along a run a limiter keeps what still counts, up to any later time. -/
theorem Keeps.after {run : List (Time × Call)} {now : Time} :
    ∀ {l : Limiter Time} {log : SlidingLog Time} {clock : Time}, Keeps l log clock →
      (clock :: (run.map Prod.fst ++ [now])).Pairwise (· ≤ ·) →
      Keeps (after Limiter.perform l run) (after SlidingLog.perform log run) now := by
  induction run with
  | nil =>
    intro l log clock h hclock
    exact h.later (by simpa using hclock)
  | cons entry rest ih =>
    intro l log clock h hclock
    rw [List.map_cons, List.cons_append, List.pairwise_cons] at hclock
    have hle : clock ≤ entry.1 := hclock.1 _ (List.mem_cons_self ..)
    exact ih (h.perform hle entry.2).2 hclock.2

/-- Along a run a limiter answers as the log does. -/
theorem Keeps.answers_eq {l : Limiter Time} {log : SlidingLog Time} {clock : Time} (h : Keeps l log clock)
    {run : List (Time × Call)} (hclock : (clock :: run.map Prod.fst).Pairwise (· ≤ ·)) :
    answers Limiter.perform l run = answers SlidingLog.perform log run :=
  answers_eq_of_simulation Keeps (fun _ _ _ _ call hkeeps hle => hkeeps.perform hle call) run _ _ clock h hclock

/-! ## Every window of every run -/

/-- **No window lets more requests through than are allowed, and none is held back before.** After any calls,
take a run without a reset, with readings of the clock that never go back. For every client and every time `t`, at
most `calls` of the requests of the client that are let through in the run lie after `t - period` and not after `t`.
And when a request is turned away at some time, at least `calls` requests of the client were let through in the window
that ends then. -/
theorem admitted_le_calls {calls : Int} (hcalls : 1 ≤ calls) (period start : Time) (client : Text) :
    (∀ before run : List (Time × Call), (start :: (before ++ run).map Prod.fst).Pairwise (· ≤ ·) →
      (∀ e ∈ run, e.2 ≠ .reset) → ∀ t : Time,
        let l := after Limiter.perform (Limiter.new calls period start) before
        ((admittedTimes client run (answers Limiter.perform l run)).countP fun s => t - period < s ∧ s ≤ t) ≤ calls) ∧
    (∀ (run : List (Time × Call)) (now : Time), (start :: (run.map Prod.fst ++ [now])).Pairwise (· ≤ ·) →
      let l := Limiter.new calls period start
      ((after Limiter.perform l run).tryAcquire now client).2 ≠ .admitted →
        calls ≤ (admittedTimes client run (answers Limiter.perform l run)).countP
          fun s => now - period < s ∧ s ≤ now) := by
  have hstart : Keeps (Limiter.new calls period start) (SlidingLog.new calls period) start :=
    Keeps.new hcalls period start
  constructor
  · intro before run hclock hreset t l
    have hanswers : answers Limiter.perform l run =
        answers SlidingLog.perform (after SlidingLog.perform (SlidingLog.new calls period) before) run := by
      have hwhole := hstart.answers_eq hclock
      rw [answers_append, answers_append] at hwhole
      exact List.append_inj_right hwhole (by rw [answers_length, answers_length])
    have hsparse := (SlidingLog.Sparse.new (le_trans (by decide) hcalls) period).after before
    rw [hanswers]
    exact hsparse.countP_admittedTimes_le hreset client t
  · intro run now hclock l hturned
    have hanswers : answers Limiter.perform l run = answers SlidingLog.perform (SlidingLog.new calls period) run := by
      refine hstart.answers_eq (hclock.sublist ?_)
      exact List.Sublist.cons_cons _ (List.sublist_append_left _ _)
    have hsparse := (SlidingLog.Sparse.new (le_trans (by decide) hcalls) period).after run
    have hkept := (hstart.after hclock).calls_le_of_not_admitted hturned
    rw [hsparse.calls_eq, hsparse.period_eq] at hkept
    -- What the log still holds was let through in the run.
    obtain ⟨dropped, hsplit, -⟩ := (SlidingLog.new calls period).times_after run client
    have hnew : (SlidingLog.new calls period).times client = [] := rfl
    rw [hnew, List.nil_append] at hsplit
    rw [hanswers, hsplit, List.countP_append]
    omega

/-- A run behind `busyRun`: the third request is turned away, and the fourth comes exactly one period behind the
first one. -/
def laterRun : List (Int × Call) :=
  let a : Text := [.scalar 'a']
  let b : Text := [.scalar 'b']
  [(31, .tryAcquire a), (35, .check a), (40, .tryAcquire a), (41, .tryAcquire a), (44, .remaining a), (52, .check b)]

theorem admitted_le_calls_laterRun :
    let a : Text := [.scalar 'a']
    let l := Limiter.new 2 10 0
    let admitted := admittedTimes a laterRun (answers Limiter.perform (after Limiter.perform l busyRun) laterRun)
    let run := busyRun ++ laterRun.take 2
    (1 : Int) ≤ 2 ∧ ((0 : Int) :: (busyRun ++ laterRun).map Prod.fst).Pairwise (· ≤ ·) ∧
      (∀ e ∈ laterRun, e.2 ≠ .reset) ∧ admitted = [31, 35, 41] ∧
      (∀ t : Int, (admitted.countP fun s => t - 10 < s ∧ s ≤ t) ≤ (2 : Int)) ∧
      (admitted.countP fun s => 43 - 10 < s ∧ s ≤ 43) = 2 ∧
      ((after Limiter.perform l run).tryAcquire 40 a).2 = .limited 1 ∧
      (2 : Int) ≤ (admittedTimes a run (answers Limiter.perform l run)).countP fun s => 40 - 10 < s ∧ s ≤ 40 :=
  ⟨by decide, by decide, by decide, by decide,
    (admitted_le_calls (by decide) 10 0 _).1 busyRun laterRun (by decide) (by decide), by decide, by decide,
    (admitted_le_calls (by decide) 10 0 _).2 (busyRun ++ laterRun.take 2) 40 (by decide) (by decide)⟩

end Limiter

end ScriptVet
