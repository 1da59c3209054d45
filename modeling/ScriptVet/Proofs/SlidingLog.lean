import Mathlib.Algebra.Order.Group.Int
import Mathlib.Data.List.TakeWhile
import ScriptVet.Proofs.LimiterRuns

/-!
# A limiter is a sliding log

`SlidingLog` is the limit as one would explain it: it keeps all times at which requests of a client were
admitted, and a request is admitted when fewer than `calls` of these lie in the last `period`. It never drops
anything. A `Limiter` drops times in three places (the head of a window, stale windows in a sweep, empty windows
when asked what is left), and `answers_eq_slidingLog` says that none of this ever shows.

The relation that carries the proof is `Keeps`: the log of a client is some times that no longer count followed by
the window that the limiter holds. Time is exact: any linearly ordered group will do.
-/

namespace ScriptVet

open Limiter (Call Outcome answers)

/-- A limit on the requests of each client that keeps all times since the last reset. -/
structure SlidingLog (Time : Type) where
  /-- How many requests a client may make in a window. -/
  calls : Int
  /-- The length of a window. -/
  period : Time
  /-- The times of all admitted requests of a client, oldest first. -/
  times : Text → List Time

namespace SlidingLog

variable {Time : Type}

/-- A log without entries. -/
def new (calls : Int) (period : Time) : SlidingLog Time := ⟨calls, period, fun _ => []⟩

/-- Logs an admitted request. -/
def record (log : SlidingLog Time) (now : Time) (client : Text) : SlidingLog Time :=
  { log with times := fun c => if c = client then log.times c ++ [now] else log.times c }

variable [Sub Time] [LinearOrder Time]

/-- The times of a client that still count: those later than `now - period`. -/
def live (log : SlidingLog Time) (now : Time) (client : Text) : List Time :=
  (log.times client).filter fun t => now - log.period < t

/-- A request is admitted when fewer than `calls` times count. -/
def admits (log : SlidingLog Time) (now : Time) (client : Text) : Bool :=
  ((log.live now client).length : Int) < log.calls

/-- How long the oldest of the times that count still counts. -/
def wait (log : SlidingLog Time) (now : Time) (client : Text) : Time :=
  log.period - (now - (log.live now client).min?.getD now)

/-- Performs a call. -/
def perform (log : SlidingLog Time) (now : Time) : Call → SlidingLog Time × Outcome Time
  | .tryAcquire client =>
    if log.admits now client then (log.record now client, .admission .admitted)
    else (log, .admission (.limited (log.wait now client)))
  | .check client =>
    if log.admits now client then (log.record now client, .checked (.ok ()))
    else (log, .checked (.error (.exceeded (log.wait now client))))
  | .remaining client => (log, .remaining (log.calls - (log.live now client).length))
  | .reset => (new log.calls log.period, .done)

/-- A question about what is left shows in no later answer: a run without it is answered alike. -/
lemma answers_drop_remaining (log : SlidingLog Time) (before after : List (Time × Call)) (now : Time)
    (client : Text) :
    (answers perform log (before ++ (now, .remaining client) :: after)).drop (before.length + 1) =
      (answers perform log (before ++ after)).drop before.length := by
  induction before generalizing log with
  | nil => simp [answers, perform]
  | cons entry rest ih => simpa [answers] using ih _

end SlidingLog

/-! ## Windows in order of time -/

section Order

variable {Time : Type} [LinearOrder Time]

/-- In a list in order of time, dropping the head while it is old drops all that is old. -/
theorem dropWhile_le_eq_filter_lt {ts : List Time} (hsorted : ts.Pairwise (· ≤ ·)) (cutoff : Time) :
    ts.dropWhile (fun t => t ≤ cutoff) = ts.filter fun t => cutoff < t := by
  induction ts with
  | nil => rfl
  | cons t rest ih =>
    rw [List.pairwise_cons] at hsorted
    by_cases ht : t ≤ cutoff
    · rw [List.dropWhile_cons_of_pos (by simpa using ht), List.filter_cons_of_neg (by simpa using ht)]
      exact ih hsorted.2
    · have hlater : ∀ u ∈ rest, cutoff < u := fun u hu => lt_of_lt_of_le (not_le.mp ht) (hsorted.1 u hu)
      rw [List.dropWhile_cons_of_neg (by simpa using ht), List.filter_cons_of_pos (by simpa using ht)]
      rw [List.filter_eq_self.mpr fun u hu => by simpa using hlater u hu]

/-- In a list in order of time, the first time is the least. -/
theorem min?_eq_some_of_sorted {t : Time} {ts : List Time} (hsorted : (t :: ts).Pairwise (· ≤ ·)) :
    (t :: ts).min? = some t := by
  rw [List.min?_eq_head? (hsorted.imp fun h => min_eq_left h)]
  rfl

/-- When the last time of a list in order is old, all of it is. -/
lemma le_of_getLast?_le {ts : List Time} (hsorted : ts.Pairwise (· ≤ ·)) {newest : Time}
    (hlast : ts.getLast? = some newest) {t : Time} (ht : t ∈ ts) : t ≤ newest := by
  obtain ⟨front, rfl⟩ := List.getLast?_eq_some_iff.mp hlast
  rw [List.pairwise_append] at hsorted
  rcases List.mem_append.mp ht with h | h
  · exact hsorted.2.2 t h newest (by simp)
  · exact (List.mem_singleton.mp h).le

/-- Behind a list in order of time its last time may come once more. -/
theorem pairwise_le_append_last {ts : List Time} {now : Time} (h : (ts ++ [now]).Pairwise (· ≤ ·)) :
    ((ts ++ [now]) ++ [now]).Pairwise (· ≤ ·) := by
  rw [List.pairwise_append]
  refine ⟨h, List.pairwise_singleton _ _, ?_⟩
  intro t ht u hu
  rw [List.mem_singleton.mp hu]
  exact le_of_getLast?_le h List.getLast?_concat ht

end Order

namespace SlidingLog

variable {Time : Type} [Sub Time] [LinearOrder Time]

/-- A log in order of time is some times that no longer count followed by those that do. -/
lemma times_eq_append_live {log : SlidingLog Time} {client : Text}
    (hsorted : (log.times client).Pairwise (· ≤ ·)) (now : Time) :
    ∃ old, log.times client = old ++ log.live now client ∧ ∀ t ∈ old, t ≤ now - log.period := by
  refine ⟨(log.times client).takeWhile fun t => t ≤ now - log.period, ?_, ?_⟩
  · rw [live, ← dropWhile_le_eq_filter_lt hsorted, List.takeWhile_append_dropWhile]
  · intro t ht
    simpa using List.mem_takeWhile_imp ht

lemma live_pairwise {log : SlidingLog Time} {client : Text}
    (hsorted : (log.times client).Pairwise (· ≤ ·)) (now : Time) :
    (log.live now client).Pairwise (· ≤ ·) :=
  hsorted.sublist List.filter_sublist

end SlidingLog

/-! ## What a limiter keeps of a log -/

namespace Limiter

variable {Time : Type} [AddCommGroup Time] [LinearOrder Time]

/-- At `clock`, a limiter has kept of a log all that still counts. -/
structure Keeps (l : Limiter Time) (log : SlidingLog Time) (clock : Time) : Prop where
  calls_eq : l.calls = log.calls
  calls_pos : 1 ≤ l.calls
  period_eq : l.period = log.period
  nodup : l.clients.Nodup
  sorted : ∀ c, (log.times c).Pairwise (· ≤ ·)
  past : ∀ c, ∀ t ∈ log.times c, t ≤ clock
  dropped : ∀ c, ∃ old, log.times c = old ++ l.times c ∧ ∀ t ∈ old, t ≤ clock - log.period
  short : ∀ c, ((l.times c).length : Int) ≤ l.calls

namespace Keeps

variable {l l' : Limiter Time} {log : SlidingLog Time} {clock now : Time}

lemma new {calls : Int} (hcalls : 1 ≤ calls) (period start : Time) :
    Keeps (Limiter.new calls period start) (SlidingLog.new calls period) start where
  calls_eq := rfl
  calls_pos := hcalls
  period_eq := rfl
  nodup := List.nodup_nil
  sorted _ := List.Pairwise.nil
  past c t ht := by simp [SlidingLog.new] at ht
  dropped _ := ⟨[], rfl, by simp⟩
  short _ := by simpa [Limiter.new, times, window?] using le_trans (by omega) hcalls

/-- What counts no longer at one time counts no longer at a later one. -/
theorem later [IsOrderedAddMonoid Time] (h : Keeps l log clock) (hle : clock ≤ now) : Keeps l log now :=
  { h with
    past := fun c t ht => (h.past c t ht).trans hle
    dropped := fun c => by
      obtain ⟨old, hsplit, hold⟩ := h.dropped c
      exact ⟨old, hsplit, fun t ht => (hold t ht).trans (sub_le_sub_right hle _)⟩ }

/-- Dropping the head of the window of a client leaves what counts in the log. -/
lemma expire_times (h : Keeps l log now) (c : Text) : l.expire now (l.times c) = log.live now c := by
  obtain ⟨old, hsplit, hold⟩ := h.dropped c
  have hsorted := h.sorted c
  rw [hsplit, List.pairwise_append] at hsorted
  have hgone : old.filter (fun t => now - log.period < t) = [] := by
    rw [List.filter_eq_nil_iff]
    intro t ht
    simpa using hold t ht
  unfold expire SlidingLog.live
  rw [h.period_eq, dropWhile_le_eq_filter_lt hsorted.2.1, hsplit, List.filter_append, hgone, List.nil_append]

/-- As many times as count in the log are kept for a client. -/
theorem live_length_le (h : Keeps l log now) (c : Text) : ((log.live now c).length : Int) ≤ l.calls := by
  have hle : (log.live now c).length ≤ (l.times c).length := by
    rw [← h.expire_times c]
    exact (List.dropWhile_sublist _).length_le
  have := h.short c
  omega

/-- A limiter may forget: each window may be cut down to what still counts. -/
lemma forgetful (h : Keeps l log now) (hcalls : l'.calls = l.calls) (hperiod : l'.period = l.period)
    (hnodup : l'.clients.Nodup) (htimes : ∀ c, l'.times c = l.times c ∨ l'.times c = log.live now c) :
    Keeps l' log now where
  calls_eq := hcalls.trans h.calls_eq
  calls_pos := hcalls ▸ h.calls_pos
  period_eq := hperiod.trans h.period_eq
  nodup := hnodup
  sorted := h.sorted
  past := h.past
  dropped c := by
    rcases htimes c with hc | hc
    · rw [hc]; exact h.dropped c
    · rw [hc]; exact SlidingLog.times_eq_append_live (h.sorted c) now
  short c := by
    rw [hcalls]
    rcases htimes c with hc | hc
    · rw [hc]; exact h.short c
    · rw [hc]; exact h.live_length_le c

/-- A sweep drops only windows in which nothing counts. -/
theorem sweep (h : Keeps l log now) : Keeps (l.sweep now) log now := by
  refine h.forgetful (sweep_calls l now) (sweep_period l now) (clients_sweep_nodup h.nodup now) fun c => ?_
  rcases times_sweep h.nodup now c with hc | ⟨hc, hstale⟩
  · exact Or.inl hc
  · refine Or.inr (hc.trans ?_)
    obtain ⟨old, hsplit, -⟩ := h.dropped c
    have hsorted := h.sorted c
    rw [hsplit, List.pairwise_append] at hsorted
    rw [← h.expire_times c, expire, eq_comm, List.dropWhile_eq_nil_iff]
    intro t ht
    -- the newest time is old, so all are
    unfold isStale at hstale
    cases hlast : (l.times c).getLast? with
    | none => rw [List.getLast?_eq_none_iff.mp hlast] at ht; simp at ht
    | some newest =>
      rw [hlast] at hstale
      simp only [decide_eq_true_eq] at hstale ⊢
      exact (le_of_getLast?_le hsorted.2.1 hlast ht).trans hstale

/-- Cutting the window of one client down to what counts. -/
theorem setWindow_live (h : Keeps l log now) (client : Text) :
    Keeps (l.setWindow client (log.live now client)) log now := by
  refine h.forgetful rfl rfl (clients_setWindow_nodup h.nodup client _) fun c => ?_
  rw [times_setWindow]
  by_cases hc : c = client
  · exact Or.inr (by rw [if_pos hc, hc])
  · exact Or.inl (if_neg hc)

/-- Forgetting a client for whom nothing counts. -/
theorem forget (h : Keeps l log now) {client : Text} (hnone : log.live now client = []) :
    Keeps (l.forget client) log now := by
  refine h.forgetful rfl rfl (clients_forget_nodup h.nodup client) fun c => ?_
  rw [times_forget]
  by_cases hc : c = client
  · exact Or.inr (by rw [if_pos hc, hc, hnone])
  · exact Or.inl (if_neg hc)

/-- Logging a request and adding it to what counts of a client. -/
theorem record (h : Keeps l log now) {client : Text} (hroom : log.admits now client = true) :
    Keeps (l.setWindow client (log.live now client ++ [now])) (log.record now client) now where
  calls_eq := h.calls_eq
  calls_pos := h.calls_pos
  period_eq := h.period_eq
  nodup := clients_setWindow_nodup h.nodup client _
  sorted c := by
    unfold SlidingLog.record
    dsimp only
    split
    · rw [List.pairwise_append]
      exact ⟨h.sorted c, List.pairwise_singleton _ _, fun t ht u hu => by
        rw [List.mem_singleton.mp hu]; exact h.past c t ht⟩
    · exact h.sorted c
  past c t ht := by
    unfold SlidingLog.record at ht
    dsimp only at ht
    split at ht
    · rcases List.mem_append.mp ht with ht | ht
      · exact h.past c t ht
      · exact (List.mem_singleton.mp ht).le
    · exact h.past c t ht
  dropped c := by
    unfold SlidingLog.record
    rw [times_setWindow]
    dsimp only
    by_cases hc : c = client
    · subst hc
      -- The window was cut down to what counts now, which may be less than what was kept before.
      obtain ⟨old, hsplit, hold⟩ := SlidingLog.times_eq_append_live (h.sorted c) now
      refine ⟨old, ?_, hold⟩
      rw [if_pos rfl, if_pos rfl, ← List.append_assoc, ← hsplit]
    · rw [if_neg hc, if_neg hc]
      exact h.dropped c
  short c := by
    rw [times_setWindow]
    by_cases hc : c = client
    · rw [if_pos hc, List.length_append, List.length_singleton]
      unfold SlidingLog.admits at hroom
      have hcalls := h.calls_eq
      have hlt := of_decide_eq_true hroom
      show (((log.live now client).length + 1 : Nat) : Int) ≤ l.calls
      omega
    · rw [if_neg hc]
      exact h.short c

end Keeps

/-! ## One call -/

section Step

variable {l : Limiter Time} {log : SlidingLog Time} {clock now : Time} {client : Text}

/-- What a request is weighed against: after the sweep, the window of a client is what counts in the log. -/
lemma Keeps.window_eq (h : Keeps l log now) (client : Text) :
    (l.sweep now).expire now (((l.sweep now).window? client).getD []) = log.live now client :=
  h.sweep.expire_times client

/-- A request is admitted when the log admits it. -/
theorem Keeps.tryAcquire_of_admits (h : Keeps l log now) (hroom : log.admits now client = true) :
    l.tryAcquire now client = ((l.sweep now).setWindow client (log.live now client ++ [now]), .admitted) := by
  have hlt : ((log.live now client).length : Int) < log.calls := of_decide_eq_true hroom
  have hcalls : ¬ (l.sweep now).calls ≤ (log.live now client).length := by
    rw [h.sweep.calls_eq]; omega
  unfold tryAcquire
  dsimp only
  rw [h.window_eq client, if_neg hcalls]

/-- A request that the log does not admit is told the wait of the log. -/
theorem Keeps.tryAcquire_of_full (h : Keeps l log now) (hfull : ¬ log.admits now client = true) :
    l.tryAcquire now client =
      ((l.sweep now).setWindow client (log.live now client), .limited (log.wait now client)) := by
  have hge : ¬ ((log.live now client).length : Int) < log.calls := fun hlt => hfull (decide_eq_true hlt)
  have hcalls : (l.sweep now).calls ≤ (log.live now client).length := by
    rw [h.sweep.calls_eq]; omega
  unfold tryAcquire SlidingLog.wait
  dsimp only
  rw [h.window_eq client, if_pos hcalls]
  cases hlive : log.live now client with
  | nil =>
    -- A full window is not empty, since at least one call is allowed.
    have hpos := h.sweep.calls_pos
    rw [hlive, List.length_nil] at hcalls
    omega
  | cons oldest rest =>
    have hsorted := SlidingLog.live_pairwise (h.sorted client) now
    rw [hlive] at hsorted
    dsimp only
    rw [min?_eq_some_of_sorted hsorted, Option.getD_some, ← h.sweep.period_eq]
    rfl

/-- What is left to a client is what the log leaves, and asking changes nothing that counts. -/
lemma Keeps.remaining_spec (h : Keeps l log now) (client : Text) :
    (l.remaining now client).2 = log.calls - (log.live now client).length ∧
      Keeps (l.remaining now client).1 log now := by
  have hlive := h.expire_times client
  have hle := h.live_length_le client
  unfold remaining
  unfold times at hlive
  cases hwindow : l.window? client with
  | none =>
    rw [hwindow] at hlive
    have hnone : log.live now client = [] := hlive.symm
    refine ⟨?_, h⟩
    rw [hnone, ← h.calls_eq]
    simp
  | some window =>
    rw [hwindow, Option.getD_some] at hlive
    dsimp only
    rw [hlive]
    cases hcases : log.live now client with
    | nil => exact ⟨by rw [← h.calls_eq]; simp, h.forget hcases⟩
    | cons oldest rest =>
      have hkeeps := h.setWindow_live client
      rw [hcases] at hle hkeeps
      -- The answer is cut off at zero, which changes nothing: no more times count than are allowed.
      refine ⟨?_, hkeeps⟩
      rw [← h.calls_eq]
      exact max_eq_left (by omega)

/-- One call: the answers agree, and the limiter keeps what still counts. -/
theorem Keeps.perform [IsOrderedAddMonoid Time] (h : Keeps l log clock) (hle : clock ≤ now) (call : Call) :
    (l.perform now call).2 = (log.perform now call).2 ∧
      Keeps (l.perform now call).1 (log.perform now call).1 now := by
  have hnow : Keeps l log now := h.later hle
  cases call with
  | tryAcquire client =>
    by_cases hroom : log.admits now client = true
    · simp only [Limiter.perform, SlidingLog.perform, hnow.tryAcquire_of_admits hroom, if_pos hroom, true_and]
      exact hnow.sweep.record hroom
    · simp only [Limiter.perform, SlidingLog.perform, hnow.tryAcquire_of_full hroom, if_neg hroom, true_and]
      exact hnow.sweep.setWindow_live client
  | check client =>
    by_cases hroom : log.admits now client = true
    · simp only [Limiter.perform, Limiter.check, SlidingLog.perform, hnow.tryAcquire_of_admits hroom, if_pos hroom,
        true_and]
      exact hnow.sweep.record hroom
    · simp only [Limiter.perform, Limiter.check, SlidingLog.perform, hnow.tryAcquire_of_full hroom, if_neg hroom,
        true_and]
      exact hnow.sweep.setWindow_live client
  | remaining client =>
    obtain ⟨hanswer, hkeeps⟩ := hnow.remaining_spec client
    exact ⟨congrArg Outcome.remaining hanswer, hkeeps⟩
  | reset =>
    refine ⟨rfl, ?_⟩
    have hempty := Keeps.new hnow.calls_pos log.period now
    exact { hempty with
      calls_eq := hnow.calls_eq
      period_eq := hnow.period_eq }

end Step

/-! ## Every run -/

/-- **A limiter is a sliding log.** To every run of calls of any clients, with readings of the clock that never
go back, a limiter answers as the log that forgets nothing, and asking what is left changes no later answer. -/
theorem answers_eq_slidingLog [IsOrderedAddMonoid Time] {calls : Int} (hcalls : 1 ≤ calls) (period start : Time) :
    (∀ run : List (Time × Call), (start :: run.map Prod.fst).Pairwise (· ≤ ·) →
      answers Limiter.perform (Limiter.new calls period start) run =
        answers SlidingLog.perform (SlidingLog.new calls period) run) ∧
    (∀ (before after : List (Time × Call)) (now : Time) (client : Text),
      (start :: (before ++ (now, .remaining client) :: after).map Prod.fst).Pairwise (· ≤ ·) →
      (answers Limiter.perform (Limiter.new calls period start)
          (before ++ (now, .remaining client) :: after)).drop (before.length + 1) =
        (answers Limiter.perform (Limiter.new calls period start) (before ++ after)).drop before.length) := by
  have hrun : ∀ run : List (Time × Call), (start :: run.map Prod.fst).Pairwise (· ≤ ·) →
      answers Limiter.perform (Limiter.new calls period start) run =
        answers SlidingLog.perform (SlidingLog.new calls period) run := by
    intro run hclock
    exact answers_eq_of_simulation Keeps (fun _ _ _ _ call hkeeps hle => hkeeps.perform hle call) run _ _ start
      (Keeps.new hcalls period start) hclock
  refine ⟨hrun, ?_⟩
  intro before after now client hclock
  have hwithout : (start :: (before ++ after).map Prod.fst).Pairwise (· ≤ ·) := by
    refine hclock.sublist (List.Sublist.cons_cons _ (List.Sublist.map _ ?_))
    exact (List.sublist_cons_self _ _).append_left before
  -- The limiter does change when it is asked, and the log does not: the two runs are compared there.
  rw [hrun _ hclock, hrun _ hwithout]
  exact SlidingLog.answers_drop_remaining _ before after now client

/-- A run in which a client fills its window and is swept away by the request of another one. -/
def busyRun : List (Int × Call) :=
  let a : Text := [.scalar 'a']
  let b : Text := [.scalar 'b']
  [(0, .tryAcquire a), (4, .tryAcquire a), (5, .tryAcquire a), (6, .remaining a), (10, .check a), (13, .check a),
    (30, .tryAcquire b), (30, .remaining a), (31, .reset), (31, .remaining b)]

theorem answers_eq_slidingLog_busyRun :
    (1 : Int) ≤ 2 ∧ ((0 : Int) :: busyRun.map Prod.fst).Pairwise (· ≤ ·) ∧
      answers Limiter.perform (Limiter.new 2 10 0) busyRun =
        answers SlidingLog.perform (SlidingLog.new 2 10) busyRun ∧
      answers Limiter.perform (Limiter.new 2 10 0) busyRun =
        [.admission .admitted, .admission .admitted, .admission (.limited 5), .remaining 0, .checked (.ok ()),
          .checked (.error (.exceeded 1)), .admission .admitted, .remaining 2, .done, .remaining 2] :=
  ⟨by decide, by decide, (answers_eq_slidingLog (by decide) 10 0).1 busyRun (by decide), by decide⟩

end Limiter

end ScriptVet
