import ScriptVet.Proofs.WindowBound

/-!
# The wait that a client is told

A client over the limit is told how long to wait. The answer is given once, and what it says is about all that may come
behind it: requests of the same client that are turned away, questions about what is left, requests of other clients
that sweep windows away. None of this moves the time at which there is room again.

On the side of the log that time is one period behind the oldest request that counts. `FullUntil` says what it means
for a log, `fullUntil_of_live` that a full log has such a time, and `FullUntil.after` that no run without a reset
changes it, unless the client comes back behind it.
-/

namespace ScriptVet

open Limiter (Call Outcome answers after)

namespace SlidingLog

variable {Time : Type} [AddCommGroup Time] [LinearOrder Time]

/-! ## Logs that are full for a while -/

/-- From `now` until the deadline requests of a client are turned away and told to come back at the deadline, and from
the deadline on there is room for one. -/
structure FullUntil (log : SlidingLog Time) (client : Text) (now deadline : Time) : Prop where
  full : ∀ t, now ≤ t → t < deadline → ¬ log.admits t client = true
  wait_eq : ∀ t, now ≤ t → t < deadline → log.wait t client = deadline - t
  room : ∀ t, deadline ≤ t → log.admits t client = true

/-- A call that is no reset leaves the times of a client alone, unless it is a request of the client that is let
through. -/
lemma perform_eq_of_not_admits {log : SlidingLog Time} {client : Text} {t : Time} {call : Call}
    (hreset : call ≠ .reset) (hturned : call.requester? = some client → ¬ log.admits t client = true) :
    (log.perform t call).1.calls = log.calls ∧ (log.perform t call).1.period = log.period ∧
      (log.perform t call).1.times client = log.times client := by
  rcases perform_cases log t call with ⟨h, -⟩ | ⟨other, hother, hroom, -, hlog⟩ | ⟨-, -, hlog⟩
  · exact absurd h hreset
  · have hne : client ≠ other := by
      intro heq
      subst heq
      exact hturned hother hroom
    rw [hlog]
    refine ⟨rfl, rfl, ?_⟩
    unfold record
    dsimp only
    rw [if_neg hne]
  · rw [hlog]
    exact ⟨rfl, rfl, rfl⟩

variable {log log' : SlidingLog Time} {client : Text} {now deadline : Time}

/-- How long a log is full for a client depends on the times of this client alone. -/
theorem FullUntil.congr (h : log.FullUntil client now deadline) (hcalls : log'.calls = log.calls)
    (hperiod : log'.period = log.period) (htimes : log'.times client = log.times client) :
    log'.FullUntil client now deadline := by
  have hlive : ∀ t, log'.live t client = log.live t client := by
    intro t
    unfold live
    rw [hperiod, htimes]
  have hadmits : ∀ t, log'.admits t client = log.admits t client := by
    intro t
    unfold admits
    rw [hlive, hcalls]
  have hwait : ∀ t, log'.wait t client = log.wait t client := by
    intro t
    unfold wait
    rw [hlive, hperiod]
  constructor
  · intro t hnow hbefore
    rw [hadmits]
    exact h.full t hnow hbefore
  · intro t hnow hbefore
    rw [hwait]
    exact h.wait_eq t hnow hbefore
  · intro t hbehind
    rw [hadmits]
    exact h.room t hbehind

/-- One call: a request of the client before the deadline is turned away and not logged. -/
theorem FullUntil.perform (h : log.FullUntil client now deadline) {t : Time} (hnow : now ≤ t) {call : Call}
    (hreset : call ≠ .reset) (hearly : call.requester? = some client → t < deadline) :
    (log.perform t call).1.FullUntil client now deadline := by
  have hturned : call.requester? = some client → ¬ log.admits t client = true := by
    intro hcall
    exact h.full t hnow (hearly hcall)
  obtain ⟨hcalls, hperiod, htimes⟩ := perform_eq_of_not_admits hreset hturned
  exact h.congr hcalls hperiod htimes

/-- Every run without a reset in which the client does not come back behind the deadline. -/
theorem FullUntil.after {run : List (Time × Call)} (h : log.FullUntil client now deadline)
    (hnow : ∀ e ∈ run, now ≤ e.1) (hreset : ∀ e ∈ run, e.2 ≠ .reset)
    (hearly : ∀ e ∈ run, e.2.requester? = some client → e.1 < deadline) :
    (after SlidingLog.perform log run).FullUntil client now deadline := by
  induction run generalizing log with
  | nil => exact h
  | cons entry rest ih =>
    rw [List.forall_mem_cons] at hnow hreset hearly
    exact ih (h.perform hnow.1 hreset.1 hearly.1) hnow.2 hreset.2 hearly.2

/-! ## Full logs -/

variable [IsOrderedAddMonoid Time]

/-- What counts at a later time has counted all along. -/
lemma live_eq_filter_live {t : Time} (hle : now ≤ t) :
    log.live t client = (log.live now client).filter fun s => t - log.period < s := by
  unfold live
  rw [List.filter_filter]
  refine List.filter_congr fun s _ => ?_
  rw [Bool.eq_iff_iff, Bool.and_eq_true, decide_eq_true_eq, decide_eq_true_eq]
  constructor
  · intro hs
    exact ⟨hs, (sub_le_sub_right hle _).trans_lt hs⟩
  · intro hs
    exact hs.1

/-- A time that counts is less than a period old. -/
lemma lt_add_period_of_mem_live {s : Time} (hs : s ∈ log.live now client) : now < s + log.period := by
  have hcounts := of_decide_eq_true (List.mem_filter.mp hs).2
  exact sub_lt_iff_lt_add.mp hcounts

/-- A log with as many times that count as are allowed, the oldest first, is full until the oldest one is a period
old. -/
lemma fullUntil_of_live {oldest : Time} {rest : List Time} (hlive : log.live now client = oldest :: rest)
    (hsorted : (oldest :: rest).Pairwise (· ≤ ·)) (hcount : ((oldest :: rest).length : Int) = log.calls) :
    log.FullUntil client now (oldest + log.period) := by
  -- Until then all times go on to count, since none of them is older.
  have hsame : ∀ t, now ≤ t → t < oldest + log.period → log.live t client = oldest :: rest := by
    intro t hnow hbefore
    rw [live_eq_filter_live hnow, hlive, List.filter_eq_self]
    intro s hs
    have hcounts : t - log.period < oldest := sub_lt_iff_lt_add.mpr hbefore
    have hle : oldest ≤ s := by
      rcases List.mem_cons.mp hs with rfl | hs
      · exact le_rfl
      · exact (List.pairwise_cons.mp hsorted).1 s hs
    exact decide_eq_true (hcounts.trans_le hle)
  constructor
  · intro t hnow hbefore hroom
    have hlt := of_decide_eq_true hroom
    rw [hsame t hnow hbefore] at hlt
    omega
  · intro t hnow hbefore
    unfold wait
    rw [hsame t hnow hbefore, min?_eq_some_of_sorted hsorted, Option.getD_some, sub_sub_eq_add_sub,
      add_comm log.period]
  · intro t hbehind
    have holdest : now < oldest + log.period := lt_add_period_of_mem_live (hlive ▸ List.mem_cons_self ..)
    have hgone : ¬ t - log.period < oldest := not_lt.mpr (le_sub_iff_add_le.mpr hbehind)
    -- The oldest time counts no longer, so one place at least is free.
    have hle : (log.live t client).length ≤ rest.length := by
      rw [live_eq_filter_live (holdest.le.trans hbehind), hlive, List.filter_cons_of_neg (by simpa using hgone)]
      exact List.length_filter_le _ _
    rw [List.length_cons] at hcount
    exact decide_eq_true (by omega)

end SlidingLog

namespace Limiter

variable {Time : Type} [AddCommGroup Time] [LinearOrder Time]

/-- A limiter that turns a request away has as many times that count as are allowed, and the client has to wait until
the oldest of them is a period old. -/
lemma Keeps.exists_oldest_of_full {l : Limiter Time} {log : SlidingLog Time} {now : Time} (h : Keeps l log now)
    {client : Text} (hfull : ¬ log.admits now client = true) :
    ∃ oldest rest, log.live now client = oldest :: rest ∧ (oldest :: rest).Pairwise (· ≤ ·) ∧
      ((oldest :: rest).length : Int) = log.calls := by
  have hge : ¬ ((log.live now client).length : Int) < log.calls := fun hlt => hfull (decide_eq_true hlt)
  have hle := h.live_length_le client
  have hpos := h.calls_pos
  have hcalls := h.calls_eq
  have hsorted := SlidingLog.live_pairwise (h.sorted client) now
  cases hlive : log.live now client with
  | nil =>
    rw [hlive, List.length_nil] at hge
    omega
  | cons oldest rest =>
    rw [hlive] at hge hle hsorted
    exact ⟨oldest, rest, rfl, hsorted, by omega⟩

variable [IsOrderedAddMonoid Time]

/-- A limiter beside a log that is full for a client until a deadline: what requests of the client are answered behind
a run without a reset. -/
lemma tryAcquire_of_fullUntil {l : Limiter Time} {log : SlidingLog Time} {now deadline : Time} {client : Text}
    (h : Keeps l log now) (huntil : log.FullUntil client now deadline) {later : List (Time × Call)} {t : Time}
    (hclock : (now :: (later.map Prod.fst ++ [t])).Pairwise (· ≤ ·)) (hreset : ∀ e ∈ later, e.2 ≠ .reset) :
    (t < deadline → ((after Limiter.perform l later).tryAcquire t client).2 = .limited (deadline - t)) ∧
      (deadline ≤ t → (∀ e ∈ later, e.2.requester? = some client → e.1 < deadline) →
        ((after Limiter.perform l later).tryAcquire t client).2 = .admitted) := by
  have hkeeps := h.after hclock
  rw [List.pairwise_cons, List.pairwise_append] at hclock
  obtain ⟨hnow, -, -, hlast⟩ := hclock
  have hle : now ≤ t := hnow t (by simp)
  have hlater : ∀ e ∈ later, now ≤ e.1 := by
    intro e he
    exact hnow e.1 (List.mem_append_left _ (List.mem_map_of_mem he))
  constructor
  · intro hearly
    have hbefore : ∀ e ∈ later, e.2.requester? = some client → e.1 < deadline := by
      intro e he _
      have hle : e.1 ≤ t := hlast e.1 (List.mem_map_of_mem he) t (List.mem_singleton.mpr rfl)
      exact hle.trans_lt hearly
    have huntil := huntil.after hlater hreset hbefore
    rw [hkeeps.tryAcquire_of_full (huntil.full t hle hearly), huntil.wait_eq t hle hearly]
  · intro hbehind hbefore
    have huntil := huntil.after hlater hreset hbefore
    rw [hkeeps.tryAcquire_of_admits (huntil.room t hbehind)]

/-! ## The announced wait -/

/-- **The wait that is announced is exact.** After any calls, with readings of the clock that never go back, let a
request of a client be turned away. Then it is told to wait for some time, which is positive and no longer than the
period. Whatever comes behind it, but for a reset: a request of the client before that time is over is turned away and
told what is left of it, and the first one behind it is let through. -/
theorem wait_exact {calls : Int} (hcalls : 1 ≤ calls) (period start : Time) (before : List (Time × Call)) (now : Time)
    (client : Text) (hclock : (start :: (before.map Prod.fst ++ [now])).Pairwise (· ≤ ·)) :
    let l := after Limiter.perform (Limiter.new calls period start) before
    (l.tryAcquire now client).2 ≠ .admitted →
      ∃ wait, (l.tryAcquire now client).2 = .limited wait ∧ 0 < wait ∧ wait ≤ period ∧
        ∀ (later : List (Time × Call)) (t : Time), (now :: (later.map Prod.fst ++ [t])).Pairwise (· ≤ ·) →
          (∀ e ∈ later, e.2 ≠ .reset) →
          let l' := after Limiter.perform (l.tryAcquire now client).1 later
          (t < now + wait → (l'.tryAcquire t client).2 = .limited (now + wait - t)) ∧
            (now + wait ≤ t → (∀ e ∈ later, e.2.requester? = some client → e.1 < now + wait) →
              (l'.tryAcquire t client).2 = .admitted) := by
  intro l hturned
  have hkeeps : Keeps l (after SlidingLog.perform (SlidingLog.new calls period) before) now :=
    (Keeps.new hcalls period start).after hclock
  have hperiod : (after SlidingLog.perform (SlidingLog.new calls period) before).period = period :=
    ((SlidingLog.Sparse.new (le_trans (by decide) hcalls) period).after before).period_eq
  generalize after SlidingLog.perform (SlidingLog.new calls period) before = log at hkeeps hperiod
  have hfull : ¬ log.admits now client = true := by
    intro hroom
    exact hturned (by rw [hkeeps.tryAcquire_of_admits hroom])
  obtain ⟨oldest, rest, hlive, hsorted, hcount⟩ := hkeeps.exists_oldest_of_full hfull
  have hmem : oldest ∈ log.live now client := hlive ▸ List.mem_cons_self ..
  have hpast : oldest ≤ now := hkeeps.past client oldest (List.mem_filter.mp hmem).1
  have hcounts := SlidingLog.lt_add_period_of_mem_live hmem
  have huntil := SlidingLog.fullUntil_of_live hlive hsorted hcount
  have hwait := huntil.wait_eq now le_rfl hcounts
  rw [hperiod] at hcounts huntil hwait
  -- The time that the client is told ends when the oldest request is a period old.
  have hdeadline : now + log.wait now client = oldest + period := by rw [hwait, add_sub_cancel]
  refine ⟨log.wait now client, by rw [hkeeps.tryAcquire_of_full hfull], ?_, ?_, ?_⟩
  · rw [hwait]
    exact sub_pos.mpr hcounts
  · rw [hwait, sub_le_iff_le_add, add_comm]
    exact add_le_add_right hpast period
  · intro later t hlater hreset l'
    have hafter : Keeps (l.tryAcquire now client).1 log now := by
      rw [hkeeps.tryAcquire_of_full hfull]
      exact hkeeps.sweep.setWindow_live client
    rw [hdeadline]
    exact tryAcquire_of_fullUntil hafter huntil hlater hreset

/-- What comes behind a request that is turned away: the client tries again and asks what is left, and the request of
another client sweeps. -/
def impatientRun : List (Int × Call) :=
  let a : Text := [.scalar 'a']
  let b : Text := [.scalar 'b']
  [(6, .remaining a), (7, .tryAcquire a), (10, .tryAcquire b), (12, .check a)]

theorem wait_exact_impatientRun :
    let a : Text := [.scalar 'a']
    let l := after Limiter.perform (Limiter.new 2 10 0) [((3 : Int), .tryAcquire a), (4, .check a)]
    let l' := after Limiter.perform (l.tryAcquire 5 a).1 impatientRun
    ((0 : Int) :: [3, 4, 5]).Pairwise (· ≤ ·) ∧ (l.tryAcquire 5 a).2 = .limited 8 ∧
      ((5 : Int) :: (impatientRun.map Prod.fst ++ [12])).Pairwise (· ≤ ·) ∧ (∀ e ∈ impatientRun, e.2 ≠ .reset) ∧
      (l'.tryAcquire 12 a).2 = .limited 1 ∧ (l'.tryAcquire 13 a).2 = .admitted := by
  intro a l l'
  have hanswer : (l.tryAcquire 5 a).2 = .limited 8 := by decide
  have hturned : (l.tryAcquire 5 a).2 ≠ .admitted := by decide
  have hreset : ∀ e ∈ impatientRun, e.2 ≠ .reset := by decide
  obtain ⟨wait, hwait, -, -, hexact⟩ := wait_exact (by decide : (1 : Int) ≤ 2) (10 : Int) 0
    [(3, .tryAcquire a), (4, .check a)] 5 a (by decide) hturned
  obtain rfl : (8 : Int) = wait := Admission.limited.inj (hanswer.symm.trans hwait)
  refine ⟨by decide, hanswer, by decide, hreset, ?_, ?_⟩
  · exact (hexact impatientRun 12 (by decide) hreset).1 (by decide)
  · exact (hexact impatientRun 13 (by decide) hreset).2 (by decide) (by decide)

end Limiter

end ScriptVet
