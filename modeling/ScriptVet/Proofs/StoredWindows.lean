import ScriptVet.Proofs.WindowBound

/-!
# What a limiter stores

A limiter answers anyone, so it has to forget: what it stores must not grow with the clients that ever came. `Stored`
says what a window looks like between two calls, and `Tidy` that all windows look so and no client has two. Requests
make a window before they know that it will hold anything, questions about what is left cut windows down, sweeps and
resets drop them, and each of these leaves a tidy limiter behind (`Tidy.perform`). So does every run (`Tidy.after`).

A window is never stored empty. That is also why a request that is turned away finds an oldest one to wait for.
-/

namespace ScriptVet.Limiter

variable {Time : Type} [AddCommGroup Time] [LinearOrder Time]

/-! ## Windows -/

/-- A window as it is stored, when clients were last dropped at `lastSweep` and the clock was last read at `clock`. -/
structure Stored (calls : Int) (period lastSweep clock : Time) (w : List Time) : Prop where
  ne_nil : w ≠ []
  sorted : w.Pairwise (· ≤ ·)
  length_le : (w.length : Int) ≤ calls
  past : ∀ t ∈ w, t ≤ clock
  recent : ∃ newest, w.getLast? = some newest ∧ lastSweep - period < newest

/-- A window of which all counts at `now`. It may be empty. -/
structure Counting (calls : Int) (period now : Time) (w : List Time) : Prop where
  sorted : w.Pairwise (· ≤ ·)
  length_le : (w.length : Int) ≤ calls
  past : ∀ t ∈ w, t ≤ now
  counts : ∀ t ∈ w, now - period < t

variable {calls : Int} {period lastSweep clock now : Time} {w : List Time}

/-- What is stored stays fine as time passes. -/
theorem Stored.later (h : Stored calls period lastSweep clock w) (hle : clock ≤ now) :
    Stored calls period lastSweep now w :=
  { h with past := fun t ht => (h.past t ht).trans hle }

/-- One more request that counts, when there is room for it. -/
lemma Counting.snoc (h : Counting calls period now w) (hroom : (w.length : Int) < calls)
    (hnow : now - period < now) : Counting calls period now (w ++ [now]) where
  sorted := by
    rw [List.pairwise_append]
    refine ⟨h.sorted, List.pairwise_singleton _ _, ?_⟩
    intro t ht u hu
    rw [List.mem_singleton.mp hu]
    exact h.past t ht
  length_le := by
    rw [List.length_append, List.length_singleton]
    omega
  past := by
    intro t ht
    rcases List.mem_append.mp ht with ht | ht
    · exact h.past t ht
    · exact (List.mem_singleton.mp ht).le
  counts := by
    intro t ht
    rcases List.mem_append.mp ht with ht | ht
    · exact h.counts t ht
    · rwa [List.mem_singleton.mp ht]

/-- What counts now may be stored, unless it is nothing. -/
lemma Counting.stored [IsOrderedAddMonoid Time] (h : Counting calls period now w) (hne : w ≠ [])
    (hle : lastSweep ≤ now) : Stored calls period lastSweep now w where
  ne_nil := hne
  sorted := h.sorted
  length_le := h.length_le
  past := h.past
  recent := by
    refine ⟨w.getLast hne, List.getLast?_eq_some_getLast hne, ?_⟩
    exact (sub_le_sub_right hle _).trans_lt (h.counts _ (List.getLast_mem hne))

/-! ## Limiters -/

/-- No client has two windows, and each of them is as windows are stored. -/
structure Tidy (calls : Int) (period : Time) (l : Limiter Time) (clock : Time) : Prop where
  calls_eq : l.calls = calls
  period_eq : l.period = period
  nodup : l.clients.Nodup
  lastSweep_le : l.lastSweep ≤ clock
  stored : ∀ entry ∈ l.windows, Stored calls period l.lastSweep clock entry.2

namespace Tidy

variable {l : Limiter Time}

/-- A new limiter is tidy. -/
theorem new (calls : Int) (period start : Time) : Tidy calls period (Limiter.new calls period start) start where
  calls_eq := rfl
  period_eq := rfl
  nodup := List.nodup_nil
  lastSweep_le := le_rfl
  stored _ hentry := absurd hentry List.not_mem_nil

lemma later (h : Tidy calls period l clock) (hle : clock ≤ now) : Tidy calls period l now :=
  { h with
    lastSweep_le := h.lastSweep_le.trans hle
    stored := fun entry hentry => (h.stored entry hentry).later hle }

/-- What is left of the window of a client when it is cut down counts, whether or not there is one. -/
lemma expire_counting (h : Tidy calls period l now) (hcalls : 1 ≤ calls) (client : Text) :
    Counting calls period now (l.expire now (l.times client)) := by
  have hkept : (l.times client).Pairwise (· ≤ ·) ∧ ((l.times client).length : Int) ≤ calls ∧
      ∀ t ∈ l.times client, t ≤ now := by
    unfold times
    cases hwindow : l.window? client with
    | none => simpa using le_trans (by omega) hcalls
    | some v =>
      have hstored := h.stored _ (mem_windows_of_window? hwindow)
      exact ⟨hstored.sorted, hstored.length_le, hstored.past⟩
  obtain ⟨hsorted, hlength, hpast⟩ := hkept
  have hsub : (l.expire now (l.times client)).Sublist (l.times client) := List.dropWhile_sublist _
  constructor
  · exact hsorted.sublist hsub
  · have hle := hsub.length_le
    omega
  · intro t ht
    exact hpast t (hsub.subset ht)
  · intro t ht
    unfold expire at ht
    rw [h.period_eq, dropWhile_le_eq_filter_lt hsorted] at ht
    exact of_decide_eq_true (List.mem_filter.mp ht).2

/-- A limiter stays tidy when a fine window is set. -/
theorem setWindow (h : Tidy calls period l clock) (hw : Stored calls period l.lastSweep clock w) (client : Text) :
    Tidy calls period (l.setWindow client w) clock where
  calls_eq := h.calls_eq
  period_eq := h.period_eq
  nodup := clients_setWindow_nodup h.nodup client w
  lastSweep_le := h.lastSweep_le
  stored := by
    intro entry hentry
    rcases mem_put hentry with rfl | hentry
    · exact hw
    · exact h.stored entry hentry

/-- A limiter stays tidy when a client is forgotten. -/
theorem forget (h : Tidy calls period l clock) (client : Text) : Tidy calls period (l.forget client) clock where
  calls_eq := h.calls_eq
  period_eq := h.period_eq
  nodup := clients_forget_nodup h.nodup client
  lastSweep_le := h.lastSweep_le
  stored entry hentry := h.stored entry (List.mem_of_mem_filter hentry)

lemma reset (h : Tidy calls period l clock) : Tidy calls period l.reset clock where
  calls_eq := h.calls_eq
  period_eq := h.period_eq
  nodup := List.nodup_nil
  lastSweep_le := h.lastSweep_le
  stored _ hentry := absurd hentry List.not_mem_nil

/-- A sweep makes the bound on the newest requests move on: it drops the windows that are behind the new one. -/
theorem sweep (h : Tidy calls period l now) : Tidy calls period (l.sweep now) now := by
  unfold Limiter.sweep
  split
  · exact h
  · refine ⟨h.calls_eq, h.period_eq, h.nodup.sublist (List.filter_sublist.map _), le_rfl, ?_⟩
    intro entry hentry
    obtain ⟨hmem, hfresh⟩ := List.mem_filter.mp hentry
    have hstored := h.stored entry hmem
    obtain ⟨newest, hlast, -⟩ := hstored.recent
    refine { hstored with recent := ⟨newest, hlast, ?_⟩ }
    have hnot : ¬ newest ≤ now - period := by
      simpa [isStale, hlast, h.period_eq] using hfresh
    exact not_le.mp hnot

end Tidy

/-! ## One call -/

section Step

variable {l : Limiter Time} {client : Text}

/-- A request that is turned away stores what counts, and a request that is let through is stored with it. A request
is weighed after a sweep, which may have moved the bound on the newest requests. -/
theorem Tidy.tryAcquire [IsOrderedAddMonoid Time] (h : Tidy calls period l now) (hcalls : 1 ≤ calls)
    (hperiod : 0 < period) (client : Text) :
    Tidy calls period (l.tryAcquire now client).1 now ∧ (l.tryAcquire now client).2 ≠ .closed := by
  have hswept := h.sweep
  have hcounting : Counting calls period now ((l.sweep now).expire now (((l.sweep now).window? client).getD [])) :=
    hswept.expire_counting hcalls client
  unfold Limiter.tryAcquire
  dsimp only
  generalize (l.sweep now).expire now (((l.sweep now).window? client).getD []) = w at hcounting
  split
  · next hfull =>
    rw [hswept.calls_eq] at hfull
    cases w with
    | nil =>
      -- A full window is not empty, since at least one call is allowed.
      rw [List.length_nil] at hfull
      omega
    | cons oldest rest =>
      have hstored := hcounting.stored (List.cons_ne_nil _ _) hswept.lastSweep_le
      exact ⟨hswept.setWindow hstored client, by simp⟩
  · next hroom =>
    rw [hswept.calls_eq, not_le] at hroom
    have hnew := hcounting.snoc hroom (sub_lt_self now hperiod)
    have hstored := hnew.stored (List.append_ne_nil_of_right_ne_nil _ (List.cons_ne_nil _ _)) hswept.lastSweep_le
    exact ⟨hswept.setWindow hstored client, by simp⟩

private lemma check_fst (l : Limiter Time) (now : Time) (client : Text) :
    (l.check now client).1 = (l.tryAcquire now client).1 := by
  unfold check
  split <;> next h => rw [h]

/-- Behind a request less than a period has passed since the last sweep. -/
lemma sub_lastSweep_perform_lt (hperiod : 0 < l.period) (now : Time) {call : Call}
    (hrequest : call.requester?.isSome = true) : now - (l.perform now call).1.lastSweep < l.period := by
  have hsweep : now - (l.sweep now).lastSweep < l.period := by
    unfold sweep
    split
    · next h => exact h
    · rwa [sub_self]
  have hacquire : ∀ client, (l.tryAcquire now client).1.lastSweep = (l.sweep now).lastSweep := by
    intro client
    unfold Limiter.tryAcquire
    dsimp only
    split
    · split <;> rfl
    · rfl
  cases call with
  | tryAcquire client => exact (hacquire client).symm ▸ hsweep
  | check client =>
    unfold Limiter.perform
    dsimp only
    rw [check_fst, hacquire]
    exact hsweep
  | remaining client => cases hrequest
  | reset => cases hrequest

/-- A question about what is left stores what counts, or nothing at all. -/
theorem Tidy.remaining [IsOrderedAddMonoid Time] (h : Tidy calls period l now) (hcalls : 1 ≤ calls) (client : Text) :
    Tidy calls period (l.remaining now client).1 now := by
  have hcounting := h.expire_counting hcalls client
  unfold Limiter.remaining
  unfold times at hcounting
  cases hwindow : l.window? client with
  | none => exact h
  | some v =>
    rw [hwindow, Option.getD_some] at hcounting
    dsimp only
    cases hw : l.expire now v with
    | nil => exact h.forget client
    | cons oldest rest =>
      rw [hw] at hcounting
      exact h.setWindow (hcounting.stored (List.cons_ne_nil _ _) h.lastSweep_le) client

end Step

/-! ## Every run -/

/-- The call reads the clock. It is not read to forget everything, nor to say what is left to a client that has no
window. -/
def readsClock (l : Limiter Time) : Call → Bool
  | .tryAcquire _ => true
  | .check _ => true
  | .remaining client => (l.window? client).isSome
  | .reset => false

/-- The latest reading of the clock in a run, where `clock` is the latest one before it. -/
def latestReading (l : Limiter Time) (clock : Time) : List (Time × Call) → Time
  | [] => clock
  | (now, call) :: rest =>
    latestReading (l.perform now call).1 (if l.readsClock call then now else clock) rest

/-- The answer asks for the oldest request of a window that is empty. -/
def Outcome.isClosed : Outcome Time → Bool
  | admission .closed => true
  | checked (.error .closed) => true
  | _ => false

section Run

variable [IsOrderedAddMonoid Time] {l : Limiter Time}

/-- One call. -/
theorem Tidy.perform (h : Tidy calls period l clock) (hcalls : 1 ≤ calls) (hperiod : 0 < period) (hle : clock ≤ now)
    (call : Call) :
    Tidy calls period (l.perform now call).1 (if l.readsClock call then now else clock) ∧
      (l.perform now call).2.isClosed = false := by
  cases call with
  | tryAcquire client =>
    obtain ⟨htidy, hopen⟩ := (h.later hle).tryAcquire hcalls hperiod client
    refine ⟨htidy, ?_⟩
    unfold Limiter.perform
    dsimp only
    cases hanswer : (l.tryAcquire now client).2 with
    | admitted => rfl
    | limited wait => rfl
    | closed => exact absurd hanswer hopen
  | check client =>
    obtain ⟨htidy, hopen⟩ := (h.later hle).tryAcquire hcalls hperiod client
    unfold Limiter.perform
    dsimp only
    constructor
    · rw [check_fst]
      exact htidy
    · unfold check
      split
      · rfl
      · rfl
      · next hanswer => exact absurd (by rw [hanswer]) hopen
  | remaining client =>
    refine ⟨?_, rfl⟩
    unfold Limiter.perform readsClock
    dsimp only
    split
    · exact (h.later hle).remaining hcalls client
    · next hnone =>
      -- Nothing is stored for the client, so the answer needs no clock and changes nothing.
      rw [Option.not_isSome_iff_eq_none] at hnone
      unfold Limiter.remaining
      rw [hnone]
      exact h
  | reset => exact ⟨h.reset, rfl⟩

/-- Every run, with readings of the clock that never go back. -/
theorem Tidy.after {run : List (Time × Call)} (h : Tidy calls period l clock) (hcalls : 1 ≤ calls)
    (hperiod : 0 < period) (hclock : (clock :: run.map Prod.fst).Pairwise (· ≤ ·)) :
    Tidy calls period (after Limiter.perform l run) (latestReading l clock run) ∧
      ∀ o ∈ answers Limiter.perform l run, o.isClosed = false := by
  induction run generalizing l clock with
  | nil => exact ⟨h, by simp [answers]⟩
  | cons entry rest ih =>
    obtain ⟨now, call⟩ := entry
    rw [List.map_cons, List.pairwise_cons] at hclock
    obtain ⟨hlater, hrest⟩ := hclock
    have hle : clock ≤ now := hlater now (List.mem_cons_self ..)
    have hnext : ((if l.readsClock call then now else clock) :: rest.map Prod.fst).Pairwise (· ≤ ·) := by
      split
      · exact hrest
      · refine List.pairwise_cons.mpr ⟨?_, (List.pairwise_cons.mp hrest).2⟩
        intro t ht
        exact hlater t (List.mem_cons_of_mem _ ht)
    obtain ⟨htidy, hopen⟩ := h.perform hcalls hperiod hle call
    obtain ⟨hafter, hopens⟩ := ih htidy hnext
    exact ⟨hafter, List.forall_mem_cons.mpr ⟨hopen, hopens⟩⟩

end Run

section Bound

variable [IsOrderedAddMonoid Time]

/-- What is stored for a client was let through in the run. -/
lemma mem_admittedTimes_of_stored (hcalls : 1 ≤ calls) {start : Time} {run : List (Time × Call)}
    (hclock : (start :: (run.map Prod.fst ++ [now])).Pairwise (· ≤ ·)) {client : Text}
    (hstored : (client, w) ∈ (after Limiter.perform (Limiter.new calls period start) run).windows) {t : Time}
    (ht : t ∈ w) :
    t ∈ admittedTimes client run (answers Limiter.perform (Limiter.new calls period start) run) := by
  have hstart : Keeps (Limiter.new calls period start) (SlidingLog.new calls period) start :=
    Keeps.new hcalls period start
  have hkeeps := hstart.after hclock
  have hanswers : answers Limiter.perform (Limiter.new calls period start) run =
      answers SlidingLog.perform (SlidingLog.new calls period) run :=
    hstart.answers_eq (hclock.sublist (List.Sublist.cons_cons _ (List.sublist_append_left _ _)))
  -- The window is the end of the log, and the log is the end of what was let through.
  obtain ⟨old, hlog, -⟩ := hkeeps.dropped client
  obtain ⟨dropped, hadmitted, -⟩ := (SlidingLog.new calls period).times_after run client
  have hnew : (SlidingLog.new calls period).times client = [] := rfl
  rw [hnew, List.nil_append] at hadmitted
  rw [hanswers, hadmitted, hlog, times_of_mem_windows hkeeps.nodup hstored]
  exact List.mem_append_right _ (List.mem_append_right _ ht)

/-- **What a limiter stores stays small.** In every run, with readings of the clock that never go back: no client has
two windows, and each window is in order, with one request at least and no more than are allowed, none of them later
than the latest reading of the clock and the newest one less than a period older than the last sweep. Right behind a
request the last sweep is less than a period ago, so every client that is still stored had a request let through in the
last two periods. And no request that is turned away finds its window empty. -/
theorem windows_stay_small (hcalls : 1 ≤ calls) (hperiod : 0 < period) (start : Time) (run : List (Time × Call))
    (hclock : (start :: run.map Prod.fst).Pairwise (· ≤ ·)) :
    let fresh := Limiter.new calls period start
    let l := after Limiter.perform fresh run
    l.clients.Nodup ∧
      (∀ c w, (c, w) ∈ l.windows → Stored calls period l.lastSweep (latestReading fresh start run) w) ∧
      (∀ before now call, run = before ++ [(now, call)] → call.requester?.isSome = true →
        now - l.lastSweep < period ∧
          ∀ c w, (c, w) ∈ l.windows →
            ∃ t ∈ admittedTimes c run (answers Limiter.perform fresh run), now - 2 • period < t) ∧
      ∀ o ∈ answers Limiter.perform fresh run, o.isClosed = false := by
  intro fresh l
  obtain ⟨htidy, hopen⟩ := (Tidy.new calls period start).after hcalls hperiod hclock
  refine ⟨htidy.nodup, fun c w hw => htidy.stored _ hw, ?_, hopen⟩
  intro before now call hrun hrequest
  subst hrun
  rw [List.map_append, List.map_singleton, ← List.cons_append] at hclock
  have hswept : now - l.lastSweep < period := by
    have hbefore := ((Tidy.new calls period start).after hcalls hperiod (List.pairwise_append.mp hclock).1).1
    have hstate : l = ((after Limiter.perform fresh before).perform now call).1 := after_append ..
    have hlt := sub_lastSweep_perform_lt (hbefore.period_eq.symm ▸ hperiod) now hrequest
    rw [hbefore.period_eq] at hlt
    rwa [hstate]
  refine ⟨hswept, fun c w hw => ?_⟩
  obtain ⟨newest, hlast, hrecent⟩ := (htidy.stored _ hw).recent
  have hlonger : (start :: ((before ++ [(now, call)]).map Prod.fst ++ [now])).Pairwise (· ≤ ·) := by
    rw [List.map_append, List.map_singleton, ← List.cons_append]
    exact pairwise_le_append_last hclock
  refine ⟨newest, mem_admittedTimes_of_stored hcalls hlonger hw (List.mem_of_getLast? hlast), ?_⟩
  calc now - 2 • period = now - period - period := by rw [two_nsmul, sub_sub]
    _ < l.lastSweep - period := sub_lt_sub_right (sub_lt_comm.mp hswept) period
    _ < newest := hrecent

end Bound

/-- A run in which one client is swept away by the request of another one, and a third one stays behind. -/
def sweptRun : List (Int × Call) :=
  let a : Text := [.scalar 'a']
  let b : Text := [.scalar 'b']
  let c : Text := [.scalar 'c']
  [(0, .tryAcquire a), (4, .check a), (5, .tryAcquire a), (6, .remaining b), (9, .tryAcquire b), (15, .tryAcquire c),
    (16, .remaining a), (18, .check c)]

theorem windows_stay_small_sweptRun :
    let b : Text := [.scalar 'b']
    let c : Text := [.scalar 'c']
    let fresh := Limiter.new 2 (10 : Int) 0
    let l := after Limiter.perform fresh sweptRun
    ((0 : Int) :: sweptRun.map Prod.fst).Pairwise (· ≤ ·) ∧ l.windows = [(b, [9]), (c, [15, 18])] ∧
      Stored 2 (10 : Int) 15 18 [9] ∧ 18 - l.lastSweep < 10 ∧
      (∃ t ∈ admittedTimes b sweptRun (answers Limiter.perform fresh sweptRun), 18 - 2 • 10 < t) ∧
      ∀ o ∈ answers Limiter.perform fresh sweptRun, o.isClosed = false := by
  intro b c fresh l
  have hclock : ((0 : Int) :: sweptRun.map Prod.fst).Pairwise (· ≤ ·) := by decide
  have hwindows : l.windows = [(b, [9]), (c, [15, 18])] := by decide
  have hstored : (b, [9]) ∈ l.windows := by
    rw [hwindows]
    exact List.mem_cons_self ..
  obtain ⟨-, hsmall, hbound, hopen⟩ :=
    windows_stay_small (by decide : (1 : Int) ≤ 2) (by decide : (0 : Int) < 10) 0 sweptRun hclock
  obtain ⟨hswept, hrecent⟩ := hbound (sweptRun.take 7) 18 (.check c) (by decide) rfl
  exact ⟨hclock, hwindows, hsmall b [9] hstored, hswept, hrecent b [9] hstored, hopen⟩

end ScriptVet.Limiter
