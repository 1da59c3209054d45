import Mathlib.Algebra.Order.Group.Defs
import Mathlib.Data.List.Nodup
import ScriptVet.Limiter

/-!
# Runs of a limiter

What a limiter does is seen in its answers to a run: a list of calls, each with the reading of the clock that it
was made at. Two things live here:

* `Call`, `Outcome` and `answers`, which say what a run is and what is answered, for a limiter (`Limiter.perform`) and
  for anything else that takes the same calls. `answers_eq_of_simulation` is the one induction over runs;
* the windows of a limiter as a map: `Limiter.times` is the window of a client, empty when there is none, and one
  lemma for each operation says how it changes.
-/

namespace ScriptVet.Limiter

variable {Time : Type}

/-- A call of a limiter. -/
inductive Call where
  | tryAcquire (client : Text)
  | check (client : Text)
  | remaining (client : Text)
  | reset
  deriving DecidableEq

/-- What is answered to a call. -/
inductive Outcome (Time : Type) where
  | admission (a : Admission Time)
  | checked (r : Except (LimitError Time) Unit)
  | remaining (n : Int)
  | done
  deriving DecidableEq

/-- The answers to a run of calls, where `step` performs one call at a reading of the clock. -/
def answers {State : Type} (step : State → Time → Call → State × Outcome Time) :
    State → List (Time × Call) → List (Outcome Time)
  | _, [] => []
  | s, (now, call) :: rest => (step s now call).2 :: answers step (step s now call).1 rest

/-- Two machines give the same answers to a run when a relation between their states, which may depend on
the clock, makes the next answers equal and is kept by every call. -/
theorem answers_eq_of_simulation [LinearOrder Time] {S T : Type} {f : S → Time → Call → S × Outcome Time}
    {g : T → Time → Call → T × Outcome Time} (R : S → T → Time → Prop)
    (hstep : ∀ s t clock now call, R s t clock → clock ≤ now →
      (f s now call).2 = (g t now call).2 ∧ R (f s now call).1 (g t now call).1 now)
    (run : List (Time × Call)) :
    ∀ s t clock, R s t clock → (clock :: run.map Prod.fst).Pairwise (· ≤ ·) →
      answers f s run = answers g t run := by
  induction run with
  | nil => intro s t clock _ _; rfl
  | cons entry rest ih =>
    obtain ⟨now, call⟩ := entry
    intro s t clock hR hclock
    rw [List.map_cons, List.pairwise_cons] at hclock
    have hle : clock ≤ now := hclock.1 now (by simp)
    obtain ⟨houtcome, hnext⟩ := hstep s t clock now call hR hle
    simp only [answers]
    rw [houtcome, ih _ _ now hnext hclock.2]

/-! ## Windows as a map -/

/-- The times kept for a client. A client without a window has none. -/
def times (l : Limiter Time) (client : Text) : List Time := (l.window? client).getD []

/-- The clients that have a window. -/
def clients (l : Limiter Time) : List Text := l.windows.map Prod.fst

/-- Setting the window of a client leaves those of others. -/
lemma window?_setWindow (l : Limiter Time) (client c : Text) (w : List Time) :
    (l.setWindow client w).window? c = if c = client then some w else l.window? c := by
  unfold setWindow window?
  induction l.windows with
  | nil => by_cases h : c = client <;> simp [put, h, eq_comm]
  | cons entry rest ih =>
    obtain ⟨k, v⟩ := entry
    simp only [put]
    by_cases hk : k = client
    · by_cases hc : c = client <;> simp_all [eq_comm]
    · by_cases hkc : k = c
      · subst hkc; simp [hk]
      · simpa [hk, hkc] using ih

/-- Forgetting a client leaves the windows of others. -/
lemma window?_forget (l : Limiter Time) (client c : Text) :
    (l.forget client).window? c = if c = client then none else l.window? c := by
  unfold forget window?
  induction l.windows with
  | nil => simp
  | cons entry rest ih =>
    obtain ⟨k, v⟩ := entry
    by_cases hk : k = client <;> by_cases hc : c = client <;> by_cases hkc : k = c <;> simp_all

lemma mem_put {client : Text} {w : List Time} {ws : List (Text × List Time)} {entry : Text × List Time}
    (h : entry ∈ put client w ws) : entry = (client, w) ∨ entry ∈ ws := by
  induction ws with
  | nil => exact Or.inl (List.mem_singleton.mp h)
  | cons first rest ih =>
    obtain ⟨c, v⟩ := first
    rw [put] at h
    split at h
    · next hc =>
      rcases List.mem_cons.mp h with h | h
      · exact Or.inl (by rw [h, hc])
      · exact Or.inr (List.mem_cons_of_mem _ h)
    · rcases List.mem_cons.mp h with h | h
      · exact Or.inr (h ▸ List.mem_cons_self ..)
      · exact (ih h).imp id (List.mem_cons_of_mem _)

lemma mem_windows_of_window? {l : Limiter Time} {client : Text} {w : List Time} (h : l.window? client = some w) :
    (client, w) ∈ l.windows := by
  obtain ⟨⟨c, v⟩, hfind, rfl⟩ := Option.map_eq_some_iff.mp h
  obtain rfl : c = client := by simpa using List.find?_some hfind
  exact List.mem_of_find?_eq_some hfind

/-- When no client has two windows, a window that is stored for a client is the one that is found. -/
theorem times_of_mem_windows {l : Limiter Time} (hnodup : l.clients.Nodup) {client : Text} {w : List Time}
    (h : (client, w) ∈ l.windows) : l.times client = w := by
  unfold clients at hnodup
  unfold times window?
  generalize l.windows = ws at hnodup h
  induction ws with
  | nil => cases h
  | cons first rest ih =>
    obtain ⟨c, v⟩ := first
    rw [List.map_cons, List.nodup_cons] at hnodup
    rcases List.mem_cons.mp h with heq | h
    · obtain ⟨rfl, rfl⟩ := Prod.mk.inj heq
      simp
    · have hmem : client ∈ rest.map Prod.fst := List.mem_map.mpr ⟨_, h, rfl⟩
      have hne : c ≠ client := by
        intro heq
        subst heq
        exact hnodup.1 hmem
      simpa [hne] using ih hnodup.2 h

/-- The times of other clients stay when a window is set. -/
@[simp] theorem times_setWindow (l : Limiter Time) (client c : Text) (w : List Time) :
    (l.setWindow client w).times c = if c = client then w else l.times c := by
  unfold times
  rw [window?_setWindow]
  split <;> rfl

@[simp] lemma times_forget (l : Limiter Time) (client c : Text) :
    (l.forget client).times c = if c = client then [] else l.times c := by
  unfold times
  rw [window?_forget]
  split <;> rfl

/-- Giving a client a window does not give it two. -/
theorem clients_setWindow_nodup {l : Limiter Time} (h : l.clients.Nodup) (client : Text) (w : List Time) :
    (l.setWindow client w).clients.Nodup := by
  have hput : ∀ ws : List (Text × List Time), (ws.map Prod.fst).Nodup →
      ((put client w ws).map Prod.fst).Nodup ∧
        ∀ c ∈ (put client w ws).map Prod.fst, c = client ∨ c ∈ ws.map Prod.fst := by
    intro ws
    induction ws with
    | nil => intro _; simp [put]
    | cons entry rest ih =>
      obtain ⟨k, v⟩ := entry
      intro hnodup
      rw [List.map_cons, List.nodup_cons] at hnodup
      obtain ⟨hrest, hmem⟩ := ih hnodup.2
      by_cases hk : k = client
      · simp only [put, if_pos hk, List.map_cons]
        exact ⟨List.nodup_cons.mpr hnodup, fun c hc => Or.inr hc⟩
      · simp only [put, if_neg hk, List.map_cons]
        refine ⟨List.nodup_cons.mpr ⟨fun hin => ?_, hrest⟩, fun c hc => ?_⟩
        · rcases hmem k hin with h' | h'
          · exact hk h'
          · exact hnodup.1 h'
        · rcases List.mem_cons.mp hc with rfl | hc
          · exact Or.inr (List.mem_cons_self ..)
          · exact (hmem c hc).imp id (List.mem_cons_of_mem _)
  exact (hput l.windows h).1

/-- Forgetting a client lists none twice. -/
theorem clients_forget_nodup {l : Limiter Time} (h : l.clients.Nodup) (client : Text) :
    (l.forget client).clients.Nodup :=
  h.sublist (List.filter_sublist.map _)

/-- Searching what is left of the windows finds a client's own window or nothing: no client has a second
window that could come to light when the first one is dropped. -/
lemma find?_filter_of_nodup {ws : List (Text × List Time)} (hnodup : (ws.map Prod.fst).Nodup)
    (keep : List Time → Bool) (c : Text) :
    (ws.filter fun p => keep p.2).find? (fun p => p.1 = c) =
      (ws.find? fun p => p.1 = c).filter fun p => keep p.2 := by
  induction ws with
  | nil => rfl
  | cons entry rest ih =>
    rw [List.map_cons, List.nodup_cons] at hnodup
    have ih := ih hnodup.2
    by_cases hc : entry.1 = c
    · have hlater : (rest.filter fun p => keep p.2).find? (fun p => p.1 = c) = none := by
        rw [List.find?_eq_none]
        intro p hp
        have hmem : p.1 ∈ rest.map Prod.fst := List.mem_map_of_mem (List.mem_of_mem_filter hp)
        simp only [decide_eq_true_eq]
        intro heq
        exact hnodup.1 (hc ▸ heq ▸ hmem)
      by_cases hk : keep entry.2
      · simp [hc, hk, Option.filter_some]
      · rw [List.filter_cons_of_neg (by simpa using hk), hlater]
        simp [hc, hk, Option.filter_some]
    · by_cases hk : keep entry.2 <;> simp [hc, hk] at ih ⊢ <;> exact ih

section Sweep

variable [Sub Time] [LE Time] [LT Time] [DecidableLE Time] [DecidableLT Time]

@[simp] lemma sweep_calls (l : Limiter Time) (now : Time) : (l.sweep now).calls = l.calls := by
  unfold sweep; split <;> rfl

@[simp] lemma sweep_period (l : Limiter Time) (now : Time) : (l.sweep now).period = l.period := by
  unfold sweep; split <;> rfl

/-- Sweeping lists no client twice. -/
theorem clients_sweep_nodup {l : Limiter Time} (h : l.clients.Nodup) (now : Time) :
    (l.sweep now).clients.Nodup := by
  unfold sweep
  split
  · exact h
  · exact h.sublist (List.filter_sublist.map _)

/-- A sweep drops the window of a client only when it is stale. -/
theorem times_sweep {l : Limiter Time} (h : l.clients.Nodup) (now : Time) (c : Text) :
    (l.sweep now).times c = l.times c ∨
      ((l.sweep now).times c = [] ∧ l.isStale now (l.times c) = true) := by
  unfold sweep
  split
  · exact Or.inl rfl
  · unfold times window?
    dsimp only
    rw [find?_filter_of_nodup h (fun w => !l.isStale now w)]
    cases hfind : l.windows.find? fun p => p.1 = c with
    | none => exact Or.inl rfl
    | some entry =>
      cases hs : l.isStale now entry.2 with
      | false => exact Or.inl (by simp [hs, Option.filter_some])
      | true => exact Or.inr (by simp [hs, Option.filter_some])

/-- A limit that has seen no request yet lets the first one through. -/
theorem check_new {calls : Int} (hcalls : 1 ≤ calls) (period started now : Time) (client : Text) :
    ((new calls period started).check now client).2 = .ok () := by
  have hwindows : ((new calls period started).sweep now).windows = [] := by
    unfold sweep
    split <;> rfl
  have hwindow : ((new calls period started).sweep now).window? client = none := by
    unfold window?
    rw [hwindows]
    rfl
  have hopen : ¬ (new calls period started).calls ≤ (0 : Nat) := by
    show ¬ calls ≤ 0
    omega
  unfold check tryAcquire
  simp only [hwindow, Option.getD_none, expire, List.dropWhile_nil, List.length_nil, sweep_calls, if_neg hopen]

/-- A check does not change how many calls a client has. -/
theorem check_calls (l : Limiter Time) (now : Time) (client : Text) : (l.check now client).1.calls = l.calls := by
  have hacquire : (l.tryAcquire now client).1.calls = l.calls := by
    unfold tryAcquire
    dsimp only
    split
    · split <;> exact sweep_calls l now
    · exact sweep_calls l now
  unfold check
  split <;> next hresult => rw [← hacquire, hresult]

end Sweep

/-! ## The machine -/

/-- Performs a call. -/
def perform [Sub Time] [LE Time] [LT Time] [DecidableLE Time] [DecidableLT Time] (l : Limiter Time)
    (now : Time) : Call → Limiter Time × Outcome Time
  | .tryAcquire client => ((l.tryAcquire now client).1, .admission (l.tryAcquire now client).2)
  | .check client => ((l.check now client).1, .checked (l.check now client).2)
  | .remaining client => ((l.remaining now client).1, .remaining (l.remaining now client).2)
  | .reset => (l.reset, .done)

end ScriptVet.Limiter
