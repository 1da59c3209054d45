import Mathlib.Data.List.Forall2

/-!
# Steps that may fail

When a chain of steps in `Except` succeeds, and when a step applied along a list does. The proofs on analyses
open their definitions with these and never by unfolding `bind`.
-/

namespace ScriptVet.Steps

variable {ε α β : Type}

/-- Two steps succeed when the first does and the second does with its value. -/
theorem bind_eq_ok_iff {x : Except ε α} {f : α → Except ε β} {b : β} :
    (x >>= f) = .ok b ↔ ∃ a, x = .ok a ∧ f a = .ok b := by
  cases x with
  | error e => exact iff_of_false (fun h => by cases h) (by simp)
  | ok a =>
    constructor
    · intro h
      exact ⟨a, rfl, h⟩
    · rintro ⟨a', ha, h⟩
      cases ha
      exact h

/-- Two steps fail when the first does, or when the second does with the value of the first. -/
theorem bind_eq_error_iff {x : Except ε α} {f : α → Except ε β} {e : ε} :
    (x >>= f) = .error e ↔ x = .error e ∨ ∃ a, x = .ok a ∧ f a = .error e := by
  cases x with
  | error e' =>
    constructor
    · intro h
      cases h
      exact Or.inl rfl
    · rintro (h | ⟨a, ha, -⟩)
      · cases h; rfl
      · cases ha
  | ok a =>
    constructor
    · intro h
      exact Or.inr ⟨a, rfl, h⟩
    · rintro (h | ⟨a', ha, h⟩)
      · cases h
      · cases ha; exact h

lemma pure_eq_ok_iff {a b : α} : (pure a : Except ε α) = .ok b ↔ a = b := by
  show Except.ok a = Except.ok b ↔ a = b
  rw [Except.ok.injEq]

lemma mapError_eq_ok_iff {ε' : Type} {x : Except ε α} {f : ε → ε'} {a : α} :
    x.mapError f = .ok a ↔ x = .ok a := by
  cases x with
  | error e => exact iff_of_false (fun h => by cases h) (fun h => by cases h)
  | ok b =>
    show Except.ok b = Except.ok a ↔ Except.ok b = Except.ok a
    simp

lemma mapError_eq_error_iff {ε' : Type} {x : Except ε α} {f : ε → ε'} {e' : ε'} :
    x.mapError f = .error e' ↔ ∃ e, x = .error e ∧ f e = e' := by
  cases x with
  | error e =>
    show Except.error (f e) = Except.error e' ↔ _
    simp
  | ok a => exact iff_of_false (fun h => by cases h) (by simp)

/-- A step applied along a list succeeds when it does on every item. -/
theorem mapM_eq_ok_iff {f : α → Except ε β} {xs : List α} {ys : List β} :
    xs.mapM f = .ok ys ↔ List.Forall₂ (fun x y => f x = .ok y) xs ys := by
  induction xs generalizing ys with
  | nil =>
    rw [List.mapM_nil, pure_eq_ok_iff, List.forall₂_nil_left_iff]
    exact eq_comm
  | cons x xs ih =>
    rw [List.mapM_cons, bind_eq_ok_iff, List.forall₂_cons_left_iff]
    constructor
    · rintro ⟨y, hy, h⟩
      obtain ⟨zs, hzs, h⟩ := bind_eq_ok_iff.mp h
      exact ⟨y, zs, hy, ih.mp hzs, (pure_eq_ok_iff.mp h).symm⟩
    · rintro ⟨y, zs, hy, hzs, rfl⟩
      exact ⟨y, hy, bind_eq_ok_iff.mpr ⟨zs, ih.mpr hzs, rfl⟩⟩

/-- A step succeeds for a whole list when it does for each item. -/
theorem exists_mapM_eq_ok_iff {f : α → Except ε β} {xs : List α} :
    (∃ ys, xs.mapM f = .ok ys) ↔ ∀ x ∈ xs, ∃ y, f x = .ok y := by
  induction xs with
  | nil => exact iff_of_true ⟨[], rfl⟩ (by simp)
  | cons x xs ih =>
    rw [List.forall_mem_cons, ← ih]
    constructor
    · rintro ⟨ys, hys⟩
      obtain ⟨y, zs, hy, hzs, -⟩ := List.forall₂_cons_left_iff.mp (mapM_eq_ok_iff.mp hys)
      exact ⟨⟨y, hy⟩, zs, mapM_eq_ok_iff.mpr hzs⟩
    · rintro ⟨⟨y, hy⟩, zs, hzs⟩
      exact ⟨y :: zs, mapM_eq_ok_iff.mpr (List.Forall₂.cons hy (mapM_eq_ok_iff.mp hzs))⟩

/-- What a step makes of a list comes from its items. -/
theorem mem_of_mapM_eq_ok {f : α → Except ε β} {xs : List α} {ys : List β} (h : xs.mapM f = .ok ys) {y : β} :
    y ∈ ys ↔ ∃ x ∈ xs, f x = .ok y := by
  rw [mapM_eq_ok_iff] at h
  induction h with
  | nil => simp
  | cons hxy _ ih =>
    rw [List.mem_cons, ih]
    constructor
    · rintro (rfl | ⟨x', hx', hy⟩)
      · exact ⟨_, List.mem_cons_self .., hxy⟩
      · exact ⟨x', List.mem_cons_of_mem _ hx', hy⟩
    · rintro ⟨x', hx', hy⟩
      rcases List.mem_cons.mp hx' with rfl | hx'
      · rw [hxy] at hy
        exact Or.inl (Except.ok.inj hy).symm
      · exact Or.inr ⟨x', hx', hy⟩

/-! ## The first failure -/

section FirstFailure

variable {γ δ : Type} {f : α → Except ε β} {x : α} {xs ys : List α} {e : ε}

/-- The first item of a list on which a step fails, fails with this error. -/
def FirstFailure (f : α → Except ε β) (xs : List α) (e : ε) : Prop :=
  ∃ before x after, xs = before ++ x :: after ∧ (∀ y ∈ before, ∃ b, f y = .ok b) ∧ f x = .error e

lemma not_firstFailure_nil : ¬ FirstFailure f [] e := by
  rintro ⟨before, x, after, h, -, -⟩
  exact List.append_ne_nil_of_right_ne_nil _ (List.cons_ne_nil _ _) h.symm

/-- The first failure of a list is that of its head, or that of its tail behind a head that succeeds. -/
theorem firstFailure_cons_iff :
    FirstFailure f (x :: xs) e ↔ f x = .error e ∨ (∃ b, f x = .ok b) ∧ FirstFailure f xs e := by
  constructor
  · rintro ⟨before, y, after, hxs, hbefore, hy⟩
    cases before with
    | nil =>
      obtain ⟨rfl, rfl⟩ := List.cons.inj hxs
      exact Or.inl hy
    | cons z before =>
      obtain ⟨rfl, rfl⟩ := List.cons.inj hxs
      rw [List.forall_mem_cons] at hbefore
      exact Or.inr ⟨hbefore.1, before, y, after, rfl, hbefore.2, hy⟩
  · rintro (hx | ⟨hx, before, y, after, rfl, hbefore, hy⟩)
    · exact ⟨[], x, xs, rfl, by simp, hx⟩
    · exact ⟨x :: before, y, after, rfl, List.forall_mem_cons.mpr ⟨hx, hbefore⟩, hy⟩

/-- The first failure of two lists is in the first, or in the second behind a first that succeeds. -/
lemma firstFailure_append_iff :
    FirstFailure f (xs ++ ys) e ↔
      FirstFailure f xs e ∨ (∀ x ∈ xs, ∃ b, f x = .ok b) ∧ FirstFailure f ys e := by
  induction xs with
  | nil => simp [not_firstFailure_nil]
  | cons x xs ih =>
    rw [List.cons_append, firstFailure_cons_iff, firstFailure_cons_iff, ih, List.forall_mem_cons]
    tauto

/-- There is a first failure unless the step succeeds on every item. -/
theorem exists_firstFailure_iff : (∃ e, FirstFailure f xs e) ↔ ¬ ∀ x ∈ xs, ∃ b, f x = .ok b := by
  induction xs with
  | nil => simp [not_firstFailure_nil]
  | cons x xs ih =>
    simp only [firstFailure_cons_iff, List.forall_mem_cons, exists_or, exists_and_left, ih]
    cases hx : f x <;> simp

/-- A step that fails along a list fails on an item for the first time. -/
theorem mapM_eq_error_iff : xs.mapM f = .error e ↔ FirstFailure f xs e := by
  induction xs with
  | nil => exact iff_of_false (fun h => by cases h) not_firstFailure_nil
  | cons x xs ih =>
    have hrest : ∀ y, (xs.mapM f >>= fun ys => pure (y :: ys)) = .error e ↔ FirstFailure f xs e := by
      intro y
      rw [bind_eq_error_iff, ih]
      refine or_iff_left ?_
      rintro ⟨ys, -, h⟩
      cases h
    rw [List.mapM_cons, bind_eq_error_iff, firstFailure_cons_iff]
    simp only [hrest, exists_and_right]

/-- A step that goes along a list of its own for each item fails first where the step along all these lists does. -/
theorem firstFailure_flatMap_iff {g : γ → Except ε δ} {h : γ → List α}
    (hok : ∀ c, (∃ b, g c = .ok b) ↔ ∀ x ∈ h c, ∃ b, f x = .ok b)
    (herror : ∀ c, g c = .error e ↔ FirstFailure f (h c) e) (cs : List γ) :
    FirstFailure g cs e ↔ FirstFailure f (cs.flatMap h) e := by
  induction cs with
  | nil => simp [not_firstFailure_nil]
  | cons c cs ih => rw [List.flatMap_cons, firstFailure_cons_iff, firstFailure_append_iff, ih, hok, herror]

end FirstFailure

end ScriptVet.Steps
