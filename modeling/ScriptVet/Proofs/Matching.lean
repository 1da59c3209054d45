import Mathlib.Data.List.Basic
import ScriptVet.Regex.Basic

/-!
# What a regular expression matches

`Matches` says what an expression means without any search: which words it matches between a character before
them and a text behind them. The search never looks at an expression as a whole, only at its heads, the ways in which it
starts. `matches_iff_starts` says that they come to the same: an expression matches a word when one of its heads does.
-/

namespace ScriptVet.Regex

/-! ## Meaning -/

/-- The character before a place that is reached over a word. -/
def behind (before : Option Char) (word : List Char) : Option Char := word.getLast?.or before

@[simp] lemma behind_nil (before : Option Char) : behind before [] = before := rfl

@[simp] lemma behind_cons (before : Option Char) (c : Char) (word : List Char) :
    behind before (c :: word) = behind (some c) word := by
  unfold behind
  rw [List.getLast?_cons]
  cases word.getLast? <;> rfl

/-- The character before a place is looked for in the nearer of two words first. -/
theorem behind_append (before : Option Char) (u v : List Char) :
    behind before (u ++ v) = behind (behind before u) v := by
  unfold behind
  rw [List.getLast?_append, Option.or_assoc]

/-- A number of rounds one behind another, each of which matches by `round`. -/
def Rounds (round : Option Char → List Char → List Char → Prop) : Nat → Option Char → List Char → List Char → Prop
  | 0, _, word, _ => word = []
  | n + 1, before, word, rest =>
    ∃ u v, word = u ++ v ∧ round before u (v ++ rest) ∧ Rounds round n (behind before u) v rest

/-- The expression matches `word` where the character `before` stands before it and the text `rest` behind it. -/
def Matches : Regex → Option Char → List Char → List Char → Prop
  | empty, _, word, _ => word = []
  | set s, _, word, _ => ∃ c, word = [c] ∧ s.contains c = true
  | anchor a, before, word, rest => word = [] ∧ a.holds ⟨before, rest.head?⟩ = true
  | seq r s, before, word, rest =>
    ∃ u v, word = u ++ v ∧ Matches r before u (v ++ rest) ∧ Matches s (behind before u) v rest
  | alt r s, before, word, rest => Matches r before word rest ∨ Matches s before word rest
  | rep least most _ r, before, word, rest =>
    ∃ n, least ≤ n ∧ (∀ m, most = some m → n ≤ m) ∧ Rounds (Matches r) n before word rest

/-- Expressions match a word one behind another. -/
def MatchesAll : List Regex → Option Char → List Char → List Char → Prop
  | [], _, word, _ => word = []
  | r :: rs, before, word, rest =>
    ∃ u v, word = u ++ v ∧ r.Matches before u (v ++ rest) ∧ MatchesAll rs (behind before u) v rest

/-- The expression matches somewhere in a text. -/
def MatchesIn (r : Regex) (cs : List Char) : Prop := ∃ u w v, cs = u ++ (w ++ v) ∧ r.Matches (behind none u) w v

/-- Expressions in a row match a word in two parts. -/
lemma matchesAll_append {rs ss : List Regex} {before : Option Char} {word rest : List Char} :
    MatchesAll (rs ++ ss) before word rest ↔
      ∃ u v, word = u ++ v ∧ MatchesAll rs before u (v ++ rest) ∧ MatchesAll ss (behind before u) v rest := by
  induction rs generalizing before word with
  | nil =>
    constructor
    · intro h
      exact ⟨[], word, rfl, rfl, h⟩
    · rintro ⟨u, v, rfl, rfl, h⟩
      exact h
  | cons r rs ih =>
    constructor
    · rintro ⟨u, v, rfl, hr, h⟩
      obtain ⟨v₁, v₂, rfl, hrs, hss⟩ := ih.mp h
      refine ⟨u ++ v₁, v₂, (List.append_assoc ..).symm, ⟨u, v₁, rfl, ?_, hrs⟩, ?_⟩
      · rwa [← List.append_assoc]
      · rwa [behind_append]
    · rintro ⟨w, v₂, rfl, ⟨u, v₁, rfl, hr, hrs⟩, hss⟩
      rw [behind_append] at hss
      refine ⟨u, v₁ ++ v₂, List.append_assoc .., ?_, ih.mpr ⟨v₁, v₂, rfl, hrs, hss⟩⟩
      rwa [List.append_assoc]

lemma matchesAll_singleton {r : Regex} {before : Option Char} {word rest : List Char} :
    MatchesAll [r] before word rest ↔ r.Matches before word rest := by
  constructor
  · rintro ⟨u, v, rfl, hr, rfl⟩
    simpa using hr
  · intro h
    exact ⟨word, [], by simp, h, rfl⟩

/-! ## Rounds -/

section Rounds

variable {round : Option Char → List Char → List Char → Prop}

/-- Rounds that take something have a first one that takes something, and fewer behind it. -/
theorem Rounds.first {n : Nat} {before : Option Char} {word rest : List Char} (h : Rounds round n before word rest) :
    word = [] ∨ ∃ u v k, word = u ++ v ∧ u ≠ [] ∧ k < n ∧ round before u (v ++ rest) ∧
      Rounds round k (behind before u) v rest := by
  induction n with
  | zero => exact Or.inl h
  | succ n ih =>
    obtain ⟨u, v, rfl, hu, hv⟩ := h
    by_cases hne : u = []
    · subst hne
      -- An empty round leads back to the same place, so the rounds behind it can do without it.
      rcases ih hv with hnil | ⟨u, v, k, hword, hu, hk, hround, hrest⟩
      · exact Or.inl hnil
      · exact Or.inr ⟨u, v, k, hword, hu, by omega, hround, hrest⟩
    · exact Or.inr ⟨u, v, n, rfl, hne, by omega, hu, hv⟩

/-- Where a round may take nothing there can always be more of them. -/
theorem Rounds.pad (hnull : ∀ before rest, round before [] rest) {k n : Nat} (hkn : k ≤ n) {before : Option Char}
    {word rest : List Char} (h : Rounds round k before word rest) : Rounds round n before word rest := by
  induction n with
  | zero =>
    obtain rfl : k = 0 := by omega
    exact h
  | succ n ih =>
    by_cases hk : k = n + 1
    · subst hk
      exact h
    · exact ⟨[], word, rfl, hnull _ _, ih (by omega)⟩

end Rounds

/-- Rounds that take one character each take as many as there are rounds. -/
lemma rounds_set_iff {s : CharSet} {n : Nat} {before : Option Char} {word rest : List Char} :
    Rounds (set s).Matches n before word rest ↔ word.length = n ∧ ∀ c ∈ word, s.contains c = true := by
  induction n generalizing before word with
  | zero =>
    rw [Rounds, List.length_eq_zero_iff]
    exact ⟨fun h => ⟨h, by simp [h]⟩, fun h => h.1⟩
  | succ n ih =>
    constructor
    · rintro ⟨u, v, rfl, ⟨c, rfl, hc⟩, hv⟩
      obtain ⟨hlen, hall⟩ := ih.mp hv
      exact ⟨by simp [hlen], List.forall_mem_cons.mpr ⟨hc, hall⟩⟩
    · rintro ⟨hlen, hall⟩
      cases word with
      | nil => cases hlen
      | cons c w =>
        obtain ⟨hc, hw⟩ := List.forall_mem_cons.mp hall
        exact ⟨[c], w, rfl, ⟨c, rfl, hc⟩, ih.mpr ⟨by simpa using hlen, hw⟩⟩

/-- A repetition of a set takes any characters of the set, as many as it may. -/
theorem matches_rep_set_iff {least : Nat} {most : Option Nat} {greedy : Bool} {s : CharSet} {before : Option Char}
    {word rest : List Char} :
    (rep least most greedy (set s)).Matches before word rest ↔
      least ≤ word.length ∧ (∀ m, most = some m → word.length ≤ m) ∧ ∀ c ∈ word, s.contains c = true := by
  unfold Matches
  constructor
  · rintro ⟨n, hleast, hmost, hrounds⟩
    obtain ⟨rfl, hall⟩ := rounds_set_iff.mp hrounds
    exact ⟨hleast, hmost, hall⟩
  · rintro ⟨hleast, hmost, hall⟩
    exact ⟨word.length, hleast, hmost, rounds_set_iff.mpr ⟨rfl, hall⟩⟩

/-- A nullable expression matches the empty word anywhere. -/
lemma nullable_matches {r : Regex} (h : r.nullable = true) (before : Option Char) (rest : List Char) :
    r.Matches before [] rest := by
  induction r generalizing before rest with
  | empty => exact rfl
  | set s => cases h
  | anchor a => cases h
  | seq r s ihr ihs =>
    simp only [nullable, Bool.and_eq_true] at h
    exact ⟨[], [], rfl, ihr h.1 _ _, ihs h.2 _ _⟩
  | alt r s ihr ihs =>
    simp only [nullable, Bool.or_eq_true] at h
    exact h.imp (fun h => ihr h _ _) fun h => ihs h _ _
  | rep least most greedy r ih =>
    simp only [nullable, Bool.or_eq_true, decide_eq_true_eq, Bool.and_eq_true] at h
    rcases h with rfl | ⟨hnull, hmost⟩
    · exact ⟨0, Nat.le_refl _, fun m _ => Nat.zero_le m, rfl⟩
    · refine ⟨least, Nat.le_refl _, fun m hm => ?_, ?_⟩
      · subst hm
        simpa using hmost
      · exact Rounds.pad (ih hnull) (Nat.zero_le _) rfl

/-- A repetition that must have a round has one, and then the rest of its rounds. -/
lemma matches_rep_succ {least : Nat} {most : Option Nat} {greedy : Bool} {r : Regex} {before : Option Char}
    {word rest : List Char} :
    (rep (least + 1) most greedy r).Matches before word rest ↔
      most ≠ some 0 ∧ ∃ u v, word = u ++ v ∧ r.Matches before u (v ++ rest) ∧
        (rep least (most.map (· - 1)) greedy r).Matches (behind before u) v rest := by
  constructor
  · rintro ⟨n, hleast, hmost, hrounds⟩
    obtain ⟨k, rfl⟩ : ∃ k, n = k + 1 := ⟨n - 1, by omega⟩
    obtain ⟨u, v, rfl, hu, hv⟩ := hrounds
    refine ⟨fun hzero => ?_, u, v, rfl, hu, k, by omega, fun m hm => ?_, hv⟩
    · have := hmost 0 hzero
      omega
    · obtain ⟨m', hm', rfl⟩ := Option.map_eq_some_iff.mp hm
      have := hmost m' hm'
      omega
  · rintro ⟨hne, u, v, rfl, hu, k, hleast, hmost, hv⟩
    refine ⟨k + 1, by omega, fun m hm => ?_, u, v, rfl, hu, hv⟩
    subst hm
    have hpos : m ≠ 0 := fun h => hne (h ▸ rfl)
    have := hmost (m - 1) rfl
    omega

/-- A repetition that need not have any round has none, or has a first one that takes something. -/
lemma matches_rep_zero {most : Option Nat} {greedy : Bool} {r : Regex} {before : Option Char}
    {word rest : List Char} :
    (rep 0 most greedy r).Matches before word rest ↔
      word = [] ∨ most ≠ some 0 ∧ ∃ u v, word = u ++ v ∧ u ≠ [] ∧ r.Matches before u (v ++ rest) ∧
        (rep 0 (most.map (· - 1)) greedy r).Matches (behind before u) v rest := by
  constructor
  · rintro ⟨n, -, hmost, hrounds⟩
    rcases hrounds.first with hnil | ⟨u, v, k, hword, hne, hk, hu, hv⟩
    · exact Or.inl hnil
    · refine Or.inr ⟨fun hzero => ?_, u, v, hword, hne, hu, k, Nat.zero_le k, fun m hm => ?_, hv⟩
      · have := hmost 0 hzero
        omega
      · obtain ⟨m', hm', rfl⟩ := Option.map_eq_some_iff.mp hm
        have := hmost m' hm'
        omega
  · rintro (rfl | ⟨hne, u, v, rfl, -, hu, k, -, hmost, hv⟩)
    · exact ⟨0, Nat.le_refl _, fun m _ => Nat.zero_le m, rfl⟩
    · refine ⟨k + 1, Nat.zero_le _, fun m hm => ?_, u, v, rfl, hu, hv⟩
      subst hm
      have hpos : m ≠ 0 := fun h => hne (h ▸ rfl)
      have := hmost (m - 1) rfl
      omega

/-! ## Heads -/

/-- What a head matches: the empty word when it is done, else a character of its set and what is to match behind it. -/
def Head.Matches (word rest : List Char) : Head → Prop
  | done => word = []
  | take s todo => ∃ c w, word = c :: w ∧ s.contains c = true ∧ MatchesAll todo (some c) w rest

/-- One of some heads matches. -/
def Starts (hs : List Head) (word rest : List Char) : Prop := ∃ h ∈ hs, h.Matches word rest

private lemma starts_nil_iff {hs : List Head} {rest : List Char} : Starts hs [] rest ↔ .done ∈ hs := by
  constructor
  · rintro ⟨h, hh, hmatch⟩
    cases h with
    | done => exact hh
    | take s todo =>
      obtain ⟨c, w, hnil, -⟩ := hmatch
      cases hnil
  · intro h
    exact ⟨.done, h, rfl⟩

private lemma starts_done_iff {word rest : List Char} : Starts [.done] word rest ↔ word = [] := by
  simp [Starts, Head.Matches]

/-- A word starts with heads from one list or from the other. -/
lemma starts_append {hs ks : List Head} {word rest : List Char} :
    Starts (hs ++ ks) word rest ↔ Starts hs word rest ∨ Starts ks word rest := by
  unfold Starts
  simp only [List.mem_append, or_and_right, exists_or]

lemma Head.mem_once {h : Head} {hs : List Head} : h ∈ once hs ↔ h ∈ hs := by
  induction hs with
  | nil => rfl
  | cons k hs ih =>
    cases k with
    | take s todo => rw [once, List.mem_cons, List.mem_cons, ih]
    | done =>
      rw [once, List.mem_cons, List.mem_cons, List.mem_filter]
      cases h <;> simp [isTake]

/-- It does not matter how often a head is listed. -/
lemma starts_once {hs : List Head} {word rest : List Char} :
    Starts (Head.once hs) word rest ↔ Starts hs word rest := by
  unfold Starts
  simp only [Head.mem_once]

/-- A head that is done adds the empty word. -/
lemma starts_orDone {greedy : Bool} {hs : List Head} {word rest : List Char} :
    Starts (Head.orDone greedy hs) word rest ↔ word = [] ∨ Starts hs word rest := by
  unfold Head.orDone
  rw [starts_once]
  cases greedy with
  | true => rw [if_pos rfl, starts_append, starts_done_iff, or_comm]
  | false =>
    rw [if_neg Bool.false_ne_true]
    show Starts ([.done] ++ hs) word rest ↔ _
    rw [starts_append, starts_done_iff]

/-- What follows some heads: they take a word that is not empty and more expressions match behind it, or one of them is
done and what comes next matches. -/
lemma starts_followedBy {hs : List Head} {more : List Regex} {next : Unit → List Head} {word rest : List Char}
    (before : Option Char) :
    Starts (hs.flatMap fun h => h.followedBy more next) word rest ↔
      (∃ u v, word = u ++ v ∧ u ≠ [] ∧ Starts hs u (v ++ rest) ∧ MatchesAll more (behind before u) v rest) ∨
        (.done ∈ hs ∧ Starts (next ()) word rest) := by
  constructor
  · rintro ⟨k, hk, hmatch⟩
    obtain ⟨h, hh, hk⟩ := List.mem_flatMap.mp hk
    cases h with
    | done => exact Or.inr ⟨hh, k, hk, hmatch⟩
    | take s todo =>
      obtain rfl := List.mem_singleton.mp hk
      obtain ⟨c, w, rfl, hc, hall⟩ := hmatch
      obtain ⟨u, v, rfl, htodo, hmore⟩ := matchesAll_append.mp hall
      refine Or.inl ⟨c :: u, v, rfl, List.cons_ne_nil _ _, ⟨_, hh, c, u, rfl, hc, htodo⟩, ?_⟩
      rwa [behind_cons]
  · rintro (⟨u, v, rfl, hne, ⟨h, hh, hmatch⟩, hmore⟩ | ⟨hdone, k, hk, hmatch⟩)
    · cases h with
      | done => exact absurd hmatch hne
      | take s todo =>
        obtain ⟨c, w, rfl, hc, htodo⟩ := hmatch
        rw [behind_cons] at hmore
        refine ⟨.take s (todo ++ more), List.mem_flatMap.mpr ⟨_, hh, List.mem_singleton.mpr rfl⟩, ?_⟩
        exact ⟨c, w ++ v, rfl, hc, matchesAll_append.mpr ⟨w, v, rfl, htodo, hmore⟩⟩
    · exact ⟨k, List.mem_flatMap.mpr ⟨.done, hdone, hk⟩, hmatch⟩

/-- An expression with another meaning `K` behind it, when `hs` are the heads of the expression, `more` means
`K` and so does `next` at the same place. -/
lemma exists_split_iff_starts {r : Regex} {hs : List Head} {more : List Regex} {next : Unit → List Head}
    {before : Option Char} {word rest : List Char} {K : Option Char → List Char → Prop}
    (hr : ∀ u v, word = u ++ v → (r.Matches before u (v ++ rest) ↔ Starts hs u (v ++ rest)))
    (hmore : ∀ b v, K b v ↔ MatchesAll more b v rest) (hnext : K before word ↔ Starts (next ()) word rest) :
    (∃ u v, word = u ++ v ∧ r.Matches before u (v ++ rest) ∧ K (behind before u) v) ↔
      Starts (hs.flatMap fun h => h.followedBy more next) word rest := by
  rw [starts_followedBy before]
  constructor
  · rintro ⟨u, v, hword, hu, hv⟩
    rw [hr u v hword] at hu
    by_cases hne : u = []
    · subst hne
      obtain rfl : word = v := hword
      exact Or.inr ⟨starts_nil_iff.mp hu, hnext.mp hv⟩
    · exact Or.inl ⟨u, v, hword, hne, hu, (hmore _ _).mp hv⟩
  · rintro (⟨u, v, hword, -, hu, hv⟩ | ⟨hdone, hstarts⟩)
    · exact ⟨u, v, hword, (hr u v hword).mpr hu, (hmore _ _).mpr hv⟩
    · exact ⟨[], word, rfl, (hr [] word rfl).mpr (starts_nil_iff.mpr hdone), hnext.mpr hstarts⟩

/-! ## Heads of a repetition -/

/-- What remains of a repetition matches as the repetition with a round less. -/
lemma matchesAll_remaining {least : Nat} {most : Option Nat} {greedy : Bool} {r : Regex} {before : Option Char}
    {word rest : List Char} :
    MatchesAll (remaining least most greedy r) before word rest ↔
      (rep (least - 1) (most.map (· - 1)) greedy r).Matches before word rest := by
  unfold remaining
  split
  · next hleast hmost =>
    rw [hleast, hmost, matches_rep_zero]
    simp [MatchesAll]
  · exact matchesAll_singleton

section Repetition

variable {greedy : Bool} {r : Regex} {round : List Head} {before : Option Char} {word rest : List Char}

/-- The heads of optional rounds start the words that so many rounds match. -/
lemma starts_optionalHeads (hr : ∀ u v, word = u ++ v → (r.Matches before u (v ++ rest) ↔ Starts round u (v ++ rest)))
    (n : Nat) :
    Starts (optionalHeads greedy r round n) word rest ↔ (rep 0 (some n) greedy r).Matches before word rest := by
  induction n with
  | zero =>
    rw [optionalHeads, starts_done_iff, matches_rep_zero]
    simp
  | succ n ih =>
    rw [optionalHeads, starts_orDone, starts_followedBy before]
    constructor
    · rintro (hnil | ⟨u, v, hword, hne, hu, hv⟩ | ⟨-, hstarts⟩)
      · exact matches_rep_zero.mpr (Or.inl hnil)
      · refine matches_rep_zero.mpr (Or.inr ⟨by simp, u, v, hword, hne, (hr u v hword).mpr hu, ?_⟩)
        exact matchesAll_remaining.mp hv
      · split at hstarts
        · exact matches_rep_zero.mpr (Or.inl (starts_done_iff.mp hstarts))
        · -- Fewer rounds may come, which are rounds of this repetition too.
          obtain ⟨k, hleast, hmost, hrounds⟩ := ih.mp hstarts
          refine ⟨k, hleast, fun m hm => ?_, hrounds⟩
          obtain rfl := Option.some.inj hm
          exact Nat.le_succ_of_le (hmost n rfl)
    · intro h
      rcases matches_rep_zero.mp h with hnil | ⟨-, u, v, hword, hne, hu, hv⟩
      · exact Or.inl hnil
      · exact Or.inr (Or.inl ⟨u, v, hword, hne, (hr u v hword).mp hu, matchesAll_remaining.mpr hv⟩)

lemma repHeads_succ {least : Nat} {most : Option Nat} (hmost : most ≠ some 0) :
    repHeads greedy r round (least + 1) most =
      round.flatMap fun h => h.followedBy (remaining (least + 1) most greedy r) fun _ =>
        if nullable (rep (least + 1) most greedy r) && Head.endsDone round then [.done]
        else repHeads greedy r round least (most.map (· - 1)) := by
  cases most with
  | none => rfl
  | some m =>
    cases m with
    | zero => exact absurd rfl hmost
    | succ m => rfl

/-- When a repetition can be empty anywhere, its empty rounds can be moved behind the others, so that the first
round takes something or all of them are empty. -/
lemma matches_rep_succ_of_nullable {least : Nat} {most : Option Nat}
    (hnull : nullable (rep (least + 1) most greedy r) = true)
    (h : (rep (least + 1) most greedy r).Matches before word rest) :
    word = [] ∨ ∃ u v, word = u ++ v ∧ u ≠ [] ∧ r.Matches before u (v ++ rest) ∧
      (rep least (most.map (· - 1)) greedy r).Matches (behind before u) v rest := by
  have hr : r.nullable = true := by
    simp only [nullable, Bool.or_eq_true, decide_eq_true_eq, Bool.and_eq_true] at hnull
    exact (hnull.resolve_left (Nat.succ_ne_zero _)).1
  obtain ⟨n, hleast, hmost, hrounds⟩ := h
  rcases hrounds.first with hnil | ⟨u, v, k, hword, hne, hk, hu, hv⟩
  · exact Or.inl hnil
  · refine Or.inr ⟨u, v, hword, hne, hu, max k least, Nat.le_max_right _ _, fun m hm => ?_, ?_⟩
    · obtain ⟨m', hm', rfl⟩ := Option.map_eq_some_iff.mp hm
      have := hmost m' hm'
      omega
    · exact Rounds.pad (nullable_matches hr) (Nat.le_max_left _ _) hv

/-- The heads of a repetition start the words that it matches. -/
lemma starts_repHeads (hr : ∀ u v, word = u ++ v → (r.Matches before u (v ++ rest) ↔ Starts round u (v ++ rest)))
    (least : Nat) (most : Option Nat) :
    Starts (repHeads greedy r round least most) word rest ↔ (rep least most greedy r).Matches before word rest := by
  induction least generalizing most with
  | zero =>
    cases most with
    | some n => exact starts_optionalHeads hr n
    | none =>
      rw [repHeads, starts_orDone, starts_followedBy before, starts_done_iff, matches_rep_zero]
      constructor
      · rintro (hnil | ⟨u, v, hword, hne, hu, hv⟩ | ⟨-, hnil⟩)
        · exact Or.inl hnil
        · exact Or.inr ⟨by simp, u, v, hword, hne, (hr u v hword).mpr hu, matchesAll_singleton.mp hv⟩
        · exact Or.inl hnil
      · rintro (hnil | ⟨-, u, v, hword, hne, hu, hv⟩)
        · exact Or.inl hnil
        · exact Or.inr (Or.inl ⟨u, v, hword, hne, (hr u v hword).mp hu, matchesAll_singleton.mpr hv⟩)
  | succ least ih =>
    by_cases hzero : most = some 0
    · subst hzero
      rw [matches_rep_succ, repHeads]
      simp [Starts]
    · rw [repHeads_succ hzero]
      by_cases hshort : (nullable (rep (least + 1) most greedy r) && Head.endsDone round) = true
      -- The shortcut: behind an empty round the search takes the repetition as done.
      · have hnull := (Bool.and_eq_true_iff.mp hshort).1
        simp only [if_pos hshort]
        rw [starts_followedBy before, starts_done_iff]
        constructor
        · rintro (⟨u, v, hword, -, hu, hv⟩ | ⟨-, rfl⟩)
          · exact matches_rep_succ.mpr ⟨hzero, u, v, hword, (hr u v hword).mpr hu, matchesAll_remaining.mp hv⟩
          · exact nullable_matches hnull before rest
        · intro h
          rcases matches_rep_succ_of_nullable hnull h with rfl | ⟨u, v, hword, hne, hu, hv⟩
          · obtain ⟨-, u, v, huv, hu, -⟩ := matches_rep_succ.mp h
            obtain ⟨rfl, rfl⟩ := List.append_eq_nil_iff.mp huv.symm
            exact Or.inr ⟨starts_nil_iff.mp ((hr [] [] rfl).mp hu), rfl⟩
          · exact Or.inl ⟨u, v, hword, hne, (hr u v hword).mp hu, matchesAll_remaining.mpr hv⟩
      · simp only [if_neg hshort]
        rw [matches_rep_succ, and_iff_right hzero]
        refine (exists_split_iff_starts (K := fun b v => (rep least (most.map (· - 1)) greedy r).Matches b v rest)
          hr (fun b v => ?_) (ih _).symm).symm
        rw [matchesAll_remaining, Nat.add_sub_cancel]

end Repetition

/-- **Heads say what an expression matches.** -/
theorem matches_iff_starts (r : Regex) (before : Option Char) (word rest : List Char) :
    r.Matches before word rest ↔ Starts (heads ⟨before, (word ++ rest).head?⟩ r) word rest := by
  induction r generalizing before word rest with
  | empty => rw [heads, starts_done_iff]; rfl
  | set s =>
    rw [heads]
    constructor
    · rintro ⟨c, rfl, hc⟩
      exact ⟨_, List.mem_singleton.mpr rfl, c, [], rfl, hc, rfl⟩
    · rintro ⟨h, hh, hmatch⟩
      obtain rfl := List.mem_singleton.mp hh
      obtain ⟨c, w, rfl, hc, rfl⟩ := hmatch
      exact ⟨c, rfl, hc⟩
  | anchor a =>
    rw [heads]
    constructor
    · rintro ⟨rfl, ha⟩
      rw [List.nil_append, if_pos ha, starts_done_iff]
    · intro h
      split at h
      · next ha =>
        obtain rfl := starts_done_iff.mp h
        exact ⟨rfl, ha⟩
      · obtain ⟨k, hk, -⟩ := h
        cases hk
  | seq r s ihr ihs =>
    rw [heads]
    refine exists_split_iff_starts (K := fun b v => s.Matches b v rest) ?_ (fun b v => matchesAll_singleton.symm)
      (ihs ..)
    rintro u v rfl
    rw [ihr, List.append_assoc]
  | alt r s ihr ihs =>
    rw [heads, starts_once, starts_append, ← ihr, ← ihs]
    rfl
  | rep least most greedy r ih =>
    rw [heads]
    refine (starts_repHeads ?_ least most).symm
    rintro u v rfl
    rw [ih, List.append_assoc]

/-- Expressions in a row match the words that their heads start. -/
theorem matchesAll_iff_starts (rs : List Regex) (before : Option Char) (word rest : List Char) :
    MatchesAll rs before word rest ↔ Starts (headsAll ⟨before, (word ++ rest).head?⟩ rs) word rest := by
  induction rs generalizing before word with
  | nil => rw [headsAll, starts_done_iff]; rfl
  | cons r rs ih =>
    rw [headsAll]
    refine exists_split_iff_starts (K := fun b v => MatchesAll rs b v rest) ?_ (fun b v => Iff.rfl) (ih ..)
    rintro u v rfl
    rw [matches_iff_starts, List.append_assoc]

lemma done_mem_headsAll_iff (todo : List Regex) (before : Option Char) (cs : List Char) :
    .done ∈ headsAll ⟨before, cs.head?⟩ todo ↔ MatchesAll todo before [] cs := by
  rw [matchesAll_iff_starts, starts_nil_iff, List.nil_append]

end ScriptVet.Regex
