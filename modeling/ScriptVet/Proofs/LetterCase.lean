import ScriptVet.Proofs.DefaultRules
import ScriptVet.Proofs.HexEscapes

/-!
# Searching without regard to case

An expression is blind to case when none of its sets tells a capital letter from its small one. Then the search finds
the same place in a text and in the text in small letters. It is not enough that the same words match: the search has a
preference among them. So the argument goes along the search itself, in the form of `firstFrom`, which tries one way
after another. The ways in which an expression starts ask for characters of its own sets only (`heads_within`), and
places look alike in both texts (`heads_lower`), so each try ends alike.
-/

namespace ScriptVet.Regex

/-! ## Sets that are blind to case -/

/-- A character is small already, unless it is a capital letter. The small letters have their numbers in the same
order. -/
theorem toLower_cases (c : Char) :
    ¬ (0x41 ≤ c.toNat ∧ c.toNat < 0x41 + 26) ∧ c.toLower = c ∨
      0x41 ≤ c.toNat ∧ c.toNat < 0x41 + 26 ∧ c.toLower.toNat = c.toNat + 0x20 := by
  by_cases hc : c.toNat < 0x41 + 26
  · exact Number.forall_toNat_lt (P := fun c => ¬ (0x41 ≤ c.toNat ∧ c.toNat < 0x41 + 26) ∧ c.toLower = c ∨
      0x41 ≤ c.toNat ∧ c.toNat < 0x41 + 26 ∧ c.toLower.toNat = c.toNat + 0x20) (by decide) hc
  · refine Or.inl ⟨fun hcapital => hc hcapital.2, ?_⟩
    unfold Char.toLower
    rw [dif_neg]
    intro hcapital
    have hle : c.toNat ≤ 0x5A := hcapital.2
    omega

namespace CharSet

/-- The number is that of a member. -/
def covers (s : CharSet) (n : Nat) : Bool := s.ranges.any fun (lo, hi) => lo ≤ n && n ≤ hi

/-- The set does not tell a capital letter from its small one. -/
def caseBlind (s : CharSet) : Bool := (List.range 26).all fun i => s.covers (0x41 + i + 0x20) == s.covers (0x41 + i)

/-- A set that does not tell letters by their case holds a character exactly when it holds its lower case. -/
lemma contains_toLower {s : CharSet} (h : s.caseBlind = true) (c : Char) : s.contains c.toLower = s.contains c := by
  rcases toLower_cases c with ⟨-, hc⟩ | ⟨hleast, hmost, hlower⟩
  · rw [hc]
  · obtain ⟨i, hi⟩ : ∃ i, c.toNat = 0x41 + i := ⟨c.toNat - 0x41, by omega⟩
    have hsame := eq_of_beq (List.all_eq_true.mp h i (List.mem_range.mpr (by omega)))
    show s.covers c.toLower.toNat = s.covers c.toNat
    rw [hlower, hi]
    exact hsame

end CharSet

/-- A letter is part of a word in both cases. -/
lemma isWord_toLower (c : Option Char) : isWord (c.map Char.toLower) = isWord c := by
  cases c with
  | none => rfl
  | some c => exact CharSet.contains_toLower (by decide) c

private lemma toLower_eq_newline_iff (c : Char) : c.toLower = '\n' ↔ c = '\n' := by
  rcases toLower_cases c with ⟨-, hc⟩ | ⟨hleast, -, hlower⟩
  · rw [hc]
  · have hnewline : ('\n' : Char).toNat = 10 := rfl
    refine iff_of_false ?_ ?_
    · intro heq
      rw [heq] at hlower
      omega
    · intro heq
      rw [heq] at hleast
      omega

/-! ## The sets of an expression -/

/-- The sets that characters of a match come from. -/
def sets : Regex → List CharSet
  | empty => []
  | set s => [s]
  | anchor _ => []
  | seq r s => sets r ++ sets s
  | alt r s => sets r ++ sets s
  | rep _ _ _ r => sets r

/-- A head asks for a character of one of the given sets, and so does what follows it. -/
def Head.Within (ss : List CharSet) : Head → Prop
  | done => True
  | take s rest => s ∈ ss ∧ ∀ r ∈ rest, r.sets ⊆ ss

section Within

variable {ss : List CharSet}

/-- A head whose sets are among some is one whose sets are among more. -/
theorem Head.Within.mono {ss' : List CharSet} (hsub : ss ⊆ ss') {h : Head} (hh : h.Within ss) : h.Within ss' := by
  cases h with
  | done => trivial
  | take s rest => exact ⟨hsub hh.1, fun r hr => List.Subset.trans (hh.2 r hr) hsub⟩

private lemma done_within : ∀ h ∈ [Head.done], h.Within ss := by
  intro h hh
  rw [List.mem_singleton.mp hh]
  trivial

/-- Heads that are followed by more expressions take their sets from both. -/
lemma flatMap_followedBy_within {hs : List Head} {more : List Regex} {next : Unit → List Head}
    (hhs : ∀ h ∈ hs, h.Within ss) (hmore : ∀ r ∈ more, r.sets ⊆ ss) (hnext : ∀ h ∈ next (), h.Within ss) :
    ∀ h ∈ hs.flatMap fun h => h.followedBy more next, h.Within ss := by
  intro k hk
  obtain ⟨h, hh, hk⟩ := List.mem_flatMap.mp hk
  cases h with
  | done => exact hnext k hk
  | take s rest =>
    obtain rfl := List.mem_singleton.mp hk
    obtain ⟨hs, hrest⟩ := hhs _ hh
    refine ⟨hs, fun r hr => ?_⟩
    rcases List.mem_append.mp hr with hr | hr
    · exact hrest r hr
    · exact hmore r hr

private lemma orDone_within {greedy : Bool} {hs : List Head} (hhs : ∀ h ∈ hs, h.Within ss) :
    ∀ h ∈ Head.orDone greedy hs, h.Within ss := by
  intro h hh
  have hmem : h = .done ∨ h ∈ hs := by
    unfold Head.orDone at hh
    rw [Head.mem_once] at hh
    cases greedy with
    | true => exact (List.mem_append.mp hh).symm.imp List.mem_singleton.mp id
    | false => exact List.mem_cons.mp hh
  rcases hmem with rfl | hmem
  · trivial
  · exact hhs h hmem

/-- What remains of a repetition has no other sets than what is repeated. -/
lemma sets_of_mem_remaining {least : Nat} {most : Option Nat} {greedy : Bool} {r r' : Regex}
    (h : r' ∈ remaining least most greedy r) : r'.sets ⊆ r.sets := by
  unfold remaining at h
  split at h
  · cases h
  · rw [List.mem_singleton.mp h]
    exact List.Subset.refl _

/-- The heads of optional rounds have the sets of a round. -/
lemma optionalHeads_within {greedy : Bool} {r : Regex} {round : List Head}
    (hround : ∀ h ∈ round, h.Within r.sets) (n : Nat) :
    ∀ h ∈ optionalHeads greedy r round n, h.Within r.sets := by
  induction n with
  | zero => exact done_within
  | succ n ih =>
    refine orDone_within (flatMap_followedBy_within hround (fun r' => sets_of_mem_remaining) ?_)
    split
    · exact done_within
    · exact ih

/-- The heads of a repetition have the sets of a round. -/
lemma repHeads_within {greedy : Bool} {r : Regex} {round : List Head} (hround : ∀ h ∈ round, h.Within r.sets)
    (least : Nat) (most : Option Nat) : ∀ h ∈ repHeads greedy r round least most, h.Within r.sets := by
  induction least generalizing most with
  | zero =>
    cases most with
    | none =>
      refine orDone_within (flatMap_followedBy_within hround ?_ done_within)
      intro r' hr'
      rw [List.mem_singleton.mp hr']
      exact List.Subset.refl _
    | some n => exact optionalHeads_within hround n
  | succ least ih =>
    by_cases hzero : most = some 0
    · subst hzero
      intro h hh
      cases hh
    · rw [repHeads_succ hzero]
      refine flatMap_followedBy_within hround (fun r' => sets_of_mem_remaining) ?_
      split
      · exact done_within
      · exact ih _

/-- An expression starts with characters of its own sets. -/
lemma heads_within (p : Around) (r : Regex) : ∀ h ∈ heads p r, h.Within r.sets := by
  induction r with
  | empty => exact done_within
  | set s =>
    intro h hh
    rw [List.mem_singleton.mp hh]
    exact ⟨List.mem_singleton.mpr rfl, by simp⟩
  | anchor a =>
    unfold heads
    split
    · exact done_within
    · exact List.forall_mem_nil _
  | seq r s ihr ihs =>
    refine flatMap_followedBy_within ?_ ?_ ?_
    · exact fun h hh => (ihr h hh).mono (List.subset_append_left _ _)
    · intro r' hr'
      rw [List.mem_singleton.mp hr']
      exact List.subset_append_right _ _
    · exact fun h hh => (ihs h hh).mono (List.subset_append_right _ _)
  | alt r s ihr ihs =>
    intro h hh
    rw [heads, Head.mem_once] at hh
    rcases List.mem_append.mp hh with hh | hh
    · exact (ihr h hh).mono (List.subset_append_left _ _)
    · exact (ihs h hh).mono (List.subset_append_right _ _)
  | rep least most greedy r ih => exact repHeads_within ih least most

/-- The heads of expressions in a row have their sets. -/
lemma headsAll_within (p : Around) {rs : List Regex} (hrs : ∀ r ∈ rs, r.sets ⊆ ss) :
    ∀ h ∈ headsAll p rs, h.Within ss := by
  induction rs with
  | nil => exact done_within
  | cons r rs ih =>
    rw [List.forall_mem_cons] at hrs
    refine flatMap_followedBy_within ?_ hrs.2 (ih hrs.2)
    exact fun h hh => (heads_within p r h hh).mono hrs.1

end Within

/-! ## Places in small letters -/

/-- The place in small letters. -/
def Around.lower (p : Around) : Around := ⟨p.before.map Char.toLower, p.after.map Char.toLower⟩

private lemma map_toLower_eq_newline_iff (c : Option Char) : c.map Char.toLower = some '\n' ↔ c = some '\n' := by
  cases c with
  | none => simp
  | some c => simp [toLower_eq_newline_iff]

/-- Whether a place is an edge or the end of a line does not depend on the case of letters. -/
lemma Anchor.holds_lower (p : Around) (a : Anchor) : a.holds p.lower = a.holds p := by
  cases a <;>
    simp only [Anchor.holds, Around.lower, isWord_toLower, map_toLower_eq_newline_iff, Option.isNone_map]

/-- The heads at a place do not depend on the case of letters around it. -/
lemma heads_lower (p : Around) (r : Regex) : heads p.lower r = heads p r := by
  induction r with
  | empty => rfl
  | set s => rfl
  | anchor a => rw [heads, heads, Anchor.holds_lower]
  | seq r s ihr ihs => rw [heads, heads, ihr, ihs]
  | alt r s ihr ihs => rw [heads, heads, ihr, ihs]
  | rep least most greedy r ih => rw [heads, heads, ih]

private lemma headsAll_lower (p : Around) (rs : List Regex) : headsAll p.lower rs = headsAll p rs := by
  induction rs with
  | nil => rfl
  | cons r rs ih => rw [headsAll, headsAll, heads_lower, ih]

/-! ## Searching in small letters -/

/-- Trying heads in order gives the same when each of them takes the same and goes on in the same way. -/
lemma tried_congr {c c' : Option Char} {more more' : List Regex → Option Nat} {hs : List Head}
    (h : ∀ s rest, .take s rest ∈ hs → c.any s.contains = c'.any s.contains ∧ more rest = more' rest) :
    tried c more hs = tried c' more' hs := by
  induction hs with
  | nil => rfl
  | cons head hs ih =>
    cases head with
    | done => rfl
    | take s rest =>
      obtain ⟨hc, hmore⟩ := h s rest (List.mem_cons_self ..)
      rw [tried, tried, hc, hmore, ih fun s rest hmem => h s rest (List.mem_cons_of_mem _ hmem)]

section Search

variable {ss : List CharSet}

/-- Trying at one place ends alike in small letters. -/
lemma firstLength_map_toLower (hblind : ∀ s ∈ ss, s.caseBlind = true) (cs : List Char) (before : Option Char)
    {todo : List Regex} (htodo : ∀ r ∈ todo, r.sets ⊆ ss) :
    firstLength (cs.map Char.toLower) (before.map Char.toLower) todo = firstLength cs before todo := by
  induction cs generalizing before todo with
  | nil => exact congrArg (tried none fun _ => none) (headsAll_lower ⟨before, none⟩ todo)
  | cons c cs ih =>
    have hheads := headsAll_lower ⟨before, some c⟩ todo
    rw [List.map_cons, firstLength, firstLength]
    refine (congrArg _ hheads).trans (tried_congr ?_)
    intro s rest hmem
    obtain ⟨hs, hrest⟩ := headsAll_within _ htodo _ hmem
    exact ⟨CharSet.contains_toLower (hblind s hs) c, ih (some c) hrest⟩

/-- Trying one place after another ends alike in small letters. -/
lemma firstFrom_map_toLower {r : Regex} (hblind : ∀ s ∈ r.sets, s.caseBlind = true) (cs : List Char)
    (position : Nat) (before : Option Char) :
    firstFrom r position (before.map Char.toLower) (cs.map Char.toLower) = firstFrom r position before cs := by
  have htodo : ∀ r' ∈ [r], r'.sets ⊆ r.sets := by
    intro r' hr'
    rw [List.mem_singleton.mp hr']
    exact List.Subset.refl _
  induction cs generalizing position before with
  | nil =>
    have hfirst := firstLength_map_toLower hblind [] before htodo
    rw [List.map_nil] at hfirst ⊢
    rw [firstFrom, firstFrom, hfirst]
  | cons c cs ih =>
    have hfirst := firstLength_map_toLower hblind (c :: cs) before htodo
    have hrest := ih (position + 1) (some c)
    rw [List.map_cons] at hfirst ⊢
    rw [firstFrom, firstFrom, hfirst]
    exact congrArg _ hrest

/-- **An expression that is blind to case is found at the same place in small letters.** -/
theorem search_map_toLower {r : Regex} (hblind : ∀ s ∈ r.sets, s.caseBlind = true) (cs : List Char) :
    r.search (cs.map Char.toLower) = r.search cs := by
  rw [search_eq_firstFrom, search_eq_firstFrom]
  exact firstFrom_map_toLower hblind cs 0 none

end Search

/-- The default expressions are blind to case. -/
theorem default_caseBlind : ∀ regex ∈ Registry.defaultRegexes, ∀ s ∈ regex.sets, s.caseBlind = true := by
  have hall : (Registry.defaultRegexes.all fun regex => regex.sets.all CharSet.caseBlind) = true := by
    decide +kernel
  intro regex hregex
  exact List.all_eq_true.mp (List.all_eq_true.mp hall regex hregex)

end ScriptVet.Regex
