import ScriptVet.Proofs.LetterCase
import ScriptVet.Proofs.ViolationList

/-!
# Each default rule for itself

A category reports a text once, whichever of its rules find it. For the default rules this never shows: no two rules of
a category can find the same text, because no word begins as the matches of both do (`not_matches_of_apart`). So each
rule that matches is listed, and with its own match.

That in turn is what makes the list blind to case. Each rule is found at the same place whatever the case of the letters
is, but two texts that are the same in one case may differ in another.
-/

namespace ScriptVet

namespace Regex

/-! ## How matches begin -/

namespace CharSet

/-- No character belongs to both sets. -/
def apart (s t : CharSet) : Bool := s.ranges.all fun (lo, hi) => t.ranges.all fun (lo', hi') => hi < lo' || hi' < lo

/-- Sets that are apart have no character in common. -/
lemma not_contains_of_apart {s t : CharSet} (h : s.apart t = true) {c : Char} (hs : s.contains c = true) :
    ¬ t.contains c = true := by
  intro ht
  obtain ⟨r, hr, hc⟩ := List.any_eq_true.mp hs
  obtain ⟨r', hr', hc'⟩ := List.any_eq_true.mp ht
  have hapart := List.all_eq_true.mp (List.all_eq_true.mp h r hr) r' hr'
  simp only [Bool.and_eq_true, Bool.or_eq_true, decide_eq_true_eq] at hc hc' hapart
  omega

end CharSet

/-- The word begins with a character of each of the sets in turn. -/
def Begins : List CharSet → List Char → Prop
  | [], _ => True
  | _ :: _, [] => False
  | s :: ss, c :: cs => s.contains c = true ∧ Begins ss cs

/-- Of a word of which nothing is known. -/
lemma begins_somehow (w : List Char) : ∃ ss ∈ [([] : List CharSet)], Begins ss w :=
  ⟨[], List.mem_singleton.mpr rfl, trivial⟩

/-- The ways in which words begin that are a match and then a word that begins in one of the given ways. Where it is not
known how long a part of a match is, nothing is said about what follows it. -/
def openings : Regex → List (List CharSet) → List (List CharSet)
  | empty, next => next
  | set s, next => next.map (s :: ·)
  | anchor _, next => next
  | seq r s, next => openings r (openings s next)
  | alt r s, next => openings r next ++ openings s next
  | rep least _ _ r, _ => if 0 < least then openings r [[]] else [[]]

private lemma exists_openings {r : Regex} {before : Option Char} {u rest : List Char} (hmatch : r.Matches before u rest)
    {next : List (List CharSet)} {v : List Char} (hnext : ∃ ss ∈ next, Begins ss v) :
    ∃ ss ∈ openings r next, Begins ss (u ++ v) := by
  induction r generalizing before u rest next v with
  | empty =>
    obtain rfl : u = [] := hmatch
    exact hnext
  | set s =>
    obtain ⟨c, rfl, hc⟩ := hmatch
    obtain ⟨ss, hss, hbegins⟩ := hnext
    exact ⟨s :: ss, List.mem_map_of_mem hss, hc, hbegins⟩
  | anchor a =>
    obtain ⟨rfl, -⟩ := hmatch
    exact hnext
  | seq r s ihr ihs =>
    obtain ⟨u₁, u₂, rfl, hu₁, hu₂⟩ := hmatch
    rw [List.append_assoc]
    exact ihr hu₁ (ihs hu₂ hnext)
  | alt r s ihr ihs =>
    rcases hmatch with hmatch | hmatch
    · obtain ⟨ss, hss, hbegins⟩ := ihr hmatch hnext
      exact ⟨ss, List.mem_append_left _ hss, hbegins⟩
    · obtain ⟨ss, hss, hbegins⟩ := ihs hmatch hnext
      exact ⟨ss, List.mem_append_right _ hss, hbegins⟩
  | rep least most greedy r ih =>
    unfold openings
    split
    · next hleast =>
      obtain ⟨n, hn, -, hrounds⟩ := hmatch
      obtain ⟨n, rfl⟩ : ∃ k, n = k + 1 := ⟨n - 1, by omega⟩
      obtain ⟨u₁, u₂, rfl, hu₁, -⟩ := hrounds
      rw [List.append_assoc]
      exact ih hu₁ (begins_somehow _)
    · exact begins_somehow _

/-- No word begins in both ways. -/
def beginApart (ss ts : List CharSet) : Bool := (ss.zip ts).any fun (s, t) => s.apart t

/-- No word begins in two ways that are apart. -/
lemma not_begins_of_beginApart {ss ts : List CharSet} (h : beginApart ss ts = true) {w : List Char}
    (hs : Begins ss w) : ¬ Begins ts w := by
  induction ss generalizing ts w with
  | nil => cases h
  | cons s ss ih =>
    cases ts with
    | nil =>
      unfold beginApart at h
      rw [List.zip_nil_right] at h
      cases h
    | cons t ts =>
      cases w with
      | nil => exact hs.elim
      | cons c w =>
        intro ht
        unfold beginApart at h
        rw [List.zip_cons_cons, List.any_cons, Bool.or_eq_true] at h
        rcases h with h | h
        · exact CharSet.not_contains_of_apart h hs.1 ht.1
        · exact ih h hs.2 ht.2

/-- No word begins as a match of one expression and as a match of the other. -/
def apart (r s : Regex) : Bool :=
  (openings r [[]]).all fun ss => (openings s [[]]).all fun ts => beginApart ss ts

/-- Expressions that are apart match no word in common. -/
lemma not_matches_of_apart {r s : Regex} (h : r.apart s = true) {w : List Char} {before before' : Option Char}
    {rest rest' : List Char} (hr : r.Matches before w rest) : ¬ s.Matches before' w rest' := by
  intro hs
  obtain ⟨ss, hss, hbegins⟩ := exists_openings hr (begins_somehow [])
  obtain ⟨ts, hts, hbegins'⟩ := exists_openings hs (begins_somehow [])
  have hapart := List.all_eq_true.mp (List.all_eq_true.mp h ss hss) ts hts
  exact not_begins_of_beginApart hapart hbegins hbegins'

end Regex

/-! ## Rules of one category -/

namespace Registry

private lemma default_pairwise_apart (c : Category) : (defaultRegexesOf c).Pairwise fun r s => r.apart s = true := by
  cases c <;> decide +kernel

/-- Two default rules of a category do not find the same text, not even in two texts. -/
lemma default_text_ne {c : Category} {j k : Nat} (hjk : j < k) {r r' : Rule}
    (hr : (default.forCategory c)[j]? = some r) (hr' : (default.forCategory c)[k]? = some r') {t t' : Text}
    {m m' : Match} (hm : r.Finds t m) (hm' : r'.Finds t' m') : m.text ≠ m'.text := by
  obtain ⟨regex, u, v, hregex, -, -, -, hfirst⟩ := hm
  obtain ⟨regex', u', v', hregex', -, -, -, hfirst'⟩ := hm'
  obtain ⟨hj, hat⟩ := List.getElem?_eq_some_iff.mp (exists_default_rule_at_iff.mp ⟨r, hr, hregex⟩)
  obtain ⟨hk, hat'⟩ := List.getElem?_eq_some_iff.mp (exists_default_rule_at_iff.mp ⟨r', hr', hregex'⟩)
  have hapart := List.pairwise_iff_getElem.mp (default_pairwise_apart c) j k hj hk hjk
  rw [hat, hat'] at hapart
  intro heq
  have hmatch := hfirst.matches_word
  rw [heq] at hmatch
  exact Regex.not_matches_of_apart hapart hmatch hfirst'.matches_word

/-- Each default rule reports what it finds. -/
lemma default_reports_iff {text : Text} {v : Violation} :
    default.Reports text v ↔ ∃ r m, (default.forCategory v.category)[v.index]? = some r ∧ r.Finds text m ∧
      v.text = m.text ∧ v.offset = m.start := by
  constructor
  · rintro ⟨m, ⟨r, hr, hm, -⟩, htext, hoffset⟩
    exact ⟨r, m, hr, hm, htext, hoffset⟩
  · rintro ⟨r, m, hr, hm, htext, hoffset⟩
    refine ⟨m, ⟨r, hr, hm, ?_⟩, htext, hoffset⟩
    intro j hj r' m' hr' hm'
    exact default_text_ne hj hr' hr hm' hm

/-- Every default rule can be applied to every text. -/
lemma default_search_eq_ok (cs : List Char) :
    ∀ r ∈ default.rules, ∃ found, r.search (Text.ofChars cs) = .ok found := by
  have hprepared : ∀ r ∈ default.rules, ∃ regex, r.regex = some regex :=
    (default_forall_regex_iff (P := fun x => ∃ regex, x = some regex)).mpr fun regex _ => ⟨regex, rfl⟩
  intro r hr
  obtain ⟨regex, hregex⟩ := hprepared r hr
  unfold Rule.search
  rw [hregex, Text.encode_ofChars]
  exact ⟨_, rfl⟩

/-- A default rule finds something in a text when its expression is found there. -/
lemma exists_default_search {c : Category} {k : Nat} {regex : Regex} (h : (defaultRegexesOf c)[k]? = some regex)
    {cs : List Char} (hfound : regex.search cs ≠ none) :
    ∃ r m, (default.forCategory c)[k]? = some r ∧ r.search (Text.ofChars cs) = .ok (some m) := by
  obtain ⟨r, hr, hregex⟩ := exists_default_rule_at_iff.mpr h
  rw [Ne, Regex.search_eq_none_iff, not_not] at hfound
  obtain ⟨m, hm⟩ := Rule.exists_finds_iff.mpr ⟨regex, cs, hregex, rfl, hfound⟩
  exact ⟨r, m, hr, Rule.search_eq_some_iff.mpr hm⟩

/-- The violations of the default rules are listed for all texts of characters. -/
lemma exists_default_lists (cs : List Char) :
    ∃ vs, default.violations (Text.ofChars cs) = .ok vs ∧ default.Lists (Text.ofChars cs) vs := by
  obtain ⟨vs, hvs, hordered, hmem⟩ := violations_spec (default_search_eq_ok cs)
  exact ⟨vs, hvs, hordered, hmem⟩

end Registry

/-! ## The rules of a list -/

/-- The rule of a violation, given by its category and its place there. -/
def Violation.rule (v : Violation) : Category × Nat := (v.category, v.index)

/-- No rule is listed twice. -/
lemma Registry.Lists.nodup_rules {g : Registry} {text : Text} {vs : List Violation} (h : g.Lists text vs) :
    (vs.map Violation.rule).Nodup := by
  refine List.pairwise_map.mpr (h.ordered.imp ?_)
  intro v w hbefore heq
  obtain ⟨hcategory, hindex⟩ := Prod.mk.inj heq
  rcases hbefore with hplace | ⟨-, hlt⟩
  · rw [hcategory] at hplace
    omega
  · omega

/-- The default rules that are listed are those that find something. -/
lemma Registry.Lists.mem_rules_iff {text : Text} {vs : List Violation} (h : Registry.default.Lists text vs)
    {c : Category} {k : Nat} :
    (c, k) ∈ vs.map Violation.rule ↔ ∃ r m, (Registry.default.forCategory c)[k]? = some r ∧ r.Finds text m := by
  rw [List.mem_map]
  constructor
  · rintro ⟨v, hv, heq⟩
    obtain ⟨rfl, rfl⟩ := Prod.mk.inj heq
    obtain ⟨r, m, hr, hm, -⟩ := default_reports_iff.mp ((h.mem_iff v).mp hv)
    exact ⟨r, m, hr, hm⟩
  · rintro ⟨r, m, hr, hm⟩
    refine ⟨⟨c, k, m.text, m.start⟩, (h.mem_iff _).mpr ?_, rfl⟩
    exact default_reports_iff.mpr ⟨r, m, hr, hm, rfl, rfl⟩

/-! ## Violations up to case -/

/-- The violation with a blank for each character of its text. -/
def Violation.blotted (v : Violation) : Violation := { v with text := List.replicate v.text.length ' ' }

private lemma Violation.blotted_eq_iff {v w : Violation} :
    v.blotted = w.blotted ↔
      v.category = w.category ∧ v.index = w.index ∧ v.offset = w.offset ∧ v.text.length = w.text.length := by
  unfold blotted
  rw [Violation.mk.injEq, List.replicate_left_inj]
  tauto

section Recased

variable {cs ds : List Char}

private lemma Regex.search_recased {regex : Regex} (hblind : ∀ s ∈ regex.sets, s.caseBlind = true)
    (hsame : cs.map Char.toLower = ds.map Char.toLower) : regex.search cs = regex.search ds := by
  rw [← search_map_toLower hblind cs, hsame, search_map_toLower hblind ds]

/-- A rule that is blind to case finds as much at the same place when the case of letters is changed. -/
lemma Rule.Finds.recased {r : Rule} (hblind : ∀ regex, r.regex = some regex → ∀ s ∈ regex.sets, s.caseBlind = true)
    (hsame : cs.map Char.toLower = ds.map Char.toLower) {m : Match} (h : r.Finds (Text.ofChars cs) m) :
    ∃ m', r.Finds (Text.ofChars ds) m' ∧ m'.start = m.start ∧ m'.text.length = m.text.length := by
  obtain ⟨regex, u, v, hregex, htext, hstart, -, hfirst⟩ := h
  obtain rfl := Text.ofChars_injective htext
  have hfound := Regex.search_eq_some_iff.mpr ⟨u, m.text, v, rfl, rfl, rfl, hfirst⟩
  rw [Regex.search_recased (hblind regex hregex) hsame] at hfound
  obtain ⟨u', w', v', rfl, hu, hw, hfirst'⟩ := Regex.search_eq_some_iff.mp hfound
  refine ⟨⟨w', u'.length, u'.length + w'.length⟩, ⟨regex, u', v', hregex, rfl, rfl, rfl, hfirst'⟩, ?_, ?_⟩
  · exact hu.symm.trans hstart.symm
  · show w'.length = m.text.length
    omega

namespace Registry

private lemma default_reports_recased (hsame : cs.map Char.toLower = ds.map Char.toLower) {v : Violation}
    (h : default.Reports (Text.ofChars cs) v) : ∃ w, default.Reports (Text.ofChars ds) w ∧ w.blotted = v.blotted := by
  obtain ⟨r, m, hr, hm, htext, hoffset⟩ := default_reports_iff.mp h
  have hmem : r ∈ default.rules := (List.mem_filter.mp (List.mem_of_getElem? hr)).1
  obtain ⟨m', hm', hstart, hlength⟩ := hm.recased (fun _ => of_mem_default_rules Regex.default_caseBlind hmem) hsame
  refine ⟨⟨v.category, v.index, m'.text, m'.start⟩, default_reports_iff.mpr ⟨r, m', hr, hm', rfl, rfl⟩, ?_⟩
  rw [Violation.blotted_eq_iff, htext, hoffset]
  exact ⟨rfl, rfl, hstart, hlength⟩

/-- Up to the case of what was found, the list does not depend on case. -/
lemma Lists.map_blotted_eq (hsame : cs.map Char.toLower = ds.map Char.toLower) {vs ws : List Violation}
    (hv : default.Lists (Text.ofChars cs) vs) (hw : default.Lists (Text.ofChars ds) ws) :
    vs.map Violation.blotted = ws.map Violation.blotted := by
  -- A violation keeps its place in the order when its text is blotted.
  have hordered : ∀ {us : List Violation}, us.Pairwise Violation.Before →
      (us.map Violation.blotted).Pairwise Violation.Before := fun h => List.pairwise_map.mpr h
  refine (hordered hv.ordered).eq_of_mem_iff (hordered hw.ordered) ?_
  intro b
  simp only [List.mem_map, hv.mem_iff, hw.mem_iff]
  constructor
  · rintro ⟨v, hreports, rfl⟩
    exact default_reports_recased hsame hreports
  · rintro ⟨w, hreports, rfl⟩
    exact default_reports_recased hsame.symm hreports

end Registry

end Recased

namespace Patterns

/-- **The case of letters changes nothing, and each default rule is listed for itself.** Two texts that are the same in
small letters have lists of violations that agree one by one in the rule, the offset and the length of what was found.
A list names exactly the rules that find something, each once, and two rules of a category never find the same
text. -/
theorem default_lists_every_rule :
    (∀ cs ds : List Char, cs.map Char.toLower = ds.map Char.toLower →
      ∃ vs ws, Registry.default.violations (Text.ofChars cs) = .ok vs ∧
        Registry.default.violations (Text.ofChars ds) = .ok ws ∧
        List.Forall₂ (fun v w => v.category = w.category ∧ v.index = w.index ∧ v.offset = w.offset ∧
          v.text.length = w.text.length) vs ws) ∧
      (∀ cs : List Char, ∃ vs, Registry.default.violations (Text.ofChars cs) = .ok vs ∧
        (vs.map fun v => (v.category, v.index)).Nodup ∧
        ∀ c k, (c, k) ∈ (vs.map fun v => (v.category, v.index)) ↔
          ∃ r m, (Registry.default.forCategory c)[k]? = some r ∧ r.search (Text.ofChars cs) = .ok (some m)) ∧
      ∀ (c : Category) (j k : Nat) (r r' : Rule), (Registry.default.forCategory c)[j]? = some r →
        (Registry.default.forCategory c)[k]? = some r' → j ≠ k → ∀ (t t' : Text) (m m' : Match),
          r.search t = .ok (some m) → r'.search t' = .ok (some m') → m.text ≠ m'.text := by
  refine ⟨?_, ?_, ?_⟩
  · intro cs ds hsame
    obtain ⟨vs, hvs, hlists⟩ := Registry.exists_default_lists cs
    obtain ⟨ws, hws, hlists'⟩ := Registry.exists_default_lists ds
    refine ⟨vs, ws, hvs, hws, ?_⟩
    have hblotted := Registry.Lists.map_blotted_eq hsame hlists hlists'
    rw [← List.forall₂_eq_eq_eq, List.forall₂_map_left_iff, List.forall₂_map_right_iff] at hblotted
    exact hblotted.imp fun _ _ => Violation.blotted_eq_iff.mp
  · intro cs
    obtain ⟨vs, hvs, hlists⟩ := Registry.exists_default_lists cs
    refine ⟨vs, hvs, hlists.nodup_rules, ?_⟩
    intro c k
    simp only [Rule.search_eq_some_iff]
    exact hlists.mem_rules_iff
  · intro c j k r r' hr hr' hjk t t' m m' hm hm'
    rw [Rule.search_eq_some_iff] at hm hm'
    rcases Nat.lt_or_gt_of_ne hjk with hlt | hlt
    · exact Registry.default_text_ne hlt hr hr' hm hm'
    · exact (Registry.default_text_ne hlt hr' hr hm' hm).symm

/-- Two rules of a category that find something in one text, in capital letters and in small ones. -/
theorem default_lists_every_rule_twoCalls :
    let small := ['e', 'v', 'a', 'l', '(', 'n', 'e', 'w', ' ', 'F', 'u', 'n', 'c', 't', 'i', 'o', 'n', '(']
    let large := ['E', 'V', 'A', 'L', '(', 'N', 'E', 'W', ' ', 'F', 'U', 'N', 'C', 'T', 'I', 'O', 'N', '(']
    small.map Char.toLower = large.map Char.toLower ∧
      (∃ vs ws, Registry.default.violations (Text.ofChars small) = .ok vs ∧
        Registry.default.violations (Text.ofChars large) = .ok ws ∧
        List.Forall₂ (fun v w => v.category = w.category ∧ v.index = w.index ∧ v.offset = w.offset ∧
          v.text.length = w.text.length) vs ws) ∧
      (∃ vs, Registry.default.violations (Text.ofChars small) = .ok vs ∧
        (Category.dangerousFunctions, 0) ∈ (vs.map fun v => (v.category, v.index)) ∧
        (Category.dangerousFunctions, 1) ∈ (vs.map fun v => (v.category, v.index))) ∧
      ∃ r r' m m', (Registry.default.forCategory .dangerousFunctions)[0]? = some r ∧
        (Registry.default.forCategory .dangerousFunctions)[1]? = some r' ∧
        r.search (Text.ofChars small) = .ok (some m) ∧ r'.search (Text.ofChars large) = .ok (some m') ∧
        m.text ≠ m'.text := by
  intro small large
  obtain ⟨hcase, hrules, hdistinct⟩ := default_lists_every_rule
  have hat : (Registry.defaultRegexesOf .dangerousFunctions)[0]? = some .evalCall := rfl
  have hat' : (Registry.defaultRegexesOf .dangerousFunctions)[1]? = some .functionConstructor := rfl
  obtain ⟨r, m, hr, hm⟩ := @Registry.exists_default_search _ 0 _ hat small (by decide +kernel)
  obtain ⟨r₁, m₁, hr₁, hm₁⟩ := @Registry.exists_default_search _ 1 _ hat' small (by decide +kernel)
  obtain ⟨r', m', hr', hm'⟩ := @Registry.exists_default_search _ 1 _ hat' large (by decide +kernel)
  obtain ⟨vs, hvs, -, hlisted⟩ := hrules small
  have hsame : small.map Char.toLower = large.map Char.toLower := by decide
  refine ⟨hsame, hcase small large hsame, ⟨vs, hvs, ?_, ?_⟩, r, r', m, m', hr, hr', hm, hm', ?_⟩
  · exact (hlisted _ 0).mpr ⟨r, m, hr, hm⟩
  · exact (hlisted _ 1).mpr ⟨r₁, m₁, hr₁, hm₁⟩
  · exact hdistinct _ 0 1 r r' hr hr' (by decide) _ _ m m' hm hm'

end Patterns

end ScriptVet
