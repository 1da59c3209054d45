import Mathlib.Data.List.Sort
import ScriptVet.Proofs.Analyses

/-!
# The list of violations

What the rules of a registry report about a text, without the scan that finds it out. A rule finds the first match of
its expression (`Rule.Finds`). It reports what it finds unless a rule before it in its category finds the same text
(`Registry.Reports`). The violations are what is reported, by category and then by rule, and `violations_listed` says
that the scan gives this list and no other.

The scan remembers the texts found so far. What it remembers is that of the rules before, so the induction is over the
rules of a category with any texts remembered (`scanRules_spec`), and then over the categories (`mapM_scanRules_spec`).
-/

namespace ScriptVet

/-! ## What a rule finds -/

/-- What the rule finds in a text: the first match of its expression. -/
def Rule.Finds (r : Rule) (text : Text) (m : Match) : Prop :=
  ∃ regex u v, r.regex = some regex ∧ text = Text.ofChars (u ++ (m.text ++ v)) ∧ m.start = u.length ∧
    m.stop = u.length + m.text.length ∧ regex.IsFirst u m.text v

/-- The expression of the rule matches somewhere in a text. -/
def Rule.MatchesIn (r : Rule) (text : Text) : Prop :=
  ∃ regex cs, r.regex = some regex ∧ text = Text.ofChars cs ∧ regex.MatchesIn cs

namespace Rule

/-- What a search gives is what the rule finds. -/
theorem search_eq_some_iff {r : Rule} {text : Text} {m : Match} : r.search text = .ok (some m) ↔ r.Finds text m := by
  unfold search
  constructor
  · intro h
    split at h
    · cases h
    · next regex hregex =>
      split at h
      · cases h
      · next cs hencode =>
        obtain ⟨⟨start, stop⟩, hspan, rfl⟩ := Option.map_eq_some_iff.mp (Except.ok.inj h)
        obtain ⟨u, w, v, rfl, rfl, rfl, hfirst⟩ := Regex.search_eq_some_iff.mp hspan
        have hword : ((u ++ (w ++ v)).drop u.length).take (u.length + w.length - u.length) = w := by simp
        exact ⟨regex, u, v, hregex, by dsimp only; rw [hword]; exact Text.encode_eq_ok_iff.mp hencode, rfl,
          by dsimp only; rw [hword], by dsimp only; rw [hword]; exact hfirst⟩
  · rintro ⟨regex, u, v, hregex, rfl, hstart, hstop, hfirst⟩
    obtain ⟨word, start, stop⟩ := m
    dsimp only at hstart hstop hfirst ⊢
    subst hstart hstop
    rw [hregex, Text.encode_ofChars]
    dsimp only
    rw [Regex.search_eq_some_iff.mpr ⟨u, word, v, rfl, rfl, rfl, hfirst⟩]
    simp

/-- A rule finds one thing in a text at most. -/
theorem Finds.unique {r : Rule} {text : Text} {m m' : Match} (h : r.Finds text m) (h' : r.Finds text m') : m = m' := by
  have hsame : (Except.ok (some m) : Except RuleError (Option Match)) = .ok (some m') :=
    (search_eq_some_iff.mpr h).symm.trans (search_eq_some_iff.mpr h')
  exact Option.some.inj (Except.ok.inj hsame)

private lemma not_finds_of_search {r : Rule} {text : Text} (h : r.search text = .ok none) (m : Match) : ¬ r.Finds text m := by
  intro hfinds
  rw [search_eq_some_iff.mpr hfinds] at h
  cases h

/-- A rule finds something where it matches. -/
theorem exists_finds_iff {r : Rule} {text : Text} : (∃ m, r.Finds text m) ↔ r.MatchesIn text := by
  constructor
  · rintro ⟨m, regex, u, v, hregex, htext, -, -, hfirst⟩
    exact ⟨regex, _, hregex, htext, u, m.text, v, rfl, hfirst.matches_word⟩
  · rintro ⟨regex, cs, hregex, rfl, hmatch⟩
    cases hsearch : regex.search cs with
    | none => exact absurd hmatch ((Regex.search_eq_none_iff regex cs).mp hsearch)
    | some span =>
      obtain ⟨start, stop⟩ := span
      obtain ⟨u, w, v, rfl, rfl, rfl, hfirst⟩ := Regex.search_eq_some_iff.mp hsearch
      exact ⟨⟨w, u.length, u.length + w.length⟩, regex, u, v, hregex, rfl, rfl, rfl, hfirst⟩

/-- What is found stands in the text at its place. -/
theorem Finds.slice {r : Rule} {text : Text} {m : Match} (h : r.Finds text m) :
    (text.drop m.start).take m.text.length = Text.ofChars m.text := by
  obtain ⟨regex, u, v, -, rfl, hstart, -, -⟩ := h
  have hlength : ∀ cs : List Char, (Text.ofChars cs).length = cs.length := fun cs => List.length_map ..
  rw [hstart, Text.ofChars_append, Text.ofChars_append, ← hlength u, List.drop_left, ← hlength m.text, List.take_left]

end Rule

/-! ## What a category reports -/

namespace Registry

section Scan

variable {category : Category} {text : Text} {index : Nat} {seen : List (List Char)} {r : Rule} {rest : List Rule}
  {m : Match} {v : Violation}

/-- The rule at a place finds something, and no rule before it finds the same text. -/
def FirstToFind (rules : List Rule) (text : Text) (k : Nat) (m : Match) : Prop :=
  ∃ r, rules[k]? = some r ∧ r.Finds text m ∧
    ∀ j < k, ∀ r' m', rules[j]? = some r' → r'.Finds text m' → m'.text ≠ m.text

private lemma firstToFind_zero : FirstToFind (r :: rest) text 0 m ↔ r.Finds text m := by
  simp [FirstToFind]

/-- A later rule is the first to find a text when the one before does not find it. -/
lemma firstToFind_succ {k : Nat} :
    FirstToFind (r :: rest) text (k + 1) m ↔
      FirstToFind rest text k m ∧ ∀ m', r.Finds text m' → m'.text ≠ m.text := by
  unfold FirstToFind
  constructor
  · rintro ⟨s, hs, hfinds, hbefore⟩
    refine ⟨⟨s, hs, hfinds, fun j hj r' m' hr' => ?_⟩, fun m' => ?_⟩
    · exact hbefore (j + 1) (by omega) r' m' hr'
    · exact hbefore 0 (by omega) r m' rfl
  · rintro ⟨⟨s, hs, hfinds, hbefore⟩, hfirst⟩
    refine ⟨s, hs, hfinds, fun j hj r' m' hr' hm' => ?_⟩
    cases j with
    | zero =>
      obtain rfl := Option.some.inj hr'
      exact hfirst m' hm'
    | succ j => exact hbefore j (by omega) r' m' hr' hm'

/-- Some rule is the first to find a text that is found. -/
lemma exists_firstToFind {rules : List Rule} (hr : r ∈ rules) (h : r.Finds text m) :
    ∃ k m', FirstToFind rules text k m' ∧ m'.text = m.text := by
  induction rules with
  | nil => cases hr
  | cons s rest ih =>
    by_cases hs : ∃ m', s.Finds text m' ∧ m'.text = m.text
    · obtain ⟨m', hm', hsame⟩ := hs
      exact ⟨0, m', firstToFind_zero.mpr hm', hsame⟩
    · rcases List.mem_cons.mp hr with rfl | hr
      · exact absurd ⟨m, h, rfl⟩ hs
      · obtain ⟨k, m', hfirst, hsame⟩ := ih hr
        refine ⟨k + 1, m', firstToFind_succ.mpr ⟨hfirst, fun m'' hm'' heq => ?_⟩, hsame⟩
        exact hs ⟨m'', hm'', heq.trans hsame⟩

/-- What a scan of rules lists, where `index` rules came before and found the texts in `seen`. -/
def Scanned (category : Category) (text : Text) (index : Nat) (seen : List (List Char)) (rules : List Rule)
    (v : Violation) : Prop :=
  ∃ k m, FirstToFind rules text k m ∧ m.text ∉ seen ∧ v = ⟨category, index + k, m.text, m.start⟩

/-- The first rule lists what it finds, and the others list what it does not find. -/
lemma scanned_cons_iff :
    Scanned category text index seen (r :: rest) v ↔
      (∃ m, r.Finds text m ∧ m.text ∉ seen ∧ v = ⟨category, index, m.text, m.start⟩) ∨
        (Scanned category text (index + 1) seen rest v ∧ ∀ m, r.Finds text m → m.text ≠ v.text) := by
  constructor
  · rintro ⟨k, m, hfirst, hseen, rfl⟩
    cases k with
    | zero => exact Or.inl ⟨m, firstToFind_zero.mp hfirst, hseen, rfl⟩
    | succ k =>
      obtain ⟨hrest, hnot⟩ := firstToFind_succ.mp hfirst
      exact Or.inr ⟨⟨k, m, hrest, hseen, by congr 1; omega⟩, hnot⟩
  · rintro (⟨m, hm, hseen, rfl⟩ | ⟨⟨k, m, hrest, hseen, rfl⟩, hnot⟩)
    · exact ⟨0, m, firstToFind_zero.mpr hm, hseen, rfl⟩
    · exact ⟨k + 1, m, firstToFind_succ.mpr ⟨hrest, hnot⟩, hseen, by congr 1; omega⟩

private lemma scanned_cons_of_none (h : r.search text = .ok none) :
    Scanned category text index seen (r :: rest) v ↔ Scanned category text (index + 1) seen rest v := by
  have hnot := Rule.not_finds_of_search h
  rw [scanned_cons_iff]
  simp [hnot]

/-- A text that was seen before is passed over. -/
lemma scanned_cons_of_seen (h : r.Finds text m) (hseen : m.text ∈ seen) :
    Scanned category text index seen (r :: rest) v ↔ Scanned category text (index + 1) seen rest v := by
  rw [scanned_cons_iff]
  constructor
  · rintro (⟨m', hm', hnew, -⟩ | ⟨hrest, -⟩)
    · rw [← h.unique hm'] at hnew
      exact absurd hseen hnew
    · exact hrest
  · intro hrest
    refine Or.inr ⟨hrest, fun m' hm' heq => ?_⟩
    obtain ⟨k, m'', -, hnew, rfl⟩ := hrest
    rw [← h.unique hm'] at heq
    rw [heq] at hseen
    exact hnew hseen

/-- A new text is reported, and seen from then on. -/
lemma scanned_cons_of_new (h : r.Finds text m) (hseen : m.text ∉ seen) :
    Scanned category text index seen (r :: rest) v ↔
      v = ⟨category, index, m.text, m.start⟩ ∨ Scanned category text (index + 1) (m.text :: seen) rest v := by
  rw [scanned_cons_iff]
  constructor
  · rintro (⟨m', hm', -, rfl⟩ | ⟨⟨k, m', hfirst, hnew, rfl⟩, hnot⟩)
    · rw [h.unique hm']
      exact Or.inl rfl
    · refine Or.inr ⟨k, m', hfirst, fun hmem => ?_, rfl⟩
      rcases List.mem_cons.mp hmem with heq | hmem
      · exact hnot m h heq.symm
      · exact hnew hmem
  · rintro (rfl | ⟨k, m', hfirst, hnew, rfl⟩)
    · exact Or.inl ⟨m, h, hseen, rfl⟩
    · rw [List.mem_cons, not_or] at hnew
      refine Or.inr ⟨⟨k, m', hfirst, hnew.2, rfl⟩, fun m'' hm'' heq => ?_⟩
      rw [← h.unique hm''] at heq
      exact hnew.1 heq.symm

/-- A scan lists what is new in the order of the rules. -/
lemma scanRules_spec {rules : List Rule}
    (h : ∀ r ∈ rules, ∃ found, r.search text = .ok found) (index : Nat) (seen : List (List Char)) :
    ∃ vs, scanRules category text index seen rules = .ok vs ∧ vs.Pairwise (fun v w => v.index < w.index) ∧
      ∀ v, v ∈ vs ↔ Scanned category text index seen rules v := by
  induction rules generalizing index seen with
  | nil => exact ⟨[], rfl, List.Pairwise.nil, fun v => by simp [Scanned, FirstToFind]⟩
  | cons r rest ih =>
    rw [List.forall_mem_cons] at h
    obtain ⟨⟨found, hsearch⟩, hrest⟩ := h
    -- A rule that lists nothing leaves the scan of the others as it is.
    have hskip : scanRules category text index seen (r :: rest) = scanRules category text (index + 1) seen rest →
        (∀ v, Scanned category text index seen (r :: rest) v ↔ Scanned category text (index + 1) seen rest v) →
        ∃ vs, scanRules category text index seen (r :: rest) = .ok vs ∧ vs.Pairwise (fun v w => v.index < w.index) ∧
          ∀ v, v ∈ vs ↔ Scanned category text index seen (r :: rest) v := by
      intro hscan hscanned
      simp only [hscan, hscanned]
      exact ih hrest (index + 1) seen
    cases found with
    | none =>
      refine hskip ?_ fun v => scanned_cons_of_none hsearch
      rw [scanRules, hsearch]
      rfl
    | some m =>
      have hfinds := Rule.search_eq_some_iff.mp hsearch
      by_cases hseen : m.text ∈ seen
      · refine hskip ?_ fun v => scanned_cons_of_seen hfinds hseen
        rw [scanRules, hsearch]
        exact if_pos (List.contains_iff_mem.mpr hseen)
      · obtain ⟨vs, hscan, hordered, hmem⟩ := ih hrest (index + 1) (m.text :: seen)
        refine ⟨⟨category, index, m.text, m.start⟩ :: vs, ?_, ?_, fun v => ?_⟩
        · rw [scanRules, hsearch]
          refine (if_neg fun hc => hseen (List.contains_iff_mem.mp hc)).trans ?_
          exact Steps.bind_eq_ok_iff.mpr ⟨vs, hscan, rfl⟩
        · refine List.Pairwise.cons (fun w hw => ?_) hordered
          obtain ⟨k, m', -, -, rfl⟩ := (hmem w).mp hw
          show index < index + 1 + k
          omega
        · rw [List.mem_cons, hmem, scanned_cons_of_new hfinds hseen]

end Scan

/-! ## What a registry reports -/

/-- What is reported: a rule of the category finds it, and no rule before it in the category finds the same text. -/
def Reports (g : Registry) (text : Text) (v : Violation) : Prop :=
  ∃ m, FirstToFind (g.forCategory v.category) text v.index m ∧ v.text = m.text ∧ v.offset = m.start

private lemma scanned_iff_reports {g : Registry} {category : Category} {text : Text} {v : Violation} :
    Scanned category text 0 [] (g.forCategory category) v ↔ v.category = category ∧ g.Reports text v := by
  constructor
  · rintro ⟨k, m, hfirst, -, rfl⟩
    refine ⟨rfl, m, ?_, rfl, rfl⟩
    rw [Nat.zero_add]
    exact hfirst
  · obtain ⟨c, k, word, offset⟩ := v
    rintro ⟨rfl, m, hfirst, rfl, rfl⟩
    exact ⟨k, m, hfirst, List.not_mem_nil, by rw [Nat.zero_add]⟩

end Registry

/-- The place of a category in the order in which they are gone through. -/
def Category.place (c : Category) : Nat :=
  Category.all.idxOf c

/-- The order of violations: by category and then by rule. -/
def Violation.Before (v w : Violation) : Prop :=
  v.category.place < w.category.place ∨ v.category = w.category ∧ v.index < w.index

namespace Registry

/-- The scans of the categories list what the rules of these categories report, in the order of violations. -/
lemma mapM_scanRules_spec {g : Registry} {text : Text} (h : ∀ r ∈ g.rules, ∃ found, r.search text = .ok found)
    {categories : List Category} (hplaces : categories.Pairwise fun c d => c.place < d.place) :
    ∃ found, (categories.map fun c => (c, g.forCategory c)).mapM
        (fun (c, rules) => scanRules c text 0 [] rules) = .ok found ∧
      found.flatten.Pairwise Violation.Before ∧
      ∀ v, v ∈ found.flatten ↔ v.category ∈ categories ∧ g.Reports text v := by
  induction hplaces with
  | nil => exact ⟨[], rfl, List.Pairwise.nil, fun v => by simp⟩
  | @cons c rest hplace _ ih =>
    obtain ⟨found, hfound, hordered, hmem⟩ := ih
    have hrules : ∀ r ∈ g.forCategory c, ∃ found, r.search text = .ok found :=
      fun r hr => h r (List.mem_filter.mp hr).1
    obtain ⟨vs, hscan, hindexes, hlisted⟩ := @Registry.scanRules_spec c text _ hrules 0 []
    have hreports : ∀ v, v ∈ vs ↔ v.category = c ∧ g.Reports text v :=
      fun v => (hlisted v).trans scanned_iff_reports
    refine ⟨vs :: found, ?_, ?_, fun v => ?_⟩
    · rw [List.map_cons, List.mapM_cons]
      exact Steps.bind_eq_ok_iff.mpr ⟨vs, hscan, Steps.bind_eq_ok_iff.mpr ⟨found, hfound, rfl⟩⟩
    · rw [List.flatten_cons, List.pairwise_append]
      refine ⟨hindexes.imp_of_mem fun hv hw hlt => Or.inr ⟨?_, hlt⟩, hordered, fun v hv w hw => Or.inl ?_⟩
      · exact ((hreports _).mp hv).1.trans ((hreports _).mp hw).1.symm
      · rw [((hreports v).mp hv).1]
        exact hplace _ ((hmem w).mp hw).1
    · rw [List.flatten_cons, List.mem_append, hreports, hmem, List.mem_cons, or_and_right]

/-- The violations are what the rules report, in the order of violations. -/
theorem violations_spec {g : Registry} {text : Text} (h : ∀ r ∈ g.rules, ∃ found, r.search text = .ok found) :
    ∃ vs, g.violations text = .ok vs ∧ vs.Pairwise Violation.Before ∧ ∀ v, v ∈ vs ↔ g.Reports text v := by
  have hplaces : Category.all.Pairwise fun c d => c.place < d.place := by decide
  obtain ⟨found, hfound, hordered, hmem⟩ := mapM_scanRules_spec h hplaces
  have hall : ∀ c : Category, c ∈ Category.all := fun c => by cases c <;> simp [Category.all]
  refine ⟨found.flatten, Steps.bind_eq_ok_iff.mpr ⟨found, hfound, rfl⟩, hordered, fun v => ?_⟩
  rw [hmem]
  exact and_iff_right (hall v.category)

end Registry

instance : Std.Irrefl Violation.Before where
  irrefl v h := by
    rcases h with h | ⟨-, h⟩
    · exact Nat.lt_irrefl _ h
    · exact Nat.lt_irrefl _ h

instance : Std.Antisymm Violation.Before where
  antisymm v w h h' := by
    rcases h with h | ⟨hc, h⟩ <;> rcases h' with h' | ⟨hc', h'⟩
    · omega
    · rw [hc'] at h
      omega
    · rw [hc] at h'
      omega
    · omega

namespace Registry

/-- What is reported stands in the text at its offset. -/
theorem Reports.slice {g : Registry} {text : Text} {v : Violation} (h : g.Reports text v) :
    (text.drop v.offset).take v.text.length = Text.ofChars v.text := by
  obtain ⟨m, ⟨r, -, hfinds, -⟩, htext, hoffset⟩ := h
  rw [htext, hoffset]
  exact hfinds.slice

/-- A category does not report a text twice. -/
lemma Reports.text_ne {g : Registry} {text : Text} {v w : Violation} (hv : g.Reports text v) (hw : g.Reports text w)
    (hcategory : v.category = w.category) (h : v.index < w.index) : v.text ≠ w.text := by
  obtain ⟨m, ⟨r, hr, hfinds, -⟩, htext, -⟩ := hv
  obtain ⟨m', ⟨r', -, -, hbefore⟩, htext', -⟩ := hw
  rw [hcategory] at hr
  rw [htext, htext']
  exact hbefore v.index h r m hr hfinds

/-- What a rule finds is reported in its category. -/
lemma exists_reports {g : Registry} {text : Text} {r : Rule} (hr : r ∈ g.rules) {m : Match} (h : r.Finds text m) :
    ∃ v, g.Reports text v ∧ v.category = r.category ∧ v.text = m.text := by
  have hmem : r ∈ g.forCategory r.category := List.mem_filter.mpr ⟨hr, by simp⟩
  obtain ⟨k, m', hfirst, hsame⟩ := exists_firstToFind hmem h
  exact ⟨⟨r.category, k, m'.text, m'.start⟩, ⟨m', hfirst, rfl, rfl⟩, rfl, hsame⟩

end Registry

/-- A list of violations: what the rules report, in the order of violations. -/
structure Registry.Lists (g : Registry) (text : Text) (vs : List Violation) : Prop where
  ordered : vs.Pairwise Violation.Before
  mem_iff : ∀ v, v ∈ vs ↔ g.Reports text v

/-- There is one list of what is reported. -/
theorem Registry.Lists.unique {g : Registry} {text : Text} {vs ws : List Violation} (hv : g.Lists text vs)
    (hw : g.Lists text ws) : vs = ws :=
  hv.ordered.eq_of_mem_iff hw.ordered fun v => (hv.mem_iff v).trans (hw.mem_iff v).symm

/-- In the order of violations the texts of a category are distinct. -/
lemma Registry.Lists.texts_ne {g : Registry} {text : Text} {vs : List Violation} (h : g.Lists text vs) :
    vs.Pairwise fun v w => v.category = w.category → v.text ≠ w.text := by
  refine h.ordered.imp_of_mem fun {v w} hv hw hbefore hcategory => ?_
  rcases hbefore with hplace | ⟨-, hindex⟩
  · rw [hcategory] at hplace
    omega
  · exact Reports.text_ne ((h.mem_iff v).mp hv) ((h.mem_iff w).mp hw) hcategory hindex

namespace Patterns

/-- A script passes when no rule matches in it. -/
theorem valid_iff {g : Registry} {text : Text} (h : ∀ r ∈ g.rules, ∃ found, r.search text = .ok found) :
    (analyze g text).value.valid = true ↔ ∀ r ∈ g.rules, ¬ r.MatchesIn text := by
  rw [Verdict.valid, List.isEmpty_iff, analyze_errors_eq_nil_iff]
  refine forall₂_congr fun r hr => ?_
  obtain ⟨found, hsearch⟩ := h r hr
  rw [← Rule.exists_finds_iff, not_exists]
  constructor
  · exact Rule.not_finds_of_search
  · intro hnot
    cases found with
    | none => exact hsearch
    | some m => exact absurd (Rule.search_eq_some_iff.mp hsearch) (hnot m)

/-- **The violations are one list.** Where all rules can be applied, they are listed by category and then by rule: a
rule is listed when it finds something whose text no rule before it in its category finds, with the text of its first
match and the place where it stands. So a category lists no text twice, each category lists all texts that its rules
find, the errors are those of the list in its order, and a script is valid exactly when no rule matches in it. -/
theorem violations_listed (g : Registry) (text : Text) (h : ∀ r ∈ g.rules, ∃ found, r.search text = .ok found) :
    ∃ vs, g.violations text = .ok vs ∧ (∀ ws, g.Lists text ws ↔ ws = vs) ∧
      (∀ v ∈ vs, (text.drop v.offset).take v.text.length = Text.ofChars v.text) ∧
      (vs.Pairwise fun v w => v.category = w.category → v.text ≠ w.text) ∧
      (∀ r ∈ g.rules, ∀ m, r.Finds text m → ∃ v ∈ vs, v.category = r.category ∧ v.text = m.text) ∧
      (analyze g text).value.errors = vs.map (fun v => Text.ofString v.category.description ++
        Text.ofString " (found: " ++ Text.ofChars v.text ++ Text.ofString ")") ∧
      ((analyze g text).value.valid = true ↔ ∀ r ∈ g.rules, ¬ r.MatchesIn text) := by
  obtain ⟨vs, hvs, hordered, hmem⟩ := Registry.violations_spec h
  have hlists : g.Lists text vs := ⟨hordered, hmem⟩
  refine ⟨vs, hvs, fun ws => ?_, fun v hv => ?_, hlists.texts_ne, fun r hr m hm => ?_, ?_, valid_iff h⟩
  · constructor
    · exact fun hws => hws.unique hlists
    · rintro rfl
      exact hlists
  · exact ((hmem v).mp hv).slice
  · obtain ⟨v, hv, hcategory, hsame⟩ := Registry.exists_reports hr hm
    exact ⟨v, (hmem v).mpr hv, hcategory, hsame⟩
  · rw [analyze, hvs]
    rfl

/-- Rules that find one text several times: twice in a category, and in two categories. -/
def overlapping : Registry where
  rules :=
    [(.dangerousFunctions, [(120, 120)]), (.xss, [(120, 120)]), (.dangerousFunctions, [(97, 97), (120, 120)]),
      (.dangerousFunctions, [(97, 97)])].map
    fun (category, ranges) => ⟨⟨[], category, [], []⟩, some (.set ⟨ranges⟩)⟩

theorem violations_listed_overlapping :
    (∀ r ∈ overlapping.rules, ∃ found, r.search (Text.ofString "éxa") = .ok found) ∧
      overlapping.Lists (Text.ofString "éxa")
        [⟨.dangerousFunctions, 0, ['x'], 1⟩, ⟨.dangerousFunctions, 2, ['a'], 2⟩, ⟨.xss, 0, ['x'], 1⟩] := by
  have hsearch : ∀ r ∈ overlapping.rules, ∃ found, r.search (Text.ofString "éxa") = .ok found := by
    simp only [overlapping, List.map_cons, List.map_nil, List.forall_mem_cons]
    exact ⟨⟨_, rfl⟩, ⟨_, rfl⟩, ⟨_, rfl⟩, ⟨_, rfl⟩, fun _ h => absurd h List.not_mem_nil⟩
  have hlisted : overlapping.violations (Text.ofString "éxa") =
      .ok [⟨.dangerousFunctions, 0, ['x'], 1⟩, ⟨.dangerousFunctions, 2, ['a'], 2⟩, ⟨.xss, 0, ['x'], 1⟩] := by
    rfl
  obtain ⟨vs, hvs, hlists, -⟩ := violations_listed overlapping (Text.ofString "éxa") hsearch
  exact ⟨hsearch, (hlists _).mpr (Except.ok.inj (hlisted.symm.trans hvs))⟩

end Patterns

end ScriptVet
