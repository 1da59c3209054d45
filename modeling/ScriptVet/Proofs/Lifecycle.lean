import ScriptVet.Proofs.Analyses

/-!
# The life of a parsed script

A parsed script is asked and released in steps, in any order. It has two states. Before the first release no step
changes it, so every step answers as if it were the first. From then on the tree is gone: a step that needs it fails,
and the others answer the same for ever. `lives_until_release` says so of every sequence of steps.

Code that runs between the parsing and the release is a `Block`: it may choose each step by the answers it got, and
returns or fails in the end. Whatever it does, the script is released after it.
-/

namespace ScriptVet.Script

/-! ## Steps and answers -/

/-- What can be done with a parsed script. -/
inductive Step where
  | root
  | hasFault
  | firstFault
  | checkSyntax
  | imports
  | exported
  | property (key : Text)
  | text (n : Node)
  | released
  | language
  | release

/-- What a step answers. -/
inductive Answer where
  /-- The step is done and has nothing to say. -/
  | done
  | flag (b : Bool)
  | node (n : Option Node)
  | imports (found : List Import)
  | property (found : Option Property)
  | text (cs : List Char)
  | language (l : Language)
  | failed (e : ScriptError)

/-- The answer of a step that may fail. -/
def Answer.of {α : Type} (answer : α → Answer) : Except ScriptError α → Answer
  | .ok a => answer a
  | .error e => .failed e

private lemma Answer.eq_error_of_failed {α : Type} {answer : α → Answer} (hanswer : ∀ a e, answer a ≠ .failed e)
    {x : Except ScriptError α} {e : ScriptError} (h : Answer.of answer x = .failed e) : x = .error e := by
  cases x with
  | ok a => exact absurd h (hanswer a e)
  | error e' =>
    obtain rfl := Answer.failed.inj h
    rfl

namespace Step

/-- What a step answers. -/
def answer (p : Parsed) : Step → Answer
  | root => .of (fun n => .node (some n)) p.root
  | hasFault => .of .flag p.hasFault
  | firstFault => .of .node p.firstFault?
  | checkSyntax => .of (fun _ => .done) p.checkSyntax
  | imports => .of .imports p.imports
  | exported => .of .flag p.hasExportedFunction
  | property key => .of .property (p.firstProperty? key)
  | text n => .text (p.text n)
  | released => .flag p.released
  | language => .language p.language
  | release => .done

/-- What a step leaves of a script. -/
def after (p : Parsed) : Step → Parsed
  | release => p.release
  | _ => p

/-- What a step answers once the script is released: it fails when it needs the tree. -/
def gone (l : Language) : Step → Answer
  | root | hasFault | firstFault | checkSyntax | imports | exported | property _ => .failed .released
  | text _ => .text []
  | released => .flag true
  | language => .language l
  | release => .done

private lemma after_of_ne_release {s : Step} (h : s ≠ .release) (p : Parsed) : s.after p = p := by
  cases s with
  | release => exact absurd rfl h
  | _ => rfl

/-- No step brings the tree back. -/
lemma after_released {p : Parsed} (h : p.tree = none) (s : Step) : s.after p = p := by
  cases s with
  | release =>
    show { p with tree := none } = p
    rw [← h]
  | _ => rfl

/-- A script that was released answers nothing but that. -/
lemma answer_released {p : Parsed} (h : p.tree = none) (s : Step) : s.answer p = s.gone p.language := by
  obtain ⟨l, source, tree⟩ := p
  obtain rfl : tree = none := h
  cases s <;> rfl

/-- As long as the tree is there no step misses it. -/
lemma answer_ne_released {p : Parsed} {n : Node} (h : p.tree = some n) (s : Step) :
    s.answer p ≠ .failed .released := by
  obtain ⟨l, source, tree⟩ := p
  obtain rfl : tree = some n := h
  cases s with
  | checkSyntax =>
    intro hfailed
    rcases Steps.bind_eq_error_iff.mp (Answer.eq_error_of_failed nofun hfailed) with hfault | ⟨fault, -, hthrown⟩
    · cases hfault
    · cases fault <;> cases hthrown
  | imports =>
    intro hfailed
    obtain ⟨e, -, he⟩ := Steps.mapError_eq_error_iff.mp (Answer.eq_error_of_failed nofun hfailed)
    cases he
  | _ => exact nofun

end Step

/-! ## Sequences of steps -/

namespace Parsed

/-- What steps answer one after another. -/
def answers (p : Parsed) : List Step → List Answer
  | [] => []
  | s :: steps => s.answer p :: (s.after p).answers steps

/-- What steps leave of a script. -/
def after (p : Parsed) (steps : List Step) : Parsed := steps.foldl Step.after p

/-- The answers to steps come one after another. -/
theorem answers_append (p : Parsed) (first second : List Step) :
    p.answers (first ++ second) = p.answers first ++ (p.after first).answers second := by
  induction first generalizing p with
  | nil => rfl
  | cons s first ih =>
    rw [List.cons_append, answers, ih]
    rfl

/-- Without a release nothing changes. -/
lemma after_of_not_mem {steps : List Step} (h : Step.release ∉ steps) (p : Parsed) : p.after steps = p := by
  induction steps with
  | nil => rfl
  | cons s steps ih =>
    rw [List.mem_cons, not_or] at h
    show (s.after p).after steps = p
    rw [Step.after_of_ne_release (Ne.symm h.1), ih h.2]

/-- Until it is released a script answers as it did at first. -/
lemma answers_of_not_mem {steps : List Step} (h : Step.release ∉ steps) (p : Parsed) :
    p.answers steps = steps.map (Step.answer p) := by
  induction steps with
  | nil => rfl
  | cons s steps ih =>
    rw [List.mem_cons, not_or] at h
    rw [answers, Step.after_of_ne_release (Ne.symm h.1), ih h.2, List.map_cons]

/-- Once the tree is gone every step answers as it does then. -/
lemma answers_of_released {p : Parsed} (h : p.tree = none) (steps : List Step) :
    p.answers steps = steps.map (Step.gone p.language) := by
  induction steps with
  | nil => rfl
  | cons s steps ih => rw [answers, Step.after_released h, ih, Step.answer_released h, List.map_cons]

/-- The first release parts the answers: those before it are the first answers of a script, those behind it are the
answers of a script that is gone. -/
lemma answers_of_release {before : List Step} (h : Step.release ∉ before) (p : Parsed) (later : List Step) :
    p.answers (before ++ .release :: later) =
      before.map (Step.answer p) ++ .done :: later.map (Step.gone p.language) := by
  have hgone : p.release.tree = none := rfl
  rw [answers_append, answers_of_not_mem h, after_of_not_mem h]
  show _ ++ .done :: p.release.answers later = _
  rw [answers_of_released hgone]
  rfl

lemma after_append (p : Parsed) (first second : List Step) :
    p.after (first ++ second) = (p.after first).after second := List.foldl_append

/-- Once the tree is gone nothing changes any more. -/
lemma after_of_released {p : Parsed} (h : p.tree = none) (steps : List Step) : p.after steps = p := by
  induction steps with
  | nil => rfl
  | cons s steps ih =>
    show (s.after p).after steps = p
    rw [Step.after_released h, ih]

/-- A script stays as it is until it is released, and stays released then. -/
lemma after_of_release {before : List Step} (h : Step.release ∉ before) (p : Parsed) (later : List Step) :
    p.after (before ++ .release :: later) = p.release := by
  have hgone : p.release.tree = none := rfl
  rw [after_append, after_of_not_mem h]
  exact after_of_released hgone later

private lemma language_after (p : Parsed) (steps : List Step) : (p.after steps).language = p.language := by
  induction steps generalizing p with
  | nil => rfl
  | cons s steps ih =>
    have hstep : (s.after p).language = p.language := by cases s <;> rfl
    exact (ih (s.after p)).trans hstep

end Parsed

/-! ## Blocks -/

/-- Code that works on a parsed script. It takes steps, each of them chosen by the answers before, and returns or fails
in the end. -/
inductive Block (ε α : Type) where
  | finish (result : Except ε α)
  | step (s : Step) (next : Answer → Block ε α)

namespace Block

variable {ε α : Type}

/-- Runs a block. It gives what the block returns or fails with, and what it leaves of the script. -/
def run : Block ε α → Parsed → Except ε α × Parsed
  | finish result, p => (result, p)
  | step s next, p => (next (s.answer p)).run (s.after p)

/-- The steps that a block takes. -/
def steps : Block ε α → Parsed → List Step
  | finish _, _ => []
  | step s next, p => s :: (next (s.answer p)).steps (s.after p)

/-- A block leaves what its steps leave. -/
lemma run_snd (block : Block ε α) (p : Parsed) : (block.run p).2 = p.after (block.steps p) := by
  induction block generalizing p with
  | finish result => rfl
  | step s next ih => exact ih (s.answer p) (s.after p)

end Block

namespace Parsed

/-- **A parsed script lives until it is released.** Every text with a UTF-8 form in a known language is parsed. Up to the
first release each step answers as on the script when it was new, and none of them misses the tree. From then on each
step that needs the tree fails, the texts of nodes are empty, and nothing changes any more. After a block the script
is released in every case, and what the block returned or failed with comes out. -/
theorem lives_until_release (parse : Parser) (l : Language) (source : List Char) :
    ∃ fresh, ofSource parse (Text.ofChars source) (Text.ofString l.name) = .ok fresh ∧
      fresh.language = l ∧ fresh.released = false ∧
      (∀ s : Step, s.answer fresh ≠ .failed .released) ∧ (∀ n, fresh.text n = n.span.slice source) ∧
      -- sequences of steps
      (∀ steps, (fresh.after steps).language = l) ∧
      (∀ steps, Step.release ∉ steps →
        fresh.answers steps = steps.map (Step.answer fresh) ∧ fresh.after steps = fresh) ∧
      (∀ before later, Step.release ∉ before →
        fresh.answers (before ++ .release :: later) =
            before.map (Step.answer fresh) ++ .done :: later.map (Step.gone l) ∧
          fresh.after (before ++ .release :: later) = fresh.release) ∧
      -- blocks
      ∀ (ε α : Type) (block : Block ε α),
        (fresh.during block.run).1 = (block.run fresh).1 ∧
          (fresh.during block.run).2.released = true ∧
          ∀ later, (fresh.during block.run).2.answers later = later.map (Step.gone l) := by
  refine ⟨⟨l, source, some (parse l source)⟩, ofSource_eq_ok_iff.mpr ⟨l, source, rfl, rfl, rfl⟩, rfl, rfl,
    Step.answer_ne_released rfl, fun n => rfl, fun steps => language_after _ steps, ?_, ?_, ?_⟩
  · intro steps hsteps
    exact ⟨answers_of_not_mem hsteps _, after_of_not_mem hsteps _⟩
  · intro before later hbefore
    exact ⟨answers_of_release hbefore _ later, after_of_release hbefore _ later⟩
  · intro ε α block
    generalize hfresh : (⟨l, source, some (parse l source)⟩ : Parsed) = fresh
    have hleft : (fresh.during block.run).2 = (fresh.after (block.steps fresh)).release :=
      congrArg release (block.run_snd fresh)
    have hgone : (fresh.during block.run).2.tree = none := by rw [hleft]; rfl
    have hlanguage : (fresh.during block.run).2.language = l := by
      rw [hleft]
      show (fresh.after (block.steps fresh)).language = l
      rw [language_after, ← hfresh]
    refine ⟨rfl, ?_, fun later => ?_⟩
    · rw [released, hgone]
      rfl
    · rw [answers_of_released hgone, hlanguage]

end Parsed

end ScriptVet.Script
