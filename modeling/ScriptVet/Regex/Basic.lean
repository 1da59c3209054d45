import ScriptVet.Regex.CharSet

/-!
# Regular expressions

An expression is matched by what may come first. At a place in a text an expression either asks for a
character, and goes on with other expressions behind it, or is done. `heads` lists these ways in order
of preference: an alternative before the next one, one more round before the end of a repetition that
takes as much as it can.

`search` walks over the text once. It keeps the list of unfinished matches in order of preference, where an
earlier start comes before a later one and equal ways are kept once. The first match that is done
ends all those behind it. So it finds the match that starts first, and of those the preferred one, in time
proportional to the length of the text.
-/

namespace ScriptVet

/-- What holds between two characters. -/
inductive Regex.Anchor where
  | textStart
  | textEnd
  | lineStart
  | lineEnd
  | wordBoundary
  | noWordBoundary
  deriving DecidableEq

open Regex (CharSet Anchor) in
/-- A regular expression. -/
inductive Regex where
  /-- The empty text. -/
  | empty
  /-- One character of a set. -/
  | set (s : CharSet)
  /-- A condition on the place. -/
  | anchor (a : Anchor)
  /-- One expression behind another. -/
  | seq (r s : Regex)
  /-- The first expression, or else the second. -/
  | alt (r s : Regex)
  /-- An expression at least `least` times, and at most `most` times when given. A greedy repetition goes on
  while it can, and the other stops as soon as it can. -/
  | rep (least : Nat) (most : Option Nat) (greedy : Bool) (r : Regex)
  deriving DecidableEq

namespace Regex

/-! ## Places -/

/-- The characters around a place. -/
structure Around where
  before : Option Char
  after : Option Char

/-- A word character stands there. -/
def isWord (c : Option Char) : Bool := c.any CharSet.word.contains

/-- The condition holds at a place. -/
def Anchor.holds (p : Around) : Anchor → Bool
  | textStart => p.before.isNone
  | textEnd => p.after.isNone
  | lineStart => p.before.isNone || p.before = some '\n'
  | lineEnd => p.after.isNone || p.after = some '\n'
  | wordBoundary => isWord p.before != isWord p.after
  | noWordBoundary => isWord p.before == isWord p.after

/-! ## What comes first -/

/-- What comes first in a match: a character of a set with expressions to match behind it, or nothing. -/
inductive Head where
  | take (s : CharSet) (rest : List Regex)
  | done

namespace Head

/-- A character is asked for. -/
def isTake : Head → Bool
  | take _ _ => true
  | done => false

/-- Goes on with other expressions behind those of a head, and with `next` where it is done. -/
def followedBy (h : Head) (more : List Regex) (next : Unit → List Head) : List Head :=
  match h with
  | take s rest => [take s (rest ++ more)]
  | done => next ()

/-- The ways without those that are done again: what would follow them has been listed already. -/
def once : List Head → List Head
  | [] => []
  | take s rest :: hs => take s rest :: once hs
  | done :: hs => done :: hs.filter isTake

/-- One more round of a repetition or its end, as the repetition prefers. -/
def orDone (greedy : Bool) (round : List Head) : List Head := once (if greedy then round ++ [done] else done :: round)

/-- Being done is the least preferred way. -/
def endsDone (hs : List Head) : Bool := hs.getLast?.any fun h => !h.isTake

end Head

/-- The expression matches the empty text at every place. -/
def nullable : Regex → Bool
  | empty => true
  | set _ | anchor _ => false
  | seq r s => nullable r && nullable s
  | alt r s => nullable r || nullable s
  | rep least most _ r => least = 0 || (nullable r && most.all (least ≤ ·))

/-- The rounds of a repetition that are left after one. -/
def remaining (least : Nat) (most : Option Nat) (greedy : Bool) (r : Regex) : List Regex :=
  match least - 1, most.map (· - 1) with
  | 0, some 0 => []
  | least, most => [rep least most greedy r]

/-- The ways in which a repetition starts that may have some rounds and need not have any, where `round` are
those of one round. A round that takes no character leaves the others to start at the same place. When nothing
is preferred less it may as well be the last. -/
def optionalHeads (greedy : Bool) (r : Regex) (round : List Head) : Nat → List Head
  | 0 => [.done]
  | n + 1 =>
    Head.orDone greedy <| round.flatMap fun h => h.followedBy (remaining 0 (some (n + 1)) greedy r) fun _ =>
      if Head.endsDone round then [.done] else optionalHeads greedy r round n

/-- The ways in which a repetition starts. Here too a round that takes no character leaves the others to start at
the same place. It may be the last when there is no bound on the rounds, or when all of them can be empty anywhere and
nothing is preferred less. -/
def repHeads (greedy : Bool) (r : Regex) (round : List Head) : Nat → Option Nat → List Head
  | 0, none => Head.orDone greedy <| round.flatMap fun h => h.followedBy [rep 0 none greedy r] fun _ => [.done]
  | 0, some n => optionalHeads greedy r round n
  | _ + 1, some 0 => []
  | least + 1, most =>
    round.flatMap fun h => h.followedBy (remaining (least + 1) most greedy r) fun _ =>
      if nullable (rep (least + 1) most greedy r) && Head.endsDone round then [.done]
      else repHeads greedy r round least (most.map (· - 1))

/-- The ways in which an expression starts at a place, the preferred one first. -/
def heads (p : Around) : Regex → List Head
  | empty => [.done]
  | set s => [.take s []]
  | anchor a => if a.holds p then [.done] else []
  | seq r s => (heads p r).flatMap fun h => h.followedBy [s] fun _ => heads p s
  | alt r s => Head.once (heads p r ++ heads p s)
  | rep least most greedy r => repHeads greedy r (heads p r) least most

/-- The ways in which expressions start one behind another. -/
def headsAll (p : Around) : List Regex → List Head
  | [] => [.done]
  | r :: rs => (heads p r).flatMap fun h => h.followedBy rs fun _ => headsAll p rs

/-! ## Searching -/

/-- An unfinished match: where it starts, and what is still to match. -/
structure Thread where
  start : Nat
  todo : List Regex
  deriving DecidableEq

/-- The threads whose first character is `c`, in order of preference, and the start of the first thread that is
done. Threads behind a finished one are dropped. -/
def stepHeads (c : Option Char) (start : Nat) : List Head → List Thread → List Thread × Option Nat
  | [], kept => (kept, none)
  | .done :: _, kept => (kept, some start)
  | .take s todo :: rest, kept =>
    if c.any s.contains && !kept.any (fun t => t.todo = todo) then
      stepHeads c start rest (⟨start, todo⟩ :: kept)
    else stepHeads c start rest kept

/-- Moves all threads over a character. `kept` holds the threads behind it, the least preferred first. -/
def stepAll (p : Around) : List Thread → List Thread → List Thread × Option Nat
  | [], kept => (kept.reverse, none)
  | t :: ts, kept =>
    match stepHeads p.after t.start (headsAll p t.todo) kept with
    | (kept, some start) => (kept.reverse, some start)
    | (kept, none) => stepAll p ts kept

/-- Walks over the rest of a text. `found` is the best match so far; once there is one, no match starts
anew. -/
def searchFrom (r : Regex) (position : Nat) (before : Option Char) (threads : List Thread)
    (found : Option (Nat × Nat)) : List Char → Option (Nat × Nat)
  | [] =>
    let threads := if found.isNone then threads ++ [⟨position, [r]⟩] else threads
    match stepAll ⟨before, none⟩ threads [] with
    | (_, some start) => some (start, position)
    | (_, none) => found
  | c :: rest =>
    let threads := if found.isNone then threads ++ [⟨position, [r]⟩] else threads
    let (kept, done) := stepAll ⟨before, some c⟩ threads []
    let found := match done with
      | some start => some (start, position)
      | none => found
    if kept.isEmpty && found.isSome then found
    else searchFrom r (position + 1) (some c) kept found rest

/-- The first match in a text, of those that start there the preferred one: where it starts and where it
ends. -/
def search (r : Regex) (cs : List Char) : Option (Nat × Nat) := searchFrom r 0 none [] none cs

end Regex

end ScriptVet
