import ScriptVet.Regex.Basic
import ScriptVet.Regex.Folding

/-!
# The text of regular expressions

The usual notation, without what would need a match to be tried again: there are no references back and no
conditions on what stands before or behind. Flags are given in the text: `(?i)` takes letters of both
cases, `(?m)` lets `^` and `$` match at lines, `(?s)` lets the dot match the end of a line, and `(?U)`
turns greedy repetitions around.
-/

namespace ScriptVet.Regex

/-- Why a text is no regular expression. The text shown is the part that is wrong. -/
inductive SyntaxError where
  | badEscape (shown : List Char)
  | badRange (shown : List Char)
  | missingBracket (shown : List Char)
  | missingParenthesis (shown : List Char)
  | unexpectedParenthesis (shown : List Char)
  | trailingBackslash
  | nothingToRepeat (shown : List Char)
  | badCount (shown : List Char)
  | doubleRepetition (shown : List Char)
  | badGroup (shown : List Char)
  | badName (shown : List Char)
  | incomplete
  deriving DecidableEq

/-- The message about a text that is no regular expression. -/
def SyntaxError.message : SyntaxError → List Char
  | badEscape s => "invalid escape sequence: ".toList ++ s
  | badRange s => "invalid character class range: ".toList ++ s
  | missingBracket s => "missing ]: ".toList ++ s
  | missingParenthesis s => "missing ): ".toList ++ s
  | unexpectedParenthesis s => "unexpected ): ".toList ++ s
  | trailingBackslash => "trailing \\".toList
  | nothingToRepeat s => "no argument for repetition operator: ".toList ++ s
  | badCount s => "invalid repetition size: ".toList ++ s
  | doubleRepetition s => "bad repetition operator: ".toList ++ s
  | badGroup s => "invalid perl operator: ".toList ++ s
  | badName s => "invalid named capture group: ".toList ++ s
  | incomplete => "invalid UTF-8".toList

/-- The flags that hold at a place of an expression. -/
structure Flags where
  foldCase : Bool := false
  lines : Bool := false
  dotAll : Bool := false
  lazy : Bool := false

/-- The characters from a place up to a later one, both given by what follows them. -/
def between (from_ upTo : List Char) : List Char := from_.take (from_.length - upTo.length)

/-- A set without regard to case, when the flags say so. -/
def Flags.apply (f : Flags) (s : CharSet) : CharSet := if f.foldCase then s.fold else s

/-! ## Escapes -/

/-- The value of a hexadecimal digit. -/
def hexValue? (c : Char) : Option Nat :=
  if '0' ≤ c && c ≤ '9' then some (c.toNat - '0'.toNat)
  else if 'a' ≤ c && c ≤ 'f' then some (c.toNat - 'a'.toNat + 10)
  else if 'A' ≤ c && c ≤ 'F' then some (c.toNat - 'A'.toNat + 10)
  else none

/-- An octal digit. -/
def isOctal (c : Char) : Bool := '0' ≤ c && c ≤ '7'

/-- The number that hexadecimal digits in braces write, behind the opening brace. `start` is the place of the
backslash. -/
def bracedHex (start : List Char) : Nat → Nat → List Char → Except SyntaxError (Nat × List Char)
  | _, _, [] => .error .incomplete
  | digits, code, c :: rest =>
    match hexValue? c with
    | some d =>
      let code := code * 16 + d
      if lastCode < code || rest.isEmpty then .error (.badEscape (between start rest))
      else bracedHex start (digits + 1) code rest
    | none =>
      if c = '}' && 0 < digits then .ok (code, rest) else .error (.badEscape (between start rest))

/-- The character behind a backslash, given by its code point. `start` is the place of the backslash. -/
def escape (start : List Char) : Except SyntaxError (Nat × List Char) :=
  match start.drop 1 with
  | [] => .error .trailingBackslash
  | c :: rest =>
    let bad (rest : List Char) : Except SyntaxError (Nat × List Char) :=
      .error (.badEscape (between start rest))
    if isOctal c then
      if c ≠ '0' && !(rest.head?.any isOctal) then bad rest
      else
        let digits := (rest.take 2).takeWhile isOctal
        let code := (c :: digits).foldl (fun n d => n * 8 + (d.toNat - '0'.toNat)) 0
        .ok (code, rest.drop digits.length)
    else
      match c with
      | 'x' =>
        match rest with
        | [] => bad rest
        | '{' :: rest => bracedHex start 0 0 rest
        | [_] => bad []
        | a :: b :: rest =>
          match hexValue? a, hexValue? b with
          | some a, some b => .ok (a * 16 + b, rest)
          | _, _ => bad rest
      | 'n' => .ok (10, rest)
      | 'r' => .ok (13, rest)
      | 't' => .ok (9, rest)
      | 'a' => .ok (7, rest)
      | 'f' => .ok (12, rest)
      | 'v' => .ok (11, rest)
      | c => if c.toNat < 0x80 && !c.isAlphanum then .ok (c.toNat, rest) else bad rest

/-- The set that a letter behind a backslash names. -/
def classEscape? (f : Flags) (c : Char) : Option CharSet :=
  match c with
  | 'd' => some (f.apply .digit)
  | 'D' => some (f.apply .digit).complement
  | 's' => some (f.apply .space)
  | 'S' => some (f.apply .space).complement
  | 'w' => some (f.apply .word)
  | 'W' => some (f.apply .word).complement
  | _ => none

/-! ## Sets in brackets -/

/-- The place of `:]` in what follows `[:`, with the name before it. -/
def className? : List Char → List Char → Option (List Char × List Char)
  | name, ':' :: ']' :: rest => some (name.reverse, rest)
  | name, c :: rest => className? (c :: name) rest
  | _, [] => none

/-- A named set at the start of a text, as in `[:alpha:]`. -/
def namedClass (f : Flags) (cs : List Char) : Except SyntaxError (Option (CharSet × List Char)) :=
  match cs with
  | '[' :: ':' :: rest =>
    match className? [] rest with
    | none => .ok none
    | some (name, after) =>
      let (negated, plain) := match name with
        | '^' :: n => (true, n)
        | n => (false, n)
      match CharSet.named? (String.ofList plain) with
      | none => .error (.badRange (between cs after))
      | some s =>
        let s := f.apply s
        .ok (some (if negated then s.complement else s, after))
  | _ => .ok none

/-- One character of a set. `whole` is the place of the opening bracket. -/
def classChar (whole cs : List Char) : Except SyntaxError (Nat × List Char) :=
  match cs with
  | [] => .error (.missingBracket whole)
  | '\\' :: _ => escape cs
  | c :: rest => .ok (c.toNat, rest)

/-- A character or a range of characters of a set. -/
def classRange (whole cs : List Char) : Except SyntaxError ((Nat × Nat) × List Char) := do
  let (lo, rest) ← classChar whole cs
  match rest with
  | '-' :: c :: more =>
    if c = ']' then return ((lo, lo), rest)
    else
      let (hi, after) ← classChar whole (c :: more)
      if hi < lo then throw (.badRange (between cs after))
      return ((lo, hi), after)
  | _ => return ((lo, lo), rest)

/-- The members of a set in brackets. The fuel bounds their number. -/
def classItems (f : Flags) (whole : List Char) :
    Nat → Bool → List (Nat × Nat) → List Char → Except SyntaxError (CharSet × List Char)
  | 0, _, _, _ => .error (.missingBracket whole)
  | _, _, _, [] => .error (.missingBracket whole)
  | fuel + 1, first, ranges, c :: rest =>
    if c = ']' && !first then .ok (⟨ranges⟩, rest)
    else do
      match ← namedClass f (c :: rest) with
      | some (s, after) => classItems f whole fuel false (ranges ++ s.ranges) after
      | none =>
        let escaped := if c = '\\' then rest.head?.bind (classEscape? f) else none
        match escaped with
        | some s => classItems f whole fuel false (ranges ++ s.ranges) (rest.drop 1)
        | none =>
          let ((lo, hi), after) ← classRange whole (c :: rest)
          classItems f whole fuel false (ranges ++ (f.apply ⟨[(lo, hi)]⟩).ranges) after

/-- A set in brackets. -/
def bracketed (f : Flags) (whole : List Char) : Except SyntaxError (CharSet × List Char) := do
  let (negated, inner) := match whole.drop 1 with
    | '^' :: rest => (true, rest)
    | rest => (false, rest)
  let (s, after) ← classItems f whole (inner.length + 1) true [] inner
  return (if negated then s.complement else s.normalize, after)

/-! ## Repetitions -/

/-- How often a repetition may be repeated. -/
def maxRepeat : Nat := 1000

/-- A number without leading zeros. -/
def count? (cs : List Char) : Option (Nat × List Char) :=
  let digits := cs.takeWhile Char.isDigit
  let rest := cs.drop digits.length
  match digits with
  | [] => none
  | '0' :: _ :: _ => none
  | _ => if 9 < digits.length then none else some (digits.foldl (fun n d => n * 10 + (d.toNat - '0'.toNat)) 0, rest)

/-- Counts in braces: a number, or a least number with perhaps a most. -/
def counts? (cs : List Char) : Option ((Nat × Option Nat) × List Char) := do
  let (least, rest) ← count? (← if cs.head? = some '{' then some (cs.drop 1) else none)
  match rest with
  | '}' :: rest => return ((least, some least), rest)
  | ',' :: '}' :: rest => return ((least, none), rest)
  | ',' :: rest =>
    let (most, rest) ← count? rest
    match rest with
    | '}' :: rest => return ((least, some most), rest)
    | _ => none
  | _ => none

/-- How often repetitions inside an expression may still be repeated. -/
def budget : Nat → Regex → Nat
  | n, rep least most _ r =>
    let times := most.getD least
    budget (if 0 < times then n / times else n) r
  | n, seq r s => min (budget n r) (budget n s)
  | n, alt r s => min (budget n r) (budget n s)
  | n, _ => n

/-! ## Groups -/

/-- What a parenthesis with a question mark opens. -/
inductive Opening where
  /-- A group, under the given flags. -/
  | group (f : Flags)
  /-- Nothing: the flags hold from here on. -/
  | flags (f : Flags)

/-- The flags behind `(?`. `start` is the place of the parenthesis, and `seen` tells whether a flag was given
since the start or the minus sign. -/
def groupFlags (start : List Char) : Bool → Bool → Flags → List Char → Except SyntaxError (Opening × List Char)
  | _, _, _, [] => .error (.badGroup start)
  | negated, seen, f, c :: rest =>
    let bad : Except SyntaxError (Opening × List Char) := .error (.badGroup (between start rest))
    match c with
    | 'i' => groupFlags start negated true { f with foldCase := !negated } rest
    | 'm' => groupFlags start negated true { f with lines := !negated } rest
    | 's' => groupFlags start negated true { f with dotAll := !negated } rest
    | 'U' => groupFlags start negated true { f with lazy := !negated } rest
    | '-' => if negated then bad else groupFlags start true false f rest
    | ':' => if negated && !seen then bad else .ok (.group f, rest)
    | ')' => if negated && !seen then bad else .ok (.flags f, rest)
    | _ => bad

/-- A name that a group may have. -/
def isGroupName (name : List Char) : Bool :=
  !name.isEmpty && name.all fun c => c.isAlphanum || c = '_' || 0x80 ≤ c.toNat

/-- What a parenthesis with a question mark opens. -/
def opening (f : Flags) (start : List Char) : Except SyntaxError (Opening × List Char) :=
  let named (skip : Nat) : Except SyntaxError (Opening × List Char) :=
    let inner := start.drop skip
    let name := inner.takeWhile (· ≠ '>')
    let after := inner.drop (name.length + 1)
    if name.length = inner.length then .error (.badName start)
    else if isGroupName name then .ok (.group f, after)
    else .error (.badName (between start after))
  match start with
  | '(' :: '?' :: '<' :: '=' :: _ :: _ | '(' :: '?' :: '<' :: '!' :: _ :: _ => .error (.badGroup (start.take 4))
  | '(' :: '?' :: 'P' :: '<' :: _ :: _ => named 4
  | '(' :: '?' :: '<' :: _ :: _ => named 3
  | _ => groupFlags start false false f (start.drop 2)

/-! ## Expressions -/

/-- An open group: the flags before it, and what stands before it in the group around it. -/
structure Frame where
  flags : Flags
  choices : List Regex
  items : List Regex

/-- The state of reading: the open groups, and the finished alternatives and the current one, each with the
last part first. -/
structure State where
  flags : Flags := {}
  frames : List Frame := []
  choices : List Regex := []
  items : List Regex := []

/-- The parts one behind another, given with the last first. -/
def sequence : List Regex → Regex
  | [] => .empty
  | r :: rest => rest.foldl (fun done r => .seq r done) r

/-- The alternatives, given with the last first. -/
def choice : List Regex → Regex
  | [] => .empty
  | r :: rest => rest.foldl (fun done r => .alt r done) r

namespace State

/-- The expression of the current group. -/
def body (s : State) : Regex := choice (sequence s.items :: s.choices)

/-- Adds a part. -/
def push (s : State) (r : Regex) : State := { s with items := r :: s.items }

/-- Adds a character. -/
def literal (s : State) (n : Nat) : State := s.push (.set (s.flags.apply (.single n)))

/-- Opens a group. -/
def enter (s : State) (f : Flags) : State :=
  { flags := f, frames := ⟨s.flags, s.choices, s.items⟩ :: s.frames }

/-- Repeats the last part. -/
def repeated (s : State) (least : Nat) (most : Option Nat) (lazy : Bool) (shown : List Char) :
    Except SyntaxError State :=
  match s.items with
  | [] => .error (.nothingToRepeat shown)
  | r :: rest => .ok { s with items := .rep least most (lazy == s.flags.lazy) r :: rest }

end State

/-- Adds the characters of a quotation, which `\E` ends. -/
def quotation (s : State) : List Char → State × List Char
  | [] => (s, [])
  | '\\' :: 'E' :: rest => (s, rest)
  | c :: rest => quotation (s.literal c.toNat) rest

/-- Reads what stands behind a backslash outside of brackets. -/
def backslash (s : State) (start : List Char) : Except SyntaxError (State × List Char) :=
  let rest := start.drop 2
  match start.drop 1 with
  | 'b' :: _ => .ok (s.push (.anchor .wordBoundary), rest)
  | 'B' :: _ => .ok (s.push (.anchor .noWordBoundary), rest)
  | 'A' :: _ => .ok (s.push (.anchor .textStart), rest)
  | 'z' :: _ => .ok (s.push (.anchor .textEnd), rest)
  | 'C' :: _ => .ok (s.push (.set .all), rest)
  | 'Q' :: _ => .ok (quotation s rest)
  | c :: _ =>
    match classEscape? s.flags c with
    | some chars => .ok (s.push (.set chars.normalize), rest)
    | none => (escape start).map fun (n, rest) => (s.literal n, rest)
  | [] => .error .trailingBackslash

/-- Reads a repetition whose counts are known, behind them. A question mark turns it around. `start` is its
place, and `last` the place of a repetition just before it. -/
def repetition (s : State) (last : Option (List Char)) (start : List Char) (least : Nat) (most : Option Nat)
    (rest : List Char) : Except SyntaxError (State × List Char) := do
  let (lazy, rest) := match rest with
    | '?' :: rest => (true, rest)
    | rest => (false, rest)
  match last with
  | some place => throw (.doubleRepetition (between place rest))
  | none =>
    let shown := between start rest
    if maxRepeat < least || maxRepeat < most.getD 0 || most.any (· < least) then throw (.badCount shown)
    let s ← s.repeated least most lazy shown
    if 2 ≤ least || 2 ≤ most.getD 0 then
      if budget maxRepeat (s.items.headD .empty) = 0 then throw (.badCount shown)
    return (s, rest)

/-- Closes a group. `whole` is the whole expression. -/
def close (whole : List Char) (s : State) : Except SyntaxError State :=
  match s.frames with
  | [] => .error (.unexpectedParenthesis whole)
  | frame :: frames =>
    .ok { flags := frame.flags, frames, choices := frame.choices, items := s.body :: frame.items }

/-- Reads an expression to its end. `last` is the place of a repetition just before, and the fuel bounds the
number of parts. -/
def parts (whole : List Char) :
    Nat → State → Option (List Char) → List Char → Except SyntaxError State
  | 0, s, _, _ => .ok s
  | _, s, _, [] => .ok s
  | fuel + 1, s, last, c :: rest =>
    let start := c :: rest
    let plain (s : State) : Except SyntaxError State := parts whole fuel s none rest
    match c with
    | '(' =>
      if rest.head? = some '?' then do
        let (o, rest) ← opening s.flags start
        match o with
        | .group f => parts whole fuel (s.enter f) none rest
        | .flags f => parts whole fuel { s with flags := f } none rest
      else plain (s.enter s.flags)
    | '|' => plain { s with choices := sequence s.items :: s.choices, items := [] }
    | ')' => do plain (← close whole s)
    | '^' => plain (s.push (.anchor (if s.flags.lines then .lineStart else .textStart)))
    | '$' => plain (s.push (.anchor (if s.flags.lines then .lineEnd else .textEnd)))
    | '.' => plain (s.push (.set (if s.flags.dotAll then .all else (CharSet.single 10).complement)))
    | '[' => do
      let (chars, rest) ← bracketed s.flags start
      parts whole fuel (s.push (.set chars)) none rest
    | '\\' => do
      let (s, rest) ← backslash s start
      parts whole fuel s none rest
    | '*' => do
      let (s, rest) ← repetition s last start 0 none rest
      parts whole fuel s (some start) rest
    | '+' => do
      let (s, rest) ← repetition s last start 1 none rest
      parts whole fuel s (some start) rest
    | '?' => do
      let (s, rest) ← repetition s last start 0 (some 1) rest
      parts whole fuel s (some start) rest
    | '{' =>
      match counts? start with
      | some ((least, most), rest) => do
        let (s, rest) ← repetition s last start least most rest
        parts whole fuel s (some start) rest
      | none => plain (s.literal c.toNat)
    | _ => plain (s.literal c.toNat)

/-- The regular expression that a text writes. -/
def parse (cs : List Char) : Except SyntaxError Regex := do
  let s ← parts cs (cs.length + 1) {} none cs
  if s.frames.isEmpty then return s.body else throw (.missingParenthesis cs)

/-- A way to make expressions ready to run. One that is rejected gives a reason. -/
abbrev Compiler := List Char → Except (List Char) Regex

/-- The compiler for the notation of `parse`. -/
def compile : Compiler := fun cs => (parse cs).mapError SyntaxError.message

end ScriptVet.Regex
