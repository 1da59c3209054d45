/-!
# Sets of characters

A set of characters is a list of ranges of code points. The order of the ranges does not matter, except
that `complement` wants them sorted, which `normalize` sees to.
-/

namespace ScriptVet.Regex

/-- The last code point. -/
def lastCode : Nat := 0x10FFFF

/-- A set of characters: the code points of its ranges, both ends included. -/
structure CharSet where
  ranges : List (Nat × Nat)
  deriving DecidableEq, Inhabited

namespace CharSet

/-- A character belongs to the set. -/
def contains (s : CharSet) (c : Char) : Bool :=
  s.ranges.any fun (lo, hi) => lo ≤ c.toNat && c.toNat ≤ hi

/-- The set of one character. -/
def single (n : Nat) : CharSet := ⟨[(n, n)]⟩

/-- All characters. -/
def all : CharSet := ⟨[(0, lastCode)]⟩

/-- The members of both sets. -/
def union (s t : CharSet) : CharSet := ⟨s.ranges ++ t.ranges⟩

/-- Puts a range in its place among sorted ranges. -/
def place (r : Nat × Nat) : List (Nat × Nat) → List (Nat × Nat)
  | [] => [r]
  | q :: rest => if r.1 ≤ q.1 then r :: q :: rest else q :: place r rest

/-- Joins a range with sorted ranges behind it that touch or overlap. -/
def mergeFrom (r : Nat × Nat) : List (Nat × Nat) → List (Nat × Nat)
  | [] => [r]
  | q :: rest => if q.1 ≤ r.2 + 1 then mergeFrom (r.1, max r.2 q.2) rest else r :: mergeFrom q rest

/-- Joins sorted ranges that touch or overlap. -/
def merge : List (Nat × Nat) → List (Nat × Nat)
  | [] => []
  | r :: rest => mergeFrom r rest

/-- The same set with sorted ranges that do not touch. -/
def normalize (s : CharSet) : CharSet := ⟨merge (s.ranges.foldr place [])⟩

/-- The gaps between sorted ranges, from a code point on. -/
def gaps (first : Nat) : List (Nat × Nat) → List (Nat × Nat)
  | [] => if first ≤ lastCode then [(first, lastCode)] else []
  | (a, b) :: rest => if first < a then (first, a - 1) :: gaps (b + 1) rest else gaps (b + 1) rest

/-- The characters outside the set. -/
def complement (s : CharSet) : CharSet := ⟨gaps 0 s.normalize.ranges⟩

/-! ## Named sets -/

/-- The decimal digits. -/
def digit : CharSet := ⟨[(0x30, 0x39)]⟩

/-- The blanks: tab, line feed, form feed, carriage return and space. -/
def space : CharSet := ⟨[(9, 10), (12, 13), (0x20, 0x20)]⟩

/-- The characters of words: ASCII letters, digits and the underscore. -/
def word : CharSet := ⟨[(0x30, 0x39), (0x41, 0x5A), (0x5F, 0x5F), (0x61, 0x7A)]⟩

/-- The sets with a name, as in `[:alpha:]`. -/
def named? (name : String) : Option CharSet :=
  match name with
  | "alnum" => some ⟨[(0x30, 0x39), (0x41, 0x5A), (0x61, 0x7A)]⟩
  | "alpha" => some ⟨[(0x41, 0x5A), (0x61, 0x7A)]⟩
  | "ascii" => some ⟨[(0, 0x7F)]⟩
  | "blank" => some ⟨[(9, 9), (0x20, 0x20)]⟩
  | "cntrl" => some ⟨[(0, 0x1F), (0x7F, 0x7F)]⟩
  | "digit" => some digit
  | "graph" => some ⟨[(0x21, 0x7E)]⟩
  | "lower" => some ⟨[(0x61, 0x7A)]⟩
  | "print" => some ⟨[(0x20, 0x7E)]⟩
  | "punct" => some ⟨[(0x21, 0x2F), (0x3A, 0x40), (0x5B, 0x60), (0x7B, 0x7E)]⟩
  | "space" => some ⟨[(9, 13), (0x20, 0x20)]⟩
  | "upper" => some ⟨[(0x41, 0x5A)]⟩
  | "word" => some word
  | "xdigit" => some ⟨[(0x30, 0x39), (0x41, 0x46), (0x61, 0x66)]⟩
  | _ => none

end CharSet

end ScriptVet.Regex
