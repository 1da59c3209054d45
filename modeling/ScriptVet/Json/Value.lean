import ScriptVet.Text

/-!
# JSON values

Numbers keep the difference between an integer literal and a literal with a fraction or exponent,
and an object is the list of its members in the order in which their names first appeared.
-/

namespace ScriptVet

/-- A JSON value. -/
inductive Json where
  | null
  | bool (b : Bool)
  | int (n : Int)
  | float (x : Float)
  | str (t : Text)
  | arr (items : List Json)
  | obj (members : List (Text × Json))
  deriving Inhabited

namespace Json

mutual

/-- The integers in a value. -/
def integers : Json → List Int
  | int n => [n]
  | arr items => integersOfItems items
  | obj members => integersOfMembers members
  | _ => []

/-- The integers in items. -/
def integersOfItems : List Json → List Int
  | [] => []
  | v :: rest => integers v ++ integersOfItems rest

/-- The integers in the values of members. -/
def integersOfMembers : List (Text × Json) → List Int
  | [] => []
  | (_, v) :: rest => integers v ++ integersOfMembers rest

end

/-- The value of a member, when the members hold one of that name. -/
def lookup (name : Text) : List (Text × Json) → Option Json
  | [] => none
  | (k, v) :: rest => if k = name then some v else lookup name rest

/-- Gives a member a value: in place when the name is known, at the end otherwise. -/
def insert (name : Text) (value : Json) : List (Text × Json) → List (Text × Json)
  | [] => [(name, value)]
  | (k, v) :: rest => if k = name then (k, value) :: rest else (k, v) :: insert name value rest

/-- The member of an object with a given name. -/
def get? (name : String) : Json → Option Json
  | obj members => lookup name members
  | _ => none

instance : Coe String Json := ⟨fun s => str s⟩

/-- An object from pairs with plain names. -/
def record (members : List (String × Json)) : Json :=
  obj (members.map fun (k, v) => (Text.ofString k, v))

/-- An array of texts. -/
def texts (ts : List Text) : Json := arr (ts.map str)

end Json

end ScriptVet
