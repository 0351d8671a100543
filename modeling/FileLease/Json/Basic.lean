/-! # JSON values -/
namespace FileLease

inductive Json.Number
  | integer (n : Int)
  | float (x : Float)

inductive Json
  | null
  | boolean (b : Bool)
  | number (n : Json.Number)
  | string (s : String)
  | array (items : List Json)
  | object (members : List (String × Json))

namespace Json

def integer (n : Int) : Json :=
  .number (.integer n)

def ofOption (f : α → Json) : Option α → Json
  | none => .null
  | some a => f a

/-- The value of the last member of an object that has the given name. -/
def member? (name : String) : Json → Option Json
  | .object members => (members.reverse.find? (·.1 == name)).map (·.2)
  | _ => none

/-- Members in the order of their names; of two with one name the later counts. -/
def sortMembers (members : List (String × Json)) : List (String × Json) :=
  members.foldl insert []
where
  insert (sorted : List (String × Json)) (m : String × Json) : List (String × Json) :=
    sorted.filter (·.1 < m.1) ++ m :: sorted.filter (m.1 < ·.1)

end Json
end FileLease
