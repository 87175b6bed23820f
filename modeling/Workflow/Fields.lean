/-!
# Named values in insertion order

A finite map from names to values that remembers the order in which the names were first written.
Writing a name again replaces its value and keeps its place.
-/

namespace Workflow.Fields

variable {α : Type _}

/-- The value of a name. -/
def get? (fields : List (String × α)) (name : String) : Option α :=
  (fields.find? (·.1 == name)).map (·.2)

/-- Whether a name has a value. -/
def contains (fields : List (String × α)) (name : String) : Bool := fields.any (·.1 == name)

/-- The names in order. -/
def names (fields : List (String × α)) : List String := fields.map (·.1)

/-- Gives a name a value. -/
def put (fields : List (String × α)) (name : String) (value : α) : List (String × α) :=
  match fields with
  | [] => [(name, value)]
  | (n, v) :: rest => if n == name then (n, value) :: rest else (n, v) :: put rest name value

/-- Writes all of `more`, in its order, over `fields`. -/
def putAll (fields more : List (String × α)) : List (String × α) :=
  more.foldl (fun fs (n, v) => put fs n v) fields

/-- The map written by a list of pairs: of two pairs with one name the later value counts, at the
earlier place. -/
def ofPairs (pairs : List (String × α)) : List (String × α) := putAll [] pairs

end Workflow.Fields
