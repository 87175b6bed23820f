/-!
# Places inside a value

A place is the way from a whole value to one of its parts.  Messages name the place of a problem,
except where it is the whole value.
-/

namespace Workflow

/-- One step from a value to a part of it. -/
inductive PlaceStep where
  /-- To the field of a name. -/
  | field (name : String)
  /-- To the item at an index. -/
  | item (index : Nat)
  /-- To some value of a map. -/
  | entry
  deriving DecidableEq, Repr

/-- The way from a value to a part of it. -/
abbrev Place := List PlaceStep

/-- The text of a step. -/
def PlaceStep.render : PlaceStep → String
  | .field name => "." ++ name
  | .item index => "[" ++ toString index ++ "]"
  | .entry => "[...]"

/-- The text of a place. -/
def Place.render (place : Place) : String := "$" ++ String.join (place.map PlaceStep.render)

/-- What a message says about a place. -/
def Place.remark (place : Place) : String :=
  if place.isEmpty then "" else " - at `" ++ place.render ++ "`"

end Workflow
