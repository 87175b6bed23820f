/-!
# Parts of texts
-/

namespace Workflow.Text

/-- Whether characters stand somewhere in a row among others. -/
def holds (part : List Char) : List Char → Bool
  | [] => part.isEmpty
  | c :: cs => part.isPrefixOf (c :: cs) || holds part cs

end Workflow.Text
