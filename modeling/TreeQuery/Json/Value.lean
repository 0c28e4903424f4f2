import TreeQuery.Text

/-!
# JSON values

A value as it is written: the members of an object keep their order, a key may occur twice, and a
number keeps its digits.
-/

namespace TreeQuery.Json

/-- A JSON value. -/
inductive Value where
  | null
  | bool (value : Bool)
  | number (literal : Text)
  | string (value : Text)
  | array (elements : List Value)
  | object (members : List (Text × Value))
  deriving Repr, Inhabited

end TreeQuery.Json
