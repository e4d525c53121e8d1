/-!
# Document values

The values of a document: objects keep the order of their fields.
-/

namespace ApiSurvey

/-- A document value. Numbers are whole. -/
inductive Json where
  | null
  | bool (value : Bool)
  | number (value : Int)
  | string (value : String)
  | array (items : List Json)
  | object (fields : List (String × Json))
  deriving Repr, BEq, Inhabited

namespace Json

def strings (texts : List String) : Json :=
  .array (texts.map .string)

end Json

end ApiSurvey
