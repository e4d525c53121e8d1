import ApiSurvey.Route.Basic

/-!
# Data shapes

The fields of a payload class, or a placeholder for a payload class that was only mentioned.
-/

namespace ApiSurvey

structure ShapeField where
  name : String
  type : String
  validations : List String := []
  description : String := ""
  required : Bool := false
  deriving Repr, BEq, Inhabited

/-- A payload class. -/
structure DataShape where
  className : String
  fields : List ShapeField := []
  filePath : String := ""
  annotations : Annotations := []
  deriving Repr, BEq, Inhabited

end ApiSurvey
