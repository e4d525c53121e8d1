import ApiSurvey.Route.Basic
import ApiSurvey.Shape.Basic

/-!
# Catalogs

A catalog is what a survey finds: route groups and data shapes, with totals. It is collected one
piece at a time; of data shapes with one class name the first is kept.
-/

namespace ApiSurvey

/-- The result of a survey. -/
structure Catalog where
  controllers : List RouteGroup := []
  shapes : List DataShape := []
  /-- When the survey was taken. -/
  extractedAt : String := ""
  totalMethods : Int := 0
  totalShapes : Int := 0
  deriving Repr, BEq, Inhabited

/-- The catalog of route groups and data shapes, with its totals counted. -/
def Catalog.build (extractedAt : String) (controllers : List RouteGroup)
    (shapes : List DataShape) : Catalog :=
  { controllers := controllers
    shapes := shapes
    extractedAt := extractedAt
    totalMethods := (controllers.flatMap (·.handlers)).length
    totalShapes := shapes.length }

/-- What has been collected so far. -/
structure Collection where
  groups : List RouteGroup := []
  shapes : List DataShape := []
  deriving Repr, Inhabited

namespace Collection

def shapeNames (c : Collection) : List String :=
  c.shapes.map (·.className)

def addGroup (c : Collection) (g : RouteGroup) : Collection :=
  { c with groups := c.groups ++ [g] }

def lacks (c : Collection) (s : DataShape) : Bool :=
  !c.shapeNames.contains s.className

/-- Adds a data shape at the end unless its class name is taken. -/
def addShape (c : Collection) (s : DataShape) : Collection :=
  if c.lacks s then { c with shapes := c.shapes ++ [s] } else c

/-- Adds data shapes in order and counts those that were missing. -/
def addShapes (c : Collection) (shapes : List DataShape) : Collection × Nat :=
  shapes.foldl (fun (c, n) s ↦ (c.addShape s, if c.lacks s then n + 1 else n)) (c, 0)

def toCatalog (extractedAt : String) (c : Collection) : Catalog :=
  .build extractedAt c.groups c.shapes

end Collection

end ApiSurvey
