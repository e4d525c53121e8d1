import ApiSurvey.Catalog.Basic
import ApiSurvey.Json.Decoder
import ApiSurvey.Json.Printer

/-!
# The catalog as a document

Every part of a catalog is an object with a fixed order of fields. Reading accepts the fields in
any order, lets those with a default be absent, and also accepts the long spelling of each name.
-/

namespace ApiSurvey

open Decoder

def Parameter.toJson (p : Parameter) : Json :=
  .object
    [("name", .string p.name), ("type", .string p.type), ("in", .string p.location.toString),
     ("required", .bool p.required), ("validationAnnotations", .strings p.validations)]

def Handler.toJson (h : Handler) : Json :=
  .object
    [("methodName", .string h.methodName), ("httpMethod", .string h.verb.toString),
     ("path", .string h.path), ("parameters", .array (h.parameters.map Parameter.toJson)),
     ("returnType", .string h.returnType), ("exceptions", .strings h.exceptions),
     ("lineNumber", .number h.line), ("existingAnnotations", .object h.annotations)]

def RouteGroup.toJson (g : RouteGroup) : Json :=
  .object
    [("className", .string g.name), ("packageName", .string g.package),
     ("requestMapping", .string g.path), ("methods", .array (g.handlers.map Handler.toJson)),
     ("existingAnnotations", .object g.annotations)]

def ShapeField.toJson (f : ShapeField) : Json :=
  .object
    [("name", .string f.name), ("type", .string f.type),
     ("validationAnnotations", .strings f.validations), ("description", .string f.description),
     ("required", .bool f.required)]

def DataShape.toJson (s : DataShape) : Json :=
  .object
    [("className", .string s.className), ("fields", .array (s.fields.map ShapeField.toJson)),
     ("filePath", .string s.filePath), ("existingAnnotations", .object s.annotations)]

def Catalog.toJson (c : Catalog) : Json :=
  .object
    [("controllers", .array (c.controllers.map RouteGroup.toJson)),
     ("dataShapes", .array (c.shapes.map DataShape.toJson)),
     ("extractedAt", .string c.extractedAt), ("totalMethods", .number c.totalMethods),
     ("totalDataShapes", .number c.totalShapes)]

def Catalog.render (indent : Nat) (c : Catalog) : String :=
  c.toJson.render indent

def Parameter.ofJson : Decoder Parameter := fun j ↦ do
  let fs ← entries j
  return {
    name := ← need "name" "name" string fs
    type := ← need "type" "type" string fs
    location := ← withDefault "in" "location" (choice "location" Location.ofString?) .query fs
    required := ← withDefault "required" "required" bool false fs
    validations :=
      ← withDefault "validationAnnotations" "validation_annotations" (list string) [] fs }

def Handler.ofJson : Decoder Handler := fun j ↦ do
  let fs ← entries j
  return {
    methodName := ← need "methodName" "method_name" string fs
    verb := ← withDefault "httpMethod" "http_method" (choice "verb" Verb.ofString?) .get fs
    path := ← withDefault "path" "path" string "" fs
    parameters := ← withDefault "parameters" "parameters" (list Parameter.ofJson) [] fs
    returnType := ← withDefault "returnType" "return_type" string "" fs
    exceptions := ← withDefault "exceptions" "exceptions" (list string) [] fs
    line := ← withDefault "lineNumber" "line_number" int 0 fs
    annotations := ← withDefault "existingAnnotations" "existing_annotations" entries [] fs }

def RouteGroup.ofJson : Decoder RouteGroup := fun j ↦ do
  let fs ← entries j
  return {
    name := ← need "className" "name" string fs
    package := ← withDefault "packageName" "package_name" string "" fs
    path := ← withDefault "requestMapping" "request_mapping" string "" fs
    handlers := ← withDefault "methods" "handlers" (list Handler.ofJson) [] fs
    annotations := ← withDefault "existingAnnotations" "existing_annotations" entries [] fs }

def ShapeField.ofJson : Decoder ShapeField := fun j ↦ do
  let fs ← entries j
  return {
    name := ← need "name" "name" string fs
    type := ← need "type" "type" string fs
    validations :=
      ← withDefault "validationAnnotations" "validation_annotations" (list string) [] fs
    description := ← withDefault "description" "description" string "" fs
    required := ← withDefault "required" "required" bool false fs }

def DataShape.ofJson : Decoder DataShape := fun j ↦ do
  let fs ← entries j
  return {
    className := ← need "className" "class_name" string fs
    fields := ← withDefault "fields" "fields" (list ShapeField.ofJson) [] fs
    filePath := ← withDefault "filePath" "file_path" string "" fs
    annotations := ← withDefault "existingAnnotations" "existing_annotations" entries [] fs }

def Catalog.ofJson : Decoder Catalog := fun j ↦ do
  let fs ← entries j
  return {
    controllers := ← withDefault "controllers" "controllers" (list RouteGroup.ofJson) [] fs
    shapes := ← withDefault "dataShapes" "data_shapes" (list DataShape.ofJson) [] fs
    extractedAt := ← withDefault "extractedAt" "extracted_at" string "" fs
    totalMethods := ← withDefault "totalMethods" "total_methods" int 0 fs
    totalShapes := ← withDefault "totalDataShapes" "total_data_shapes" int 0 fs }

end ApiSurvey
