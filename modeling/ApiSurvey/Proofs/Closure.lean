import ApiSurvey.Proofs.SurveyStep

/-!
# References of a catalog

A catalog is closed both ways. Main statement: each payload class that a handler of the catalog
mentions has a data shape in it, and each data shape is either the record of a class or interface
that a processed shape file declares or a placeholder for a class that a handler mentions. Both are
kept file by file, whatever goes wrong on the way: a failing file takes its groups and its shapes
with it.
-/

namespace ApiSurvey.Survey

variable {t : FileTree} {parser : Parser} {l : Locator} {mishaps : Mishaps}
  {paths : List String} {s : State} {p : String}

/-- A shape is the record of a class or interface that the shape file at a path declares. -/
def IsDeclaredAt (t : FileTree) (parser : Parser) (suffixes : List String) (path : String)
    (shape : DataShape) : Prop :=
  Shape.isShapeFile suffixes path = true ∧
    ∃ source, t.read path = .ok source ∧ (parser.tree path source).hasError = false ∧
      ∃ node ∈ Java.typeDeclarations (parser.tree path source),
        shape = DataShape.ofClass path (Java.readClass source node)

/-- A shape is declared by one of the listed files, and that file was processed. -/
def IsDeclared (t : FileTree) (parser : Parser) (suffixes paths : List String)
    (outcomes : List Outcome) (shape : DataShape) : Prop :=
  ∃ p ∈ paths, ∃ o ∈ outcomes, o.status = .processed ∧ o.path = (Path.ofString p).toString ∧
    shape.filePath = o.path ∧ IsDeclaredAt t parser suffixes o.path shape

/-- What is kept from file to file: no mention is without a shape, no shape without an origin. -/
structure Closed (t : FileTree) (parser : Parser) (suffixes paths : List String) (s : State) :
    Prop where
  mentions : ∀ g ∈ s.collection.groups, ∀ type ∈ g.payloadTypes,
    ∀ name ∈ Shape.mentionedNames suffixes type, name ∈ s.collection.shapeNames
  origins : ∀ shape ∈ s.collection.shapes,
    IsDeclared t parser suffixes paths s.outcomes shape ∨
      IsPlaceholder suffixes s.collection.groups shape

theorem isDeclaredAt_of_readFrom {suffixes : List String} {path : String} {size : Nat}
    {unit : SourceUnit} {shape : DataShape}
    (hunit : (parser.unitOfFile t path).value = .ok (size, unit))
    (h : ReadFrom suffixes path unit shape) : IsDeclaredAt t parser suffixes path shape := by
  obtain ⟨hfile, c, hc, rfl⟩ := h
  obtain ⟨source, hread, hsound, rfl⟩ := Parser.exists_of_unitOfFile hunit
  obtain ⟨node, hnode, rfl⟩ := List.mem_map.mp hc
  exact ⟨hfile, source, hread, hsound, node, hnode, rfl⟩

theorem IsDeclared.mono {suffixes : List String} {outcomes outcomes' : List Outcome}
    {shape : DataShape} (h : IsDeclared t parser suffixes paths outcomes shape)
    (hsub : outcomes ⊆ outcomes') : IsDeclared t parser suffixes paths outcomes' shape := by
  obtain ⟨p, hp, o, ho, hrest⟩ := h
  exact ⟨p, hp, o, hsub ho, hrest⟩

theorem Closed.surveyFile (h : Closed t parser l.settings.suffixes paths s) (hp : p ∈ paths) :
    Closed t parser l.settings.suffixes paths (surveyFile t parser l mishaps s p) := by
  cases hresult : resultIn t parser l mishaps s.collection p with
  | error e =>
      constructor
      · rw [collection_surveyFile, collect_of_error hresult]
        exact h.mentions
      · rw [collection_surveyFile, collect_of_error hresult, outcomes_surveyFile]
        intro shape hshape
        exact (h.origins shape hshape).imp_left fun hold ↦ hold.mono (List.subset_append_left _ _)
  | ok y =>
      obtain ⟨size, unit, hunit, rfl⟩ := exists_of_resultIn_ok hresult
      constructor
      · rw [collection_surveyFile, collect_of_ok hresult]
        intro g hg type htype name hname
        rw [mem_shapeNames_grown]
        rcases List.mem_append.mp hg with hg | hg
        · exact .inl (h.mentions g hg type htype name hname)
        · exact covered_undisturbedYield t l _ _ unit g hg type htype name hname
      · rw [collection_surveyFile, collect_of_ok hresult, outcomes_surveyFile]
        intro shape hshape
        rcases List.mem_append.mp hshape with hshape | hshape
        · exact (h.origins shape hshape).imp
            (fun hold ↦ hold.mono (List.subset_append_left _ _))
            (fun hold ↦ hold.mono (List.subset_append_left _ _))
        · have hoffered := (DataShape.newcomers_sublist _ _).subset hshape
          rcases accounted_undisturbedYield t l _ _ unit shape hoffered with hread | hplace
          · have hdeclared := isDeclaredAt_of_readFrom hunit hread
            refine .inl ⟨p, hp, outcomeIn t parser l mishaps s.collection p,
              List.mem_append_right _ (List.mem_singleton_self _),
              outcomeIn_status_of_ok hresult, outcomeIn_path _ p, ?_, ?_⟩
            · obtain ⟨-, c, -, rfl⟩ := hread
              rw [outcomeIn_path, DataShape.ofClass]
            · rw [outcomeIn_path]
              exact hdeclared
          · exact .inr (hplace.mono (List.subset_append_right _ _))

theorem closed_finish (t : FileTree) (parser : Parser) (settings : Settings) (mishaps : Mishaps)
    (scope : Scope) :
    Closed t parser settings.suffixes (begin t settings scope).1
      (finish t parser settings mishaps scope) := by
  unfold finish surveyFiles
  apply List.foldlRecOn
  · constructor
    · simp [begin_collection]
    · simp [begin_collection]
  · intro s h p hp
    exact Closed.surveyFile (l := locator t settings scope) h hp

/-- The catalog of a run has a data shape for each payload class that its handlers mention, and no
data shape but those that processed shape files declare and placeholders for mentioned classes. -/
theorem catalog_references_closed (t : FileTree) (parser : Parser) (settings : Settings)
    (now : String) (scope : Scope) (mishaps : Mishaps) :
    let run := Run.ofScope t parser settings now scope mishaps
    (∀ g ∈ run.catalog.controllers, ∀ h ∈ g.handlers, ∀ type ∈ h.payloadTypes,
      ∀ name ∈ Shape.mentionedNames settings.suffixes type,
        ∃ shape ∈ run.catalog.shapes, shape.className = name) ∧
      ∀ shape ∈ run.catalog.shapes,
        IsDeclared t parser settings.suffixes (begin t settings scope).1 run.outcomes shape ∨
          IsPlaceholder settings.suffixes run.catalog.controllers shape := by
  have hclosed := closed_finish t parser settings mishaps scope
  refine ⟨?_, hclosed.origins⟩
  intro g hg h hh type htype name hname
  have hmentioned := hclosed.mentions g hg type (List.mem_flatMap.mpr ⟨h, hh, htype⟩) name hname
  exact List.mem_map.mp hmentioned

end ApiSurvey.Survey
