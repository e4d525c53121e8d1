import ApiSurvey.Proofs.YieldContent

/-!
# One file after the other

What the survey of one file does to the state of a run: a file that fails adds its outcome and
nothing else, a file that is processed adds its route groups and the newcomers among its shapes, and
its outcome counts both. What becomes of a file depends on what is collected alone, so a run is
these steps from the empty collection, with one outcome for each of them.
-/

namespace ApiSurvey.Survey

/-- A collection with a yield added to it. -/
def grown (c : Collection) (y : Yield) : Collection :=
  { groups := c.groups ++ y.groups
    shapes := c.shapes ++ DataShape.newcomers c.shapeNames y.shapes }

theorem shapeNames_grown (c : Collection) (y : Yield) :
    (grown c y).shapeNames =
      c.shapeNames ++ (DataShape.newcomers c.shapeNames y.shapes).map (·.className) := by
  simp [grown, Collection.shapeNames]

theorem mem_shapeNames_grown {c : Collection} {y : Yield} {name : String} :
    name ∈ (grown c y).shapeNames ↔ name ∈ c.shapeNames ∨ name ∈ y.shapes.map (·.className) := by
  rw [shapeNames_grown, List.mem_append, DataShape.mem_map_newcomers]
  tauto

theorem absorb_ok (c : Collection) (path : String) (y : Yield) :
    absorb c path (.ok y) =
      (grown c y,
        { path := path
          status := .processed
          controllers := y.groups.length
          shapes := (DataShape.newcomers c.shapeNames y.shapes).length }) := by
  simp only [absorb, Collection.foldl_addGroup, Collection.addShapes_eq]
  rfl

section Step

variable (t : FileTree) (parser : Parser) (l : Locator) (mishaps : Mishaps) (c : Collection)

/-- What the survey of the file at `p` gives when `c` is collected. -/
def resultIn (p : String) : Except Failure Yield :=
  (yieldOfFile t parser l mishaps c.shapeNames (Path.ofString p).toString).value

/-- What is collected after the file at `p`. -/
def collect (p : String) : Collection :=
  (absorb c (Path.ofString p).toString (resultIn t parser l mishaps c p)).1

/-- The outcome of the file at `p`. -/
def outcomeIn (p : String) : Outcome :=
  (absorb c (Path.ofString p).toString (resultIn t parser l mishaps c p)).2

/-- The outcomes of files that are surveyed one after the other. -/
def outcomesFrom (c : Collection) : List String → List Outcome
  | [] => []
  | p :: paths =>
      outcomeIn t parser l mishaps c p :: outcomesFrom (collect t parser l mishaps c p) paths

end Step

variable {t : FileTree} {parser : Parser} {l : Locator} {mishaps : Mishaps} {c : Collection}
  {p : String} {y : Yield} {e : Failure}

theorem collect_of_error (h : resultIn t parser l mishaps c p = .error e) :
    collect t parser l mishaps c p = c := by
  simp [collect, h, absorb]

theorem outcomeIn_of_error (h : resultIn t parser l mishaps c p = .error e) :
    outcomeIn t parser l mishaps c p =
      { path := (Path.ofString p).toString, status := .failed, message := e.message } := by
  simp [outcomeIn, h, absorb]

theorem collect_of_ok (h : resultIn t parser l mishaps c p = .ok y) :
    collect t parser l mishaps c p = grown c y := by
  simp [collect, h, absorb_ok]

theorem outcomeIn_of_ok (h : resultIn t parser l mishaps c p = .ok y) :
    outcomeIn t parser l mishaps c p =
      { path := (Path.ofString p).toString
        status := .processed
        controllers := y.groups.length
        shapes := (DataShape.newcomers c.shapeNames y.shapes).length } := by
  simp [outcomeIn, h, absorb_ok]

theorem outcomeIn_path (c : Collection) (p : String) :
    (outcomeIn t parser l mishaps c p).path = (Path.ofString p).toString := by
  cases hresult : resultIn t parser l mishaps c p with
  | error e => rw [outcomeIn_of_error hresult]
  | ok y => rw [outcomeIn_of_ok hresult]

theorem outcomeIn_status_of_ok (h : resultIn t parser l mishaps c p = .ok y) :
    (outcomeIn t parser l mishaps c p).status = .processed := by
  rw [outcomeIn_of_ok h]

theorem outcomeIn_status_ne_skipped (c : Collection) (p : String) :
    (outcomeIn t parser l mishaps c p).status ≠ .skipped := by
  cases hresult : resultIn t parser l mishaps c p with
  | error e => simp [outcomeIn_of_error hresult]
  | ok y => simp [outcomeIn_of_ok hresult]

/-- Every outcome of a run is that of one of its files, in some collection. -/
theorem exists_of_mem_outcomesFrom {c : Collection} {paths : List String} {o : Outcome}
    (h : o ∈ outcomesFrom t parser l mishaps c paths) :
    ∃ c, ∃ p ∈ paths, o = outcomeIn t parser l mishaps c p := by
  induction paths generalizing c with
  | nil => cases h
  | cons p paths ih =>
      rcases List.mem_cons.mp h with rfl | h
      · exact ⟨c, p, List.mem_cons_self .., rfl⟩
      · obtain ⟨c', p', hp', ho⟩ := ih h
        exact ⟨c', p', List.mem_cons_of_mem p hp', ho⟩

/-- What holds of the outcome of any file in any collection holds of all outcomes of a run. -/
theorem forall_mem_outcomesFrom {P : Outcome → Prop}
    (hstep : ∀ c p, P (outcomeIn t parser l mishaps c p)) (c : Collection) (paths : List String) :
    ∀ o ∈ outcomesFrom t parser l mishaps c paths, P o := by
  intro o ho
  obtain ⟨c', p, -, rfl⟩ := exists_of_mem_outcomesFrom ho
  exact hstep c' p

theorem resultIn_of_unitOfFile_error
    (h : (parser.unitOfFile t (Path.ofString p).toString).value = .error e) :
    resultIn t parser l mishaps c p = .error e := by
  rw [resultIn, value_yieldOfFile, h]
  rfl

theorem resultIn_of_unitOfFile_ok {size : Nat} {unit : SourceUnit}
    (h : (parser.unitOfFile t (Path.ofString p).toString).value = .ok (size, unit)) :
    resultIn t parser l mishaps c p =
      settle ((stages t l c.shapeNames (Path.ofString p).toString unit).findSome?
          (mishaps (Path.ofString p).toString))
        (undisturbedYield t l c.shapeNames (Path.ofString p).toString unit) := by
  rw [resultIn, value_yieldOfFile, h]
  rfl

/-- A survey that gives a result read the file and gave its undisturbed yield. -/
theorem exists_of_resultIn_ok (h : resultIn t parser l mishaps c p = .ok y) :
    ∃ size unit,
      (parser.unitOfFile t (Path.ofString p).toString).value = .ok (size, unit) ∧
        y = undisturbedYield t l c.shapeNames (Path.ofString p).toString unit := by
  cases hread : (parser.unitOfFile t (Path.ofString p).toString).value with
  | error e =>
      rw [resultIn_of_unitOfFile_error hread] at h
      cases h
  | ok read =>
      obtain ⟨size, unit⟩ := read
      rw [resultIn_of_unitOfFile_ok hread] at h
      exact ⟨size, unit, rfl, (eq_of_settle_eq_ok h).symm⟩

/-! ## From step to run -/

theorem collection_surveyFile (s : State) (p : String) :
    (surveyFile t parser l mishaps s p).collection =
      collect t parser l mishaps s.collection p := rfl

theorem outcomes_surveyFile (s : State) (p : String) :
    (surveyFile t parser l mishaps s p).outcomes =
      s.outcomes ++ [outcomeIn t parser l mishaps s.collection p] := rfl

theorem collection_surveyFiles (s : State) (paths : List String) :
    (surveyFiles t parser l mishaps s paths).collection =
      paths.foldl (collect t parser l mishaps) s.collection := by
  induction paths generalizing s with
  | nil => rfl
  | cons p paths ih => exact ih (surveyFile t parser l mishaps s p)

theorem outcomes_surveyFiles (s : State) (paths : List String) :
    (surveyFiles t parser l mishaps s paths).outcomes =
      s.outcomes ++ outcomesFrom t parser l mishaps s.collection paths := by
  induction paths generalizing s with
  | nil => exact (List.append_nil _).symm
  | cons p paths ih =>
      have hstep := ih (surveyFile t parser l mishaps s p)
      rw [outcomes_surveyFile, List.append_assoc] at hstep
      exact hstep

/-! ## Runs -/

/-- The state at the end of a run. -/
def finish (t : FileTree) (parser : Parser) (settings : Settings) (mishaps : Mishaps)
    (scope : Scope) : State :=
  surveyFiles t parser (locator t settings scope) mishaps (begin t settings scope).2
    (begin t settings scope).1

theorem begin_collection (t : FileTree) (settings : Settings) (scope : Scope) :
    (begin t settings scope).2.collection = {} := by
  cases scope with
  | directory root => rfl
  | files paths => rfl

theorem begin_files (t : FileTree) (settings : Settings) (paths : List String) :
    (begin t settings (.files paths)).1 =
      paths.filter fun p ↦ (refusal? t settings.extension p).isNone := by
  simp only [begin, sortOut]

theorem begin_directory (t : FileTree) (settings : Settings) (root : String) :
    (begin t settings (.directory root)).1 =
      t.scan settings.extension settings.pathMarker root := by
  simp only [begin]

theorem begin_directory_outcomes (t : FileTree) (settings : Settings) (root : String) :
    (begin t settings (.directory root)).2.outcomes = [] := by
  simp only [begin]

/-- The outcome of a listed file that is refused. -/
def skippedOutcome? (t : FileTree) (settings : Settings) (p : String) : Option Outcome :=
  (refusal? t settings.extension p).map fun reason ↦
    { path := p, status := .skipped, message := reason }

theorem begin_files_outcomes (t : FileTree) (settings : Settings) (paths : List String) :
    (begin t settings (.files paths)).2.outcomes =
      paths.filterMap (skippedOutcome? t settings) := by
  simp only [begin, sortOut, List.map_filterMap, Option.map_map]
  rfl

theorem status_of_mem_begin {settings : Settings} {scope : Scope} {o : Outcome}
    (h : o ∈ (begin t settings scope).2.outcomes) :
    o.status = .skipped ∧ o.controllers = 0 ∧ o.shapes = 0 := by
  cases scope with
  | directory root => simp [begin_directory_outcomes] at h
  | files paths =>
      rw [begin_files_outcomes] at h
      obtain ⟨p, -, hskipped⟩ := List.mem_filterMap.mp h
      obtain ⟨reason, -, rfl⟩ := Option.map_eq_some_iff.mp hskipped
      exact ⟨rfl, rfl, rfl⟩

/-- The files that are listed do not matter for where payload classes are looked for. -/
theorem searchRoot_files (t : FileTree) (settings : Settings) (paths paths' : List String) :
    searchRoot t settings (.files paths) = searchRoot t settings (.files paths') := by
  unfold searchRoot
  cases settings.searchRoot.filter (!·.isEmpty) <;> rfl

theorem locator_files (t : FileTree) (settings : Settings) (paths paths' : List String) :
    locator t settings (.files paths) = locator t settings (.files paths') := by
  rw [locator, locator, searchRoot_files t settings paths paths']

/-- Runs with the same search root fare alike when files are to be listed. -/
theorem troubles_congr {t t' : FileTree} {settings settings' : Settings} {scope scope' : Scope}
    (h : Locator.listing? t (searchRoot t settings scope) =
      Locator.listing? t' (searchRoot t' settings' scope')) :
    troubles t settings scope = troubles t' settings' scope' := by
  funext path stage
  unfold troubles
  rw [h]

theorem collection_finish (t : FileTree) (parser : Parser) (settings : Settings)
    (mishaps : Mishaps) (scope : Scope) :
    (finish t parser settings mishaps scope).collection =
      (begin t settings scope).1.foldl
        (collect t parser (locator t settings scope) mishaps) {} := by
  rw [finish, collection_surveyFiles, begin_collection]

theorem outcomes_finish (t : FileTree) (parser : Parser) (settings : Settings)
    (mishaps : Mishaps) (scope : Scope) :
    (finish t parser settings mishaps scope).outcomes =
      (begin t settings scope).2.outcomes ++
        outcomesFrom t parser (locator t settings scope) mishaps {} (begin t settings scope).1 := by
  rw [finish, outcomes_surveyFiles, begin_collection]

theorem catalog_ofScope (t : FileTree) (parser : Parser) (settings : Settings) (now : String)
    (scope : Scope) (mishaps : Mishaps) :
    (Run.ofScope t parser settings now scope mishaps).catalog =
      (finish t parser settings mishaps scope).collection.toCatalog now := rfl

theorem outcomes_ofScope (t : FileTree) (parser : Parser) (settings : Settings) (now : String)
    (scope : Scope) (mishaps : Mishaps) :
    (Run.ofScope t parser settings now scope mishaps).outcomes =
      (finish t parser settings mishaps scope).outcomes := rfl

end ApiSurvey.Survey
