import ApiSurvey.Proofs.SurveyStep
import Mathlib.Algebra.GroupWithZero.Nat

/-!
# The accounts of a run

Files are counted one by one and totals are taken at the end; here both are shown to agree. Each
step adds to the collection what its outcome says, so the counts of the outcomes add up to what the
catalog holds. The shapes of a catalog are the newcomers among all the shapes that were offered in
the course of the run, so that their names are distinct and the first offer of a name is the one
that is kept.
-/

namespace ApiSurvey

/-- The path of an outcome and whether its file was skipped. -/
def Outcome.heading (o : Outcome) : String × Bool :=
  (o.path, o.status == .skipped)

namespace Survey

section Offers

variable (t : FileTree) (parser : Parser) (l : Locator) (mishaps : Mishaps)

/-- The shapes that a file offers when `c` is collected; a file that fails offers none. -/
def offered (c : Collection) (p : String) : List DataShape :=
  match resultIn t parser l mishaps c p with
  | .ok y => y.shapes
  | .error _ => []

/-- All shapes that files offer when they are surveyed one after the other, in that order. -/
def offersFrom (c : Collection) : List String → List DataShape
  | [] => []
  | p :: paths =>
      offered t parser l mishaps c p ++ offersFrom (collect t parser l mishaps c p) paths

end Offers

variable {t : FileTree} {parser : Parser} {l : Locator} {mishaps : Mishaps}

/-! ## One step -/

theorem shapes_collect (c : Collection) (p : String) :
    (collect t parser l mishaps c p).shapes =
      c.shapes ++ DataShape.newcomers c.shapeNames (offered t parser l mishaps c p) := by
  unfold offered
  cases hresult : resultIn t parser l mishaps c p with
  | error e => rw [collect_of_error hresult, DataShape.newcomers, List.append_nil]
  | ok y => rw [collect_of_ok hresult, grown]

theorem length_groups_collect (c : Collection) (p : String) :
    (collect t parser l mishaps c p).groups.length =
      c.groups.length + (outcomeIn t parser l mishaps c p).controllers := by
  cases hresult : resultIn t parser l mishaps c p with
  | error e => rw [collect_of_error hresult, outcomeIn_of_error hresult, Nat.add_zero]
  | ok y => rw [collect_of_ok hresult, outcomeIn_of_ok hresult, grown, List.length_append]

theorem length_shapes_collect (c : Collection) (p : String) :
    (collect t parser l mishaps c p).shapes.length =
      c.shapes.length + (outcomeIn t parser l mishaps c p).shapes := by
  cases hresult : resultIn t parser l mishaps c p with
  | error e => rw [collect_of_error hresult, outcomeIn_of_error hresult, Nat.add_zero]
  | ok y => rw [collect_of_ok hresult, outcomeIn_of_ok hresult, grown, List.length_append]

theorem outcomeIn_counts_of_ne_processed (c : Collection) (p : String) :
    (outcomeIn t parser l mishaps c p).status ≠ .processed →
      (outcomeIn t parser l mishaps c p).controllers = 0 ∧
        (outcomeIn t parser l mishaps c p).shapes = 0 := by
  intro hstatus
  cases hresult : resultIn t parser l mishaps c p with
  | error e => simp [outcomeIn_of_error hresult]
  | ok y => exact (hstatus (outcomeIn_status_of_ok hresult)).elim

/-! ## A list of files -/

theorem shapes_foldl_collect (c : Collection) (paths : List String) :
    (paths.foldl (collect t parser l mishaps) c).shapes =
      c.shapes ++ DataShape.newcomers c.shapeNames (offersFrom t parser l mishaps c paths) := by
  induction paths generalizing c with
  | nil => exact (List.append_nil _).symm
  | cons p paths ih =>
      have hnames : (collect t parser l mishaps c p).shapeNames = c.shapeNames ++
          (DataShape.newcomers c.shapeNames (offered t parser l mishaps c p)).map
            (·.className) := by
        rw [Collection.shapeNames, shapes_collect, List.map_append, Collection.shapeNames]
      rw [List.foldl_cons, ih, offersFrom, DataShape.newcomers_append, shapes_collect, hnames,
        List.append_assoc]

/-- A size that every step raises by a count of its outcome is raised by the sum of the counts. -/
theorem size_foldl_collect {size : Collection → Nat} {count : Outcome → Nat}
    (hstep : ∀ c p, size (collect t parser l mishaps c p) =
      size c + count (outcomeIn t parser l mishaps c p))
    (c : Collection) (paths : List String) :
    size (paths.foldl (collect t parser l mishaps) c) =
      size c + ((outcomesFrom t parser l mishaps c paths).map count).sum := by
  induction paths generalizing c with
  | nil => rfl
  | cons p paths ih =>
      rw [List.foldl_cons, ih, hstep, outcomesFrom, List.map_cons, List.sum_cons, Nat.add_assoc]

theorem map_heading_outcomesFrom (c : Collection) (paths : List String) :
    (outcomesFrom t parser l mishaps c paths).map Outcome.heading =
      paths.map fun p ↦ ((Path.ofString p).toString, false) := by
  induction paths generalizing c with
  | nil => rfl
  | cons p paths ih =>
      have hstatus : ((outcomeIn t parser l mishaps c p).status == .skipped) = false := by
        simpa using outcomeIn_status_ne_skipped c p
      rw [outcomesFrom, List.map_cons, List.map_cons, ih, Outcome.heading, outcomeIn_path, hstatus]

/-! ## A run -/

theorem sum_begin_outcomes (t : FileTree) (settings : Settings) (scope : Scope)
    {count : Outcome → Nat}
    (hcount : ∀ o : Outcome, o.controllers = 0 ∧ o.shapes = 0 → count o = 0) :
    ((begin t settings scope).2.outcomes.map count).sum = 0 := by
  rw [List.sum_eq_zero_iff_forall_eq_nat]
  intro n hn
  obtain ⟨o, ho, rfl⟩ := List.mem_map.mp hn
  exact hcount o (status_of_mem_begin ho).2

theorem map_heading_begin_files (t : FileTree) (settings : Settings) (paths : List String) :
    (begin t settings (.files paths)).2.outcomes.map Outcome.heading =
      (paths.filter fun p ↦ (refusal? t settings.extension p).isSome).map (·, true) := by
  rw [begin_files_outcomes]
  induction paths with
  | nil => rfl
  | cons p paths ih =>
      cases hrefusal : refusal? t settings.extension p with
      | none => simpa [skippedOutcome?, hrefusal] using ih
      | some reason => simpa [skippedOutcome?, hrefusal, Outcome.heading] using ih

/-- The headings of a run's outcomes: of listed files first those that are refused and then the
others, each in the order of the list; of a directory the scanned files in the order of the scan. -/
def headings (t : FileTree) (settings : Settings) : Scope → List (String × Bool)
  | .directory root =>
      (t.scan settings.extension settings.pathMarker root).map fun p ↦
        ((Path.ofString p).toString, false)
  | .files paths =>
      (paths.filter fun p ↦ (refusal? t settings.extension p).isSome).map (·, true) ++
        (paths.filter fun p ↦ (refusal? t settings.extension p).isNone).map fun p ↦
          ((Path.ofString p).toString, false)

theorem map_heading_finish (t : FileTree) (parser : Parser) (settings : Settings)
    (mishaps : Mishaps) (scope : Scope) :
    (finish t parser settings mishaps scope).outcomes.map Outcome.heading =
      headings t settings scope := by
  rw [outcomes_finish, List.map_append, map_heading_outcomesFrom]
  cases scope with
  | directory root =>
      rw [begin_directory_outcomes, begin_directory, headings, List.map_nil, List.nil_append]
  | files paths => rw [map_heading_begin_files, begin_files, headings]

/-- The paths that a run is given: those listed, or those scanned. -/
def inputs (t : FileTree) (settings : Settings) : Scope → List String
  | .directory root => t.scan settings.extension settings.pathMarker root
  | .files paths => paths

theorem length_headings (t : FileTree) (settings : Settings) (scope : Scope) :
    (headings t settings scope).length = (inputs t settings scope).length := by
  cases scope with
  | directory root => rw [headings, inputs, List.length_map]
  | files paths =>
      have hsplit := List.length_eq_length_filter_add
        (l := paths) fun p ↦ (refusal? t settings.extension p).isSome
      rw [headings, inputs, hsplit, List.length_append, List.length_map, List.length_map]
      simp

theorem count_add_count_add_count (run : Run) :
    run.count .processed + run.count .skipped + run.count .failed = run.outcomes.length := by
  unfold Run.count
  induction run.outcomes with
  | nil => rfl
  | cons o outcomes ih =>
      cases hstatus : o.status with
      | processed =>
          simp [hstatus]
          omega
      | skipped =>
          simp [hstatus]
          omega
      | failed =>
          simp [hstatus]
          omega

/-- The counts of the outcomes add up to the size of what is collected. -/
theorem sum_outcomes_finish (t : FileTree) (parser : Parser) (settings : Settings)
    (mishaps : Mishaps) (scope : Scope) (size : Collection → Nat) (count : Outcome → Nat)
    (hzero : size {} = 0)
    (hcount : ∀ o : Outcome, o.controllers = 0 ∧ o.shapes = 0 → count o = 0)
    (hstep : ∀ c p, size (collect t parser (locator t settings scope) mishaps c p) =
      size c + count (outcomeIn t parser (locator t settings scope) mishaps c p)) :
    ((finish t parser settings mishaps scope).outcomes.map count).sum =
      size (finish t parser settings mishaps scope).collection := by
  rw [outcomes_finish, collection_finish, List.map_append, List.sum_append,
    sum_begin_outcomes t settings scope hcount, size_foldl_collect hstep, hzero]

theorem shapes_finish (t : FileTree) (parser : Parser) (settings : Settings)
    (mishaps : Mishaps) (scope : Scope) :
    (finish t parser settings mishaps scope).collection.shapes =
      DataShape.newcomers [] (offersFrom t parser (locator t settings scope) mishaps {}
        (begin t settings scope).1) := by
  rw [collection_finish, shapes_foldl_collect, Collection.shapeNames, List.map_nil,
    List.nil_append]

/-- The accounts of a run: one outcome for each file, in order, each with one status, and counts
only where a file was processed; the counts add up to what the catalog holds, its totals are those
of its content, its class names are distinct and each of them stands for its first offer. -/
theorem run_accounts_agree (t : FileTree) (parser : Parser) (settings : Settings) (now : String)
    (scope : Scope) (mishaps : Mishaps) :
    let run := Run.ofScope t parser settings now scope mishaps
    run.outcomes.map Outcome.heading = headings t settings scope ∧
      run.outcomes.length = (inputs t settings scope).length ∧
      run.count .processed + run.count .skipped + run.count .failed = run.outcomes.length ∧
      (∀ o ∈ run.outcomes, o.status ≠ .processed → o.controllers = 0 ∧ o.shapes = 0) ∧
      (run.outcomes.map (·.controllers)).sum = run.catalog.controllers.length ∧
      (run.outcomes.map (·.shapes)).sum = run.catalog.shapes.length ∧
      run.catalog.totalShapes = run.catalog.shapes.length ∧
      run.catalog.totalMethods = (run.catalog.controllers.map (·.handlers.length)).sum ∧
      (run.catalog.shapes.map (·.className)).Nodup ∧
      ∀ name, run.catalog.shapes.find? (·.className == name) =
        (offersFrom t parser (locator t settings scope) mishaps {}
          (begin t settings scope).1).find? (·.className == name) := by
  intro run
  have houtcomes : run.outcomes = (finish t parser settings mishaps scope).outcomes :=
    outcomes_ofScope t parser settings now scope mishaps
  have hcatalog : run.catalog = Catalog.build now
      (finish t parser settings mishaps scope).collection.groups
      (finish t parser settings mishaps scope).collection.shapes :=
    catalog_ofScope t parser settings now scope mishaps
  have hheadings := map_heading_finish t parser settings mishaps scope
  refine ⟨?_, ?_, count_add_count_add_count run, ?_, ?_, ?_, ?_, ?_, ?_, ?_⟩
  · rw [houtcomes, hheadings]
  · rw [houtcomes, ← length_headings, ← hheadings, List.length_map]
  · rw [houtcomes, outcomes_finish]
    intro o ho
    rcases List.mem_append.mp ho with ho | ho
    · intro _
      exact (status_of_mem_begin ho).2
    · exact forall_mem_outcomesFrom
        (P := fun o ↦ o.status ≠ .processed → o.controllers = 0 ∧ o.shapes = 0)
        outcomeIn_counts_of_ne_processed _ _ o ho
  · rw [houtcomes, hcatalog]
    exact sum_outcomes_finish t parser settings mishaps scope (·.groups.length) (·.controllers)
      rfl (fun o h ↦ h.1) length_groups_collect
  · rw [houtcomes, hcatalog]
    exact sum_outcomes_finish t parser settings mishaps scope (·.shapes.length) (·.shapes)
      rfl (fun o h ↦ h.2) length_shapes_collect
  · rw [hcatalog, Catalog.build]
  · rw [hcatalog, Catalog.build, List.length_flatMap]
  · rw [hcatalog, Catalog.build, shapes_finish]
    exact DataShape.nodup_map_newcomers _ _
  · intro name
    rw [hcatalog, Catalog.build, shapes_finish]
    exact DataShape.find?_newcomers (by simp)

end Survey

end ApiSurvey
