import ApiSurvey.Proofs.Merging
import Mathlib.Data.List.Perm.Basic

/-!
# Runs over reordered lists

The order in which files are listed decides which of several shapes of one name is kept, and so how
many shapes each file is counted for. Main statement: it decides nothing else as long as the files
below the search root can be listed. When they cannot, it has a part in which files are processed,
but none in the names of the shapes and in which files are skipped.
-/

namespace ApiSurvey

/-- What an outcome says of its file alone: all but the number of shapes that were new. -/
def Outcome.findings (o : Outcome) : String × Status × Nat × String :=
  (o.path, o.status, o.controllers, o.message)

theorem Run.count_eq_findings (run : Run) (status : Status) :
    run.count status =
      ((run.outcomes.map Outcome.findings).filter (·.2.1 == status)).length := by
  rw [Run.count, List.filter_map, List.length_map]
  rfl

/-- Two runs met the same files and skipped the same ones, and found shapes of the same names. -/
structure SameExtent (run other : Run) : Prop where
  classNames : (run.catalog.shapes.map (·.className)).Perm
    (other.catalog.shapes.map (·.className))
  totalShapes : run.catalog.totalShapes = other.catalog.totalShapes
  paths : (run.outcomes.map (·.path)).Perm (other.outcomes.map (·.path))
  skipped : (run.outcomes.filter (·.status == .skipped)).Perm
    (other.outcomes.filter (·.status == .skipped))

/-- Two runs found the same, but for the order of what they found, for the shape that stands for a
class name and for the files that brought the shapes. -/
structure SameSurface (run other : Run) : Prop extends SameExtent run other where
  controllers : run.catalog.controllers.Perm other.catalog.controllers
  totalMethods : run.catalog.totalMethods = other.catalog.totalMethods
  counts : ∀ status, run.count status = other.count status
  findings : (run.outcomes.map Outcome.findings).Perm (other.outcomes.map Outcome.findings)

namespace Survey

variable {t : FileTree} {parser : Parser} {settings : Settings} {l : Locator} {mishaps : Mishaps}
  {xs ys : List String}

/-! ## Outcomes -/

/-- What becomes of a file, but for the shapes, does not depend on what was collected before. -/
theorem findings_outcomeIn_none (c c' : Collection) (p : String) :
    (outcomeIn t parser l .none c p).findings = (outcomeIn t parser l .none c' p).findings := by
  cases hread : (parser.unitOfFile t (Path.ofString p).toString).value with
  | error e =>
      rw [outcomeIn_of_error (resultIn_of_unitOfFile_error hread),
        outcomeIn_of_error (resultIn_of_unitOfFile_error hread)]
  | ok read =>
      obtain ⟨size, unit⟩ := read
      rw [outcomeIn_of_ok (resultIn_none_of_ok l hread),
        outcomeIn_of_ok (resultIn_none_of_ok l hread)]
      simp only [Outcome.findings, groups_undisturbedYield]

theorem map_findings_outcomesFrom (c : Collection) (paths : List String) :
    (outcomesFrom t parser l .none c paths).map Outcome.findings =
      paths.map fun p ↦ (outcomeIn t parser l .none {} p).findings := by
  induction paths generalizing c with
  | nil => rfl
  | cons p paths ih =>
      rw [outcomesFrom, List.map_cons, List.map_cons, ih, findings_outcomeIn_none c {}]

theorem map_path_outcomesFrom (c : Collection) (paths : List String) :
    (outcomesFrom t parser l mishaps c paths).map (·.path) =
      paths.map fun p ↦ (Path.ofString p).toString := by
  induction paths generalizing c with
  | nil => rfl
  | cons p paths ih => rw [outcomesFrom, List.map_cons, List.map_cons, ih, outcomeIn_path]

/-- The skipped files of a run are those that were refused when they were listed. -/
theorem filter_skipped_finish (scope : Scope) :
    (finish t parser settings mishaps scope).outcomes.filter (·.status == .skipped) =
      (begin t settings scope).2.outcomes := by
  have hrefused : (begin t settings scope).2.outcomes.filter (·.status == .skipped) =
      (begin t settings scope).2.outcomes := by
    rw [List.filter_eq_self]
    intro o ho
    simp [(status_of_mem_begin ho).1]
  have hsurveyed : (outcomesFrom t parser (locator t settings scope) mishaps {}
      (begin t settings scope).1).filter (·.status == .skipped) = [] := by
    rw [List.filter_eq_nil_iff]
    intro o ho
    obtain ⟨c, p, -, rfl⟩ := exists_of_mem_outcomesFrom ho
    simpa using outcomeIn_status_ne_skipped c p
  rw [outcomes_finish, List.filter_append, hrefused, hsurveyed, List.append_nil]

/-! ## Reordered lists -/

/-- The shapes of two lists with the same class names leave newcomers of the same class names. -/
theorem perm_map_newcomers {shapes others : List DataShape}
    (h : ∀ name, name ∈ shapes.map (·.className) ↔ name ∈ others.map (·.className)) :
    ((DataShape.newcomers [] shapes).map (·.className)).Perm
      ((DataShape.newcomers [] others).map (·.className)) := by
  rw [List.perm_ext_iff_of_nodup (DataShape.nodup_map_newcomers _ _)
    (DataShape.nodup_map_newcomers _ _)]
  intro name
  rw [DataShape.mem_map_newcomers, DataShape.mem_map_newcomers, h]

section Perm

variable (t parser settings) (h : xs.Perm ys)

include h

theorem perm_refused :
    (begin t settings (.files xs)).2.outcomes.Perm (begin t settings (.files ys)).2.outcomes := by
  rw [begin_files_outcomes, begin_files_outcomes]
  exact h.filterMap _

/-- Even when the files below the search root cannot be listed, the order does not decide which
shapes are named and which files are skipped. -/
theorem sameExtent_of_perm (now now' : String) :
    SameExtent (Run.plain t parser settings now (.files xs))
      (Run.plain t parser settings now' (.files ys)) := by
  have hbrought := (h.filter fun p ↦ (refusal? t settings.extension p).isNone).flatMap_right
    fun p ↦ (gain t parser settings (.files []) {} p).shapes
  have hnames := perm_map_newcomers fun name ↦ (hbrought.map (·.className)).mem_iff
  constructor
  · simp only [Run.plain, catalog_ofScope, collection_plain_files]
    exact hnames
  · have hlength := hnames.length_eq
    rw [List.length_map, List.length_map] at hlength
    simp only [Run.plain, catalog_ofScope, collection_plain_files, Collection.toCatalog,
      Catalog.build, hlength]
  · simp only [Run.plain, outcomes_ofScope, outcomes_finish, List.map_append,
      map_path_outcomesFrom, begin_files]
    exact ((perm_refused t settings h).map _).append ((h.filter _).map _)
  · simp only [Run.plain, outcomes_ofScope, filter_skipped_finish]
    exact perm_refused t settings h

theorem perm_controllers
    (hlisting : Locator.listing? t (searchRoot t settings (.files [])) = none) (now now' : String) :
    (Run.plain t parser settings now (.files xs)).catalog.controllers.Perm
      (Run.plain t parser settings now' (.files ys)).catalog.controllers := by
  simp only [Run.plain, catalog_ofScope, collection_plain_files, groupsFrom_eq_flatMap hlisting]
  exact (h.filter _).flatMap_right _

theorem perm_findings
    (hlisting : Locator.listing? t (searchRoot t settings (.files [])) = none) (now now' : String) :
    ((Run.plain t parser settings now (.files xs)).outcomes.map Outcome.findings).Perm
      ((Run.plain t parser settings now' (.files ys)).outcomes.map Outcome.findings) := by
  have htroubles := troubles_eq_none hlisting
  simp only [Run.plain, outcomes_ofScope, outcomes_finish, List.map_append, begin_files,
    locator_files t settings _ [], troubles_files t settings _ [], htroubles,
    map_findings_outcomesFrom]
  exact ((perm_refused t settings h).map _).append ((h.filter _).map _)

end Perm

/-- Listing files in another order changes nothing but the order of what is found, the shape that
stands for each class name and the files that brought the shapes, as long as the files below the
search root can be listed. When they cannot, it may also change which files are processed, and with
them the route groups. -/
theorem sameSurface_of_perm (t : FileTree) (parser : Parser) (settings : Settings)
    (now now' : String) {xs ys : List String} (h : xs.Perm ys) :
    let run := Run.plain t parser settings now (.files xs)
    let other := Run.plain t parser settings now' (.files ys)
    SameExtent run other ∧
      (Locator.listing? t (searchRoot t settings (.files xs)) = none → SameSurface run other) := by
  intro run other
  have hextent : SameExtent run other := sameExtent_of_perm t parser settings h now now'
  refine ⟨hextent, ?_⟩
  intro hlisting
  rw [searchRoot_files t settings xs []] at hlisting
  have hcontrollers := perm_controllers t parser settings h hlisting now now'
  have hfindings := perm_findings t parser settings h hlisting now now'
  refine ⟨hextent, hcontrollers, ?_, ?_, hfindings⟩
  · have hlength := (hcontrollers.flatMap_right RouteGroup.handlers).length_eq
    simp only [Run.plain, catalog_ofScope, Collection.toCatalog, Catalog.build] at hlength
    simp only [run, other, Run.plain, catalog_ofScope, Collection.toCatalog, Catalog.build,
      hlength]
  · intro status
    rw [Run.count_eq_findings, Run.count_eq_findings]
    exact (hfindings.filter _).length_eq

/-- Two files that bring a shape of one name, in the two orders: one declares the class, the other
mentions it. -/
theorem sameSurface_of_swapped_files :
    ["UserController.java", "UserDto.java"].Perm ["UserDto.java", "UserController.java"] ∧
      let controller := "@RestController class UserController \x7b @GetMapping UserDto get(); \x7d"
      let t : FileTree :=
        { root := .directory
            [("UserController.java", .file controller.toUTF8),
             ("UserDto.java", .file "class UserDto \x7b String name; \x7d".toUTF8)] }
      Locator.listing? t (searchRoot t {} (.files ["UserController.java", "UserDto.java"])) =
          none ∧
        SameSurface
          (Run.plain t {} {} "" (.files ["UserController.java", "UserDto.java"]))
          (Run.plain t {} {} "" (.files ["UserDto.java", "UserController.java"])) := by
  have hswap : ["UserController.java", "UserDto.java"].Perm
      ["UserDto.java", "UserController.java"] := .swap ..
  refine ⟨hswap, ?_⟩
  intro controller t
  have hlisting : Locator.listing? t
      (searchRoot t {} (.files ["UserController.java", "UserDto.java"])) = none :=
    listing?_of_top rfl rfl rfl _
  exact ⟨hlisting, (sameSurface_of_perm t {} {} "" "" hswap).2 hlisting⟩

end Survey

end ApiSurvey
