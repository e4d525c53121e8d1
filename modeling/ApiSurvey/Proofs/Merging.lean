import ApiSurvey.Proofs.PlaceholdersInTurn

/-!
# Runs over joined lists

A run collects the data shapes that its files bring when each of them is surveyed on its own, the
first of each name. With the route groups it is the same as long as the files below the search root
can be listed. When they cannot, a file fails unless every payload class that it mentions is known
by then, so that the files before it have a part in what becomes of it. Main statement: the run over
two lists joined is the merge of the two runs in which the first wins; when the files cannot be
listed, it keeps all of that merge and may have more route groups of the second list.
-/

namespace ApiSurvey.Survey

/-- A file that can be read gives its yield when nothing goes wrong after that. -/
theorem resultIn_none_of_ok {t : FileTree} {parser : Parser} (l : Locator) {c : Collection}
    {p : String} {size : Nat} {unit : SourceUnit}
    (hread : (parser.unitOfFile t (Path.ofString p).toString).value = .ok (size, unit)) :
    resultIn t parser l .none c p =
      .ok (undisturbedYield t l c.shapeNames (Path.ofString p).toString unit) := by
  rw [resultIn_of_unitOfFile_ok hread, findSome?_none]
  rfl

/-- The payload classes that the handlers of a file mention and that are not known. -/
def missingOfUnit (suffixes known : List String) (path : String) (unit : SourceUnit) :
    List String :=
  Shape.missingNames suffixes known
    ((groupsOfUnit suffixes path unit).flatMap RouteGroup.payloadTypes)

theorem missingOfUnit_eq_nil_of_subset {suffixes known known' : List String} {path : String}
    {unit : SourceUnit} (hsub : known ⊆ known')
    (h : missingOfUnit suffixes known path unit = []) :
    missingOfUnit suffixes known' path unit = [] := by
  rw [missingOfUnit, List.eq_nil_iff_forall_not_mem] at h ⊢
  intro name hname
  obtain ⟨hunknown, hmentioned⟩ := Shape.mem_missingNames.mp hname
  exact h name (Shape.mem_missingNames.mpr ⟨fun hknown ↦ hunknown (hsub hknown), hmentioned⟩)

theorem missingOfUnit_of_isShapeFile {suffixes : List String} {path : String}
    (h : Shape.isShapeFile suffixes path = true) (known : List String) (unit : SourceUnit) :
    missingOfUnit suffixes known path unit = [] := by
  rw [missingOfUnit, groupsOfUnit_of_isShapeFile h]
  rfl

variable (t : FileTree) (parser : Parser) (settings : Settings) (scope : Scope)

/-- What the survey of the file at `p` adds in a run by itself when `c` is collected. -/
def gain (c : Collection) (p : String) : Yield :=
  match resultIn t parser (locator t settings scope) (troubles t settings scope) c p with
  | .ok y => y
  | .error _ => {}

/-- The route groups that files add when they are surveyed one after the other. -/
def groupsFrom (c : Collection) : List String → List RouteGroup
  | [] => []
  | p :: paths =>
      (gain t parser settings scope c p).groups ++
        groupsFrom
          (collect t parser (locator t settings scope) (troubles t settings scope) c p) paths

variable {t parser settings scope} {c c' : Collection} {p : String} {e : Failure}

theorem gain_of_ok {y : Yield}
    (h : resultIn t parser (locator t settings scope) (troubles t settings scope) c p = .ok y) :
    gain t parser settings scope c p = y := by
  rw [gain, h]

theorem gain_of_error
    (h : resultIn t parser (locator t settings scope) (troubles t settings scope) c p =
      .error e) : gain t parser settings scope c p = {} := by
  rw [gain, h]

theorem collect_eq_grown (c : Collection) (p : String) :
    collect t parser (locator t settings scope) (troubles t settings scope) c p =
      grown c (gain t parser settings scope c p) := by
  cases hresult : resultIn t parser (locator t settings scope) (troubles t settings scope) c p with
  | ok y => rw [collect_of_ok hresult, gain_of_ok hresult]
  | error e =>
      rw [collect_of_error hresult, gain_of_error hresult]
      simp [grown, DataShape.newcomers]

/-! ## One file -/

section File

variable {size : Nat} {unit : SourceUnit}

/-- When the files below the search root can be listed, a file that can be read is processed. -/
theorem resultIn_of_listed
    (hlisting : Locator.listing? t (searchRoot t settings scope) = none)
    (hread : (parser.unitOfFile t (Path.ofString p).toString).value = .ok (size, unit)) :
    resultIn t parser (locator t settings scope) (troubles t settings scope) c p =
      .ok (undisturbedYield t (locator t settings scope) c.shapeNames (Path.ofString p).toString
        unit) := by
  rw [troubles_eq_none hlisting]
  exact resultIn_none_of_ok _ hread

/-- When the files below the search root cannot be listed, a file that can be read yields no
placeholders, and fails when it needs any. -/
theorem resultIn_of_unlisted
    (hlisting : Locator.listing? t (searchRoot t settings scope) = some e)
    (hread : (parser.unitOfFile t (Path.ofString p).toString).value = .ok (size, unit)) :
    resultIn t parser (locator t settings scope) (troubles t settings scope) c p =
      if missingOfUnit settings.suffixes c.shapeNames (Path.ofString p).toString unit = [] then
        .ok
          { groups := groupsOfUnit settings.suffixes (Path.ofString p).toString unit
            shapes := shapesOfUnit settings.suffixes (Path.ofString p).toString unit }
      else .error e := by
  have hreading : troubles t settings scope (Path.ofString p).toString .reading = none := rfl
  have htrouble : (freshLocator t settings scope).trouble? t = some e := by
    rw [trouble?_freshLocator, hlisting]
  rw [resultIn, yieldOfFile, Attempt.value_bind, hread]
  change (Attempt.pass _ >>= _).value = _
  rw [Attempt.value_pass_bind, hreading]
  change (yieldOfUnit ..).value = _
  rw [value_yieldOfUnit_locator, placeholdersBy_eq, except_map_map]
  change Except.map _ ((missingOfUnit settings.suffixes c.shapeNames
    (Path.ofString p).toString unit).mapM _) = _
  split
  · rename_i hnone
    rw [hnone]
    simp [Except.map, pure, Except.pure]
  · rename_i hmissing
    rw [mapM_standIn_of_trouble htrouble hmissing]
    rfl

/-- A file that cannot be read adds nothing. -/
theorem gain_of_unread (h : (parser.unitOfFile t (Path.ofString p).toString).value = .error e) :
    gain t parser settings scope c p = {} :=
  gain_of_error (resultIn_of_unitOfFile_error h)

theorem groups_gain_of_listed
    (hlisting : Locator.listing? t (searchRoot t settings scope) = none)
    (hread : (parser.unitOfFile t (Path.ofString p).toString).value = .ok (size, unit)) :
    (gain t parser settings scope c p).groups =
      groupsOfUnit settings.suffixes (Path.ofString p).toString unit := by
  rw [gain_of_ok (resultIn_of_listed hlisting hread), groups_undisturbedYield, locator_settings]

theorem groups_gain_of_unlisted
    (hlisting : Locator.listing? t (searchRoot t settings scope) = some e)
    (hread : (parser.unitOfFile t (Path.ofString p).toString).value = .ok (size, unit)) :
    (gain t parser settings scope c p).groups =
      if missingOfUnit settings.suffixes c.shapeNames (Path.ofString p).toString unit = [] then
        groupsOfUnit settings.suffixes (Path.ofString p).toString unit
      else [] := by
  have hresult := resultIn_of_unlisted (c := c) hlisting hread
  by_cases hnone :
      missingOfUnit settings.suffixes c.shapeNames (Path.ofString p).toString unit = []
  · rw [if_pos hnone] at hresult ⊢
    rw [gain_of_ok hresult]
  · rw [if_neg hnone] at hresult ⊢
    rw [gain_of_error hresult]

/-- A file that fails because files cannot be listed declares no shapes: the files that do have no
handlers, and mention nothing. -/
theorem shapes_gain_of_unlisted
    (hlisting : Locator.listing? t (searchRoot t settings scope) = some e)
    (hread : (parser.unitOfFile t (Path.ofString p).toString).value = .ok (size, unit)) :
    (gain t parser settings scope c p).shapes =
      shapesOfUnit settings.suffixes (Path.ofString p).toString unit := by
  have hresult := resultIn_of_unlisted (c := c) hlisting hread
  by_cases hnone :
      missingOfUnit settings.suffixes c.shapeNames (Path.ofString p).toString unit = []
  · rw [if_pos hnone] at hresult
    rw [gain_of_ok hresult]
  · rw [if_neg hnone] at hresult
    have hother : Shape.isShapeFile settings.suffixes (Path.ofString p).toString ≠ true :=
      fun hfile ↦ hnone (missingOfUnit_of_isShapeFile hfile ..)
    rw [gain_of_error hresult, shapesOfUnit, if_neg hother]

end File

/-- What is known beforehand has no part in which shapes a file brings. -/
theorem newcomers_gain (c : Collection) (p : String) :
    DataShape.newcomers c.shapeNames (gain t parser settings scope c p).shapes =
      DataShape.newcomers c.shapeNames (gain t parser settings scope {} p).shapes := by
  cases hread : (parser.unitOfFile t (Path.ofString p).toString).value with
  | error e => rw [gain_of_unread hread, gain_of_unread hread]
  | ok read =>
      obtain ⟨size, unit⟩ := read
      cases hlisting : Locator.listing? t (searchRoot t settings scope) with
      | none =>
          rw [gain_of_ok (resultIn_of_listed hlisting hread),
            gain_of_ok (resultIn_of_listed hlisting hread)]
          exact newcomers_undisturbedYield ..
      | some e => rw [shapes_gain_of_unlisted hlisting hread, shapes_gain_of_unlisted hlisting hread]

/-- The more is known beforehand, the more route groups a file brings. -/
theorem groups_gain_sublist (hsub : c.shapeNames ⊆ c'.shapeNames) (p : String) :
    (gain t parser settings scope c p).groups.Sublist
      (gain t parser settings scope c' p).groups := by
  cases hread : (parser.unitOfFile t (Path.ofString p).toString).value with
  | error e => rw [gain_of_unread hread, gain_of_unread hread]
  | ok read =>
      obtain ⟨size, unit⟩ := read
      cases hlisting : Locator.listing? t (searchRoot t settings scope) with
      | none => rw [groups_gain_of_listed hlisting hread, groups_gain_of_listed hlisting hread]
      | some e =>
          rw [groups_gain_of_unlisted hlisting hread, groups_gain_of_unlisted hlisting hread]
          by_cases hnone :
              missingOfUnit settings.suffixes c.shapeNames (Path.ofString p).toString unit = []
          · rw [if_pos hnone, if_pos (missingOfUnit_eq_nil_of_subset hsub hnone)]
          · rw [if_neg hnone]
            exact List.nil_sublist _

theorem groups_gain_eq (hlisting : Locator.listing? t (searchRoot t settings scope) = none)
    (c c' : Collection) (p : String) :
    (gain t parser settings scope c p).groups = (gain t parser settings scope c' p).groups := by
  cases hread : (parser.unitOfFile t (Path.ofString p).toString).value with
  | error e => rw [gain_of_unread hread, gain_of_unread hread]
  | ok read =>
      obtain ⟨size, unit⟩ := read
      rw [groups_gain_of_listed hlisting hread, groups_gain_of_listed hlisting hread]

theorem mem_shapeNames_collect {name : String} :
    name ∈ (collect t parser (locator t settings scope) (troubles t settings scope) c
        p).shapeNames ↔
      name ∈ c.shapeNames ∨
        name ∈ (gain t parser settings scope {} p).shapes.map (·.className) := by
  rw [collect_eq_grown, shapeNames_grown, newcomers_gain, List.mem_append,
    DataShape.mem_map_newcomers]
  tauto

/-! ## From file to run -/

theorem groups_collected (c : Collection) (paths : List String) :
    (paths.foldl (collect t parser (locator t settings scope) (troubles t settings scope))
        c).groups =
      c.groups ++ groupsFrom t parser settings scope c paths := by
  induction paths generalizing c with
  | nil => exact (List.append_nil _).symm
  | cons p paths ih =>
      rw [List.foldl_cons, ih, groupsFrom, ← List.append_assoc, collect_eq_grown]
      rfl

/-- Files add the newcomers among the shapes that each of them brings on its own. -/
theorem shapes_collected (c : Collection) (paths : List String) :
    (paths.foldl (collect t parser (locator t settings scope) (troubles t settings scope))
        c).shapes =
      c.shapes ++ DataShape.newcomers c.shapeNames
        (paths.flatMap fun p ↦ (gain t parser settings scope {} p).shapes) := by
  induction paths generalizing c with
  | nil => simp [DataShape.newcomers]
  | cons p paths ih =>
      rw [List.foldl_cons, ih, collect_eq_grown, shapeNames_grown, newcomers_gain,
        List.flatMap_cons, DataShape.newcomers_append, grown, newcomers_gain, List.append_assoc]

theorem groupsFrom_append (c : Collection) (xs ys : List String) :
    groupsFrom t parser settings scope c (xs ++ ys) =
      groupsFrom t parser settings scope c xs ++
        groupsFrom t parser settings scope
          (xs.foldl (collect t parser (locator t settings scope) (troubles t settings scope)) c)
          ys := by
  induction xs generalizing c with
  | nil => rfl
  | cons p xs ih =>
      rw [List.cons_append, groupsFrom, groupsFrom, ih, List.append_assoc, List.foldl_cons]

/-- The more is known beforehand, the more route groups files add. -/
theorem groupsFrom_sublist (hsub : c.shapeNames ⊆ c'.shapeNames) (paths : List String) :
    (groupsFrom t parser settings scope c paths).Sublist
      (groupsFrom t parser settings scope c' paths) := by
  induction paths generalizing c c' with
  | nil => exact List.Sublist.refl []
  | cons p paths ih =>
      apply (groups_gain_sublist hsub p).append
      apply ih
      intro name hname
      rw [mem_shapeNames_collect] at hname ⊢
      exact hname.imp_left fun hknown ↦ hsub hknown

/-- When the files below the search root can be listed, files add the route groups that each of them
brings on its own. -/
theorem groupsFrom_eq_flatMap
    (hlisting : Locator.listing? t (searchRoot t settings scope) = none) (c : Collection)
    (paths : List String) :
    groupsFrom t parser settings scope c paths =
      paths.flatMap fun p ↦ (gain t parser settings scope {} p).groups := by
  induction paths generalizing c with
  | nil => rfl
  | cons p paths ih => rw [groupsFrom, ih, groups_gain_eq hlisting c {}, List.flatMap_cons]

/-! ## Runs -/

theorem troubles_files (t : FileTree) (settings : Settings) (paths paths' : List String) :
    troubles t settings (.files paths) = troubles t settings (.files paths') :=
  troubles_congr (congrArg _ (searchRoot_files t settings paths paths'))

/-- What a run over a list of files collects. -/
theorem collection_plain_files (t : FileTree) (parser : Parser) (settings : Settings)
    (paths : List String) :
    (finish t parser settings (troubles t settings (.files paths)) (.files paths)).collection =
      let admitted := paths.filter fun p ↦ (refusal? t settings.extension p).isNone
      { groups := groupsFrom t parser settings (.files []) {} admitted
        shapes := DataShape.newcomers []
          (admitted.flatMap fun p ↦ (gain t parser settings (.files []) {} p).shapes) } := by
  rw [collection_finish, begin_files, locator_files t settings paths [],
    troubles_files t settings paths [], Collection.mk.injEq]
  constructor
  · rw [groups_collected]
    rfl
  · rw [shapes_collected]
    rfl

/-- The run over two lists joined is the merge of the two runs in which the first wins, as long as
the files below the search root can be listed. When they cannot, so it is for the data shapes, and
no route group of the two runs is lost, but the run may have more of them, from files of the second
list that fail without the first. Files may be listed twice, be missing, unreadable or outside the
language, or make the parser break down. -/
theorem catalog_files_append (t : FileTree) (parser : Parser) (settings : Settings)
    (now now₁ now₂ : String) (xs ys : List String) :
    let whole := (Run.plain t parser settings now (.files (xs ++ ys))).catalog
    let first := (Run.plain t parser settings now₁ (.files xs)).catalog
    let second := (Run.plain t parser settings now₂ (.files ys)).catalog
    (Locator.listing? t (searchRoot t settings (.files (xs ++ ys))) = none →
      whole.controllers = first.controllers ++ second.controllers ∧
        whole.totalMethods = first.totalMethods + second.totalMethods) ∧
      whole.shapes = first.shapes ++
        second.shapes.filter (fun s ↦ s.className ∉ first.shapes.map (·.className)) ∧
      ∃ more, whole.controllers = first.controllers ++ more ∧
        second.controllers.Sublist more := by
  simp only [Run.plain, catalog_ofScope, collection_plain_files, Collection.toCatalog,
    Catalog.build, List.filter_append, List.flatMap_append]
  refine ⟨?_, ?_, ?_⟩
  · intro hlisting
    rw [searchRoot_files t settings _ []] at hlisting
    simp [groupsFrom_eq_flatMap hlisting]
  · rw [DataShape.newcomers_append, DataShape.filter_newcomers, List.append_nil, List.nil_append]
  · refine ⟨_, groupsFrom_append .., ?_⟩
    exact groupsFrom_sublist (List.nil_subset _) _

/-- A file that mentions a class, before the one that declares it: the placeholder of the first run
keeps the shape of the second out. -/
theorem catalog_files_append_of_mentioned_class :
    let controller := "@RestController class UserController \x7b @GetMapping UserDto get(); \x7d"
    let t : FileTree :=
      { root := .directory
          [("UserController.java", .file controller.toUTF8),
           ("UserDto.java", .file "class UserDto \x7b String name; \x7d".toUTF8)] }
    let catalog := fun paths ↦ (Run.plain t {} {} "" (.files paths)).catalog
    let whole := catalog ["UserController.java", "UserDto.java"]
    let first := catalog ["UserController.java"]
    let second := catalog ["UserDto.java"]
    Locator.listing? t (searchRoot t {} (.files ["UserController.java", "UserDto.java"])) = none ∧
      whole.controllers = first.controllers ++ second.controllers ∧
      whole.totalMethods = first.totalMethods + second.totalMethods ∧
      whole.shapes = first.shapes ++
        second.shapes.filter fun s ↦ s.className ∉ first.shapes.map (·.className) := by
  intro controller t catalog whole first second
  have hlisting : Locator.listing? t
      (searchRoot t {} (.files ["UserController.java", "UserDto.java"])) = none :=
    listing?_of_top rfl rfl rfl _
  obtain ⟨hlisted, hshapes, -⟩ := catalog_files_append t {} {} "" "" "" ["UserController.java"]
    ["UserDto.java"]
  obtain ⟨hcontrollers, hmethods⟩ := hlisted hlisting
  exact ⟨hlisting, hcontrollers, hmethods, hshapes⟩

end ApiSurvey.Survey
