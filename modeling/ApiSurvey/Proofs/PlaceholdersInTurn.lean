import ApiSurvey.Proofs.Extraction
import ApiSurvey.Proofs.LocatedFiles
import ApiSurvey.Proofs.MentionedNames
import ApiSurvey.Proofs.YieldContent

/-!
# Placeholders in turn

Placeholders can be made for some types and then for others, when the names of the first are known
to the second. Main statement: this gives the placeholders of all types at once, so a file's
controllers, which are resolved one after the other, bring those of all their handlers together, and
a collection takes in every one of them.
-/

namespace ApiSurvey

theorem except_map_map {α β γ ε : Type} (f : α → β) (g : β → γ) (x : Except ε α) :
    (x.map f).map g = x.map fun a ↦ g (f a) := by
  cases x <;> rfl

theorem mapM_append_eq_bind {α β ε : Type} (f : α → Except ε β) (xs ys : List α) :
    (xs ++ ys).mapM f = (xs.mapM f).bind fun made ↦ (ys.mapM f).map (made ++ ·) := by
  rw [List.mapM_append]
  cases xs.mapM f with
  | error e => rfl
  | ok made => cases ys.mapM f <;> rfl

namespace Shape

variable {suffixes known : List String}

theorem missingNames_eq_filter (suffixes known types : List String) :
    missingNames suffixes known types =
      (types.flatMap (mentionedNames suffixes)).eraseDups.filter (!known.contains ·) := by
  have hfirst : ∀ names : List String, names.eraseDups = names.foldl insertNew [] := by
    intro names
    rw [foldl_insertNew_eq_append]
    simp
  rw [missingNames_eq_foldl, hfirst, filter_foldl_insertNew, List.filter_nil]

/-- The names that two lists of types miss: those of the first, then those that the second misses
when they are known. -/
theorem missingNames_append (suffixes known a b : List String) :
    missingNames suffixes known (a ++ b) =
      missingNames suffixes known a ++
        missingNames suffixes (known ++ missingNames suffixes known a) b := by
  -- The names of `b` that are new after those of `a`, by dropping the latter at the end.
  have hnew : (missingNames suffixes known b).filter
        (!(missingNames suffixes known a).contains ·) =
      missingNames suffixes (known ++ missingNames suffixes known a) b := by
    rw [filter_missingNames]
    apply missingNames_congr
    intro name
    rw [List.mem_append, List.mem_append, or_comm]
  rw [← hnew, missingNames_eq_foldl suffixes known (a ++ b), List.flatMap_append,
    List.filter_append, List.foldl_append, ← missingNames_eq_foldl, foldl_insertNew_eq_append,
    missingNames_eq_foldl suffixes known b, filter_foldl_insertNew, List.filter_nil,
    foldl_insertNew_eq_append]
  simp

theorem nodup_missingNames (suffixes known types : List String) :
    (missingNames suffixes known types).Nodup := by
  rw [missingNames_eq_foldl]
  exact nodup_foldl_insertNew List.nodup_nil

end Shape

theorem DataShape.newcomers_eq_self {known : List String} {shapes : List DataShape}
    (hnodup : (shapes.map (·.className)).Nodup)
    (hnew : ∀ name ∈ shapes.map (·.className), name ∉ known) : newcomers known shapes = shapes := by
  induction shapes generalizing known with
  | nil => rfl
  | cons s shapes ih =>
      rw [List.map_cons, List.nodup_cons] at hnodup
      rw [List.map_cons, List.forall_mem_cons] at hnew
      rw [newcomers_cons_of_notMem hnew.1, ih hnodup.2]
      intro name hname
      rw [List.mem_append, List.mem_singleton]
      rintro (hknown | rfl)
      · exact hnew.2 name hname hknown
      · exact hnodup.1 hname

namespace Survey

variable {t : FileTree} {l : Locator} {known : List String} {path package : String}

/-! ## Locating one class after the other -/

/-- The data shape without fields that stands for a class, where a locator finds it. -/
def standIn (t : FileTree) (l : Locator) (name : String) : Except Failure DataShape :=
  (l.locate t name).map fun found ↦ { className := name, filePath := found.1 }

theorem standIn_of_trouble {e : Failure} (h : l.trouble? t = some e) (name : String) :
    standIn t l name = .error e := by
  rw [standIn, Locator.locate_of_trouble h]
  rfl

theorem standIn_of_no_trouble (h : l.trouble? t = none) (name : String) :
    standIn t l name = .ok (placeholder t (l.prepare t) name).value := by
  rw [standIn, Locator.locate_of_no_trouble h]
  rfl

theorem mapM_standIn_of_trouble {e : Failure} (h : l.trouble? t = some e) {names : List String}
    (hne : names ≠ []) : names.mapM (standIn t l) = .error e := by
  obtain ⟨name, others, rfl⟩ := List.exists_cons_of_ne_nil hne
  rw [List.mapM_cons, standIn_of_trouble h]
  rfl

theorem mapM_standIn_of_no_trouble (h : l.trouble? t = none) (names : List String) :
    names.mapM (standIn t l) =
      .ok (names.map fun name ↦ (placeholder t (l.prepare t) name).value) :=
  mapM_eq_ok (standIn_of_no_trouble h) names

theorem map_className_of_mapM_standIn {names : List String} {made : List DataShape}
    (h : names.mapM (standIn t l) = .ok made) : made.map (·.className) = names := by
  by_cases hne : names = []
  · subst hne
    obtain rfl := Except.ok.inj h
    rfl
  · cases htrouble : l.trouble? t with
    | some e =>
        rw [mapM_standIn_of_trouble htrouble hne] at h
        cases h
    | none =>
        rw [mapM_standIn_of_no_trouble htrouble] at h
        obtain rfl := Except.ok.inj h
        rw [List.map_map]
        exact List.map_id names

/-- A locator as it is after it located some classes: the first look-up lists the files. -/
def locatedBy (t : FileTree) (l : Locator) (made : List DataShape) : Locator :=
  if made = [] then l else l.prepare t

theorem settings_locatedBy (t : FileTree) (l : Locator) (made : List DataShape) :
    (locatedBy t l made).settings = l.settings := by
  unfold locatedBy
  split <;> rfl

theorem locatedBy_append (t : FileTree) (l : Locator) (made more : List DataShape) :
    locatedBy t l (made ++ more) = locatedBy t (locatedBy t l made) more := by
  unfold locatedBy
  by_cases hmade : made = []
  · subst hmade
    rfl
  · have happend : made ++ more ≠ [] := List.append_ne_nil_of_left_ne_nil hmade more
    rw [if_neg happend, if_neg hmade]
    exact (ite_self (l.prepare t)).symm

/-- Locating some classes has no part in later answers, as long as the files are the same. -/
theorem standIn_locatedBy {names : List String} {made : List DataShape}
    (h : names.mapM (standIn t l) = .ok made) : standIn t (locatedBy t l made) = standIn t l := by
  unfold locatedBy
  split
  · rfl
  · rename_i hmade
    have hnames : names ≠ [] := by
      rintro rfl
      exact hmade (Except.ok.inj h).symm
    cases htrouble : l.trouble? t with
    | some e =>
        rw [mapM_standIn_of_trouble htrouble hnames] at h
        cases h
    | none =>
        funext name
        rw [standIn_of_no_trouble htrouble]
        rfl

theorem placeholdersBy_eq (t : FileTree) (l : Locator) (known types : List String) :
    placeholdersBy t l known types =
      ((Shape.missingNames l.settings.suffixes known types).mapM (standIn t l)).map fun made ↦
        (made, locatedBy t l made) := by
  unfold placeholdersBy
  by_cases hnone : Shape.missingNames l.settings.suffixes known types = []
  · rw [hnone]
    rfl
  · rw [if_neg (by simpa using hnone)]
    cases htrouble : l.trouble? t with
    | some e =>
        rw [mapM_standIn_of_trouble htrouble hnone]
        rfl
    | none =>
        rw [mapM_standIn_of_no_trouble htrouble]
        simp [placeholders, locatedBy, Locator.prepare, hnone, Except.map]

theorem map_fst_placeholdersBy (t : FileTree) (l : Locator) (known types : List String) :
    (placeholdersBy t l known types).map (·.1) =
      (Shape.missingNames l.settings.suffixes known types).mapM (standIn t l) := by
  rw [placeholdersBy_eq, except_map_map]
  exact congrFun Except.map_id _

/-- The placeholders for two lists of types are those for the first, then those that the locator
makes for the second when the names of the first are known. -/
theorem placeholdersBy_append (t : FileTree) (l : Locator) (known a b : List String) :
    placeholdersBy t l known (a ++ b) =
      (placeholdersBy t l known a).bind fun first ↦
        (placeholdersBy t first.2 (known ++ first.1.map (·.className)) b).map fun second ↦
          (first.1 ++ second.1, second.2) := by
  rw [placeholdersBy_eq t l known (a ++ b), placeholdersBy_eq t l known a,
    Shape.missingNames_append, mapM_append_eq_bind]
  cases hmade : (Shape.missingNames l.settings.suffixes known a).mapM (standIn t l) with
  | error e => rfl
  | ok made =>
      change Except.map _ (Except.map _ _) =
        Except.map _ (placeholdersBy t (locatedBy t l made) _ b)
      rw [placeholdersBy_eq, settings_locatedBy, standIn_locatedBy hmade,
        map_className_of_mapM_standIn hmade, except_map_map, except_map_map]
      simp only [locatedBy_append]

/-! ## A file's declarations -/

/-- The locator of a run before it lists the files. -/
def freshLocator (t : FileTree) (settings : Settings) (scope : Scope) : Locator :=
  { searchRoot := some (searchRoot t settings scope), settings := settings }

theorem value_placeAll_prepare (t : FileTree) (l : Locator) (names : List String) :
    (placeAll t (l.prepare t) (fun _ ↦ l.trouble? t) names).value = names.mapM (standIn t l) := by
  rw [value_placeAll]
  cases htrouble : l.trouble? t with
  | some e =>
      cases names with
      | nil => rfl
      | cons name names =>
          rw [mapM_standIn_of_trouble htrouble (List.cons_ne_nil name names)]
          rfl
  | none =>
      have hnone : names.findSome? (fun _ ↦ (none : Option Failure)) = none := by simp
      rw [mapM_standIn_of_no_trouble htrouble, hnone]
      rfl

variable {settings : Settings} {scope : Scope}

theorem locator_eq_prepare (t : FileTree) (settings : Settings) (scope : Scope) :
    locator t settings scope = (freshLocator t settings scope).prepare t := rfl

theorem trouble?_freshLocator (t : FileTree) (settings : Settings) (scope : Scope) :
    (freshLocator t settings scope).trouble? t =
      Locator.listing? t (searchRoot t settings scope) := by
  rw [Locator.trouble?_of_fresh rfl]
  exact Option.bind_some ..

theorem missingFor_locator (y : Yield) (group : RouteGroup) :
    missingFor (locator t settings scope) known y group =
      Shape.missingNames settings.suffixes (known ++ y.shapes.map (·.className))
        group.payloadTypes := rfl

theorem value_addDeclaration_routable (n : Nat) (y : Yield) (c : ClassDecl) :
    (addDeclaration t (locator t settings scope) (troubles t settings scope path) known path
        package n y (.routable, c)).value =
      ((Shape.missingNames settings.suffixes (known ++ y.shapes.map (·.className))
        (RouteGroup.ofClass package c).payloadTypes).mapM
          (standIn t (freshLocator t settings scope))).map fun made ↦
        { groups := y.groups ++ [RouteGroup.ofClass package c], shapes := y.shapes ++ made } := by
  have hextracting : troubles t settings scope path (.extracting n) = none := rfl
  have hresolving : troubles t settings scope path (.resolving n) = none := rfl
  have hlocating : ∀ name, troubles t settings scope path (.locating n name) =
      (freshLocator t settings scope).trouble? t := by
    intro name
    rw [trouble?_freshLocator]
    rfl
  simp only [addDeclaration, Attempt.value_pass_bind, hextracting, hresolving, hlocating,
    RouteGroup.accept_eq_ok, Attempt.value_ofAdmission_bind, missingFor_locator]
  rw [locator_eq_prepare, Attempt.value_bind, value_placeAll_prepare]
  rfl

/-- Controllers that are resolved one after the other bring the placeholders of all of them. -/
theorem value_addDeclarations_routable (n : Nat) (y : Yield) (cs : List ClassDecl) :
    (addDeclarations t (locator t settings scope) (troubles t settings scope path) known path
        package n y (cs.map (Role.routable, ·))).value =
      ((Shape.missingNames settings.suffixes (known ++ y.shapes.map (·.className))
        ((cs.map (RouteGroup.ofClass package)).flatMap RouteGroup.payloadTypes)).mapM
          (standIn t (freshLocator t settings scope))).map fun made ↦
        { groups := y.groups ++ cs.map (RouteGroup.ofClass package)
          shapes := y.shapes ++ made } := by
  induction cs generalizing n y with
  | nil => simp [addDeclarations, Shape.missingNames, Except.map, pure, Except.pure]
  | cons c cs ih =>
      rw [List.map_cons, addDeclarations, Attempt.value_bind, value_addDeclaration_routable,
        List.map_cons, List.flatMap_cons, Shape.missingNames_append, mapM_append_eq_bind]
      cases hmade : (Shape.missingNames settings.suffixes (known ++ y.shapes.map (·.className))
          (RouteGroup.ofClass package c).payloadTypes).mapM
            (standIn t (freshLocator t settings scope)) with
      | error e => rfl
      | ok made =>
          change (addDeclarations ..).value = Except.map _ (Except.map _ _)
          rw [ih, List.map_append, map_className_of_mapM_standIn hmade, ← List.append_assoc known,
            except_map_map]
          simp [List.append_assoc]

theorem value_addDeclarations_dataShape (n : Nat) (y : Yield) (cs : List ClassDecl) :
    (addDeclarations t (locator t settings scope) (troubles t settings scope path) known path
        package n y (cs.map (Role.dataShape, ·))).value =
      .ok { y with shapes := y.shapes ++ cs.map (DataShape.ofClass path) } := by
  induction cs generalizing n y with
  | nil => simp [addDeclarations]
  | cons c cs ih =>
      have hextracting : troubles t settings scope path (.extracting n) = none := rfl
      rw [List.map_cons, addDeclarations, Attempt.value_bind, addDeclaration,
        Attempt.value_pass_bind, hextracting]
      change (addDeclarations ..).value = _
      rw [ih, List.append_assoc]
      rfl

/-- The shapes that are read from a file's classes, when its name is that of a shape file. -/
def shapesOfUnit (suffixes : List String) (path : String) (unit : SourceUnit) :
    List DataShape :=
  if Shape.isShapeFile suffixes path then unit.classes.map (DataShape.ofClass path) else []

variable {suffixes : List String} {unit : SourceUnit}

theorem surveyed_of_isShapeFile (h : Shape.isShapeFile suffixes path = true)
    (classes : List ClassDecl) :
    surveyed suffixes path classes = classes.map (Role.dataShape, ·) := by
  unfold surveyed
  rw [h]
  exact congrFun List.filterMap_eq_map' classes

theorem groupsOfUnit_of_isShapeFile (h : Shape.isShapeFile suffixes path = true) :
    groupsOfUnit suffixes path unit = [] := by
  unfold groupsOfUnit
  rw [h]
  simp [ClassDecl.role?]

theorem surveyed_of_not_isShapeFile (h : Shape.isShapeFile suffixes path = false)
    (classes : List ClassDecl) :
    surveyed suffixes path classes =
      (classes.filter fun c ↦
        c.role? (Shape.isShapeFile suffixes path) = some .routable).map (Role.routable, ·) := by
  unfold surveyed
  rw [h]
  induction classes with
  | nil => rfl
  | cons c classes ih =>
      by_cases hcontroller : Marker.hasKind .controller c.markers = true
      · simpa [ClassDecl.role?, hcontroller] using ih
      · simpa [ClassDecl.role?, hcontroller] using ih

/-- A file yields its groups, the shapes that are read from it, and the placeholders that all its
handlers together bring. -/
theorem value_yieldOfUnit_locator :
    (yieldOfUnit t (locator t settings scope) (troubles t settings scope path) known path
        unit).value =
      (placeholdersBy t (freshLocator t settings scope) known
        ((groupsOfUnit settings.suffixes path unit).flatMap RouteGroup.payloadTypes)).map fun made ↦
          { groups := groupsOfUnit settings.suffixes path unit
            shapes := shapesOfUnit settings.suffixes path unit ++ made.1 } := by
  have hclassifying : troubles t settings scope path .classifying = none := rfl
  rw [yieldOfUnit, Attempt.value_pass_bind, hclassifying]
  change (addDeclarations _ _ _ _ _ _ _ _ (surveyed settings.suffixes path unit.classes)).value = _
  cases hfile : Shape.isShapeFile settings.suffixes path with
  | true =>
      rw [surveyed_of_isShapeFile hfile, value_addDeclarations_dataShape,
        groupsOfUnit_of_isShapeFile hfile, shapesOfUnit, if_pos hfile]
      simp [placeholdersBy, Shape.missingNames, Except.map]
  | false =>
      rw [surveyed_of_not_isShapeFile hfile, value_addDeclarations_routable, shapesOfUnit, hfile,
        placeholdersBy_eq, except_map_map]
      simp [groupsOfUnit, hfile, freshLocator]

/-- No placeholder of a file is turned away. -/
theorem addShapes_shapesOfUnit_append {c : Collection} {made : List DataShape × Locator}
    (h : placeholdersBy t l c.shapeNames
      ((groupsOfUnit l.settings.suffixes path unit).flatMap RouteGroup.payloadTypes) = .ok made) :
    let read := shapesOfUnit l.settings.suffixes path unit
    let before := c.addShapes read
    c.addShapes (read ++ made.1) =
      ({ before.1 with shapes := before.1.shapes ++ made.1 }, before.2 + made.1.length) := by
  intro read before
  have hnames : made.1.map (·.className) =
      Shape.missingNames l.settings.suffixes c.shapeNames
        ((groupsOfUnit l.settings.suffixes path unit).flatMap RouteGroup.payloadTypes) := by
    apply map_className_of_mapM_standIn (t := t) (l := l)
    rw [← map_fst_placeholdersBy, h]
    rfl
  have hnewcomers : DataShape.newcomers
      (c.shapeNames ++ (DataShape.newcomers c.shapeNames read).map (·.className)) made.1 =
        made.1 := by
    apply DataShape.newcomers_eq_self
    · rw [hnames]
      exact Shape.nodup_missingNames ..
    · intro name hname
      rw [hnames] at hname
      -- A file that shapes are read from has no groups, so no placeholder meets such a shape.
      cases hfile : Shape.isShapeFile l.settings.suffixes path with
      | true =>
          rw [groupsOfUnit_of_isShapeFile hfile] at hname
          simp [Shape.missingNames] at hname
      | false =>
          simpa [read, shapesOfUnit, hfile, DataShape.newcomers] using
            (Shape.mem_missingNames.mp hname).1
  simp only [before]
  rw [Collection.addShapes_eq, Collection.addShapes_eq, DataShape.newcomers_append, hnewcomers]
  simp [List.append_assoc]

/-- The placeholders for some types are the first mentions of names that are not known, each where
the locator finds it; types can be split and the names of the first part then count as known; and a
file, whose controllers are resolved in turn, yields the placeholders that all its handlers bring at
once, every one of which a collection takes in. -/
theorem placeholders_in_turn (t : FileTree) :
    (∀ (l : Locator) (known types : List String),
      (placeholdersBy t l known types).map (·.1) =
        ((types.flatMap (Shape.mentionedNames l.settings.suffixes)).eraseDups.filter
          (!known.contains ·)).mapM fun name ↦
            (l.locate t name).map fun found ↦ { className := name, filePath := found.1 }) ∧
      (∀ (l : Locator) (known a b : List String),
        placeholdersBy t l known (a ++ b) =
          (placeholdersBy t l known a).bind fun first ↦
            (placeholdersBy t first.2 (known ++ first.1.map (·.className)) b).map fun second ↦
              (first.1 ++ second.1, second.2)) ∧
      ∀ (settings : Settings) (scope : Scope) (c : Collection) (path : String) (unit : SourceUnit),
        let root := searchRoot t settings scope
        let l : Locator := { searchRoot := some root, settings := settings }
        let groups := groupsOfUnit settings.suffixes path unit
        let read := shapesOfUnit settings.suffixes path unit
        let before := c.addShapes read
        let atOnce := placeholdersBy t l c.shapeNames (groups.flatMap RouteGroup.payloadTypes)
        (yieldOfUnit t (locator t settings scope) (troubles t settings scope path) c.shapeNames
            path unit).value =
          atOnce.map (fun made ↦ { groups := groups, shapes := read ++ made.1 }) ∧
        atOnce.map (fun made ↦ c.addShapes (read ++ made.1)) =
          atOnce.map fun made ↦
            ({ before.1 with shapes := before.1.shapes ++ made.1 }, before.2 + made.1.length) := by
  refine ⟨?_, placeholdersBy_append t, ?_⟩
  · intro l known types
    rw [map_fst_placeholdersBy, Shape.missingNames_eq_filter]
    rfl
  · intro settings scope c path unit root l groups read before atOnce
    refine ⟨value_yieldOfUnit_locator, ?_⟩
    cases hmade : atOnce with
    | error e => rfl
    | ok made => exact congrArg Except.ok (addShapes_shapesOfUnit_append hmade)

end Survey

end ApiSurvey
