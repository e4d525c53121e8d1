import ApiSurvey.Proofs.Extraction
import ApiSurvey.Proofs.InsertedMarkers
import ApiSurvey.Proofs.PlaceholdersInTurn

/-!
# Unrecognised markers are inert

A marker with a name that is not recognised may be put anywhere in a source file. Main statement:
the survey of the file takes the same course and yields the same records, but for the entry of that
name among the annotations of the one class or method that carries the marker; and that entry is the
same too when a marker of the name stands before.
-/

namespace ApiSurvey.Survey

variable {x : Marker} {spot : Spot} {inShapeFile : Bool} {t : FileTree} {l : Locator}
  {known suffixes : List String} {path package : String} {y y' : Yield}

/-- A surveyed declaration before and after a marker is put somewhere in it. -/
inductive DeclarationNoted (x : Marker) (spot : Spot) (inShapeFile : Bool) :
    Role × ClassDecl → Role × ClassDecl → Prop where
  | shape {c c' : ClassDecl} (hfile : inShapeFile = true) (h : ClassNoted x spot c c') :
      DeclarationNoted x spot inShapeFile (.dataShape, c) (.dataShape, c')
  | group {c c' : ClassDecl} (h : ClassNoted x spot c c') :
      DeclarationNoted x spot inShapeFile (.routable, c) (.routable, c')

theorem surveyed_noted {classes classes' : List ClassDecl}
    (h : OneChanged (ClassNoted x spot) classes classes') :
    AtMostOne (DeclarationNoted x spot (Shape.isShapeFile suffixes path))
      (surveyed suffixes path classes) (surveyed suffixes path classes') := by
  cases hfile : Shape.isShapeFile suffixes path with
  | true =>
      rw [surveyed_of_isShapeFile hfile, surveyed_of_isShapeFile hfile]
      exact .inr (h.map fun _ _ h ↦ .shape rfl h)
  | false =>
      rw [surveyed_of_not_isShapeFile hfile, surveyed_of_not_isShapeFile hfile]
      refine (h.filter ?_).map fun _ _ h ↦ .group h
      intro c c' h
      rw [h.role]

/-- A yield before and after a marker is put somewhere in the file. Placeholders stand in files
that are no shape files. -/
structure YieldNoted (x : Marker) (spot : Spot) (inShapeFile : Bool) (y y' : Yield) : Prop where
  groups : AtMostOne (GroupNoted x spot) y.groups y'.groups
  shapes : y'.shapes = y.shapes ∨
    inShapeFile = true ∧ OneChanged (ShapeNoted x spot) y.shapes y'.shapes

theorem YieldNoted.names (h : YieldNoted x spot inShapeFile y y') :
    y'.shapes.map (·.className) = y.shapes.map (·.className) := by
  rcases h.shapes with hshapes | ⟨-, hshapes⟩
  · rw [hshapes]
  · exact hshapes.map_eq fun _ _ h ↦ h.className_eq

theorem YieldNoted.eq_of_silent (hsilent : spot.Silent x)
    (h : YieldNoted x spot inShapeFile y y') : y' = y := by
  have hgroups := h.groups.eq fun _ _ h ↦ h.eq_of_silent hsilent
  have hshapes : y'.shapes = y.shapes := by
    rcases h.shapes with hshapes | ⟨-, hshapes⟩
    · exact hshapes
    · exact AtMostOne.eq (.inr hshapes) fun _ _ h ↦ h.eq_of_silent hsilent
  cases y
  cases y'
  cases hgroups
  cases hshapes
  rfl

theorem missingFor_eq {g g' : RouteGroup}
    (hnames : y'.shapes.map (·.className) = y.shapes.map (·.className))
    (hpayload : g'.payloadTypes = g.payloadTypes) :
    missingFor l known y' g' = missingFor l known y g := by
  rw [missingFor, missingFor, hnames, hpayload]

/-- The step: a declaration that is the same adds the same. -/
theorem YieldNoted.extend (h : YieldNoted x spot inShapeFile y y') (d : Role × ClassDecl) :
    YieldNoted x spot inShapeFile (extend t l known path package y d)
      (extend t l known path package y' d) := by
  obtain ⟨role, c⟩ := d
  have hadded : ∀ added, y'.shapes ++ added = y.shapes ++ added ∨
      inShapeFile = true ∧ OneChanged (ShapeNoted x spot) (y.shapes ++ added)
        (y'.shapes ++ added) := by
    intro added
    rcases h.shapes with hshapes | ⟨hfile, hshapes⟩
    · exact .inl (by rw [hshapes])
    · exact .inr ⟨hfile, hshapes.append added⟩
  cases role with
  | dataShape => exact ⟨h.groups, hadded _⟩
  | routable =>
      have hmissing : missingFor l known y' (RouteGroup.ofClass package c) =
          missingFor l known y (RouteGroup.ofClass package c) := missingFor_eq h.names rfl
      refine ⟨h.groups.append _, ?_⟩
      simp only [Survey.extend, hmissing]
      exact hadded _

theorem yieldNoted_foldl (h : YieldNoted x spot inShapeFile y y')
    (declarations : List (Role × ClassDecl)) :
    YieldNoted x spot inShapeFile (declarations.foldl (extend t l known path package) y)
      (declarations.foldl (extend t l known path package) y') := by
  apply List.foldl_rel
  · exact h
  · intro d _ y y' h
    exact h.extend d

/-- The step: the declaration that the marker is put in. -/
theorem DeclarationNoted.extend {d d' : Role × ClassDecl}
    (h : DeclarationNoted x spot inShapeFile d d') (y : Yield) :
    YieldNoted x spot inShapeFile (extend t l known path package y d)
      (extend t l known path package y d') := by
  cases h with
  | shape hfile h =>
      exact ⟨.inl rfl, .inr ⟨hfile, .append_singleton (h.shape path) _⟩⟩
  | @group c c' h =>
      have hgroup := h.group package
      have hmissing : missingFor l known y (RouteGroup.ofClass package c') =
          missingFor l known y (RouteGroup.ofClass package c) :=
        missingFor_eq rfl hgroup.payloadTypes_eq
      refine ⟨.inr (.append_singleton hgroup _), .inl ?_⟩
      simp only [Survey.extend, hmissing]

theorem stagesOfDeclaration_eq (hnames : y'.shapes.map (·.className) = y.shapes.map (·.className))
    (n : Nat) (d : Role × ClassDecl) :
    stagesOfDeclaration l known package n y' d = stagesOfDeclaration l known package n y d := by
  obtain ⟨role, c⟩ := d
  cases role with
  | dataShape => rfl
  | routable =>
      rw [stagesOfDeclaration, stagesOfDeclaration, missingFor_eq hnames rfl]

theorem DeclarationNoted.stagesOfDeclaration_eq {d d' : Role × ClassDecl}
    (h : DeclarationNoted x spot inShapeFile d d') (n : Nat) (y : Yield) :
    stagesOfDeclaration l known package n y d' = stagesOfDeclaration l known package n y d := by
  cases h with
  | shape hfile h => rfl
  | group h =>
      rw [stagesOfDeclaration, stagesOfDeclaration,
        missingFor_eq rfl (h.group package).payloadTypes_eq]

theorem YieldNoted.stagesFrom_eq (h : YieldNoted x spot inShapeFile y y') (n : Nat)
    (declarations : List (Role × ClassDecl)) :
    stagesFrom t l known path package n y' declarations =
      stagesFrom t l known path package n y declarations := by
  induction declarations generalizing n y y' with
  | nil => rfl
  | cons d declarations ih =>
      rw [stagesFrom, stagesFrom, Survey.stagesOfDeclaration_eq h.names, ih (h.extend d)]

/-- The run: the survey passes the same stages and comes to the same yield but for the annotations,
whatever was yielded before. -/
theorem course_of_changed {declarations declarations' : List (Role × ClassDecl)}
    (h : OneChanged (DeclarationNoted x spot inShapeFile) declarations declarations') (n : Nat)
    (y : Yield) :
    stagesFrom t l known path package n y declarations' =
        stagesFrom t l known path package n y declarations ∧
      YieldNoted x spot inShapeFile (declarations.foldl (extend t l known path package) y)
        (declarations'.foldl (extend t l known path package) y) := by
  cases h with
  | @intro d d' before after h =>
      induction before generalizing n y with
      | nil =>
          have hextended : YieldNoted x spot inShapeFile (extend t l known path package y d)
              (extend t l known path package y d') := h.extend y
          refine ⟨?_, yieldNoted_foldl hextended after⟩
          rw [List.nil_append, List.nil_append, stagesFrom, stagesFrom,
            h.stagesOfDeclaration_eq, hextended.stagesFrom_eq]
      | cons first before ih =>
          obtain ⟨hstages, hyield⟩ := ih (n + 1) (extend t l known path package y first)
          refine ⟨?_, hyield⟩
          rw [List.cons_append, List.cons_append, stagesFrom, stagesFrom, hstages]

theorem course_of_gains (hx : x.kind = .other) {u u' : SourceUnit} (h : u.Gains x spot u')
    (t : FileTree) (l : Locator) (mishap? : Stage → Option Failure) (known : List String)
    (path : String) :
    (∃ failure?,
      (yieldOfUnit t l mishap? known path u).value =
          settle failure? (undisturbedYield t l known path u) ∧
        (yieldOfUnit t l mishap? known path u').value =
          settle failure? (undisturbedYield t l known path u')) ∧
      YieldNoted x spot (Shape.isShapeFile l.settings.suffixes path)
        (undisturbedYield t l known path u) (undisturbedYield t l known path u') := by
  cases h with
  | @within classes h =>
      have hclasses := h.mono fun _ _ h ↦ h.classNoted hx
      have hsurveyed : AtMostOne
          (DeclarationNoted x spot (Shape.isShapeFile l.settings.suffixes path))
          (surveyed l.settings.suffixes path u.classes)
          (surveyed l.settings.suffixes path classes) := surveyed_noted hclasses
      have hcourse :
          stagesFrom t l known path u.package 0 {} (surveyed l.settings.suffixes path classes) =
              stagesFrom t l known path u.package 0 {}
                (surveyed l.settings.suffixes path u.classes) ∧
            YieldNoted x spot (Shape.isShapeFile l.settings.suffixes path)
              (undisturbedYield t l known path u)
              (undisturbedYield t l known path { u with classes := classes }) := by
        rcases hsurveyed with hsame | hchanged
        · rw [undisturbedYield, undisturbedYield, hsame]
          exact ⟨rfl, .inl rfl, .inl rfl⟩
        · exact course_of_changed hchanged 0 {}
      obtain ⟨hstages, hyield⟩ := hcourse
      refine ⟨⟨_, value_yieldOfUnit t l mishap? known path u, ?_⟩, hyield⟩
      rw [value_yieldOfUnit, hstages]

/-- A marker that is not recognised, put anywhere in a file: a method that carries it handles what
it handled, and the classes keep their roles and give the records that they gave, but for what is
noted of the marker; and the survey of the file fails as it failed, or yields what it yielded, but
for the same. Placeholders are the same, and there is nothing to note when a marker of the name
stands before, or on a parameter or a field. -/
theorem unrecognized_markers_inert {x : Marker} {spot : Spot} {u u' : SourceUnit}
    (hx : x.kind = .other) (h : u.Gains x spot u') :
    (∀ front m m', MethodDecl.Gains x (.ofMethod front) m m' →
        m'.isHandler = m.isHandler ∧ HandlerNoted x front (Handler.ofDecl m) (Handler.ofDecl m')) ∧
      OneChanged (ClassNoted x spot) u.classes u'.classes ∧
      ∀ t l mishap? known path,
        (∃ failure?,
          (yieldOfUnit t l mishap? known path u).value =
              settle failure? (undisturbedYield t l known path u) ∧
            (yieldOfUnit t l mishap? known path u').value =
              settle failure? (undisturbedYield t l known path u')) ∧
          YieldNoted x spot (Shape.isShapeFile l.settings.suffixes path)
            (undisturbedYield t l known path u) (undisturbedYield t l known path u') ∧
          (spot.Silent x →
            undisturbedYield t l known path u' = undisturbedYield t l known path u) := by
  refine ⟨?_, ?_, ?_⟩
  · intro front m m' hmethod
    exact ⟨hmethod.isHandler_eq hx, hmethod.handlerNoted hx⟩
  · cases h with
    | within h => exact h.mono fun _ _ h ↦ h.classNoted hx
  · intro t l mishap? known path
    obtain ⟨hvalue, hyield⟩ := course_of_gains hx h t l mishap? known path
    exact ⟨hvalue, hyield, hyield.eq_of_silent⟩

/-- A marker between an earlier one of its name and the one that makes the method a handler. -/
theorem unrecognized_markers_inert_before_mapping :
    let x : Marker := { name := "Deprecated" }
    let front : List Marker :=
      [{ name := "Deprecated", arguments := [("since", { text := "2", string := some "2" })] }]
    let mapping : Marker := { name := "GetMapping" }
    let m : MethodDecl := { name := "all", returnType := "", markers := front ++ [mapping] }
    let m' : MethodDecl := { m with markers := front ++ x :: [mapping] }
    let controller : ClassDecl := { name := "Users", markers := [{ name := "RestController" }] }
    let u : SourceUnit := ⟨"", [{ controller with methods := [m] }]⟩
    let u' : SourceUnit := ⟨"", [{ controller with methods := [m'] }]⟩
    let l : Locator := { searchRoot := none, settings := {} }
    x.kind = .other ∧ u.Gains x (.ofMethod front) u' ∧ m.Gains x (.ofMethod front) m' ∧
      (Spot.ofMethod front).Silent x ∧
      HandlerNoted x front (Handler.ofDecl m) (Handler.ofDecl m') ∧
      OneChanged (ClassNoted x (.ofMethod front)) u.classes u'.classes ∧
      undisturbedYield {} l [] "Users.java" u' = undisturbedYield {} l [] "Users.java" u ∧
      (undisturbedYield {} l [] "Users.java" u).groups.map (·.handlers.map (·.methodName)) =
        [["all"]] := by
  intro x front mapping m m' controller u u' l
  have hx : x.kind = .other := by decide
  have hmethod : m.Gains x (.ofMethod front) m' := .own front [mapping] rfl
  have hgains : u.Gains x (.ofMethod front) u' :=
    .within (.intro [] [] (.method (.intro [] [] hmethod)))
  have hsilent : (Spot.ofMethod front).Silent x := ⟨_, List.mem_singleton_self _, rfl⟩
  obtain ⟨hmethods, hclasses, hsurvey⟩ := unrecognized_markers_inert hx hgains
  obtain ⟨-, -, hsame⟩ := hsurvey {} l (fun _ ↦ none) [] "Users.java"
  refine ⟨hx, hgains, hmethod, hsilent, (hmethods front m m' hmethod).2, hclasses, hsame hsilent,
    ?_⟩
  rw [groups_undisturbedYield]
  decide

end ApiSurvey.Survey
