import ApiSurvey.Proofs.Acceptance
import ApiSurvey.Survey.Run
import Mathlib.Data.List.Basic

/-!
# What the survey of a file comes to

The survey of a file passes a list of stages, at each of which something may go wrong. Main
statement: it fails with what reading the file fails with, or else with the first mishap on that
list, and gives the undisturbed yield when there is none. Stages and yield are those of a survey in
which nothing goes wrong, so nothing of a failed survey is left in what follows.
-/

namespace ApiSurvey

variable {α β : Type}

/-- A value, unless there is a failure. -/
def settle (failure? : Option Failure) (a : α) : Except Failure α :=
  match failure? with
  | some e => .error e
  | none => .ok a

theorem settle_bind (failure? : Option Failure) (a : α) (next : α → Except Failure β) :
    (settle failure? a).bind next =
      match failure? with
      | some e => .error e
      | none => next a := by
  cases failure? <;> rfl

theorem eq_of_settle_eq_ok {failure? : Option Failure} {a b : α}
    (h : settle failure? a = .ok b) : a = b := by
  cases failure? with
  | some e => cases h
  | none => exact Except.ok.inj h

theorem settle_or (first second : Option Failure) (a : α) :
    settle (first.or second) a =
      match first with
      | some e => .error e
      | none => settle second a := by
  cases first <;> rfl

theorem Attempt.value_pass_bind (failure? : Option Failure) (next : Unit → Attempt α) :
    (Attempt.pass failure? >>= next).value =
      match failure? with
      | some e => .error e
      | none => (next ()).value := by
  rw [Attempt.value_bind]
  cases failure? <;> rfl

theorem Attempt.value_ofAdmission_bind (a : α) (next : α → Attempt β) :
    (Attempt.ofAdmission (.ok a) >>= next).value = (next a).value := by
  rw [Attempt.value_bind]
  rfl

/-- A file whose declarations could be read was read from the tree of files, and its tree is sound. -/
theorem Parser.exists_of_unitOfFile {parser : Parser} {t : FileTree} {path : String} {size : Nat}
    {unit : SourceUnit} (h : (parser.unitOfFile t path).value = .ok (size, unit)) :
    ∃ source, t.read path = .ok source ∧ (parser.tree path source).hasError = false ∧
      unit = Java.readUnit source (parser.tree path source) := by
  unfold Parser.unitOfFile at h
  split at h
  · cases h
  · split at h
    · cases h
    · rename_i source hread
      refine ⟨source, hread, ?_⟩
      unfold soundTree at h
      split at h
      · cases h
      · rename_i hsound
        obtain ⟨-, rfl⟩ := Prod.mk.inj (Except.ok.inj h)
        exact ⟨by simpa using hsound, rfl⟩

namespace Survey

/-- A yield with what one more declaration gives when nothing goes wrong. -/
def extend (t : FileTree) (l : Locator) (known : List String) (path package : String) (y : Yield)
    (declaration : Role × ClassDecl) : Yield :=
  match declaration with
  | (.dataShape, c) => { y with shapes := y.shapes ++ [DataShape.ofClass path c] }
  | (.routable, c) =>
      let group := RouteGroup.ofClass package c
      { groups := y.groups ++ [group]
        shapes := y.shapes ++
          (missingFor l known y group).map fun name ↦ (placeholder t l name).value }

/-- What the declarations of a file yield when nothing goes wrong. -/
def undisturbedYield (t : FileTree) (l : Locator) (known : List String) (path : String)
    (unit : SourceUnit) : Yield :=
  (surveyed l.settings.suffixes path unit.classes).foldl (extend t l known path unit.package) {}

/-- The stages at which the `n`-th declaration of a file is extracted, after a yield. -/
def stagesOfDeclaration (l : Locator) (known : List String) (package : String) (n : Nat)
    (y : Yield) (declaration : Role × ClassDecl) : List Stage :=
  match declaration with
  | (.dataShape, _) => [.extracting n]
  | (.routable, c) =>
      .extracting n :: .resolving n ::
        (missingFor l known y (RouteGroup.ofClass package c)).map (.locating n)

/-- The stages at which declarations are extracted, the first of which is the `n`-th. -/
def stagesFrom (t : FileTree) (l : Locator) (known : List String) (path package : String) (n : Nat)
    (y : Yield) : List (Role × ClassDecl) → List Stage
  | [] => []
  | declaration :: others =>
      stagesOfDeclaration l known package n y declaration ++
        stagesFrom t l known path package (n + 1) (extend t l known path package y declaration)
          others

/-- The stages that the survey of a file passes once its tree is made. -/
def stages (t : FileTree) (l : Locator) (known : List String) (path : String)
    (unit : SourceUnit) : List Stage :=
  .reading :: .classifying ::
    stagesFrom t l known path unit.package 0 {} (surveyed l.settings.suffixes path unit.classes)

variable (t : FileTree) (l : Locator) (known : List String) (path package : String)

theorem value_placeAll (mishap? : String → Option Failure) (names : List String) :
    (placeAll t l mishap? names).value =
      settle (names.findSome? mishap?) (names.map fun name ↦ (placeholder t l name).value) := by
  induction names with
  | nil => rfl
  | cons name names ih =>
      rw [placeAll, Attempt.value_pass_bind, List.findSome?_cons]
      cases mishap? name with
      | some e => rfl
      | none =>
          simp only [Attempt.value_bind, Attempt.value_ofLogged, Attempt.value_pure, ih]
          cases names.findSome? mishap? <;> rfl

theorem value_addDeclaration (mishap? : Stage → Option Failure) (n : Nat) (y : Yield)
    (declaration : Role × ClassDecl) :
    (addDeclaration t l mishap? known path package n y declaration).value =
      settle ((stagesOfDeclaration l known package n y declaration).findSome? mishap?)
        (extend t l known path package y declaration) := by
  obtain ⟨role, c⟩ := declaration
  cases role with
  | dataShape =>
      simp only [addDeclaration, stagesOfDeclaration, Attempt.value_pass_bind,
        List.findSome?_cons, List.findSome?_nil]
      cases mishap? (.extracting n) <;> rfl
  | routable =>
      simp only [addDeclaration, stagesOfDeclaration, Attempt.value_pass_bind,
        List.findSome?_cons, List.findSome?_map]
      cases mishap? (.extracting n) with
      | some e => rfl
      | none =>
          simp only [RouteGroup.accept_eq_ok, Attempt.value_ofAdmission_bind,
            Attempt.value_pass_bind]
          cases mishap? (.resolving n) with
          | some e => rfl
          | none =>
              simp only [Attempt.value_bind, value_placeAll, settle_bind]
              change _ = settle ((missingFor l known y (RouteGroup.ofClass package c)).findSome?
                fun name ↦ mishap? (.locating n name)) _
              cases (missingFor l known y (RouteGroup.ofClass package c)).findSome?
                fun name ↦ mishap? (.locating n name) <;> rfl

theorem value_addDeclarations (mishap? : Stage → Option Failure) (n : Nat) (y : Yield)
    (declarations : List (Role × ClassDecl)) :
    (addDeclarations t l mishap? known path package n y declarations).value =
      settle ((stagesFrom t l known path package n y declarations).findSome? mishap?)
        (declarations.foldl (extend t l known path package) y) := by
  induction declarations generalizing n y with
  | nil => rfl
  | cons declaration others ih =>
      rw [addDeclarations, Attempt.value_bind, value_addDeclaration, settle_bind, stagesFrom,
        List.findSome?_append, settle_or, List.foldl_cons]
      cases (stagesOfDeclaration l known package n y declaration).findSome? mishap? with
      | some e => rfl
      | none => exact ih (n + 1) _

/-- The survey of a file fails as reading it fails, or else with the first mishap on its stages, and
gives the undisturbed yield when there is neither. -/
theorem value_yieldOfFile (parser : Parser) (mishaps : Mishaps) :
    (yieldOfFile t parser l mishaps known path).value =
      (parser.unitOfFile t path).value.bind fun (_, unit) ↦
        settle ((stages t l known path unit).findSome? (mishaps path))
          (undisturbedYield t l known path unit) := by
  rw [yieldOfFile, Attempt.value_bind]
  congr 1
  funext ⟨size, unit⟩
  simp only [Attempt.value_pass_bind, yieldOfUnit, stages, List.findSome?_cons,
    value_addDeclarations]
  cases mishaps path .reading with
  | some e => rfl
  | none => cases mishaps path .classifying <;> rfl

end Survey

end ApiSurvey
