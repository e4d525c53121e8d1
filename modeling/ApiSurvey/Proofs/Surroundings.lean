import ApiSurvey.Proofs.SurveyStep

/-!
# Like surroundings

The survey of a file meets its surroundings in three places only: the source that is read, the
endings that make a class a payload class, and the paths at which payload classes are located. Main
statement: surroundings that agree in these give the same collection and the same outcomes.
-/

namespace ApiSurvey.Survey

/-- Surroundings in which the same classes are payload classes and each of them is located at the
same path. -/
structure Alike (t : FileTree) (l : Locator) (t' : FileTree) (l' : Locator) : Prop where
  suffixes : l.settings.suffixes = l'.settings.suffixes
  located : ∀ name, (l.pathOf t name).1 = (l'.pathOf t' name).1

variable {t t' : FileTree} {l l' : Locator} {known : List String} {path package : String}

theorem pathOf_eq_getD (t : FileTree) (l : Locator) (name : String) :
    (l.pathOf t name).1 = (l.found? t name).getD (l.settings.estimatedPath name) := by
  unfold Locator.pathOf
  cases l.found? t name <;> rfl

theorem alike_of_found? (hsuffixes : l.settings.suffixes = l'.settings.suffixes)
    (hestimated : ∀ name, l.settings.estimatedPath name = l'.settings.estimatedPath name)
    (hfound : ∀ name, l.found? t name = l'.found? t' name) : Alike t l t' l' := by
  refine ⟨hsuffixes, ?_⟩
  intro name
  rw [pathOf_eq_getD, pathOf_eq_getD, hfound, hestimated]

theorem locator_settings (t : FileTree) (settings : Settings) (scope : Scope) :
    (locator t settings scope).settings = settings := by
  simp only [locator, Locator.prepare]

/-- The file of a class is looked up among those below the place where the run looks. -/
theorem found?_locator (t : FileTree) (settings : Settings) (scope : Scope) (name : String) :
    (locator t settings scope).found? t name =
      ((if t.isDirectory (searchRoot t settings scope) then
          t.index settings.extension (searchRoot t settings scope)
        else []).lookup (settings.fileName name)).filter t.isFile := by
  simp only [locator, Locator.prepare, Locator.found?, Locator.listFiles, Option.getD_none,
    Option.getD_some]

namespace Alike

theorem placeholder (h : Alike t l t' l') (name : String) :
    (placeholder t l name).value = (Survey.placeholder t' l' name).value := by
  rw [placeholder_value, placeholder_value, h.located]

theorem missingFor (h : Alike t l t' l') (y : Yield) (group : RouteGroup) :
    missingFor l known y group = Survey.missingFor l' known y group := by
  rw [Survey.missingFor, Survey.missingFor, h.suffixes]

theorem extend (h : Alike t l t' l') (y : Yield) (declaration : Role × ClassDecl) :
    extend t l known path package y declaration =
      Survey.extend t' l' known path package y declaration := by
  obtain ⟨role, c⟩ := declaration
  cases role with
  | dataShape => rfl
  | routable => simp only [Survey.extend, h.missingFor, h.placeholder]

theorem undisturbedYield (h : Alike t l t' l') (unit : SourceUnit) :
    undisturbedYield t l known path unit = Survey.undisturbedYield t' l' known path unit := by
  rw [Survey.undisturbedYield, Survey.undisturbedYield, h.suffixes]
  congr 1
  funext y declaration
  exact h.extend y declaration

theorem stagesOfDeclaration (h : Alike t l t' l') (n : Nat) (y : Yield)
    (declaration : Role × ClassDecl) :
    stagesOfDeclaration l known package n y declaration =
      Survey.stagesOfDeclaration l' known package n y declaration := by
  obtain ⟨role, c⟩ := declaration
  cases role with
  | dataShape => rfl
  | routable => simp only [Survey.stagesOfDeclaration, h.missingFor]

theorem stagesFrom (h : Alike t l t' l') (n : Nat) (y : Yield)
    (declarations : List (Role × ClassDecl)) :
    stagesFrom t l known path package n y declarations =
      Survey.stagesFrom t' l' known path package n y declarations := by
  induction declarations generalizing n y with
  | nil => rfl
  | cons declaration others ih =>
      rw [Survey.stagesFrom, Survey.stagesFrom, h.stagesOfDeclaration, h.extend, ih]

theorem stages (h : Alike t l t' l') (unit : SourceUnit) :
    stages t l known path unit = Survey.stages t' l' known path unit := by
  rw [Survey.stages, Survey.stages, h.suffixes, h.stagesFrom]

variable {parser : Parser} {mishaps : Mishaps}

theorem resultIn (h : Alike t l t' l') {p : String}
    (hread : (parser.unitOfFile t (Path.ofString p).toString).value =
      (parser.unitOfFile t' (Path.ofString p).toString).value) (c : Collection) :
    resultIn t parser l mishaps c p = Survey.resultIn t' parser l' mishaps c p := by
  cases hunit : (parser.unitOfFile t (Path.ofString p).toString).value with
  | error e =>
      rw [resultIn_of_unitOfFile_error hunit, resultIn_of_unitOfFile_error (hread ▸ hunit)]
  | ok read =>
      obtain ⟨size, unit⟩ := read
      rw [resultIn_of_unitOfFile_ok hunit, resultIn_of_unitOfFile_ok (hread ▸ hunit), h.stages,
        h.undisturbedYield]

theorem foldl_collect (h : Alike t l t' l') {paths : List String}
    (hread : ∀ p ∈ paths, (parser.unitOfFile t (Path.ofString p).toString).value =
      (parser.unitOfFile t' (Path.ofString p).toString).value) (c : Collection) :
    paths.foldl (collect t parser l mishaps) c = paths.foldl (collect t' parser l' mishaps) c := by
  apply List.foldl_ext
  intro c p hp
  rw [collect, collect, h.resultIn (hread p hp)]

theorem outcomesFrom (h : Alike t l t' l') {paths : List String}
    (hread : ∀ p ∈ paths, (parser.unitOfFile t (Path.ofString p).toString).value =
      (parser.unitOfFile t' (Path.ofString p).toString).value) (c : Collection) :
    outcomesFrom t parser l mishaps c paths = Survey.outcomesFrom t' parser l' mishaps c paths := by
  induction paths generalizing c with
  | nil => rfl
  | cons p paths ih =>
      have hfirst : Survey.resultIn t parser l mishaps c p =
          Survey.resultIn t' parser l' mishaps c p :=
        h.resultIn (hread p (List.mem_cons_self ..)) c
      rw [Survey.outcomesFrom, Survey.outcomesFrom, outcomeIn, outcomeIn, collect, collect, hfirst,
        ih fun q hq ↦ hread q (List.mem_cons_of_mem p hq)]

end Alike

end ApiSurvey.Survey
