import ApiSurvey.Proofs.Collecting
import ApiSurvey.Proofs.FileYield
import ApiSurvey.Proofs.MissingNames

/-!
# What is in a file's yield

A file yields the route groups of its controllers, in order, and data shapes. Main statements: every
payload class that a group mentions is known or has a shape in the yield; every shape of the yield
is read from a class of a shape file or stands for a class that a group of the yield mentions; and
what was known before has no part in the yield but for leaving out placeholders of known names.
-/

namespace ApiSurvey.Survey

variable {t : FileTree} {l : Locator} {known suffixes : List String} {path package : String}
  {unit : SourceUnit} {y : Yield} {s : DataShape}

@[simp] theorem placeholder_value (t : FileTree) (l : Locator) (name : String) :
    (placeholder t l name).value = { className := name, filePath := (l.pathOf t name).1 } := rfl

/-! ## Route groups -/

/-- The route groups of a file: those of its controllers, in the order of their declaration. -/
def groupsOfUnit (suffixes : List String) (path : String) (unit : SourceUnit) :
    List RouteGroup :=
  (unit.classes.filter fun c ↦
    c.role? (Shape.isShapeFile suffixes path) = some .routable).map (RouteGroup.ofClass unit.package)

theorem groups_foldl_extend (declarations : List (Role × ClassDecl)) (y : Yield) :
    (declarations.foldl (extend t l known path package) y).groups =
      y.groups ++
        (declarations.filter (·.1 = .routable)).map fun d ↦ RouteGroup.ofClass package d.2 := by
  induction declarations generalizing y with
  | nil => simp
  | cons d declarations ih =>
      obtain ⟨role, c⟩ := d
      rw [List.foldl_cons, ih]
      cases role with
      | dataShape => simp [extend]
      | routable => simp [extend]

theorem groups_undisturbedYield (t : FileTree) (l : Locator) (known : List String) (path : String)
    (unit : SourceUnit) :
    (undisturbedYield t l known path unit).groups =
      groupsOfUnit l.settings.suffixes path unit := by
  rw [undisturbedYield, groups_foldl_extend, List.nil_append]
  unfold surveyed groupsOfUnit
  induction unit.classes with
  | nil => rfl
  | cons c classes ih =>
      rw [List.filterMap_cons]
      cases hrole : c.role? (Shape.isShapeFile l.settings.suffixes path) with
      | none => simpa [hrole] using ih
      | some role =>
          cases role with
          | dataShape => simpa [hrole] using ih
          | routable => simpa [hrole] using ih

/-! ## Payload classes that the groups mention -/

/-- Every payload class that the groups of a yield mention is known or has a shape in it. -/
def Covered (suffixes known : List String) (y : Yield) : Prop :=
  ∀ g ∈ y.groups, ∀ type ∈ g.payloadTypes, ∀ name ∈ Shape.mentionedNames suffixes type,
    name ∈ known ∨ name ∈ y.shapes.map (·.className)

theorem Covered.extend (h : Covered l.settings.suffixes known y) (d : Role × ClassDecl) :
    Covered l.settings.suffixes known (extend t l known path package y d) := by
  obtain ⟨role, c⟩ := d
  cases role with
  | dataShape =>
      intro g hg type htype name hname
      have hold := h g hg type htype name hname
      simp only [Survey.extend, List.map_append, List.mem_append]
      tauto
  | routable =>
      intro g hg type htype name hname
      simp only [Survey.extend, List.map_append, List.map_map, List.mem_append]
      rcases List.mem_append.mp hg with hg | hg
      · have hold := h g hg type htype name hname
        tauto
      · rw [List.mem_singleton] at hg
        subst hg
        by_cases hknown : name ∈ known ++ y.shapes.map (·.className)
        · rw [List.mem_append] at hknown
          tauto
        · have hmissing : name ∈ missingFor l known y (RouteGroup.ofClass package c) :=
            Shape.mem_missingNames.mpr ⟨hknown, type, htype, hname⟩
          exact .inr (.inr (List.mem_map.mpr ⟨name, hmissing, rfl⟩))

theorem covered_undisturbedYield (t : FileTree) (l : Locator) (known : List String)
    (path : String) (unit : SourceUnit) :
    Covered l.settings.suffixes known (undisturbedYield t l known path unit) := by
  apply List.foldlRecOn
  · intro g hg
    simp at hg
  · intro y h d _
    exact h.extend d

/-! ## Where the shapes come from -/

/-- A handler exchanges payloads of a type: it takes one in its body or returns one. -/
def Exchanges (h : Handler) (type : String) : Prop :=
  (∃ q ∈ h.parameters, q.location = .body ∧ q.type = type) ∨ h.returnType = type ∧ type ≠ ""

theorem mem_payloadTypes {h : Handler} {type : String} :
    type ∈ h.payloadTypes ↔ Exchanges h type := by
  unfold Handler.payloadTypes Exchanges
  rw [List.mem_append]
  apply or_congr
  · simp [and_assoc]
  · constructor
    · intro hmem
      split at hmem
      · simp at hmem
      · rename_i hempty
        obtain rfl := List.mem_singleton.mp hmem
        exact ⟨rfl, by simpa using hempty⟩
    · rintro ⟨rfl, hne⟩
      rw [if_neg (by simpa using hne)]
      exact List.mem_singleton_self _

/-- A shape stands for a payload class that handlers of the groups mention and says nothing about
it. -/
structure IsPlaceholder (suffixes : List String) (groups : List RouteGroup) (s : DataShape) :
    Prop where
  fields : s.fields = []
  annotations : s.annotations = []
  mentioned : ∃ g ∈ groups, ∃ h ∈ g.handlers, ∃ type, Exchanges h type ∧
    s.className ∈ Shape.mentionedNames suffixes type

theorem IsPlaceholder.mono {groups groups' : List RouteGroup}
    (h : IsPlaceholder suffixes groups s) (hsub : groups ⊆ groups') :
    IsPlaceholder suffixes groups' s := by
  obtain ⟨g, hg, hmentioned⟩ := h.mentioned
  exact ⟨h.fields, h.annotations, g, hsub hg, hmentioned⟩

/-- A shape is read from a class of a unit that stands in a shape file. -/
def ReadFrom (suffixes : List String) (path : String) (unit : SourceUnit) (s : DataShape) : Prop :=
  Shape.isShapeFile suffixes path = true ∧ ∃ c ∈ unit.classes, s = DataShape.ofClass path c

theorem readFrom_of_mem_surveyed {c : ClassDecl}
    (h : (Role.dataShape, c) ∈ surveyed suffixes path unit.classes) :
    ReadFrom suffixes path unit (DataShape.ofClass path c) := by
  obtain ⟨c', hc', hrole⟩ := List.mem_filterMap.mp h
  obtain ⟨role, hrole, heq⟩ := Option.map_eq_some_iff.mp hrole
  obtain ⟨rfl, rfl⟩ := Prod.mk.inj heq
  refine ⟨?_, c', hc', rfl⟩
  unfold ClassDecl.role? at hrole
  by_contra hfile
  rw [if_neg hfile] at hrole
  split at hrole <;> simp at hrole

/-- Every shape of a yield is read from the unit or is a placeholder for one of the groups. -/
def Accounted (suffixes : List String) (path : String) (unit : SourceUnit) (y : Yield) : Prop :=
  ∀ s ∈ y.shapes, ReadFrom suffixes path unit s ∨ IsPlaceholder suffixes y.groups s

theorem isPlaceholder_of_missing {g : RouteGroup} {groups : List RouteGroup} {name : String}
    (hg : g ∈ groups) (h : name ∈ missingFor l known y g) :
    IsPlaceholder l.settings.suffixes groups (placeholder t l name).value := by
  obtain ⟨-, type, htype, hname⟩ := Shape.mem_missingNames.mp h
  obtain ⟨handler, hhandler, htype⟩ := List.mem_flatMap.mp htype
  exact ⟨rfl, rfl, g, hg, handler, hhandler, type, mem_payloadTypes.mp htype, hname⟩

theorem Accounted.extend {d : Role × ClassDecl} (h : Accounted l.settings.suffixes path unit y)
    (hd : d ∈ surveyed l.settings.suffixes path unit.classes) :
    Accounted l.settings.suffixes path unit (extend t l known path package y d) := by
  obtain ⟨role, c⟩ := d
  intro s hs
  cases role with
  | dataShape =>
      rcases List.mem_append.mp hs with hs | hs
      · exact h s hs
      · rw [List.mem_singleton.mp hs]
        exact .inl (readFrom_of_mem_surveyed hd)
  | routable =>
      rcases List.mem_append.mp hs with hs | hs
      · exact (h s hs).imp_right fun hold ↦ hold.mono (List.subset_append_left _ _)
      · obtain ⟨name, hname, rfl⟩ := List.mem_map.mp hs
        exact .inr (isPlaceholder_of_missing (List.mem_append_right _ (by simp)) hname)

theorem accounted_undisturbedYield (t : FileTree) (l : Locator) (known : List String)
    (path : String) (unit : SourceUnit) :
    Accounted l.settings.suffixes path unit (undisturbedYield t l known path unit) := by
  apply List.foldlRecOn
  · intro s hs
    simp at hs
  · intro y h d hd
    exact h.extend hd

/-! ## What was known before -/

/-- Two yields agree but for shapes of known names. -/
def AgreeBeyond (known : List String) (y y' : Yield) : Prop :=
  y.shapes.filter (fun s ↦ s.className ∉ known) = y'.shapes.filter (fun s ↦ s.className ∉ known)

theorem AgreeBeyond.mem_iff {y' : Yield} (h : AgreeBeyond known y y') (name : String) :
    name ∈ known ++ y.shapes.map (·.className) ↔
      name ∈ known ++ (y'.shapes.map (·.className)) := by
  have hnames : ∀ shapes : List DataShape, name ∈ known ++ shapes.map (·.className) ↔
      name ∈ known ∨ name ∈ (shapes.filter fun s ↦ s.className ∉ known).map (·.className) := by
    intro shapes
    simp only [List.mem_append, List.mem_map, List.mem_filter, decide_eq_true_eq]
    constructor
    · rintro (hname | ⟨s, hs, rfl⟩)
      · exact .inl hname
      · by_cases hknown : s.className ∈ known
        · exact .inl hknown
        · exact .inr ⟨s, ⟨hs, hknown⟩, rfl⟩
    · rintro (hname | ⟨s, ⟨hs, -⟩, rfl⟩)
      · exact .inl hname
      · exact .inr ⟨s, hs, rfl⟩
  rw [hnames, hnames, h]

/-- The names that a group misses when some names are known are those that it misses when none is,
without the known ones. -/
theorem missingFor_eq_filter {y' : Yield} (h : AgreeBeyond known y y') (g : RouteGroup) :
    missingFor l known y g = (missingFor l [] y' g).filter (!known.contains ·) := by
  unfold missingFor
  rw [Shape.filter_missingNames, List.nil_append]
  exact Shape.missingNames_congr h.mem_iff

theorem filter_map_placeholder (names : List String) :
    (names.map fun name ↦ (placeholder t l name).value).filter (fun s ↦ s.className ∉ known) =
      (names.filter (!known.contains ·)).map fun name ↦ (placeholder t l name).value := by
  rw [List.filter_map]
  congr 1
  apply List.filter_congr
  intro name _
  simp

theorem AgreeBeyond.extend {y' : Yield} (h : AgreeBeyond known y y') (d : Role × ClassDecl) :
    AgreeBeyond known (extend t l known path package y d) (extend t l [] path package y' d) := by
  obtain ⟨role, c⟩ := d
  unfold AgreeBeyond at h ⊢
  cases role with
  | dataShape =>
      simp only [Survey.extend, List.filter_append, h]
  | routable =>
      simp only [Survey.extend, List.filter_append, h, missingFor_eq_filter h,
        filter_map_placeholder, List.filter_filter, Bool.and_self]

/-- The newcomers of a file are the same whether or not the survey of the file knew of the names
that are known. -/
theorem newcomers_undisturbedYield (t : FileTree) (l : Locator) (known : List String)
    (path : String) (unit : SourceUnit) :
    DataShape.newcomers known (undisturbedYield t l known path unit).shapes =
      DataShape.newcomers known (undisturbedYield t l [] path unit).shapes := by
  have hagree : AgreeBeyond known (undisturbedYield t l known path unit)
      (undisturbedYield t l [] path unit) := by
    apply List.foldl_rel
    · rfl
    · intro d _ y y' h
      exact h.extend d
  rw [← DataShape.newcomers_filter, hagree, DataShape.newcomers_filter]

end ApiSurvey.Survey
