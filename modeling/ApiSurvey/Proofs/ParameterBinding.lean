import ApiSurvey.Proofs.Acceptance
import ApiSurvey.Proofs.YieldContent

/-!
# Where parameters come from

The location of a parameter and whether it is required are looked up separately, and the payload
types of a handler are chosen by location. Main statement: all three follow from the names of the
parameter's markers, whatever their order, so a parameter brings its type exactly when it is taken
from the body. The type of another parameter may still stand among the payload types, where another
one brings it or the handler returns it.
-/

namespace ApiSurvey

/-- The names of a parameter's markers, in the order in which they stand. -/
def ParamDecl.markerNames (p : ParamDecl) : List String :=
  p.markers.map (·.name)

/-! ## Kinds by name -/

theorem hasKind_iff {kind : MarkerKind} {name : String} (hkind : kind ≠ .other)
    (hname : MarkerKind.ofName name = kind)
    (honly : ∀ entry ∈ MarkerKind.byName, entry.2 = kind → entry.1 = name) (p : ParamDecl) :
    Marker.hasKind kind p.markers = true ↔ name ∈ p.markerNames := by
  have hmarker : ∀ m : Marker, m.kind = kind ↔ m.name = name := by
    intro m
    constructor
    · intro h
      exact honly _ (MarkerKind.mem_byName_of_ofName h hkind) rfl
    · intro h
      rw [Marker.kind, h, hname]
  simp [Marker.hasKind, ParamDecl.markerNames, hmarker]

theorem hasKind_requestBody_iff (p : ParamDecl) :
    Marker.hasKind .requestBody p.markers = true ↔ "RequestBody" ∈ p.markerNames :=
  hasKind_iff (by decide) (by decide) (by decide) p

theorem hasKind_pathVariable_iff (p : ParamDecl) :
    Marker.hasKind .pathVariable p.markers = true ↔ "PathVariable" ∈ p.markerNames :=
  hasKind_iff (by decide) (by decide) (by decide) p

theorem hasKind_requestHeader_iff (p : ParamDecl) :
    Marker.hasKind .requestHeader p.markers = true ↔ "RequestHeader" ∈ p.markerNames :=
  hasKind_iff (by decide) (by decide) (by decide) p

/-! ## Parameters -/

/-- A name that says where a parameter comes from or what constrains it. -/
def isKept (name : String) : Bool :=
  (MarkerKind.ofName name).isBinding || (MarkerKind.ofName name).isValidation

/-- A parameter as the names of the markers of its declaration have it. -/
structure Bound (p : ParamDecl) (q : Parameter) : Prop where
  name : q.name = p.name
  type : q.type = p.type
  location : q.location =
    if "RequestBody" ∈ p.markerNames then .body
    else if "PathVariable" ∈ p.markerNames then .path
    else if "RequestHeader" ∈ p.markerNames then .header
    else .query
  required : q.required = true ↔ q.location = .body ∨ q.location = .path
  validations : q.validations = p.markerNames.filter isKept

theorem location_ofDecl (p : ParamDecl) :
    (Parameter.ofDecl p).location =
      if "RequestBody" ∈ p.markerNames then .body
      else if "PathVariable" ∈ p.markerNames then .path
      else if "RequestHeader" ∈ p.markerNames then .header
      else .query := by
  simp only [Parameter.ofDecl, Location.ofMarkers, hasKind_requestBody_iff,
    hasKind_pathVariable_iff, hasKind_requestHeader_iff]

theorem location_eq_body_iff (p : ParamDecl) :
    (Parameter.ofDecl p).location = .body ↔ "RequestBody" ∈ p.markerNames := by
  rw [location_ofDecl]
  split_ifs <;> simp [*]

/-- Two markers make a parameter required, and each is that of one location. -/
theorem required_iff (p : ParamDecl) :
    (Parameter.ofDecl p).required = true ↔
      (Parameter.ofDecl p).location = .body ∨ (Parameter.ofDecl p).location = .path := by
  have hrequired : (Parameter.ofDecl p).required = true ↔
      "RequestBody" ∈ p.markerNames ∨ "PathVariable" ∈ p.markerNames := by
    rw [← hasKind_requestBody_iff, ← hasKind_pathVariable_iff]
    simp only [Parameter.ofDecl, Marker.hasKind, List.any_eq_true, Bool.or_eq_true, and_or_left,
      exists_or]
  rw [hrequired, location_ofDecl]
  split_ifs <;> simp [*]

theorem bound_ofDecl (p : ParamDecl) : Bound p (Parameter.ofDecl p) where
  name := rfl
  type := rfl
  location := location_ofDecl p
  required := required_iff p
  validations := by
    rw [ParamDecl.markerNames, List.filter_map]
    rfl

/-- Parameters that differ in the order of their validations at most. -/
structure Reordered (q q' : Parameter) : Prop where
  name : q'.name = q.name
  type : q'.type = q.type
  location : q'.location = q.location
  required : q'.required = q.required
  validations : q'.validations.Perm q.validations

theorem reordered_of_perm {p p' : ParamDecl} (hname : p'.name = p.name) (htype : p'.type = p.type)
    (h : p'.markers.Perm p.markers) : Reordered (Parameter.ofDecl p) (Parameter.ofDecl p') where
  name := hname
  type := htype
  location := by
    have hnames : p'.markerNames.Perm p.markerNames := h.map _
    simp only [location_ofDecl, hnames.mem_iff]
  required := h.any_eq
  validations := (h.filter _).map _

/-! ## Handlers -/

/-- A handler exchanges the types of the parameters with a body marker, and then what it
returns. -/
theorem payloadTypes_ofDecl (m : MethodDecl) :
    (Handler.ofDecl m).payloadTypes =
      (m.parameters.filter fun p ↦ p.markerNames.contains "RequestBody").map (·.type) ++
        if m.returnType.isEmpty then [] else [m.returnType] := by
  have hbody : ∀ p : ParamDecl,
      ((Parameter.ofDecl p).location == .body) = p.markerNames.contains "RequestBody" := by
    intro p
    rw [Bool.eq_iff_iff, beq_iff_eq, location_eq_body_iff, List.contains_iff_mem]
  rw [Handler.payloadTypes]
  simp only [Handler.ofDecl, List.filter_map, List.map_map]
  congr 2
  exact List.filter_congr fun p _ ↦ hbody p

theorem mem_payloadTypes_ofDecl {m : MethodDecl} {type : String} :
    type ∈ (Handler.ofDecl m).payloadTypes ↔
      (∃ q ∈ m.parameters, "RequestBody" ∈ q.markerNames ∧ q.type = type) ∨
        m.returnType = type ∧ type ≠ "" := by
  rw [Survey.mem_payloadTypes]
  apply or_congr_left
  simp only [Handler.ofDecl, List.mem_map, exists_exists_and_eq_and, location_eq_body_iff]
  rfl

/-- A parameter is admitted as the names of its markers have it, in whatever order they stand: it is
required when it is taken from the body or the path, and it brings its type to the payload types of
its handler when it has a body marker. Its type is one of them without that only when another body
parameter has the same, or the handler returns it. -/
theorem binding_by_marker_names :
    (∀ p, ∃ q, Parameter.accept p = .ok q ∧ Bound p q ∧
      ∀ markers : List Marker, markers.Perm p.markers →
        ∃ q', Parameter.accept { p with markers := markers } = .ok q' ∧
          Bound { p with markers := markers } q' ∧ Reordered q q') ∧
      ∀ m, ∃ h, Handler.accept m = .ok h ∧ m.parameters.mapM Parameter.accept = .ok h.parameters ∧
        h.payloadTypes =
          (m.parameters.filter fun p ↦ p.markerNames.contains "RequestBody").map (·.type) ++
            (if m.returnType.isEmpty then [] else [m.returnType]) ∧
        ∀ p ∈ m.parameters, p.type ∈ h.payloadTypes ↔
          "RequestBody" ∈ p.markerNames ∨
            (∃ q ∈ m.parameters, "RequestBody" ∈ q.markerNames ∧ q.type = p.type) ∨
              m.returnType = p.type ∧ p.type ≠ "" := by
  constructor
  · intro p
    refine ⟨Parameter.ofDecl p, Parameter.accept_eq_ok p, bound_ofDecl p, ?_⟩
    intro markers hmarkers
    exact ⟨_, Parameter.accept_eq_ok _, bound_ofDecl _, reordered_of_perm rfl rfl hmarkers⟩
  · intro m
    refine ⟨Handler.ofDecl m, Handler.accept_eq_ok m, mapM_eq_ok Parameter.accept_eq_ok _,
      payloadTypes_ofDecl m, ?_⟩
    intro p hp
    rw [mem_payloadTypes_ofDecl]
    constructor
    · exact Or.inr
    · rintro (hbody | hother)
      · exact .inl ⟨p, hp, hbody, rfl⟩
      · exact hother

/-- Three markers in two orders, beside a parameter without markers. -/
theorem binding_by_marker_names_reversed :
    let body : ParamDecl :=
      { name := "user", type := "UserDto"
        markers := [{ name := "PathVariable" }, { name := "NotNull" }, { name := "RequestBody" }] }
    let page : ParamDecl := { name := "page", type := "PageDto" }
    let m : MethodDecl := { name := "put", returnType := "", parameters := [page, body] }
    body.markers.reverse.Perm body.markers ∧ body ∈ m.parameters ∧
      (∃ q q', Parameter.accept body = .ok q ∧ q.location = .body ∧ q.required = true ∧
        q.validations = ["PathVariable", "NotNull", "RequestBody"] ∧
        Parameter.accept { body with markers := body.markers.reverse } = .ok q' ∧
        q'.validations = ["RequestBody", "NotNull", "PathVariable"] ∧ Reordered q q') ∧
      ∃ h, Handler.accept m = .ok h ∧ h.payloadTypes = ["UserDto"] ∧
        body.type ∈ h.payloadTypes ∧ page.type ∉ h.payloadTypes := by
  intro body page m
  have hperm : body.markers.reverse.Perm body.markers := body.markers.reverse_perm
  have hmem : body ∈ m.parameters := by simp [m]
  obtain ⟨hparameters, hhandlers⟩ := binding_by_marker_names
  obtain ⟨q, hq, hbound, hreordered⟩ := hparameters body
  obtain ⟨q', hq', hbound', hsame⟩ := hreordered _ hperm
  obtain ⟨h, hh, -, htypes, hiff⟩ := hhandlers m
  have hlocation : q.location = .body := by
    rw [hbound.location]
    rfl
  refine ⟨hperm, hmem, ⟨q, q', hq, hlocation, hbound.required.mpr (.inl hlocation), ?_, hq', ?_,
    hsame⟩, h, hh, htypes, (hiff body hmem).mpr (.inl (by decide)), ?_⟩
  · rw [hbound.validations]
    rfl
  · rw [hbound'.validations]
    rfl
  · rw [htypes]
    decide

/-- The type of a parameter without a marker is a payload type when the handler returns it. -/
theorem not_forall_mem_payloadTypes_iff :
    ¬∀ (m : MethodDecl) (p : ParamDecl), p ∈ m.parameters →
      (p.type ∈ (Handler.ofDecl m).payloadTypes ↔ "RequestBody" ∈ p.markerNames) := by
  intro h
  have hiff := h
    { name := "find", returnType := "UserDto"
      parameters := [{ name := "filter", type := "UserDto" }] }
    { name := "filter", type := "UserDto" } (List.mem_singleton_self _)
  revert hiff
  decide

end ApiSurvey
