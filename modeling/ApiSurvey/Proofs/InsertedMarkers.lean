import ApiSurvey.Route.OfClass
import ApiSurvey.Shape.OfClass
import ApiSurvey.Shape.Source
import Mathlib.Data.List.Basic

/-!
# Inserted markers

What a class gives before and after a marker with a name that is not recognised is put anywhere in
it: on the class, on a method, a parameter or a field, before or behind the markers there. Main
statement: its role and its records are the same, but for the entry of that name among the
annotations of the class or method that carries the marker.
-/

namespace ApiSurvey

/-! ## In a list of markers -/

namespace Marker

variable {x : Marker}

section Insert

variable (hx : x.kind = .other) (front back : List Marker)
include hx

theorem firstOf_insert (test : MarkerKind → Bool) (htest : test .other = false) :
    firstOf test (front ++ x :: back) = firstOf test (front ++ back) := by
  have hpassed : test x.kind = false := by rw [hx, htest]
  rw [firstOf, firstOf, List.find?_append, List.find?_append,
    List.find?_cons_of_neg (by simp [hpassed])]

theorem any_insert (test : MarkerKind → Bool) (htest : test .other = false) :
    ((front ++ x :: back).any fun m ↦ test m.kind) =
      (front ++ back).any fun m ↦ test m.kind := by
  rw [List.any_append, List.any_append, List.any_cons, hx, htest, Bool.false_or]

theorem filter_insert (test : MarkerKind → Bool) (htest : test .other = false) :
    ((front ++ x :: back).filter fun m ↦ test m.kind) =
      (front ++ back).filter fun m ↦ test m.kind := by
  have hpassed : test x.kind = false := by rw [hx, htest]
  rw [List.filter_append, List.filter_append, List.filter_cons_of_neg (by simp [hpassed])]

theorem hasKind_insert (kind : MarkerKind) (hkind : kind ≠ .other) :
    hasKind kind (front ++ x :: back) = hasKind kind (front ++ back) :=
  any_insert hx front back (· == kind) (beq_false_of_ne hkind.symm)

end Insert

/-! ## Annotations -/

/-- Two lists of entries that are the same but for the entries of a name. -/
def AgreeBut (name : String) (a b : Annotations) : Prop :=
  a.filter (·.1 != name) = b.filter (·.1 != name)

theorem lookup_filter_ne {name key : String} (hkey : key ≠ name) (a : Annotations) :
    (a.filter (·.1 != name)).lookup key = a.lookup key := by
  induction a with
  | nil => rfl
  | cons entry a ih =>
      by_cases hentry : entry.1 = name
      · rw [List.filter_cons_of_neg (by simp [hentry]), ih, List.lookup_cons, hentry,
          beq_false_of_ne hkey]
      · rw [List.filter_cons_of_pos (by simpa using hentry), List.lookup_cons, List.lookup_cons, ih]

theorem AgreeBut.lookup_eq {name key : String} {a b : Annotations} (h : AgreeBut name a b)
    (hkey : key ≠ name) : a.lookup key = b.lookup key := by
  rw [← lookup_filter_ne hkey a, h, lookup_filter_ne hkey b]

theorem agreeBut_addUnrecognized (a : Annotations) (m : Marker) :
    AgreeBut m.name (addUnrecognized a m) a := by
  unfold addUnrecognized
  split
  · simp [AgreeBut, List.filter_append]
  · rfl

/-- The step: one more marker keeps the agreement, of whatever name it is. -/
theorem AgreeBut.addUnrecognized {name : String} {a b : Annotations} (h : AgreeBut name a b)
    (m : Marker) : AgreeBut name (addUnrecognized a m) (addUnrecognized b m) := by
  by_cases hm : m.name = name
  · subst hm
    exact (agreeBut_addUnrecognized a m).trans (h.trans (agreeBut_addUnrecognized b m).symm)
  · have hlookup := h.lookup_eq hm
    unfold Marker.addUnrecognized
    rw [hlookup]
    split
    · simp only [AgreeBut, List.filter_append]
      rw [h]
    · exact h

theorem lookup_addUnrecognized_of_some {name : String} {value : Json} {a : Annotations}
    (h : a.lookup name = some value) (m : Marker) :
    (addUnrecognized a m).lookup name = some value := by
  unfold addUnrecognized
  split
  · rw [List.lookup_append, h]
    rfl
  · exact h

theorem lookup_foldl_addUnrecognized_of_some {name : String} {value : Json} {a : Annotations}
    (h : a.lookup name = some value) (markers : List Marker) :
    (markers.foldl addUnrecognized a).lookup name = some value := by
  induction markers generalizing a with
  | nil => exact h
  | cons m markers ih => exact ih (lookup_addUnrecognized_of_some h m)

theorem isSome_lookup_addUnrecognized {name : String} (hname : MarkerKind.ofName name = .other)
    (a : Annotations) (m : Marker) :
    ((addUnrecognized a m).lookup name).isSome = true ↔
      (a.lookup name).isSome = true ∨ m.name = name := by
  cases hlookup : a.lookup name with
  | some value => simp [lookup_addUnrecognized_of_some hlookup m]
  | none =>
      by_cases hm : m.name = name
      · subst hm
        have hkind : m.kind = .other := hname
        simp [addUnrecognized, hkind, hlookup, List.lookup_append]
      · have hkept := (agreeBut_addUnrecognized a m).lookup_eq (Ne.symm hm)
        simp [hkept, hlookup, hm]

theorem isSome_lookup_unrecognized {name : String} (hname : MarkerKind.ofName name = .other)
    (markers : List Marker) :
    ((unrecognized markers).lookup name).isSome = true ↔ ∃ m ∈ markers, m.name = name := by
  have hrun : ∀ a : Annotations, ((markers.foldl addUnrecognized a).lookup name).isSome = true ↔
      (a.lookup name).isSome = true ∨ ∃ m ∈ markers, m.name = name := by
    induction markers with
    | nil => simp
    | cons m markers ih =>
        intro a
        rw [List.foldl_cons, ih, isSome_lookup_addUnrecognized hname, List.exists_mem_cons_iff,
          or_assoc]
  rw [unrecognized, hrun]
  simp

/-- Annotations before and after a marker is put behind some others. -/
structure Noted (x : Marker) (front : List Marker) (a b : Annotations) : Prop where
  others : AgreeBut x.name a b
  earlier : (∃ m ∈ front, m.name = x.name) → b = a
  first : (∀ m ∈ front, m.name ≠ x.name) → b.lookup x.name = some (.object x.metadata)

theorem noted_insert (hx : x.kind = .other) (front back : List Marker) :
    Noted x front (unrecognized (front ++ back)) (unrecognized (front ++ x :: back)) := by
  have hfront : unrecognized (front ++ back) = back.foldl addUnrecognized (unrecognized front) :=
    List.foldl_append
  have hinserted : unrecognized (front ++ x :: back) =
      back.foldl addUnrecognized (addUnrecognized (unrecognized front) x) := by
    rw [unrecognized, List.foldl_append, List.foldl_cons]
    rfl
  have hearlier := isSome_lookup_unrecognized hx front
  rw [hfront, hinserted]
  refine ⟨?_, ?_, ?_⟩
  · apply List.foldl_rel
    · exact (agreeBut_addUnrecognized _ x).symm
    · intro m _ a b h
      exact h.addUnrecognized m
  · intro h
    obtain ⟨value, hvalue⟩ := Option.isSome_iff_exists.mp (hearlier.mpr h)
    have hkept : addUnrecognized (unrecognized front) x = unrecognized front := by
      simp [addUnrecognized, hvalue]
    rw [hkept]
  · intro h
    have hnone : (unrecognized front).lookup x.name = none := by
      rw [← Option.not_isSome_iff_eq_none, hearlier]
      rintro ⟨m, hm, hname⟩
      exact h m hm hname
    apply lookup_foldl_addUnrecognized_of_some
    simp [addUnrecognized, hx, hnone, List.lookup_append]

end Marker

/-! ## Lists that differ in one member -/

/-- Two lists with one member apiece that a relation holds between, and all else the same. -/
inductive OneChanged {α : Type} (R : α → α → Prop) : List α → List α → Prop where
  | intro {a b : α} (before after : List α) (h : R a b) :
      OneChanged R (before ++ a :: after) (before ++ b :: after)

/-- Lists that are the same or differ in one member. -/
def AtMostOne {α : Type} (R : α → α → Prop) (xs ys : List α) : Prop :=
  ys = xs ∨ OneChanged R xs ys

section Lists

variable {α β : Type} {R : α → α → Prop} {S : β → β → Prop} {xs ys : List α}

theorem OneChanged.exists_changed (h : OneChanged R xs ys) : ∃ a b, R a b := by
  cases h with
  | @intro a b before after h => exact ⟨a, b, h⟩

theorem OneChanged.mono {R' : α → α → Prop} (h : OneChanged R xs ys)
    (hR : ∀ a b, R a b → R' a b) : OneChanged R' xs ys := by
  cases h with
  | intro before after h => exact .intro before after (hR _ _ h)

theorem OneChanged.flatMap_eq {f : α → List β} (h : OneChanged R xs ys)
    (hf : ∀ a b, R a b → f b = f a) : ys.flatMap f = xs.flatMap f := by
  cases h with
  | intro before after h =>
      rw [List.flatMap_append, List.flatMap_append, List.flatMap_cons, List.flatMap_cons, hf _ _ h]

theorem OneChanged.map_eq {f : α → β} (h : OneChanged R xs ys) (hf : ∀ a b, R a b → f b = f a) :
    ys.map f = xs.map f := by
  rw [List.map_eq_flatMap, List.map_eq_flatMap]
  apply h.flatMap_eq
  intro a b hab
  rw [hf a b hab]

theorem OneChanged.filterMap_eq {f : α → Option β} (h : OneChanged R xs ys)
    (hf : ∀ a b, R a b → f b = f a) : ys.filterMap f = xs.filterMap f := by
  rw [List.filterMap_eq_flatMap_toList, List.filterMap_eq_flatMap_toList]
  apply h.flatMap_eq
  intro a b hab
  rw [hf a b hab]

theorem OneChanged.map {f : α → β} (h : OneChanged R xs ys) (hf : ∀ a b, R a b → S (f a) (f b)) :
    OneChanged S (xs.map f) (ys.map f) := by
  cases h with
  | intro before after h =>
      rw [List.map_append, List.map_append]
      exact .intro (before.map f) (after.map f) (hf _ _ h)

theorem OneChanged.filter {p : α → Bool} (h : OneChanged R xs ys)
    (hp : ∀ a b, R a b → p b = p a) : AtMostOne R (xs.filter p) (ys.filter p) := by
  cases h with
  | @intro a b before after h =>
      rw [List.filter_append, List.filter_append, List.filter_cons, List.filter_cons, hp a b h]
      split
      · exact .inr (.intro _ _ h)
      · exact .inl rfl

theorem AtMostOne.map {f : α → β} (h : AtMostOne R xs ys) (hf : ∀ a b, R a b → S (f a) (f b)) :
    AtMostOne S (xs.map f) (ys.map f) := by
  rcases h with rfl | h
  · exact .inl rfl
  · exact .inr (h.map hf)

theorem OneChanged.append (h : OneChanged R xs ys) (zs : List α) :
    OneChanged R (xs ++ zs) (ys ++ zs) := by
  cases h with
  | intro before after h =>
      rw [List.append_assoc, List.append_assoc]
      exact .intro before (after ++ zs) h

theorem AtMostOne.append (h : AtMostOne R xs ys) (zs : List α) :
    AtMostOne R (xs ++ zs) (ys ++ zs) := by
  rcases h with rfl | h
  · exact .inl rfl
  · exact .inr (h.append zs)

theorem OneChanged.append_singleton {a b : α} (h : R a b) (xs : List α) :
    OneChanged R (xs ++ [a]) (xs ++ [b]) :=
  .intro xs [] h

theorem AtMostOne.eq (h : AtMostOne R xs ys) (hR : ∀ a b, R a b → b = a) : ys = xs := by
  rcases h with h | h
  · exact h
  · cases h with
    | intro before after h => rw [hR _ _ h]

end Lists

/-! ## In a declaration -/

/-- What a marker is put on: a class or a method, behind other markers of it, or else a parameter or
a field. -/
inductive Spot where
  | ofClass (front : List Marker)
  | ofMethod (front : List Marker)
  | ofPart

/-- There is nothing to note: no class or method carries the marker, or one of its name stands
before. -/
def Spot.Silent (x : Marker) : Spot → Prop
  | .ofClass front | .ofMethod front => ∃ m ∈ front, m.name = x.name
  | .ofPart => True

/-- A parameter before and after it gains a marker. -/
inductive ParamDecl.Gains (x : Marker) : ParamDecl → ParamDecl → Prop where
  | own {p : ParamDecl} (front back : List Marker) (h : p.markers = front ++ back) :
      Gains x p { p with markers := front ++ x :: back }

/-- A field statement before and after it gains a marker. -/
inductive FieldDecl.Gains (x : Marker) : FieldDecl → FieldDecl → Prop where
  | own {f : FieldDecl} (front back : List Marker) (h : f.markers = front ++ back) :
      Gains x f { f with markers := front ++ x :: back }

/-- A method before and after it, or one of its parameters, gains a marker. -/
inductive MethodDecl.Gains (x : Marker) : Spot → MethodDecl → MethodDecl → Prop where
  | own {m : MethodDecl} (front back : List Marker) (h : m.markers = front ++ back) :
      Gains x (.ofMethod front) m { m with markers := front ++ x :: back }
  | parameter {m : MethodDecl} {parameters : List ParamDecl}
      (h : OneChanged (ParamDecl.Gains x) m.parameters parameters) :
      Gains x .ofPart m { m with parameters := parameters }

/-- A class before and after it, or one of its methods or fields, gains a marker. -/
inductive ClassDecl.Gains (x : Marker) : Spot → ClassDecl → ClassDecl → Prop where
  | own {c : ClassDecl} (front back : List Marker) (h : c.markers = front ++ back) :
      Gains x (.ofClass front) c { c with markers := front ++ x :: back }
  | method {spot : Spot} {c : ClassDecl} {methods : List MethodDecl}
      (h : OneChanged (MethodDecl.Gains x spot) c.methods methods) :
      Gains x spot c { c with methods := methods }
  | field {c : ClassDecl} {fields : List FieldDecl}
      (h : OneChanged (FieldDecl.Gains x) c.fields fields) :
      Gains x .ofPart c { c with fields := fields }

/-- A source file before and after one of its classes gains a marker. -/
inductive SourceUnit.Gains (x : Marker) (spot : Spot) : SourceUnit → SourceUnit → Prop where
  | within {u : SourceUnit} {classes : List ClassDecl}
      (h : OneChanged (ClassDecl.Gains x spot) u.classes classes) :
      Gains x spot u { u with classes := classes }

section Records

variable {x : Marker} {spot : Spot} {front : List Marker}

theorem ParamDecl.Gains.ofDecl_eq (hx : x.kind = .other) {p p' : ParamDecl} (h : p.Gains x p') :
    Parameter.ofDecl p' = Parameter.ofDecl p := by
  cases h with
  | own front back h =>
      have hrequired := Marker.any_insert hx front back
        (fun k ↦ k == .requestBody || k == .pathVariable) rfl
      have hkept := Marker.filter_insert hx front back
        (fun k ↦ k.isBinding || k.isValidation) rfl
      simp only [Parameter.ofDecl, Location.ofMarkers, h, hrequired, hkept,
        Marker.hasKind_insert hx front back .requestBody (by simp),
        Marker.hasKind_insert hx front back .pathVariable (by simp),
        Marker.hasKind_insert hx front back .requestHeader (by simp)]

theorem FieldDecl.Gains.ofDecl?_eq (hx : x.kind = .other) {f f' : FieldDecl} (h : f.Gains x f') :
    ShapeField.ofDecl? f' = ShapeField.ofDecl? f := by
  cases h with
  | own front back h =>
      have hrequired := Marker.any_insert hx front back MarkerKind.isRequiring rfl
      have hkept := Marker.filter_insert hx front back MarkerKind.isValidation rfl
      have hschema := Marker.firstOf_insert hx front back (· == .schema) rfl
      have holder := Marker.firstOf_insert hx front back (· == .apiModelProperty) rfl
      simp only [ShapeField.ofDecl?, FieldDecl.description, Marker.textOf?, h, hrequired, hkept,
        hschema, holder]

/-- A handler before and after its method gains a marker. -/
inductive HandlerNoted (x : Marker) (front : List Marker) : Handler → Handler → Prop where
  | own {h : Handler} {a : Annotations} (hnoted : Marker.Noted x front h.annotations a) :
      HandlerNoted x front h { h with annotations := a }

/-- A route group before and after its class gains a marker. -/
inductive GroupNoted (x : Marker) : Spot → RouteGroup → RouteGroup → Prop where
  | own {front : List Marker} {g : RouteGroup} {a : Annotations}
      (hnoted : Marker.Noted x front g.annotations a) :
      GroupNoted x (.ofClass front) g { g with annotations := a }
  | method {front : List Marker} {g : RouteGroup} {handlers : List Handler}
      (h : AtMostOne (HandlerNoted x front) g.handlers handlers) :
      GroupNoted x (.ofMethod front) g { g with handlers := handlers }
  | part {g : RouteGroup} : GroupNoted x .ofPart g g

/-- A data shape before and after its class gains a marker. -/
inductive ShapeNoted (x : Marker) : Spot → DataShape → DataShape → Prop where
  | own {front : List Marker} {s : DataShape} {a : Annotations}
      (hnoted : Marker.Noted x front s.annotations a) :
      ShapeNoted x (.ofClass front) s { s with annotations := a }
  | method {front : List Marker} {s : DataShape} : ShapeNoted x (.ofMethod front) s s
  | part {s : DataShape} : ShapeNoted x .ofPart s s

theorem MethodDecl.Gains.mapping?_eq (hx : x.kind = .other) {m m' : MethodDecl}
    (h : m.Gains x spot m') : m'.mapping? = m.mapping? := by
  cases h with
  | own front back h =>
      rw [MethodDecl.mapping?, MethodDecl.mapping?, h]
      exact Marker.firstOf_insert hx front back _ rfl
  | parameter h => rfl

theorem MethodDecl.Gains.isHandler_eq (hx : x.kind = .other) {m m' : MethodDecl}
    (h : m.Gains x spot m') : m'.isHandler = m.isHandler := by
  rw [MethodDecl.isHandler, h.mapping?_eq hx]
  rfl

theorem MethodDecl.Gains.handlerNoted (hx : x.kind = .other) {m m' : MethodDecl}
    (h : m.Gains x (.ofMethod front) m') :
    HandlerNoted x front (Handler.ofDecl m) (Handler.ofDecl m') := by
  have hmapping := h.mapping?_eq hx
  cases h with
  | own _ back h =>
      have hnoted := Marker.noted_insert hx front back
      rw [← h] at hnoted
      have hhandler : Handler.ofDecl { m with markers := front ++ x :: back } =
          { Handler.ofDecl m with annotations := Marker.unrecognized (front ++ x :: back) } := by
        simp only [Handler.ofDecl, hmapping]
      rw [hhandler]
      exact .own hnoted

theorem MethodDecl.Gains.ofDecl_eq (hx : x.kind = .other) {m m' : MethodDecl}
    (h : m.Gains x .ofPart m') : Handler.ofDecl m' = Handler.ofDecl m := by
  have hmapping := h.mapping?_eq hx
  cases h with
  | parameter h =>
      have hparameters := h.map_eq fun _ _ ↦ ParamDecl.Gains.ofDecl_eq hx
      simp only [Handler.ofDecl, hmapping, hparameters]

/-- A class before and after a marker is put somewhere in it. -/
structure ClassNoted (x : Marker) (spot : Spot) (c c' : ClassDecl) : Prop where
  name : c'.name = c.name
  role : ∀ inShapeFile, c'.role? inShapeFile = c.role? inShapeFile
  group : ∀ package, GroupNoted x spot (RouteGroup.ofClass package c)
    (RouteGroup.ofClass package c')
  shape : ∀ path, ShapeNoted x spot (DataShape.ofClass path c) (DataShape.ofClass path c')

theorem ClassDecl.Gains.classNoted (hx : x.kind = .other) {c c' : ClassDecl}
    (h : c.Gains x spot c') : ClassNoted x spot c c' := by
  cases h with
  | own front back h =>
      have hnoted := Marker.noted_insert hx front back
      have hpath := Marker.firstOf_insert hx front back (· == .requestMapping) rfl
      have hcontroller := Marker.hasKind_insert hx front back .controller (by simp)
      rw [← h] at hnoted hpath hcontroller
      refine ⟨rfl, ?_, ?_, ?_⟩
      · intro inShapeFile
        simp only [ClassDecl.role?, hcontroller]
      · intro package
        have hgroup : RouteGroup.ofClass package { c with markers := front ++ x :: back } =
            { RouteGroup.ofClass package c with
              annotations := Marker.unrecognized (front ++ x :: back) } := by
          simp only [RouteGroup.ofClass, hpath]
        rw [hgroup]
        exact .own hnoted
      · intro path
        exact .own hnoted
  | method h =>
      cases spot with
      | ofClass front =>
          obtain ⟨m, m', h⟩ := h.exists_changed
          cases h
      | ofMethod front =>
          refine ⟨rfl, fun _ ↦ rfl, ?_, fun _ ↦ .method⟩
          intro package
          have hhandlers := h.filter fun _ _ h ↦ h.isHandler_eq hx
          exact .method (hhandlers.map fun _ _ h ↦ h.handlerNoted hx)
      | ofPart =>
          refine ⟨rfl, fun _ ↦ rfl, ?_, fun _ ↦ .part⟩
          intro package
          have hfiltered := h.filter fun _ _ h ↦ h.isHandler_eq hx
          have hhandlers := (hfiltered.map (S := fun a b ↦ b = a) fun _ _ h ↦ h.ofDecl_eq hx).eq
            fun _ _ h ↦ h
          simp only [RouteGroup.ofClass, hhandlers]
          exact .part
  | field h =>
      refine ⟨rfl, fun _ ↦ rfl, fun _ ↦ .part, ?_⟩
      intro path
      have hfields := h.filterMap_eq fun _ _ h ↦ h.ofDecl?_eq hx
      simp only [DataShape.ofClass, hfields]
      exact .part

theorem GroupNoted.payloadTypes_eq {g g' : RouteGroup} (h : GroupNoted x spot g g') :
    g'.payloadTypes = g.payloadTypes := by
  cases h with
  | own hnoted => rfl
  | part => rfl
  | method h =>
      rcases h with rfl | h
      · rfl
      · apply h.flatMap_eq
        intro a b hab
        cases hab
        rfl

theorem ShapeNoted.className_eq {s s' : DataShape} (h : ShapeNoted x spot s s') :
    s'.className = s.className := by
  cases h <;> rfl

theorem GroupNoted.eq_of_silent (hsilent : spot.Silent x) {g g' : RouteGroup}
    (h : GroupNoted x spot g g') : g' = g := by
  cases h with
  | own hnoted => rw [hnoted.earlier hsilent]
  | part => rfl
  | method h =>
      have hhandlers := h.eq fun a b hab ↦ by
        cases hab with
        | own hnoted => rw [hnoted.earlier hsilent]
      rw [hhandlers]

theorem ShapeNoted.eq_of_silent (hsilent : spot.Silent x) {s s' : DataShape}
    (h : ShapeNoted x spot s s') : s' = s := by
  cases h with
  | own hnoted => rw [hnoted.earlier hsilent]
  | method => rfl
  | part => rfl

end Records

end ApiSurvey
