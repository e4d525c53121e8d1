import ApiSurvey.Route.Admission
import Mathlib.Data.List.Basic

/-!
# Every record is admitted

The texts by which a declaration names verbs and locations are all among those that a catalog can
hold, whatever its markers and their arguments are. So no route group is turned away, and the one
that is admitted is the one that is read off its class.
-/

namespace ApiSurvey

theorem Verb.mem_knownVerbs_of_ofString? {word : String} {verb : Verb}
    (h : Verb.ofString? word = some verb) : word ∈ knownVerbs := by
  have hword : verb.toString = word := by
    have hfound := List.find?_some h
    simpa using hfound
  have hall : ∀ v : Verb, v.toString ∈ knownVerbs := by
    intro v
    cases v <;> decide
  rw [← hword]
  exact hall verb

theorem Verb.isSome_ofString?_of_known {word : String} (h : word ∈ knownVerbs) :
    (Verb.ofString? word).isSome = true := by
  have hall : ∀ w ∈ knownVerbs, (Verb.ofString? w).isSome = true := by decide
  exact hall word h

/-- A recognised name stands in the table with its kind. -/
theorem MarkerKind.mem_byName_of_ofName {name : String} {kind : MarkerKind}
    (h : ofName name = kind) (hkind : kind ≠ .other) : (name, kind) ∈ byName := by
  unfold ofName at h
  cases hlookup : byName.lookup name with
  | none =>
      rw [hlookup] at h
      exact absurd h.symm hkind
  | some found =>
      rw [hlookup, Option.getD_some] at h
      subst h
      obtain ⟨before, after, hparts, -⟩ := List.lookup_eq_some_iff.mp hlookup
      rw [hparts]
      simp

/-- The names of the fixed-verb markers are made of verbs. -/
theorem Verb.isSome_ofString?_wordOfName {name : String}
    (h : MarkerKind.ofName name = .verbMapping) :
    (Verb.ofString? (Verb.wordOfName name)).isSome = true := by
  have hall : ∀ entry ∈ MarkerKind.byName, entry.2 = .verbMapping →
      (Verb.ofString? (Verb.wordOfName entry.1)).isSome = true := by decide
  exact hall (name, .verbMapping) (MarkerKind.mem_byName_of_ofName h (by decide)) rfl

theorem Verb.ofString?_textOfArgument (a : Argument) :
    Verb.ofString? (Verb.textOfArgument a) = some (Verb.ofArgument a) := by
  unfold Verb.textOfArgument Verb.ofArgument
  by_cases hknown : Verb.wordOfArgument a ∈ knownVerbs
  · rw [if_pos (by simpa using hknown)]
    obtain ⟨verb, hverb⟩ := Option.isSome_iff_exists.mp (Verb.isSome_ofString?_of_known hknown)
    rw [hverb, Option.getD_some]
  · rw [if_neg (by simpa using hknown)]
    have hnone : Verb.ofString? (Verb.wordOfArgument a) = none := by
      cases hverb : Verb.ofString? (Verb.wordOfArgument a) with
      | none => rfl
      | some verb => exact absurd (Verb.mem_knownVerbs_of_ofString? hverb) hknown
    rw [hnone]
    rfl

theorem Verb.ofString?_textOfMapping (mapping : Option Marker) :
    Verb.ofString? (Verb.textOfMapping mapping) = some (Verb.ofMapping mapping) := by
  cases mapping with
  | none => rfl
  | some m =>
      unfold Verb.textOfMapping Verb.ofMapping
      by_cases hkind : (m.kind == .verbMapping) = true
      · have hname : MarkerKind.ofName m.name = .verbMapping := eq_of_beq hkind
        have hsome := Verb.isSome_ofString?_wordOfName hname
        obtain ⟨verb, hverb⟩ := Option.isSome_iff_exists.mp hsome
        simp only [if_pos hkind, Verb.ofMappingName, hverb, Option.getD_some]
      · simp only [if_neg hkind]
        cases m.argument? "method" with
        | none => rfl
        | some a =>
            by_cases harray : a.isArray = true
            · simp only [if_pos harray]
              cases a.items with
              | nil => rfl
              | cons item items => exact Verb.ofString?_textOfArgument item
            · simp only [if_neg harray]
              exact Verb.ofString?_textOfArgument a

theorem Location.ofString?_textOfMarkers (markers : List Marker) :
    Location.ofString? (Location.textOfMarkers markers) = some (Location.ofMarkers markers) := by
  unfold Location.textOfMarkers Location.ofMarkers Location.byKind
  simp only [List.find?_cons, List.find?_nil]
  cases Marker.hasKind .requestBody markers with
  | true => rfl
  | false =>
      cases Marker.hasKind .pathVariable markers with
      | true => rfl
      | false =>
          cases Marker.hasKind .requestHeader markers with
          | true => rfl
          | false => rfl

theorem mapM_eq_ok {α β ε : Type} {f : α → Except ε β} {g : α → β} (h : ∀ a, f a = .ok (g a))
    (items : List α) : items.mapM f = .ok (items.map g) := by
  induction items with
  | nil => rfl
  | cons item items ih =>
      rw [List.mapM_cons, h, ih]
      rfl

theorem Parameter.accept_eq_ok (p : ParamDecl) : Parameter.accept p = .ok (Parameter.ofDecl p) := by
  simp only [Parameter.accept, Decoder.choice, Location.ofString?_textOfMarkers]
  rfl

theorem Handler.accept_eq_ok (m : MethodDecl) : Handler.accept m = .ok (Handler.ofDecl m) := by
  simp only [Handler.accept, Decoder.choice, Verb.ofString?_textOfMapping,
    mapM_eq_ok Parameter.accept_eq_ok]
  rfl

/-- No class is turned away. -/
theorem RouteGroup.accept_eq_ok (package : String) (c : ClassDecl) :
    RouteGroup.accept package c = .ok (RouteGroup.ofClass package c) := by
  simp only [RouteGroup.accept, mapM_eq_ok Handler.accept_eq_ok]
  rfl

end ApiSurvey
