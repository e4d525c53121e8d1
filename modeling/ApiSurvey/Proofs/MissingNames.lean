import ApiSurvey.Shape.Name
import Mathlib.Data.List.Nodup

/-!
# Missing payload names

The payload names that some types mention and that are not known yet come in the order of their
first mention. Main statement: a name that becomes known drops out of the list and leaves the
others in place, so that the names missing in a larger context are those missing in a smaller one,
filtered.
-/

namespace ApiSurvey.Shape

variable {suffixes known types : List String}

theorem mem_insertNew {names : List String} {name x : String} :
    x ∈ insertNew names name ↔ x ∈ names ∨ x = name := by
  unfold insertNew
  by_cases h : name ∈ names
  · have hx : x = name → x ∈ names := fun hx ↦ hx ▸ h
    simpa [h] using hx
  · simp [h]

theorem mem_foldl_insertNew {xs names : List String} {x : String} :
    x ∈ xs.foldl insertNew names ↔ x ∈ names ∨ x ∈ xs := by
  induction xs generalizing names with
  | nil => simp
  | cons y xs ih =>
      rw [List.foldl_cons, ih, mem_insertNew, List.mem_cons, or_assoc]

theorem nodup_foldl_insertNew {xs names : List String} (h : names.Nodup) :
    (xs.foldl insertNew names).Nodup := by
  apply List.foldlRecOn
  · exact h
  · intro names hnames name _
    unfold insertNew
    by_cases hname : name ∈ names
    · simpa [hname] using hnames
    · simpa [hname] using hnames.concat hname

theorem filter_insertNew (p : String → Bool) (names : List String) (name : String) :
    (insertNew names name).filter p =
      if p name then insertNew (names.filter p) name else names.filter p := by
  unfold insertNew
  by_cases hp : p name = true
  · by_cases h : name ∈ names
    · simp [h, hp]
    · simp [h, hp]
  · by_cases h : name ∈ names
    · simp [h, hp]
    · simp [h, hp]

/-- Keeping first occurrences and dropping names by a test commute. -/
theorem filter_foldl_insertNew (p : String → Bool) (xs names : List String) :
    (xs.foldl insertNew names).filter p = (xs.filter p).foldl insertNew (names.filter p) := by
  induction xs generalizing names with
  | nil => rfl
  | cons x xs ih =>
      rw [List.foldl_cons, ih, filter_insertNew]
      by_cases hp : p x = true
      · rw [if_pos hp, List.filter_cons_of_pos hp, List.foldl_cons]
      · rw [if_neg hp, List.filter_cons_of_neg hp]

/-- The missing names are the first occurrences of all unknown mentions. -/
theorem missingNames_eq_foldl (suffixes known types : List String) :
    missingNames suffixes known types =
      ((types.flatMap (mentionedNames suffixes)).filter (!known.contains ·)).foldl insertNew [] := by
  have hflat : ∀ names, types.foldl
      (fun names type ↦ (unknownNames suffixes known type).foldl insertNew names) names =
        ((types.flatMap (mentionedNames suffixes)).filter (!known.contains ·)).foldl
          insertNew names := by
    induction types with
    | nil => intro names; rfl
    | cons type types ih =>
        intro names
        rw [List.foldl_cons, ih, List.flatMap_cons, List.filter_append, List.foldl_append]
        rfl
  exact hflat []

theorem mem_missingNames {name : String} :
    name ∈ missingNames suffixes known types ↔
      name ∉ known ∧ ∃ type ∈ types, name ∈ mentionedNames suffixes type := by
  rw [missingNames_eq_foldl, mem_foldl_insertNew]
  simp [and_comm]

/-- Names that become known drop out of the missing ones and leave the others in place. -/
theorem filter_missingNames (more : List String) :
    (missingNames suffixes known types).filter (!more.contains ·) =
      missingNames suffixes (more ++ known) types := by
  rw [missingNames_eq_foldl, missingNames_eq_foldl, filter_foldl_insertNew, List.filter_filter]
  congr 1
  apply List.filter_congr
  intro name _
  simp

/-- Only which names are known counts, not in what order. -/
theorem missingNames_congr {known' : List String} (h : ∀ name, name ∈ known ↔ name ∈ known') :
    missingNames suffixes known types = missingNames suffixes known' types := by
  rw [missingNames_eq_foldl, missingNames_eq_foldl]
  congr 1
  apply List.filter_congr
  intro name _
  simp [h name]

end ApiSurvey.Shape
