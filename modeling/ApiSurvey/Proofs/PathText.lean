import ApiSurvey.FileTree.Basic
import Mathlib.Data.List.Basic

/-!
# Path texts

The steps of a path text and its normal form. Main statements: the normal form has the components
and the root of the text, taking it twice is taking it once, and joining a name to a text adds one
component.
-/

namespace ApiSurvey

theorem Text.pieces_eq_splitOn (sep : Char) (cs : List Char) : pieces sep cs = cs.splitOn sep := by
  induction cs with
  | nil => rfl
  | cons c cs ih =>
      rw [pieces, List.splitOn_cons_eq_if_modifyHead, ih]
      have hne := List.splitOn_ne_nil sep cs
      cases hpieces : cs.splitOn sep with
      | nil => exact absurd hpieces hne
      | cons p ps => simp

theorem Text.notMem_of_mem_pieces {sep : Char} {cs p : List Char} (h : p ∈ pieces sep cs) :
    sep ∉ p := by
  induction cs generalizing p with
  | nil =>
      rw [pieces, List.mem_singleton] at h
      simp [h]
  | cons c cs ih =>
      rw [pieces] at h
      split at h
      · rcases List.mem_cons.mp h with rfl | h
        · simp
        · exact ih h
      · rename_i hc
        have hne : sep ≠ c := fun heq ↦ hc (by simp [heq])
        split at h
        · rw [List.mem_singleton] at h
          simpa [h] using hne
        · rename_i q qs hpieces
          rw [hpieces] at ih
          rcases List.mem_cons.mp h with rfl | h
          · simpa using ⟨hne, ih (List.mem_cons_self ..)⟩
          · exact ih (List.mem_cons_of_mem _ h)

namespace FileTree

/-- A step that leads somewhere. -/
def isMove (step : String) : Bool :=
  step != "" && step != "."

theorem steps_of_notMem {s : String} (h : '/' ∉ s.toList) : steps s = [s] := by
  rw [steps, Text.pieces_eq_splitOn, List.splitOn_eq_singleton h]
  simp

theorem steps_append_slash (a b : String) : steps (a ++ "/" ++ b) = steps a ++ steps b := by
  have hslash : (a ++ "/" ++ b).toList = a.toList ++ '/' :: b.toList := by simp
  rw [steps, steps, steps, hslash, Text.pieces_eq_splitOn, List.splitOn_append_cons_self,
    List.map_append, Text.pieces_eq_splitOn, Text.pieces_eq_splitOn]

theorem steps_slash_append (b : String) : steps ("/" ++ b) = "" :: steps b := by
  have hempty : steps "" = [""] := steps_of_notMem (by simp)
  have hsplit := steps_append_slash "" b
  rwa [String.empty_append, hempty] at hsplit

theorem steps_intercalate {parts : List String} (hne : parts ≠ [])
    (h : ∀ part ∈ parts, '/' ∉ part.toList) : steps ("/".intercalate parts) = parts := by
  induction parts with
  | nil => exact absurd rfl hne
  | cons part parts ih =>
      cases parts with
      | nil =>
          rw [String.intercalate_singleton]
          exact steps_of_notMem (h part (List.mem_cons_self ..))
      | cons next rest =>
          rw [String.intercalate_cons_cons, steps_append_slash,
            steps_of_notMem (h part (List.mem_cons_self ..)),
            ih (by simp) fun p hp ↦ h p (List.mem_cons_of_mem _ hp), List.singleton_append]

end FileTree

namespace Path

open FileTree

theorem components_eq_filter (s : String) : components s = (steps s).filter isMove := rfl

theorem isMove_of_mem_components {s part : String} (h : part ∈ components s) :
    isMove part = true :=
  List.of_mem_filter (components_eq_filter s ▸ h)

theorem notMem_of_mem_components {s part : String} (h : part ∈ components s) :
    '/' ∉ part.toList := by
  obtain ⟨cs, hcs, rfl⟩ := List.mem_map.mp (List.mem_of_mem_filter (components_eq_filter s ▸ h))
  rw [String.toList_ofList]
  exact Text.notMem_of_mem_pieces hcs

@[simp] theorem components_slash_append (b : String) :
    components ("/" ++ b) = components b := by
  rw [components_eq_filter, steps_slash_append, components_eq_filter]
  rfl

theorem components_append_slash (a b : String) :
    components (a ++ "/" ++ b) = components a ++ components b := by
  rw [components_eq_filter, steps_append_slash, List.filter_append]
  rfl

theorem components_intercalate {parts : List String} (hmove : ∀ part ∈ parts, isMove part = true)
    (hslash : ∀ part ∈ parts, '/' ∉ part.toList) :
    components ("/".intercalate parts) = parts := by
  rw [components_eq_filter]
  cases parts with
  | nil =>
      rw [String.intercalate_nil, steps_of_notMem (by simp)]
      rfl
  | cons part rest =>
      rw [steps_intercalate (by simp) hslash, List.filter_eq_self]
      exact hmove

/-! ## Normal forms -/

theorem rootOf_cases (s : String) : rootOf s = "" ∨ rootOf s = "/" ∨ rootOf s = "//" := by
  unfold rootOf
  split
  · exact .inl rfl
  · exact .inr (.inr rfl)
  · exact .inr (.inl rfl)

theorem head?_eq_slash_iff (s : String) : s.toList.head? = some '/' ↔ rootOf s ≠ "" := by
  unfold rootOf
  cases s.toList with
  | nil => simp
  | cons c cs =>
      by_cases hc : c = '/'
      · subst hc
        simp only [List.head?_cons, List.takeWhile_cons, beq_self_eq_true, if_true,
          List.length_cons, true_iff]
        split
        · omega
        · simp
        · simp
      · simp [hc]

theorem rootOf_append {root text : String} (hroot : root = "" ∨ root = "/" ∨ root = "//")
    (htext : text.toList.head? ≠ some '/') : rootOf (root ++ text) = root := by
  have hstop : text.toList.takeWhile (· == '/') = [] := by
    cases hcs : text.toList with
    | nil => rfl
    | cons c cs =>
        rw [hcs] at htext
        have hc : c ≠ '/' := by simpa using htext
        simp [hc]
  rcases hroot with rfl | rfl | rfl
  · simp [rootOf, hstop]
  · simp [rootOf, hstop]
  · simp [rootOf, hstop]

theorem head?_intercalate {parts : List String} (hmove : ∀ part ∈ parts, isMove part = true)
    (hslash : ∀ part ∈ parts, '/' ∉ part.toList) :
    ("/".intercalate parts).toList.head? ≠ some '/' := by
  cases parts with
  | nil => simp
  | cons part rest =>
      have hfirst : part.toList.head? ≠ some '/' := by
        intro hhead
        exact hslash part (List.mem_cons_self ..) (List.mem_of_mem_head? hhead)
      have hne : part.toList ≠ [] := by
        have hpart := hmove part (List.mem_cons_self ..)
        intro hnil
        simp [isMove, String.toList_eq_nil_iff.mp hnil] at hpart
      cases rest with
      | nil => simpa using hfirst
      | cons next rest => simpa [List.head?_append_of_ne_nil _ hne] using hfirst

theorem toString_ofString (s : String) :
    (rootOf s = "" ∧ components s = [] ∧ (ofString s).toString = ".") ∨
      (¬ (rootOf s = "" ∧ components s = []) ∧
        (ofString s).toString = rootOf s ++ "/".intercalate (components s)) := by
  by_cases hempty : rootOf s = "" ∧ components s = []
  · exact .inl ⟨hempty.1, hempty.2, by simp [ofString, Path.toString, hempty]⟩
  · refine .inr ⟨hempty, ?_⟩
    have htest : ((rootOf s).isEmpty && (components s).isEmpty) = false := by
      simpa using hempty
    simp [ofString, Path.toString, htest]

theorem components_append_of_root {root : String} (h : root = "" ∨ root = "/" ∨ root = "//")
    (text : String) : components (root ++ text) = components text := by
  rcases h with rfl | rfl | rfl
  · rw [String.empty_append]
  · exact components_slash_append text
  · have hsplit : "//" ++ text = "/" ++ ("/" ++ text) := by
      rw [← String.append_assoc]
      rfl
    rw [hsplit, components_slash_append, components_slash_append]

@[simp] theorem components_normal (s : String) :
    components (ofString s).toString = components s := by
  rcases toString_ofString s with ⟨-, hparts, htext⟩ | ⟨-, htext⟩
  · rw [htext, hparts, components_eq_filter, steps_of_notMem (by simp)]
    rfl
  · rw [htext, components_append_of_root (rootOf_cases s)]
    exact components_intercalate (fun _ ↦ isMove_of_mem_components)
      fun _ ↦ notMem_of_mem_components

@[simp] theorem rootOf_normal (s : String) : rootOf (ofString s).toString = rootOf s := by
  rcases toString_ofString s with ⟨hroot, -, htext⟩ | ⟨-, htext⟩
  · rw [htext, hroot]
    rfl
  · rw [htext]
    exact rootOf_append (rootOf_cases s) (head?_intercalate (fun _ ↦ isMove_of_mem_components)
      fun _ ↦ notMem_of_mem_components)

/-- Taking the normal form twice is taking it once. -/
theorem ofString_normal (s : String) : ofString (ofString s).toString = ofString s := by
  change Path.mk (rootOf (ofString s).toString) (components (ofString s).toString) = _
  rw [rootOf_normal, components_normal]
  rfl

theorem normal_ne_empty (s : String) : (ofString s).toString ≠ "" := by
  intro hempty
  have hroot := rootOf_normal s
  have hparts := components_normal s
  rw [hempty] at hroot hparts
  rcases toString_ofString s with ⟨-, -, htext⟩ | ⟨hne, -⟩
  · simp [htext] at hempty
  · exact hne ⟨hroot.symm, hparts.symm⟩

/-! ## Joined paths -/

theorem join_cases (base name : String) :
    (base = "" ∧ join base name = name) ∨
      (∃ before, base = before ++ "/" ∧ join base name = before ++ "/" ++ name) ∨
        (base ≠ "" ∧ join base name = base ++ "/" ++ name) := by
  unfold join
  cases hlast : base.toList.getLast? with
  | none =>
      rw [List.getLast?_eq_none_iff, String.toList_eq_nil_iff] at hlast
      exact .inl ⟨hlast, rfl⟩
  | some c =>
      right
      by_cases hc : c = '/'
      · subst hc
        obtain ⟨before, hbefore⟩ := List.getLast?_eq_some_iff.mp hlast
        have hbase : base = String.ofList before ++ "/" := by
          rw [← String.toList_inj, hbefore]
          simp
        refine .inl ⟨String.ofList before, hbase, ?_⟩
        rw [hbase]
        rfl
      · refine .inr ⟨?_, ?_⟩
        · rintro rfl
          simp at hlast
        · simp

theorem exists_steps_join {name : String} (hname : '/' ∉ name.toList) (base : String) :
    ∃ before, steps (join base name) = before ++ [name] := by
  rcases join_cases base name with ⟨-, hjoin⟩ | ⟨before, -, hjoin⟩ | ⟨-, hjoin⟩
  · exact ⟨[], by rw [hjoin, steps_of_notMem hname, List.nil_append]⟩
  · exact ⟨steps before, by rw [hjoin, steps_append_slash, steps_of_notMem hname]⟩
  · exact ⟨steps base, by rw [hjoin, steps_append_slash, steps_of_notMem hname]⟩

theorem components_join {name : String} (hname : '/' ∉ name.toList) (hmove : isMove name = true)
    (base : String) : components (join base name) = components base ++ [name] := by
  have hempty : components "" = [] := rfl
  have hown : components name = [name] := by
    rw [components_eq_filter, steps_of_notMem hname, List.filter_cons_of_pos hmove, List.filter_nil]
  rcases join_cases base name with ⟨rfl, hjoin⟩ | ⟨before, rfl, hjoin⟩ | ⟨-, hjoin⟩
  · rw [hjoin, hown, hempty, List.nil_append]
  · have hbefore := components_append_slash before ""
    rw [String.append_empty, hempty, List.append_nil] at hbefore
    rw [hjoin, components_append_slash, hown, hbefore]
  · rw [hjoin, components_append_slash, hown]

theorem head?_join {name : String} (hname : '/' ∉ name.toList) (base : String) :
    (join base name).toList.head? = some '/' ↔ base.toList.head? = some '/' := by
  rcases join_cases base name with ⟨rfl, hjoin⟩ | ⟨before, rfl, hjoin⟩ | ⟨hne, hjoin⟩
  · rw [hjoin]
    constructor
    · intro hhead
      exact absurd (List.mem_of_mem_head? hhead) hname
    · intro hhead
      simp at hhead
  · rw [hjoin, String.toList_append, List.head?_append_of_ne_nil _ (by simp)]
  · have hbase : base.toList ≠ [] := mt String.toList_eq_nil_iff.mp hne
    rw [hjoin, String.append_assoc, String.toList_append, List.head?_append_of_ne_nil _ hbase]

end Path

end ApiSurvey
