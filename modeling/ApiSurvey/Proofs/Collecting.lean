import ApiSurvey.Catalog.Basic
import Mathlib.Data.List.Nodup

/-!
# Collecting data shapes

A collection takes a data shape in only when its class name is new. Main statement: adding shapes
one after the other appends the newcomers among them and counts them, where a newcomer is the first
of its name in the list and has a name that the collection does not hold. The lemmas on newcomers
say how the list of them behaves when lists are joined and when more names are known.
-/

namespace ApiSurvey

namespace DataShape

/-- The shapes whose class name is neither known already nor that of an earlier shape. -/
def newcomers (known : List String) : List DataShape → List DataShape
  | [] => []
  | s :: rest =>
      if s.className ∈ known then newcomers known rest
      else s :: newcomers (known ++ [s.className]) rest

variable {known : List String} {s : DataShape} {xs ys : List DataShape}

theorem newcomers_cons_of_mem (h : s.className ∈ known) :
    newcomers known (s :: xs) = newcomers known xs := by
  simp [newcomers, h]

theorem newcomers_cons_of_notMem (h : s.className ∉ known) :
    newcomers known (s :: xs) = s :: newcomers (known ++ [s.className]) xs := by
  simp [newcomers, h]

/-- Only which names are known counts, not in what order. -/
theorem newcomers_congr {known' : List String} (h : ∀ name, name ∈ known ↔ name ∈ known') :
    newcomers known xs = newcomers known' xs := by
  induction xs generalizing known known' with
  | nil => rfl
  | cons s xs ih =>
      by_cases hs : s.className ∈ known
      · rw [newcomers_cons_of_mem hs, newcomers_cons_of_mem ((h _).mp hs), ih h]
      · rw [newcomers_cons_of_notMem hs, newcomers_cons_of_notMem (mt (h _).mpr hs)]
        congr 1
        apply ih
        intro name
        simp [h name]

theorem newcomers_append (known : List String) (xs ys : List DataShape) :
    newcomers known (xs ++ ys) =
      newcomers known xs ++ newcomers (known ++ (newcomers known xs).map (·.className)) ys := by
  induction xs generalizing known with
  | nil => simp [newcomers]
  | cons s xs ih =>
      by_cases hs : s.className ∈ known
      · rw [List.cons_append, newcomers_cons_of_mem hs, newcomers_cons_of_mem hs, ih]
      · rw [List.cons_append, newcomers_cons_of_notMem hs, newcomers_cons_of_notMem hs, ih]
        simp [List.append_assoc]

/-- Names that become known drop out of the newcomers and leave the others in place. -/
theorem filter_newcomers (known more : List String) (xs : List DataShape) :
    (newcomers known xs).filter (fun s ↦ s.className ∉ more) = newcomers (more ++ known) xs := by
  induction xs generalizing known with
  | nil => rfl
  | cons s xs ih =>
      by_cases hs : s.className ∈ known
      · rw [newcomers_cons_of_mem hs, newcomers_cons_of_mem (List.mem_append_right _ hs), ih]
      · rw [newcomers_cons_of_notMem hs]
        by_cases hm : s.className ∈ more
        · -- The shape itself is dropped; that its name counts as known adds nothing to `more`.
          rw [newcomers_cons_of_mem (List.mem_append_left _ hm),
            List.filter_cons_of_neg (by simpa using hm), ih]
          apply newcomers_congr
          intro name
          have hname : name = s.className → name ∈ more := fun heq ↦ heq ▸ hm
          simp only [List.mem_append, List.mem_singleton]
          tauto
        · have hboth : s.className ∉ more ++ known := by simp [hm, hs]
          rw [newcomers_cons_of_notMem hboth, List.filter_cons_of_pos (by simpa using hm), ih,
            List.append_assoc]

/-- Shapes of known names have no part in who is new. -/
theorem newcomers_filter (known : List String) (xs : List DataShape) :
    newcomers known (xs.filter fun s ↦ s.className ∉ known) = newcomers known xs := by
  -- The names known at the start stay known, so they are kept apart from those found on the way.
  have hmore : ∀ more, newcomers (known ++ more) (xs.filter fun s ↦ s.className ∉ known) =
      newcomers (known ++ more) xs := by
    induction xs with
    | nil => intro more; rfl
    | cons s xs ih =>
        intro more
        by_cases hs : s.className ∈ known
        · rw [List.filter_cons_of_neg (by simpa using hs),
            newcomers_cons_of_mem (List.mem_append_left _ hs), ih]
        · rw [List.filter_cons_of_pos (by simpa using hs)]
          by_cases hm : s.className ∈ more
          · have hboth : s.className ∈ known ++ more := List.mem_append_right _ hm
            rw [newcomers_cons_of_mem hboth, newcomers_cons_of_mem hboth, ih]
          · have hboth : s.className ∉ known ++ more := by simp [hs, hm]
            rw [newcomers_cons_of_notMem hboth, newcomers_cons_of_notMem hboth,
              List.append_assoc, ih]
  simpa using hmore []

theorem newcomers_sublist (known : List String) (xs : List DataShape) :
    (newcomers known xs).Sublist xs := by
  induction xs generalizing known with
  | nil => exact List.Sublist.refl []
  | cons s xs ih =>
      by_cases hs : s.className ∈ known
      · rw [newcomers_cons_of_mem hs]
        exact (ih known).cons s
      · rw [newcomers_cons_of_notMem hs]
        exact (ih _).cons_cons s

theorem mem_map_newcomers {name : String} :
    name ∈ (newcomers known xs).map (·.className) ↔
      name ∉ known ∧ name ∈ xs.map (·.className) := by
  induction xs generalizing known with
  | nil => simp [newcomers]
  | cons s xs ih =>
      by_cases hs : s.className ∈ known
      · rw [newcomers_cons_of_mem hs, ih]
        have hname : name = s.className → name ∈ known := fun heq ↦ heq ▸ hs
        simp only [List.map_cons, List.mem_cons]
        tauto
      · rw [newcomers_cons_of_notMem hs, List.map_cons, List.mem_cons, ih]
        have hname : name = s.className → name ∉ known := fun heq ↦ heq ▸ hs
        simp only [List.map_cons, List.mem_cons, List.mem_append]
        tauto

theorem nodup_map_newcomers (known : List String) (xs : List DataShape) :
    ((newcomers known xs).map (·.className)).Nodup := by
  induction xs generalizing known with
  | nil => exact List.nodup_nil
  | cons s xs ih =>
      by_cases hs : s.className ∈ known
      · rw [newcomers_cons_of_mem hs]
        exact ih known
      · rw [newcomers_cons_of_notMem hs, List.map_cons, List.nodup_cons]
        refine ⟨fun hmem ↦ ?_, ih _⟩
        exact (mem_map_newcomers.mp hmem).1 (by simp)

/-- For a name that is not known, the newcomer of that name is the first shape of that name. -/
theorem find?_newcomers {name : String} (h : name ∉ known) :
    (newcomers known xs).find? (·.className == name) = xs.find? (·.className == name) := by
  induction xs generalizing known with
  | nil => rfl
  | cons s xs ih =>
      by_cases hname : s.className = name
      · have hs : s.className ∉ known := hname ▸ h
        rw [newcomers_cons_of_notMem hs, List.find?_cons_of_pos (by simpa using hname),
          List.find?_cons_of_pos (by simpa using hname)]
      · rw [List.find?_cons_of_neg (by simpa using hname)]
        by_cases hs : s.className ∈ known
        · rw [newcomers_cons_of_mem hs, ih h]
        · rw [newcomers_cons_of_notMem hs, List.find?_cons_of_neg (by simpa using hname)]
          exact ih (by simpa [h] using Ne.symm hname)

end DataShape

namespace Collection

open DataShape

theorem addShape_eq (c : Collection) (s : DataShape) :
    c.addShape s = { c with shapes := c.shapes ++ newcomers c.shapeNames [s] } := by
  by_cases hs : s.className ∈ c.shapeNames
  · simp [addShape, lacks, newcomers, hs]
  · simp [addShape, lacks, newcomers, hs]

/-- Adding shapes appends the newcomers among them and counts them. -/
theorem addShapes_eq (c : Collection) (shapes : List DataShape) :
    c.addShapes shapes =
      ({ c with shapes := c.shapes ++ newcomers c.shapeNames shapes },
        (newcomers c.shapeNames shapes).length) := by
  have hcount : ∀ (c : Collection) (n : Nat),
      shapes.foldl
          (fun acc s ↦ (acc.1.addShape s, if acc.1.lacks s then acc.2 + 1 else acc.2)) (c, n) =
        ({ c with shapes := c.shapes ++ newcomers c.shapeNames shapes },
          n + (newcomers c.shapeNames shapes).length) := by
    induction shapes with
    | nil => intro c n; simp [newcomers]
    | cons s shapes ih =>
        intro c n
        rw [List.foldl_cons, ih, addShape_eq]
        by_cases hs : s.className ∈ c.shapeNames
        · simp [lacks, newcomers, hs]
        · have hnames : ({ c with shapes := c.shapes ++ [s] } : Collection).shapeNames =
              c.shapeNames ++ [s.className] := by
            simp [shapeNames]
          simp [lacks, newcomers, hs, hnames, Nat.add_assoc, Nat.add_comm 1]
  have hzero := hcount c 0
  rw [Nat.zero_add] at hzero
  exact hzero

theorem foldl_addGroup (groups : List RouteGroup) (c : Collection) :
    groups.foldl addGroup c = { c with groups := c.groups ++ groups } := by
  induction groups generalizing c with
  | nil => simp
  | cons g groups ih => simp [ih, addGroup]

end Collection

end ApiSurvey
