import ApiSurvey.Proofs.Walks

/-!
# Scanned files

What a scan lists, in which order, and what the index of files keeps of it. Main statement: a scan
lists the marked source files that can be reached through directories that are neither links nor
ignored, each of them once. Where two of its paths first differ, a file comes before what is in a
directory, and otherwise the smaller name comes first. The index gives for each file name the first
path in that order.
-/

namespace ApiSurvey

theorem Text.occursIn_iff (part cs : List Char) : occursIn part cs = true ↔ part <:+: cs := by
  induction cs with
  | nil => simp [occursIn]
  | cons c cs ih =>
      rw [occursIn, Bool.or_eq_true, ih, List.isPrefixOf_iff_prefix, List.infix_cons_iff]

namespace FileTree

/-! ## Membership -/

variable {t : FileTree} {path root p : String} {entries : List (String × Entry)}

/-- A file that a walk lists: below the directory at `root` stands a chain of directories, none of
them a link and none ignored, and in the last one an entry that neither is a directory nor leads to
one. -/
structure IsWalked (t : FileTree) (root : String) (dirs : List String) (file : String) : Prop where
  reached : ∃ top e, t.entry? root = .ok top ∧ top.below? (dirs ++ [file]) = some e
  entered : ∀ dir ∈ dirs, isIgnoredName dir = false
  leaf : t.isDirectory ((dirs ++ [file]).foldl Path.join root) = false

/-- What counts as a file in a walk is what does not lead to a directory. -/
theorem countsAsFile_eq {top found : Entry} {dirs : List String} {file : String}
    (hproper : top.Proper) (hroot : t.entry? root = .ok top)
    (hbelow : top.below? (dirs ++ [file]) = some found) :
    countsAsFile t (dirs.foldl Path.join root) (file, found) =
      !t.isDirectory ((dirs ++ [file]).foldl Path.join root) := by
  have hnames := (hproper.of_below hbelow).1
  have hentry := entry?_foldl_join hroot hnames (by simp) hbelow
  cases found with
  | link target => rw [countsAsFile, List.foldl_append, List.foldl_cons, List.foldl_nil]
  | file content =>
      rw [isDirectory, hentry (by simp)]
      rfl
  | directory entries =>
      rw [isDirectory, hentry (by simp)]
      rfl

theorem mem_walk_iff (hproper : t.root.Proper) :
    p ∈ t.walk root ↔
      ∃ dirs file, t.IsWalked root dirs file ∧ p = (dirs ++ [file]).foldl Path.join root := by
  cases hroot : t.entry? root with
  | error error =>
      simp only [walk, hroot]
      refine iff_of_false List.not_mem_nil ?_
      rintro ⟨dirs, file, ⟨⟨top, e, htop, -⟩, -, -⟩, -⟩
      rw [hroot] at htop
      cases htop
  | ok top =>
      have htop := proper_of_entry_eq_ok hproper hroot
      simp only [walk, hroot, mem_walkEntry_iff htop]
      constructor
      · rintro ⟨dirs, file, found, hp, hbelow, hdirs, hcounts⟩
        rw [countsAsFile_eq htop hroot hbelow, Bool.not_eq_true'] at hcounts
        exact ⟨dirs, file, ⟨⟨top, found, hroot, hbelow⟩, hdirs, hcounts⟩, hp⟩
      · rintro ⟨dirs, file, ⟨⟨top', found, htop', hbelow⟩, hdirs, hleaf⟩, hp⟩
        obtain rfl := Except.ok.inj (htop'.symm.trans hroot)
        refine ⟨dirs, file, found, hp, hbelow, hdirs, ?_⟩
        rw [countsAsFile_eq htop hroot hbelow, hleaf]
        rfl

/-! ## The order of a walk -/

/-- The order of a walk on chains of names: where two chains first differ, a file comes before what
is in a directory, and otherwise the smaller name comes first. -/
def Precedes (xs ys : List String) : Prop :=
  ∃ common a as b bs, xs = common ++ a :: as ∧ ys = common ++ b :: bs ∧ a ≠ b ∧
    (as = [] ∧ bs ≠ [] ∨ (as = [] ↔ bs = []) ∧ a < b)

theorem Precedes.irrefl (xs : List String) : ¬ Precedes xs xs := by
  rintro ⟨common, a, as, b, bs, hxs, hys, hne, -⟩
  rw [hxs] at hys
  exact hne (List.cons.inj (List.append_cancel_left hys)).1

theorem precedes_of_lt (common : List String) {a b : String} {as bs : List String} (hlt : a < b)
    (hends : as = [] ↔ bs = []) : Precedes (common ++ a :: as) (common ++ b :: bs) := by
  refine ⟨common, a, as, b, bs, rfl, rfl, ?_, .inr ⟨hends, hlt⟩⟩
  rintro rfl
  exact String.lt_irrefl a hlt

theorem precedes_of_file (common : List String) {a b : String} {bs : List String} (hne : a ≠ b)
    (hbs : bs ≠ []) : Precedes (common ++ [a]) (common ++ b :: bs) :=
  ⟨common, a, [], b, bs, rfl, rfl, hne, .inl ⟨rfl, hbs⟩⟩

theorem pairwise_mergeSort_lt {α : Type} (key : α → String) {xs : List α}
    (hkeys : (xs.map key).Nodup) :
    (xs.mergeSort fun a b ↦ nameLE (key a) (key b)).Pairwise fun a b ↦ key a < key b := by
  have hperm := (List.mergeSort_perm xs fun a b ↦ nameLE (key a) (key b)).map key
  have hdistinct := List.pairwise_map.mp (hperm.nodup_iff.mpr hkeys)
  apply ((pairwise_mergeSort_nameLE key xs).and hdistinct).imp
  rintro a b ⟨hle, hne⟩
  exact String.not_le.mp fun hge ↦ hne (String.le_antisymm hle hge)

theorem components_of_mem_fileNames (hproper : (Entry.directory entries).Proper) {name : String}
    (hname : name ∈ fileNames t path entries) :
    Path.components (Path.join path name) = Path.components path ++ [name] := by
  obtain ⟨e, hmem, -⟩ := mem_fileNames.mp hname
  cases hproper with
  | directory hnames hdistinct hinner =>
      exact Path.components_join (hnames name e hmem).noSlash (hnames name e hmem).move path

/-- What a walk lists inside of a directory has at least one name after that of the directory. -/
theorem exists_components_of_mem_walkEntries (hproper : (Entry.directory entries).Proper)
    {x : String × List String} (hx : x ∈ walkEntries t path entries) (hp : p ∈ x.2) :
    ∃ names ≠ [], Path.components p = Path.components path ++ x.1 :: names := by
  rw [walkEntries_eq] at hx
  obtain ⟨⟨name, e⟩, hmem, rfl⟩ := List.mem_map.mp hx
  replace hmem := List.mem_of_mem_filter hmem
  cases hproper with
  | directory hnames hdistinct hinner =>
      have he := hinner name e hmem
      have hname := hnames name e hmem
      obtain ⟨names, found, hne, rfl, hseen, -⟩ := exists_names_of_mem_walkEntry he hp
      have hrest := (he.of_below (Entry.below?_of_seenBelow? hseen)).1
      refine ⟨names, hne, ?_⟩
      rw [components_foldl_join hrest, Path.components_join hname.noSlash hname.move,
        List.append_assoc, List.singleton_append]

/-- No name is that of a file and of a directory. -/
theorem ne_of_mem_fileNames_of_mem_walkEntries (hdistinct : (entries.map (·.1)).Nodup)
    {name : String} (hname : name ∈ fileNames t path entries) {x : String × List String}
    (hx : x ∈ walkEntries t path entries) : name ≠ x.1 := by
  rintro rfl
  obtain ⟨e, hmem, hcounts⟩ := mem_fileNames.mp hname
  rw [walkEntries_eq] at hx
  obtain ⟨⟨name, e'⟩, hmem', rfl⟩ := List.mem_map.mp hx
  obtain ⟨hmem', hentered⟩ := List.mem_filter.mp hmem'
  have hpair : (name, e) = (name, e') := List.inj_on_of_nodup_map hdistinct hmem hmem' rfl
  obtain rfl := (Prod.mk.inj hpair).2
  cases e <;> simp_all [countsAsFile, isEntered, Entry.isDirectory]

theorem pairwise_walkEntry {e : Entry} (hproper : e.Proper) :
    (walkEntry t path e).Pairwise fun p q ↦
      Precedes (Path.components p) (Path.components q) := by
  induction e using Entry.induction generalizing path with
  | file content =>
      rw [walkEntry]
      exact .nil
  | link target =>
      rw [walkEntry]
      exact .nil
  | directory entries ih =>
      obtain ⟨-, hdistinct, hinner⟩ := (Entry.proper_directory entries).mp hproper
      rw [walkEntry, List.pairwise_append, List.pairwise_map, List.pairwise_flatMap]
      refine ⟨?_, ⟨?_, ?_⟩, ?_⟩
      · have hsorted : (fileNames t path entries).Pairwise (· < ·) := by
          have hnames := nodup_fileNames t path hdistinct
          rw [← List.map_id ((entries.filter _).map _)] at hnames
          rw [fileNames_eq]
          exact pairwise_mergeSort_lt id hnames
        apply hsorted.imp_of_mem
        intro a b ha hb hlt
        rw [components_of_mem_fileNames hproper ha, components_of_mem_fileNames hproper hb]
        exact precedes_of_lt _ hlt Iff.rfl
      · intro x hx
        rw [List.mem_mergeSort, walkEntries_eq] at hx
        obtain ⟨⟨name, e⟩, hmem, rfl⟩ := List.mem_map.mp hx
        replace hmem := List.mem_of_mem_filter hmem
        exact ih name e hmem (hinner e (List.mem_map_of_mem hmem))
      · have hkeys := nodup_map_walkEntries t path hdistinct
        apply (pairwise_mergeSort_lt _ hkeys).imp_of_mem
        intro x y hx hy hlt p hp q hq
        rw [List.mem_mergeSort] at hx hy
        obtain ⟨as, has, hp⟩ := exists_components_of_mem_walkEntries hproper hx hp
        obtain ⟨bs, hbs, hq⟩ := exists_components_of_mem_walkEntries hproper hy hq
        rw [hp, hq]
        exact precedes_of_lt _ hlt (iff_of_false has hbs)
      · intro p hp q hq
        obtain ⟨name, hname, rfl⟩ := List.mem_map.mp hp
        obtain ⟨x, hx, hq⟩ := List.mem_flatMap.mp hq
        rw [List.mem_mergeSort] at hx
        obtain ⟨bs, hbs, hq⟩ := exists_components_of_mem_walkEntries hproper hx hq
        rw [components_of_mem_fileNames hproper hname, hq]
        exact precedes_of_file _ (ne_of_mem_fileNames_of_mem_walkEntries hdistinct hname hx) hbs

theorem pairwise_walk (hproper : t.root.Proper) (root : String) :
    (t.walk root).Pairwise fun p q ↦ Precedes (Path.components p) (Path.components q) := by
  cases hroot : t.entry? root with
  | error error =>
      simp only [walk, hroot]
      exact .nil
  | ok top =>
      simp only [walk, hroot]
      exact pairwise_walkEntry (proper_of_entry_eq_ok hproper hroot)

/-! ## Scan and index -/

theorem mem_scan_iff {extension marker : String} :
    p ∈ t.scan extension marker root ↔
      p ∈ t.walk (Path.ofString root).toString ∧ extension.toList <:+ p.toList ∧
        marker.toList <:+: p.toList := by
  rw [scan, List.mem_filter, Bool.and_eq_true, List.isSuffixOf_iff_suffix, Text.occursIn_iff]

theorem scan_unmarked (t : FileTree) (extension root : String) :
    t.scan extension "" root =
      (t.walk (Path.ofString root).toString).filter fun p ↦
        extension.toList.isSuffixOf p.toList := by
  rw [scan]
  apply List.filter_congr
  intro p _
  have hempty : Text.occursIn "".toList p.toList = true :=
    (Text.occursIn_iff _ _).mpr List.nil_infix
  rw [hempty, Bool.and_true]

/-- The files kept by name, with one more path, which is kept when it is the first of its name. -/
def keepFirst (out : List (String × String)) (p : String) : List (String × String) :=
  if (out.lookup (baseName p)).isSome then out else out ++ [(baseName p, p)]

theorem index_eq (t : FileTree) (extension root : String) :
    t.index extension root = (t.scan extension "" root).foldl keepFirst [] := by
  rw [scan_unmarked, index]
  rfl

theorem mem_map_iff_isSome_lookup (out : List (String × String)) (name : String) :
    name ∈ out.map (·.1) ↔ (out.lookup name).isSome = true := by
  simp only [List.lookup_isSome_iff, List.mem_map, beq_iff_eq, eq_comm (a := name)]

theorem lookup_keepFirst (out : List (String × String)) (p name : String) :
    (keepFirst out p).lookup name =
      (out.lookup name).or (if baseName p == name then some p else none) := by
  unfold keepFirst
  by_cases hkept : (out.lookup (baseName p)).isSome = true
  · rw [if_pos hkept]
    by_cases hname : baseName p = name
    · obtain ⟨q, hq⟩ := Option.isSome_iff_exists.mp hkept
      rw [← hname, hq, Option.some_or]
    · rw [if_neg (by simpa using hname), Option.or_none]
  · rw [if_neg hkept, List.lookup_append, List.lookup_cons, List.lookup_nil,
      BEq.comm (a := name)]
    cases baseName p == name <;> rfl

theorem lookup_foldl_keepFirst (paths : List String) (out : List (String × String))
    (name : String) :
    (paths.foldl keepFirst out).lookup name =
      (out.lookup name).or (paths.find? (baseName · == name)) := by
  induction paths generalizing out with
  | nil => simp
  | cons p paths ih =>
      rw [List.foldl_cons, ih, lookup_keepFirst, List.find?_cons, Option.or_assoc]
      cases baseName p == name <;> rfl

theorem nodup_keepFirst {out : List (String × String)} (h : (out.map (·.1)).Nodup) (p : String) :
    ((keepFirst out p).map (·.1)).Nodup := by
  unfold keepFirst
  split
  · exact h
  · rename_i hnew
    rw [← mem_map_iff_isSome_lookup] at hnew
    rw [List.map_append]
    exact h.append (List.nodup_singleton _) (by simpa using hnew)

theorem nodup_foldl_keepFirst (paths : List String) {out : List (String × String)}
    (h : (out.map (·.1)).Nodup) : ((paths.foldl keepFirst out).map (·.1)).Nodup := by
  induction paths generalizing out with
  | nil => exact h
  | cons p paths ih => exact ih (nodup_keepFirst h p)

theorem nodup_map_index (t : FileTree) (extension root : String) :
    ((t.index extension root).map (·.1)).Nodup := by
  rw [index_eq]
  exact nodup_foldl_keepFirst _ List.nodup_nil

theorem lookup_index (t : FileTree) (extension root name : String) :
    (t.index extension root).lookup name =
      (t.scan extension "" root).find? (baseName · == name) := by
  rw [index_eq, lookup_foldl_keepFirst, List.lookup_nil, Option.none_or]

theorem mem_map_index_iff {extension name : String} :
    name ∈ (t.index extension root).map (·.1) ↔
      name ∈ (t.scan extension "" root).map baseName := by
  rw [mem_map_iff_isSome_lookup, lookup_index, List.find?_isSome, List.mem_map]
  simp only [beq_iff_eq]

/-- A scan lists exactly the marked source files that are reached through directories that are
neither links nor ignored, each once and in the order of a walk, and the index gives the first path
for each of their names. -/
theorem scan_exact (hproper : t.root.Proper) (extension marker root : String) :
    let top := (Path.ofString root).toString
    (∀ p, p ∈ t.scan extension marker root ↔
      (∃ dirs file, t.IsWalked top dirs file ∧ p = (dirs ++ [file]).foldl Path.join top) ∧
        extension.toList <:+ p.toList ∧ marker.toList <:+: p.toList) ∧
      (t.scan extension marker root).Nodup ∧
      ((t.scan extension marker root).Pairwise fun p q ↦
        Precedes (Path.components p) (Path.components q)) ∧
      ((t.index extension root).map (·.1)).Nodup ∧
      (∀ name, name ∈ (t.index extension root).map (·.1) ↔
        name ∈ (t.scan extension "" root).map baseName) ∧
      ∀ name, (t.index extension root).lookup name =
        (t.scan extension "" root).find? (baseName · == name) := by
  intro top
  have hordered : (t.scan extension marker root).Pairwise fun p q ↦
      Precedes (Path.components p) (Path.components q) :=
    (pairwise_walk hproper top).filter _
  refine ⟨?_, ?_, hordered, nodup_map_index t extension root, fun name ↦ mem_map_index_iff,
    lookup_index t extension root⟩
  · intro p
    rw [mem_scan_iff, mem_walk_iff hproper]
  · apply hordered.imp
    rintro p q hpq rfl
    exact Precedes.irrefl _ hpq

/-- A link that leads nowhere counts as a file, beside a directory with build output in it and a
link to that directory. -/
theorem scan_exact_of_dangling_link :
    let source : Entry := .file .empty
    let inner : Entry :=
      .directory [("target", .directory [("Built.java", source)]), ("Late.java", source)]
    let t : FileTree :=
      { root := .directory [("src", .directory
          [("b", inner), ("z.java", source), ("a.java", .link "nowhere"), ("c", .link "b")])] }
    t.root.Proper ∧ "src/a.java" ∈ t.scan ".java" "a" "src" ∧
      "src/b/Late.java" ∈ t.scan ".java" "a" "src" ∧ (t.scan ".java" "a" "src").Nodup := by
  intro source inner t
  have hproper : t.root.Proper := by
    simp only [t, inner, source, Entry.proper_directory, Entry.proper_file, Entry.proper_link,
      List.map_cons, List.map_nil, List.mem_cons, List.not_mem_nil, or_false, forall_eq,
      forall_eq_or_imp, and_true]
    decide
  have hroot : t.entry? "src" = .ok (.directory
      [("b", inner), ("z.java", source), ("a.java", .link "nowhere"), ("c", .link "b")]) := by
    simp [t, entry?, resolve, linkLimit, follow, startOf, steps, Text.pieces, Entry.below?,
      Entry.child?]
  have hlink : t.IsWalked "src" [] "a.java" := by
    refine ⟨⟨_, .link "nowhere", hroot, ?_⟩, by simp, ?_⟩
    · simp [Entry.below?, Entry.child?, List.lookup_cons]
    · simp [t, Path.join, isDirectory, entry?, resolve, linkLimit, follow, startOf, steps,
        Text.pieces, Entry.below?, Entry.child?, List.lookup_cons]
  have hlate : t.IsWalked "src" ["b"] "Late.java" := by
    refine ⟨⟨_, source, hroot, ?_⟩, by decide, ?_⟩
    · simp [inner, Entry.below?, Entry.child?, List.lookup_cons]
    · simp [t, inner, source, Path.join, isDirectory, entry?, resolve, linkLimit, follow, startOf,
        steps, Text.pieces, Entry.below?, Entry.child?, List.lookup_cons]
  obtain ⟨hmem, hnodup, -⟩ := scan_exact hproper ".java" "a" "src"
  have hnormal : (Path.ofString "src").toString = "src" := by decide
  rw [hnormal] at hmem
  refine ⟨hproper, ?_, ?_, hnodup⟩
  · exact (hmem _).mpr ⟨⟨[], "a.java", hlink, by decide⟩, ⟨"src/a".toList, by decide⟩,
      ⟨"src/".toList, ".java".toList, by decide⟩⟩
  · exact (hmem _).mpr ⟨⟨["b"], "Late.java", hlate, by decide⟩, ⟨"src/b/Late".toList, by decide⟩,
      ⟨"src/b/L".toList, "te.java".toList, by decide⟩⟩

end FileTree

end ApiSurvey
