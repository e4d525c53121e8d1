import ApiSurvey.FileTree.Walk
import ApiSurvey.Proofs.PathLookup
import Mathlib.Data.List.Nodup

/-!
# Walks

What a walk lists. Main statements: every path of a walk is that of the directory with a chain of
names joined to it, the chain passes through directories that the walk enters and ends at an entry
that is no directory, and looking the path up goes along that chain. So a path of a walk denotes
what its normal form denotes.
-/

namespace ApiSurvey

/-! ## Trees with proper names -/

namespace Entry

/-- What holds of files and links, and of a directory if it holds of all its entries, holds of every
entry. -/
@[elab_as_elim]
theorem induction {P : Entry → Prop} (file : ∀ content, P (.file content))
    (link : ∀ target, P (.link target))
    (directory : ∀ entries, (∀ name e, (name, e) ∈ entries → P e) → P (.directory entries)) :
    ∀ e, P e
  | .file content => file content
  | .link target => link target
  | .directory entries => directory entries fun _ e _ ↦ induction file link directory e
termination_by e => sizeOf e
decreasing_by
  rename_i h
  have hpair := List.sizeOf_lt_of_mem h
  simp only [Prod.mk.sizeOf_spec] at hpair
  simp only [Entry.directory.sizeOf_spec]
  omega

/-- The names in every directory are such as entries can have, and they are distinct. -/
inductive Proper : Entry → Prop where
  | file (content : ByteArray) : Proper (.file content)
  | link (target : String) : Proper (.link target)
  | directory {entries : List (String × Entry)}
      (names : ∀ name e, (name, e) ∈ entries → FileTree.IsName name)
      (distinct : (entries.map (·.1)).Nodup)
      (inner : ∀ name e, (name, e) ∈ entries → Proper e) : Proper (.directory entries)

@[simp] theorem proper_file (content : ByteArray) : (file content).Proper := .file content

@[simp] theorem proper_link (target : String) : (link target).Proper := .link target

@[simp] theorem proper_directory (entries : List (String × Entry)) :
    (directory entries).Proper ↔
      (∀ name ∈ entries.map (·.1), FileTree.IsName name) ∧ (entries.map (·.1)).Nodup ∧
        ∀ e ∈ entries.map (·.2), Proper e := by
  simp only [List.mem_map, Prod.exists, exists_and_right, exists_eq_right, forall_exists_index]
  constructor
  · intro h
    cases h with
    | directory names distinct inner => exact ⟨names, distinct, fun e name ↦ inner name e⟩
  · rintro ⟨names, distinct, inner⟩
    exact .directory names distinct fun name e ↦ inner e name

theorem lookup_eq_some_iff_of_nodup {entries : List (String × Entry)} {name : String} {e : Entry}
    (h : (entries.map (·.1)).Nodup) : entries.lookup name = some e ↔ (name, e) ∈ entries := by
  induction entries with
  | nil => simp
  | cons head rest ih =>
      obtain ⟨other, found⟩ := head
      obtain ⟨hother, hrest⟩ := List.nodup_cons.mp h
      rw [List.lookup_cons, List.mem_cons, Prod.mk.injEq]
      by_cases hname : name = other
      · have hnot : (name, e) ∉ rest := by
          intro hmem
          exact hother (List.mem_map.mpr ⟨(name, e), hmem, hname⟩)
        rw [hname] at hnot
        simp [hname, hnot, eq_comm]
      · have htest : (name == other) = false := beq_eq_false_iff_ne.mpr hname
        simp [htest, hname, ih hrest]

theorem Proper.child {e inner : Entry} {name : String} (h : e.Proper)
    (hchild : e.child? name = some inner) : FileTree.IsName name ∧ inner.Proper := by
  cases h with
  | file content => cases hchild
  | link target => cases hchild
  | directory names distinct hinner =>
      have hmem := (lookup_eq_some_iff_of_nodup distinct).mp hchild
      exact ⟨names name inner hmem, hinner name inner hmem⟩

theorem Proper.of_below {e found : Entry} {names : List String} (h : e.Proper)
    (hbelow : e.below? names = some found) :
    (∀ name ∈ names, FileTree.IsName name) ∧ found.Proper := by
  induction names generalizing e with
  | nil =>
      obtain rfl := Option.some.inj hbelow
      exact ⟨by simp, h⟩
  | cons name names ih =>
      obtain ⟨inner, hchild, hrest⟩ := Option.bind_eq_some_iff.mp hbelow
      obtain ⟨hname, hinner⟩ := h.child hchild
      obtain ⟨hnames, hfound⟩ := ih hinner hrest
      refine ⟨?_, hfound⟩
      intro n hn
      rcases List.mem_cons.mp hn with rfl | hn
      · exact hname
      · exact hnames n hn

/-- The entry that a walk finds under a name; a directory that is passed over is not found. -/
def seen? (name : String) (e : Entry) : Option Entry :=
  (e.child? name).filter fun inner ↦ !(inner.isDirectory && isIgnoredName name)

def seenBelow? : List String → Entry → Option Entry
  | [], e => some e
  | name :: names, e => (e.seen? name).bind (seenBelow? names)

theorem seen?_eq_some_iff {e inner : Entry} {name : String} :
    e.seen? name = some inner ↔
      e.child? name = some inner ∧ (inner.isDirectory && isIgnoredName name) = false := by
  rw [seen?, Option.filter_eq_some_iff, Bool.not_eq_true']

theorem below?_of_seenBelow? {e found : Entry} {names : List String}
    (h : e.seenBelow? names = some found) : e.below? names = some found := by
  induction names generalizing e with
  | nil => exact h
  | cons name names ih =>
      obtain ⟨inner, hseen, hrest⟩ := Option.bind_eq_some_iff.mp h
      rw [Entry.below?, (seen?_eq_some_iff.mp hseen).1]
      exact ih hrest

theorem below?_cons_eq_some_iff {entries : List (String × Entry)} {name : String}
    {names : List String} {found : Entry} (hdistinct : (entries.map (·.1)).Nodup) :
    (directory entries).below? (name :: names) = some found ↔
      ∃ e, (name, e) ∈ entries ∧ e.below? names = some found := by
  have hchild : ∀ e, (directory entries).child? name = some e ↔ (name, e) ∈ entries :=
    fun e ↦ lookup_eq_some_iff_of_nodup hdistinct
  simp only [below?, Option.bind_eq_some_iff, hchild]

theorem isDirectory_of_below? {e found : Entry} {dirs : List String} {file : String}
    (h : e.below? (dirs ++ [file]) = some found) :
    e.isDirectory = true := by
  cases e with
  | directory entries => rfl
  | file content => cases dirs <;> cases h
  | link target => cases dirs <;> cases h

/-- A walk finds what stands at the end of a chain of directories that it enters. -/
theorem seenBelow?_of_below? {e found : Entry} {dirs : List String} {file : String}
    (hbelow : e.below? (dirs ++ [file]) = some found)
    (hdirs : ∀ dir ∈ dirs, isIgnoredName dir = false) (hfound : found.isDirectory = false) :
    e.seenBelow? (dirs ++ [file]) = some found := by
  induction dirs generalizing e with
  | nil =>
      obtain ⟨inner, hchild, hinner⟩ := Option.bind_eq_some_iff.mp hbelow
      obtain rfl := Option.some.inj hinner
      have hseen : e.seen? file = some inner := seen?_eq_some_iff.mpr ⟨hchild, by rw [hfound]; rfl⟩
      exact Option.bind_eq_some_iff.mpr ⟨inner, hseen, rfl⟩
  | cons dir dirs ih =>
      obtain ⟨inner, hchild, hinner⟩ := Option.bind_eq_some_iff.mp hbelow
      obtain ⟨hdir, hrest⟩ := List.forall_mem_cons.mp hdirs
      have hseen : e.seen? dir = some inner :=
        seen?_eq_some_iff.mpr ⟨hchild, by rw [hdir, Bool.and_false]⟩
      exact Option.bind_eq_some_iff.mpr ⟨inner, hseen, ih hinner hrest⟩

end Entry

/-! ## Sorting by name -/

theorem nameLE_iff {a b : String} : nameLE a b = true ↔ a ≤ b := by
  rw [nameLE, Bool.not_eq_true', decide_eq_false_iff_not, String.not_lt]

theorem pairwise_mergeSort_nameLE {α : Type} (key : α → String) (xs : List α) :
    (xs.mergeSort fun a b ↦ nameLE (key a) (key b)).Pairwise fun a b ↦ key a ≤ key b := by
  simp only [← nameLE_iff]
  apply List.pairwise_mergeSort
  · intro a b c hab hbc
    rw [nameLE_iff] at hab hbc ⊢
    exact String.le_trans hab hbc
  · intro a b
    rw [Bool.or_eq_true, nameLE_iff, nameLE_iff]
    exact String.le_total (key a) (key b)

namespace FileTree

variable {t : FileTree} {path p name : String} {entries : List (String × Entry)}

/-! ## Membership -/

def countsAsFile (t : FileTree) (path : String) (member : String × Entry) : Bool :=
  match member.2 with
  | .file _ => true
  | .link _ => !t.isDirectory (Path.join path member.1)
  | .directory _ => false

theorem fileNames_eq (t : FileTree) (path : String) (entries : List (String × Entry)) :
    fileNames t path entries =
      ((entries.filter (countsAsFile t path)).map (·.1)).mergeSort nameLE := by
  rw [fileNames]
  congr 1
  induction entries with
  | nil => rfl
  | cons head rest ih =>
      obtain ⟨name, e⟩ := head
      rw [List.filterMap_cons, List.filter_cons, ih]
      cases e with
      | file content => rfl
      | directory inner => rfl
      | link target => cases hdir : t.isDirectory (Path.join path name) <;> simp [countsAsFile, hdir]

theorem mem_fileNames :
    name ∈ fileNames t path entries ↔
      ∃ e, (name, e) ∈ entries ∧ countsAsFile t path (name, e) = true := by
  simp [fileNames_eq]

def isEntered (member : String × Entry) : Bool :=
  member.2.isDirectory && !isIgnoredName member.1

theorem walkEntries_eq (t : FileTree) (path : String) (entries : List (String × Entry)) :
    walkEntries t path entries =
      (entries.filter isEntered).map fun member ↦
        (member.1, walkEntry t (Path.join path member.1) member.2) := by
  induction entries with
  | nil => rw [walkEntries, List.filter_nil, List.map_nil]
  | cons head rest ih =>
      obtain ⟨name, e⟩ := head
      have htest : (e.isDirectory && !isIgnoredName name) = isEntered (name, e) := rfl
      rw [walkEntries, ih, htest]
      by_cases hentered : isEntered (name, e) = true
      · rw [if_pos hentered, List.filter_cons_of_pos hentered, List.map_cons]
      · rw [if_neg hentered, List.filter_cons_of_neg hentered]

theorem nodup_fileNames (t : FileTree) (path : String) (hdistinct : (entries.map (·.1)).Nodup) :
    ((entries.filter (countsAsFile t path)).map (·.1)).Nodup :=
  hdistinct.sublist (List.filter_sublist.map _)

theorem nodup_map_walkEntries (t : FileTree) (path : String)
    (hdistinct : (entries.map (·.1)).Nodup) :
    ((walkEntries t path entries).map (·.1)).Nodup := by
  rw [walkEntries_eq, List.map_map]
  exact hdistinct.sublist (List.filter_sublist.map _)

theorem mem_walkEntry :
    p ∈ walkEntry t path (.directory entries) ↔
      (∃ name ∈ fileNames t path entries, p = Path.join path name) ∨
        ∃ name e, (name, e) ∈ entries ∧ isEntered (name, e) = true ∧
          p ∈ walkEntry t (Path.join path name) e := by
  rw [walkEntry, List.mem_append, List.mem_map, List.mem_flatMap]
  simp only [List.mem_mergeSort, walkEntries_eq, List.mem_map, List.mem_filter]
  apply or_congr
  · simp only [eq_comm]
  · constructor
    · rintro ⟨_, ⟨⟨name, e⟩, ⟨hmem, hentered⟩, rfl⟩, hp⟩
      exact ⟨name, e, hmem, hentered, hp⟩
    · rintro ⟨name, e, hmem, hentered, hp⟩
      exact ⟨_, ⟨(name, e), ⟨hmem, hentered⟩, rfl⟩, hp⟩

/-- A walk lists what it can reach through directories that are neither links nor ignored. -/
theorem mem_walkEntry_iff {e : Entry} (hproper : e.Proper) :
    p ∈ walkEntry t path e ↔
      ∃ dirs file found, p = (dirs ++ [file]).foldl Path.join path ∧
        e.below? (dirs ++ [file]) = some found ∧ (∀ dir ∈ dirs, isIgnoredName dir = false) ∧
          countsAsFile t (dirs.foldl Path.join path) (file, found) = true := by
  induction e using Entry.induction generalizing path with
  | file content =>
      rw [walkEntry]
      refine iff_of_false List.not_mem_nil ?_
      rintro ⟨dirs, file, found, -, hbelow, -⟩
      cases Entry.isDirectory_of_below? hbelow
  | link target =>
      rw [walkEntry]
      refine iff_of_false List.not_mem_nil ?_
      rintro ⟨dirs, file, found, -, hbelow, -⟩
      cases Entry.isDirectory_of_below? hbelow
  | directory entries ih =>
      cases hproper with
      | directory hnames hdistinct hinner =>
          rw [mem_walkEntry]
          constructor
          · rintro (⟨name, hname, rfl⟩ | ⟨name, e, hmem, hentered, hp⟩)
            · obtain ⟨e, hmem, hcounts⟩ := mem_fileNames.mp hname
              refine ⟨[], name, e, rfl, ?_, by simp, hcounts⟩
              exact (Entry.below?_cons_eq_some_iff hdistinct).mpr ⟨e, hmem, rfl⟩
            · obtain ⟨dirs, file, found, rfl, hbelow, hdirs, hcounts⟩ :=
                (ih name e hmem (hinner name e hmem)).mp hp
              have hname : isIgnoredName name = false := by
                simpa using (Bool.and_eq_true_iff.mp hentered).2
              refine ⟨name :: dirs, file, found, rfl, ?_, ?_, hcounts⟩
              · exact (Entry.below?_cons_eq_some_iff hdistinct).mpr ⟨e, hmem, hbelow⟩
              · simpa [hname] using hdirs
          · rintro ⟨dirs, file, found, rfl, hbelow, hdirs, hcounts⟩
            cases dirs with
            | nil =>
                obtain ⟨e, hmem, he⟩ := (Entry.below?_cons_eq_some_iff hdistinct).mp hbelow
                obtain rfl := Option.some.inj he
                exact .inl ⟨file, mem_fileNames.mpr ⟨e, hmem, hcounts⟩, rfl⟩
            | cons dir dirs =>
                obtain ⟨e, hmem, he⟩ := (Entry.below?_cons_eq_some_iff hdistinct).mp hbelow
                obtain ⟨hdir, hdirs⟩ := List.forall_mem_cons.mp hdirs
                refine .inr ⟨dir, e, hmem, ?_, ?_⟩
                · simp [isEntered, Entry.isDirectory_of_below? he, hdir]
                · rw [ih dir e hmem (hinner dir e hmem)]
                  exact ⟨dirs, file, found, rfl, he, hdirs, hcounts⟩

/-- A path of a walk is joined from the names along which the walk finds its entry, which is no
directory. -/
theorem exists_names_of_mem_walkEntry {e : Entry} (hproper : e.Proper)
    (hp : p ∈ walkEntry t path e) :
    ∃ names found, names ≠ [] ∧ p = names.foldl Path.join path ∧
      e.seenBelow? names = some found ∧ found.isDirectory = false := by
  obtain ⟨dirs, file, found, hp, hbelow, hdirs, hcounts⟩ := (mem_walkEntry_iff hproper).mp hp
  have hfound : found.isDirectory = false := by
    cases found with
    | directory entries => cases hcounts
    | file content => rfl
    | link target => rfl
  exact ⟨dirs ++ [file], found, by simp, hp, Entry.seenBelow?_of_below? hbelow hdirs hfound, hfound⟩

/-! ## Looking walked paths up -/

theorem entry?_eq_ok_iff {e : Entry} :
    t.entry? path = .ok e ↔
      ∃ place, t.resolve path = .ok place ∧ t.root.below? place = some e := by
  unfold entry?
  cases t.resolve path with
  | error e => simp
  | ok place =>
      cases hplace : t.root.below? place with
      | none => simp [hplace]
      | some found => simp [hplace]

theorem endsIdle_join (hname : IsName name) (base : String) :
    endsIdle (steps (Path.join base name)) = false := by
  obtain ⟨before, hsteps⟩ := Path.exists_steps_join hname.noSlash base
  rw [hsteps, endsIdle_append before (by simp)]
  exact endsIdle_of_forall_move (by simpa using hname.move)

theorem endsIdle_foldl_join {names : List String} (hnames : ∀ name ∈ names, IsName name)
    (hne : names ≠ []) (base : String) :
    endsIdle (steps (names.foldl Path.join base)) = false := by
  obtain ⟨before, last, rfl⟩ := (List.eq_nil_or_concat names).resolve_left hne
  rw [List.concat_eq_append, List.foldl_append]
  exact endsIdle_join (hnames last (by simp)) _

theorem components_foldl_join {names : List String} (hnames : ∀ name ∈ names, IsName name)
    (base : String) :
    Path.components (names.foldl Path.join base) = Path.components base ++ names := by
  induction names generalizing base with
  | nil => exact (List.append_nil _).symm
  | cons name names ih =>
      have hname := hnames name (List.mem_cons_self ..)
      rw [List.foldl_cons, ih (fun n hn ↦ hnames n (List.mem_cons_of_mem _ hn)),
        Path.components_join hname.noSlash hname.move, List.append_assoc, List.singleton_append]

theorem startOf_foldl_join {names : List String} (hnames : ∀ name ∈ names, IsName name)
    (place : List String) (base : String) :
    startOf place (names.foldl Path.join base) = startOf place base := by
  induction names generalizing base with
  | nil => rfl
  | cons name names ih =>
      have hname := hnames name (List.mem_cons_self ..)
      rw [List.foldl_cons, ih fun n hn ↦ hnames n (List.mem_cons_of_mem _ hn)]
      exact startOf_eq_of_head? (Path.head?_join hname.noSlash base) place

/-- A path that is joined from the names of a chain below a directory denotes the entry at the end
of the chain. -/
theorem entry?_foldl_join {e found : Entry} {names : List String} (hroot : t.entry? path = .ok e)
    (hnames : ∀ name ∈ names, IsName name) (hne : names ≠ [])
    (hbelow : e.below? names = some found) (hlink : ∀ target, found ≠ .link target) :
    t.entry? (names.foldl Path.join path) = .ok found := by
  obtain ⟨place, hresolve, hplace⟩ := entry?_eq_ok_iff.mp hroot
  rw [entry?_eq_ok_iff]
  refine ⟨place ++ names, ?_, ?_⟩
  · rw [resolve_of_ends t (endsIdle_foldl_join hnames hne path), startOf_foldl_join hnames,
      components_foldl_join hnames]
    exact follow_append (follow_components_of_resolve hresolve)
      (follow_below hnames hplace hbelow hlink)
  · rw [Entry.below?_append, hplace]
    exact hbelow

theorem proper_of_entry_eq_ok {e : Entry} (hproper : t.root.Proper) (h : t.entry? path = .ok e) :
    e.Proper := by
  obtain ⟨place, -, hplace⟩ := entry?_eq_ok_iff.mp h
  exact (hproper.of_below hplace).2

/-- A path that a walk lists and its normal form denote the same. -/
theorem entry?_normal_of_mem_walk (hproper : t.root.Proper) (hp : p ∈ t.walk path) :
    t.entry? (Path.ofString p).toString = t.entry? p := by
  unfold walk at hp
  cases hroot : t.entry? path with
  | error error => simp [hroot] at hp
  | ok e =>
      simp only [hroot] at hp
      have he := proper_of_entry_eq_ok hproper hroot
      obtain ⟨names, found, hne, rfl, hbelow, -⟩ := exists_names_of_mem_walkEntry he hp
      have hnames := (he.of_below (Entry.below?_of_seenBelow? hbelow)).1
      -- The path may begin with `.` steps, but it ends with a name.
      unfold entry?
      rw [resolve_normal t (endsIdle_foldl_join hnames hne path)]

theorem mem_walk_of_mem_scan {extension marker root : String}
    (h : p ∈ t.scan extension marker root) :
    p ∈ t.walk (Path.ofString root).toString ∧ extension.toList.isSuffixOf p.toList = true := by
  obtain ⟨hwalk, htest⟩ := List.mem_filter.mp h
  rw [Bool.and_eq_true] at htest
  exact ⟨hwalk, htest.1⟩

theorem mem_walk_of_mem_index {extension : String} {x : String × String}
    (h : x ∈ t.index extension path) : x.2 ∈ t.walk (Path.ofString path).toString := by
  unfold index at h
  generalize t.walk (Path.ofString path).toString = walked at h ⊢
  refine List.foldlRecOn (motive := fun out ↦ ∀ x ∈ out, x.2 ∈ walked) _ _ ?_ ?_ x h
  · simp
  · intro out hout p hp
    split
    · exact hout
    · intro x hx
      rcases List.mem_append.mp hx with hx | hx
      · exact hout x hx
      · rw [List.mem_singleton.mp hx]
        exact List.mem_of_mem_filter hp

end FileTree

end ApiSurvey
