import ApiSurvey.Proofs.Surroundings
import ApiSurvey.Proofs.Walks
import Mathlib.Data.List.Perm.Basic

/-!
# Directories that are passed over

Hidden directories and build output have no part in a run. Main statement: two trees without links
that differ in such directories alone, at whatever depth, give the same catalog and the same
outcomes. Files are met in the walk that lists the sources and in the walk that lists the files of
payload classes; both walks are the same in the two trees, and so is every file that they list.
-/

namespace ApiSurvey

/-! ## Sorting by name -/

/-- Sorting by distinct names does not depend on the order before. -/
theorem mergeSort_eq_of_perm {α : Type} (key : α → String) {xs ys : List α} (hperm : xs.Perm ys)
    (hkeys : (xs.map key).Nodup) :
    xs.mergeSort (fun a b ↦ nameLE (key a) (key b)) =
      ys.mergeSort fun a b ↦ nameLE (key a) (key b) := by
  have hsorted := pairwise_mergeSort_nameLE key
  apply List.Perm.eq_of_pairwise _ (hsorted xs) (hsorted ys)
  · exact (List.mergeSort_perm xs _).trans (hperm.trans (List.mergeSort_perm ys _).symm)
  · intro a b ha hb hab hba
    rw [List.mem_mergeSort] at ha hb
    exact List.inj_on_of_nodup_map hkeys ha (hperm.mem_iff.mpr hb) (String.le_antisymm hab hba)

namespace Entry

/-- Two entries without links that differ only in directories that a walk passes over, in which
there may be anything. -/
inductive SameButIgnored : Entry → Entry → Prop where
  | file (content : ByteArray) : SameButIgnored (.file content) (.file content)
  | directory {entries entries' : List (String × Entry)}
      (here : ∀ name, ((Entry.directory entries).seen? name).isSome =
        ((Entry.directory entries').seen? name).isSome)
      (inner : ∀ name e e', (Entry.directory entries).seen? name = some e →
        (Entry.directory entries').seen? name = some e' → SameButIgnored e e') :
      SameButIgnored (.directory entries) (.directory entries')

namespace SameButIgnored

variable {e e' found : Entry} {name : String} {names : List String}

theorem symm (h : SameButIgnored e e') : SameButIgnored e' e := by
  induction h with
  | file content => exact .file content
  | directory here _ ih =>
      refine .directory (fun name ↦ (here name).symm) ?_
      intro name e e' he he'
      exact ih name e' e he' he

theorem ne_link (h : SameButIgnored e e') (target : String) : e ≠ .link target := by
  rintro rfl
  cases h

theorem isDirectory_eq (h : SameButIgnored e e') : e.isDirectory = e'.isDirectory := by
  cases h with
  | file content => rfl
  | directory here inner => rfl

theorem exists_seen (h : SameButIgnored e e') (hseen : e.seen? name = some found) :
    ∃ found', e'.seen? name = some found' ∧ SameButIgnored found found' := by
  cases h with
  | file content => cases hseen
  | directory here inner =>
      have hsome := here name
      rw [hseen, Option.isSome_some, eq_comm, Option.isSome_iff_exists] at hsome
      obtain ⟨found', hfound'⟩ := hsome
      exact ⟨found', hfound', inner name found found' hseen hfound'⟩

theorem exists_seenBelow (h : SameButIgnored e e') (hseen : e.seenBelow? names = some found) :
    ∃ found', e'.seenBelow? names = some found' ∧ SameButIgnored found found' := by
  induction names generalizing e e' with
  | nil =>
      obtain rfl := Option.some.inj hseen
      exact ⟨e', rfl, h⟩
  | cons name names ih =>
      obtain ⟨inner, hinner, hrest⟩ := Option.bind_eq_some_iff.mp hseen
      obtain ⟨inner', hinner', hsame⟩ := h.exists_seen hinner
      obtain ⟨found', hfound', hend⟩ := ih hsame hrest
      refine ⟨found', ?_, hend⟩
      rw [seenBelow?, hinner']
      exact hfound'

end SameButIgnored

theorem seen?_directory_eq_some_iff {entries : List (String × Entry)} {name : String} {e : Entry}
    (hdistinct : (entries.map (·.1)).Nodup) :
    (directory entries).seen? name = some e ↔
      (name, e) ∈ entries ∧ (e.isDirectory && isIgnoredName name) = false := by
  rw [seen?_eq_some_iff]
  exact and_congr_left' (lookup_eq_some_iff_of_nodup hdistinct)

/-- Directories differ in ignored directories alone if every other entry of one has its like in the
other. -/
theorem sameButIgnored_of_forall_mem {entries entries' : List (String × Entry)}
    (hdistinct : (entries.map (·.1)).Nodup) (hdistinct' : (entries'.map (·.1)).Nodup)
    (hthere : ∀ x ∈ entries, (x.2.isDirectory && isIgnoredName x.1) = false →
      ∃ e', (x.1, e') ∈ entries' ∧ SameButIgnored x.2 e')
    (hback : ∀ x ∈ entries', (x.2.isDirectory && isIgnoredName x.1) = false →
      ∃ e, (x.1, e) ∈ entries ∧ SameButIgnored e x.2) :
    SameButIgnored (.directory entries) (.directory entries') := by
  refine .directory ?_ ?_
  · intro name
    rw [Bool.eq_iff_iff, Option.isSome_iff_exists, Option.isSome_iff_exists]
    simp only [seen?_directory_eq_some_iff hdistinct, seen?_directory_eq_some_iff hdistinct']
    constructor
    · rintro ⟨e, hmem, hseen⟩
      obtain ⟨e', hmem', hsame⟩ := hthere (name, e) hmem hseen
      exact ⟨e', hmem', hsame.isDirectory_eq ▸ hseen⟩
    · rintro ⟨e', hmem', hseen'⟩
      obtain ⟨e, hmem, hsame⟩ := hback (name, e') hmem' hseen'
      exact ⟨e, hmem, hsame.isDirectory_eq ▸ hseen'⟩
  · intro name e e' hseen hseen'
    obtain ⟨hmem, hvisible⟩ := (seen?_directory_eq_some_iff hdistinct).mp hseen
    obtain ⟨hmem', -⟩ := (seen?_directory_eq_some_iff hdistinct').mp hseen'
    obtain ⟨other, hother, hsame⟩ := hthere (name, e) hmem hvisible
    have hpair : (name, other) = (name, e') :=
      List.inj_on_of_nodup_map hdistinct' hother hmem' rfl
    obtain rfl : other = e' := (Prod.mk.inj hpair).2
    exact hsame

end Entry

namespace FileTree

open Entry

variable {t t' : FileTree} {path : String} {entries entries' : List (String × Entry)}

/-! ## The walk -/

/-- Where there are no links, the names that count as files are those of files. -/
theorem mem_fileNames_iff_of_noLinks {name : String} (hdistinct : (entries.map (·.1)).Nodup)
    (hlinks : ∀ name target, (Entry.directory entries).seen? name ≠ some (.link target)) :
    name ∈ fileNames t path entries ↔
      ∃ content, (Entry.directory entries).seen? name = some (.file content) := by
  rw [mem_fileNames]
  constructor
  · rintro ⟨e, hmem, hcounts⟩
    cases e with
    | file content =>
        exact ⟨content, (seen?_directory_eq_some_iff hdistinct).mpr ⟨hmem, rfl⟩⟩
    | link target =>
        exact (hlinks name target ((seen?_directory_eq_some_iff hdistinct).mpr ⟨hmem, rfl⟩)).elim
    | directory inner => cases hcounts
  · rintro ⟨content, hseen⟩
    exact ⟨.file content, ((seen?_directory_eq_some_iff hdistinct).mp hseen).1, rfl⟩

theorem mem_walkEntries_iff {x : String × List String} (hdistinct : (entries.map (·.1)).Nodup) :
    x ∈ walkEntries t path entries ↔
      ∃ e, (Entry.directory entries).seen? x.1 = some e ∧ e.isDirectory = true ∧
        x.2 = walkEntry t (Path.join path x.1) e := by
  rw [walkEntries_eq]
  simp only [List.mem_map, List.mem_filter, isEntered, Bool.and_eq_true, Bool.not_eq_true',
    seen?_directory_eq_some_iff hdistinct]
  constructor
  · rintro ⟨⟨name, e⟩, ⟨hmem, hdir, hignored⟩, rfl⟩
    exact ⟨e, ⟨hmem, by rw [hignored, Bool.and_false]⟩, hdir, rfl⟩
  · rintro ⟨e, ⟨hmem, hignored⟩, hdir, hwalk⟩
    rw [hdir, Bool.true_and] at hignored
    exact ⟨(x.1, e), ⟨hmem, hdir, hignored⟩, Prod.ext rfl hwalk.symm⟩

theorem mem_fileNames_of_sameButIgnored (hdistinct : (entries.map (·.1)).Nodup)
    (hdistinct' : (entries'.map (·.1)).Nodup)
    (hsame : SameButIgnored (.directory entries) (.directory entries')) {name : String}
    (hname : name ∈ fileNames t path entries) : name ∈ fileNames t' path entries' := by
  have hlinks : ∀ name target, (Entry.directory entries).seen? name ≠ some (.link target) := by
    intro name target hseen
    obtain ⟨found', -, hlink⟩ := hsame.exists_seen hseen
    exact hlink.ne_link target rfl
  have hlinks' : ∀ name target, (Entry.directory entries').seen? name ≠ some (.link target) := by
    intro name target hseen
    obtain ⟨found, -, hlink⟩ := hsame.symm.exists_seen hseen
    exact hlink.ne_link target rfl
  obtain ⟨content, hseen⟩ := (mem_fileNames_iff_of_noLinks hdistinct hlinks).mp hname
  obtain ⟨found', hseen', hfile⟩ := hsame.exists_seen hseen
  cases hfile
  exact (mem_fileNames_iff_of_noLinks hdistinct' hlinks').mpr ⟨content, hseen'⟩

theorem fileNames_eq_of_sameButIgnored (hdistinct : (entries.map (·.1)).Nodup)
    (hdistinct' : (entries'.map (·.1)).Nodup)
    (hsame : SameButIgnored (.directory entries) (.directory entries')) :
    fileNames t path entries = fileNames t' path entries' := by
  have hmem : ∀ name, name ∈ fileNames t path entries ↔ name ∈ fileNames t' path entries' := by
    intro name
    exact ⟨mem_fileNames_of_sameButIgnored hdistinct hdistinct' hsame,
      mem_fileNames_of_sameButIgnored hdistinct' hdistinct hsame.symm⟩
  simp only [fileNames_eq, List.mem_mergeSort] at hmem ⊢
  have hnodup := nodup_fileNames t path hdistinct
  have hnodup' := nodup_fileNames t' path hdistinct'
  have hperm := (List.perm_ext_iff_of_nodup hnodup hnodup').mpr hmem
  exact mergeSort_eq_of_perm id hperm (by rwa [List.map_id])

theorem mem_walkEntries_of_sameButIgnored (hdistinct : (entries.map (·.1)).Nodup)
    (hdistinct' : (entries'.map (·.1)).Nodup)
    (hsame : SameButIgnored (.directory entries) (.directory entries'))
    (hwalk : ∀ name e e', (Entry.directory entries).seen? name = some e →
      (Entry.directory entries').seen? name = some e' →
        walkEntry t (Path.join path name) e = walkEntry t' (Path.join path name) e')
    {x : String × List String} (hx : x ∈ walkEntries t path entries) :
    x ∈ walkEntries t' path entries' := by
  obtain ⟨e, hseen, hdir, hx⟩ := (mem_walkEntries_iff hdistinct).mp hx
  obtain ⟨e', hseen', hinner⟩ := hsame.exists_seen hseen
  rw [mem_walkEntries_iff hdistinct']
  refine ⟨e', hseen', ?_, ?_⟩
  · rw [← hinner.isDirectory_eq, hdir]
  · rw [hx, hwalk x.1 e e' hseen hseen']

/-- The walks of two trees that differ in ignored directories alone are the same. -/
theorem walkEntry_eq_of_sameButIgnored {e e' : Entry} (hproper : e.Proper) (hproper' : e'.Proper)
    (hsame : SameButIgnored e e') : walkEntry t path e = walkEntry t' path e' := by
  -- Both directories list the same names, in whatever order; sorting makes the lists equal.
  induction hsame generalizing path with
  | file content => rw [walkEntry, walkEntry]
  | directory here inner ih =>
      rename_i entries entries'
      have hsame := SameButIgnored.directory here inner
      obtain ⟨-, hdistinct, -⟩ := (proper_directory entries).mp hproper
      obtain ⟨-, hdistinct', -⟩ := (proper_directory entries').mp hproper'
      have hwalk : ∀ name e e', (Entry.directory entries).seen? name = some e →
          (Entry.directory entries').seen? name = some e' →
            walkEntry t (Path.join path name) e = walkEntry t' (Path.join path name) e' := by
        intro name e e' hseen hseen'
        have he := (hproper.child (seen?_eq_some_iff.mp hseen).1).2
        have he' := (hproper'.child (seen?_eq_some_iff.mp hseen').1).2
        exact ih name e e' hseen hseen' he he'
      have hmem : ∀ x, x ∈ walkEntries t path entries ↔ x ∈ walkEntries t' path entries' := by
        intro x
        refine ⟨mem_walkEntries_of_sameButIgnored hdistinct hdistinct' hsame hwalk,
          mem_walkEntries_of_sameButIgnored hdistinct' hdistinct hsame.symm ?_⟩
        intro name e e' hseen hseen'
        exact (hwalk name e' e hseen' hseen).symm
      have hkeys := nodup_map_walkEntries t path hdistinct
      have hkeys' := nodup_map_walkEntries t' path hdistinct'
      have hperm := (List.perm_ext_iff_of_nodup hkeys.of_map hkeys'.of_map).mpr hmem
      have hfiles : fileNames t path entries = fileNames t' path entries' :=
        fileNames_eq_of_sameButIgnored hdistinct hdistinct' hsame
      simp only [walkEntry, hfiles, mergeSort_eq_of_perm (·.1) hperm hkeys]

/-- Files that a walk lists have the same content in two trees that differ in ignored directories
alone. -/
theorem entry?_eq_of_mem_walkEntry {e e' : Entry} (hproper : e.Proper)
    (hsame : SameButIgnored e e') (hroot : t.entry? path = .ok e) (hroot' : t'.entry? path = .ok e')
    {p : String} (hp : p ∈ walkEntry t path e) : t.entry? p = t'.entry? p := by
  obtain ⟨names, found, hne, rfl, hseen, hdir⟩ := exists_names_of_mem_walkEntry hproper hp
  obtain ⟨found', hseen', hend⟩ := hsame.exists_seenBelow hseen
  have hbelow := below?_of_seenBelow? hseen
  have hbelow' := below?_of_seenBelow? hseen'
  have hnames := (hproper.of_below hbelow).1
  rw [entry?_foldl_join hroot hnames hne hbelow hend.ne_link,
    entry?_foldl_join hroot' hnames hne hbelow' hend.symm.ne_link]
  cases hend with
  | file content => rfl
  | directory here inner => cases hdir

end FileTree

namespace Survey

open FileTree

/-- Two file systems in which a path leads to trees without links that differ in ignored directories
alone. -/
structure SameBelow (t t' : FileTree) (path : String) : Prop where
  proper : t.root.Proper
  proper' : t'.root.Proper
  same : ∃ e e', t.entry? path = .ok e ∧ t'.entry? path = .ok e' ∧ Entry.SameButIgnored e e'

namespace SameBelow

variable {t t' : FileTree} {path : String}

theorem walk_eq (h : SameBelow t t' path) : t.walk path = t'.walk path := by
  obtain ⟨e, e', hroot, hroot', hsame⟩ := h.same
  simp only [walk, hroot, hroot']
  exact walkEntry_eq_of_sameButIgnored (proper_of_entry_eq_ok h.proper hroot)
    (proper_of_entry_eq_ok h.proper' hroot') hsame

theorem isDirectory_eq (h : SameBelow t t' path) : t.isDirectory path = t'.isDirectory path := by
  obtain ⟨e, e', hroot, hroot', hsame⟩ := h.same
  rw [FileTree.isDirectory, FileTree.isDirectory, hroot, hroot']
  cases hsame with
  | file content => rfl
  | directory here inner => rfl

/-- Listing the files below a path fails for its text alone when the path leads somewhere. -/
theorem listing?_eq (h : SameBelow t t' path) :
    Locator.listing? t path = Locator.listing? t' path := by
  obtain ⟨e, e', hroot, hroot', -⟩ := h.same
  rw [Locator.listing?, Locator.listing?, isOverlong, isOverlong, hroot, hroot']

theorem entry?_eq (h : SameBelow t t' path) {p : String} (hp : p ∈ t.walk path) :
    t.entry? p = t'.entry? p := by
  obtain ⟨e, e', hroot, hroot', hsame⟩ := h.same
  simp only [walk, hroot] at hp
  exact entry?_eq_of_mem_walkEntry (proper_of_entry_eq_ok h.proper hroot) hsame hroot hroot' hp

theorem isFile_eq (h : SameBelow t t' path) {p : String} (hp : p ∈ t.walk path) :
    t.isFile p = t'.isFile p := by
  rw [isFile, isFile, h.entry?_eq hp]

theorem unitOfFile_eq (h : SameBelow t t' path) {p : String} (hp : p ∈ t.walk path)
    (parser : Parser) :
    (parser.unitOfFile t (Path.ofString p).toString).value =
      (parser.unitOfFile t' (Path.ofString p).toString).value := by
  have hnormal := entry?_normal_of_mem_walk h.proper hp
  have hnormal' := entry?_normal_of_mem_walk h.proper' (h.walk_eq ▸ hp)
  have hread : t.read (Path.ofString p).toString = t'.read (Path.ofString p).toString := by
    rw [FileTree.read, FileTree.read, hnormal, hnormal', h.entry?_eq hp]
  rw [Parser.unitOfFile, Parser.unitOfFile, hread]

end SameBelow

theorem mem_of_lookup_eq_some {files : List (String × String)} {name p : String}
    (h : files.lookup name = some p) : (name, p) ∈ files := by
  obtain ⟨before, after, rfl, -⟩ := List.lookup_eq_some_iff.mp h
  simp

variable {t t' : FileTree} {root : String}

theorem searchRoot_directory {settings : Settings}
    (hsearch : settings.searchRoot.filter (!·.isEmpty) = none) (t : FileTree) (root : String) :
    searchRoot t settings (.directory root) = (Path.ofString root).toString := by
  unfold searchRoot
  rw [hsearch]

theorem alike_of_sameBelow (settings : Settings)
    (hsearch : settings.searchRoot.filter (!·.isEmpty) = none)
    (h : SameBelow t t' (Path.ofString root).toString) :
    Alike t (locator t settings (.directory root)) t'
      (locator t' settings (.directory root)) := by
  have hindex : t.index settings.extension (Path.ofString root).toString =
      t'.index settings.extension (Path.ofString root).toString := by
    simp only [index, Path.ofString_normal, h.walk_eq]
  refine alike_of_found? ?_ ?_ ?_
  · rw [locator_settings, locator_settings]
  · intro name
    rw [locator_settings, locator_settings]
  · intro name
    rw [found?_locator, found?_locator, searchRoot_directory hsearch,
      searchRoot_directory hsearch, ← h.isDirectory_eq, ← hindex]
    -- A file that was listed is asked for again, in the tree of its own run.
    split
    · cases hfile : (t.index settings.extension (Path.ofString root).toString).lookup
          (settings.fileName name) with
      | none => rfl
      | some p =>
          have hmem := mem_walk_of_mem_index (mem_of_lookup_eq_some hfile)
          rw [Path.ofString_normal] at hmem
          rw [Option.filter_some, Option.filter_some, h.isFile_eq hmem]
    · rfl

/-- Two trees that differ in ignored directories alone, whatever goes wrong in both runs. -/
theorem ofScope_eq_of_sameBelow (parser : Parser) (settings : Settings) (mishaps : Mishaps)
    (now : String) (hsearch : settings.searchRoot.filter (!·.isEmpty) = none)
    (h : SameBelow t t' (Path.ofString root).toString) :
    let run := Run.ofScope t parser settings now (.directory root) mishaps
    let run' := Run.ofScope t' parser settings now (.directory root) mishaps
    run.catalog = run'.catalog ∧ run.outcomes = run'.outcomes := by
  have halike := alike_of_sameBelow settings hsearch h
  have hscan : t.scan settings.extension settings.pathMarker root =
      t'.scan settings.extension settings.pathMarker root := by
    rw [scan, scan, h.walk_eq]
  have hread : ∀ p ∈ t.scan settings.extension settings.pathMarker root,
      (parser.unitOfFile t (Path.ofString p).toString).value =
        (parser.unitOfFile t' (Path.ofString p).toString).value :=
    fun p hp ↦ h.unitOfFile_eq (mem_walk_of_mem_scan hp).1 parser
  constructor
  · rw [catalog_ofScope, catalog_ofScope, collection_finish, collection_finish, begin_directory,
      begin_directory, ← hscan, halike.foldl_collect hread]
  · rw [outcomes_ofScope, outcomes_ofScope, outcomes_finish, outcomes_finish,
      begin_directory_outcomes, begin_directory_outcomes, begin_directory, begin_directory, ← hscan,
      halike.outcomesFrom hread]

/-- Directories that are passed over, and all that is in them, have no part in a run: whatever goes
wrong in it, and when it is run by itself. -/
theorem run_eq_of_sameBelow (parser : Parser) (settings : Settings) (now : String)
    (hsearch : settings.searchRoot.filter (!·.isEmpty) = none)
    (h : SameBelow t t' (Path.ofString root).toString) :
    let plain := Run.plain t parser settings now (.directory root)
    let plain' := Run.plain t' parser settings now (.directory root)
    (plain.catalog = plain'.catalog ∧ plain.outcomes = plain'.outcomes) ∧
      ∀ mishaps,
        let run := Run.ofScope t parser settings now (.directory root) mishaps
        let run' := Run.ofScope t' parser settings now (.directory root) mishaps
        run.catalog = run'.catalog ∧ run.outcomes = run'.outcomes := by
  intro plain plain'
  have hmishaps := fun mishaps ↦ ofScope_eq_of_sameBelow parser settings mishaps now hsearch h
  have htroubles : troubles t settings (.directory root) =
      troubles t' settings (.directory root) := by
    apply troubles_congr
    rw [searchRoot_directory hsearch, searchRoot_directory hsearch, h.listing?_eq]
  refine ⟨?_, hmishaps⟩
  simp only [plain, plain', Run.plain, htroubles]
  exact hmishaps _

/-- A tree with hidden directories and build output, the output inside of a directory that is
entered, and the same tree after its build output was removed and another tool was run. -/
theorem run_eq_of_removed_output :
    let controller := "@RestController class UserController \x7b @GetMapping UserDto get(); \x7d"
    let source : String × Entry := ("UserController.java", .file controller.toUTF8)
    let output : Entry := .directory
      [("UserDto.java", .file "class UserDto \x7b String name; \x7d".toUTF8), source]
    let before : FileTree :=
      { root := .directory
          [("web", .directory
            [(".cache", output), ("main", .directory [("target", output), source])])] }
    let after : FileTree :=
      { root := .directory
          [("web", .directory [("main", .directory [source]), ("out", .directory [])])] }
    let settings : Settings := { pathMarker := "" }
    SameBelow before after "web" ∧ settings.searchRoot.filter (!·.isEmpty) = none ∧
      (Run.plain before {} settings "" (.directory "web")).catalog =
        (Run.plain after {} settings "" (.directory "web")).catalog ∧
      (Run.plain before {} settings "" (.directory "web")).outcomes =
        (Run.plain after {} settings "" (.directory "web")).outcomes ∧
      (Run.ofScope before {} settings "" (.directory "web") .none).catalog =
        (Run.ofScope after {} settings "" (.directory "web") .none).catalog ∧
      (Run.ofScope before {} settings "" (.directory "web") .none).outcomes =
        (Run.ofScope after {} settings "" (.directory "web") .none).outcomes := by
  intro controller source output before after settings
  have hmain : Entry.SameButIgnored (.directory [("target", output), source])
      (.directory [source]) := by
    apply Entry.sameButIgnored_of_forall_mem (by decide) (by decide)
    · intro x hx hvisible
      rcases List.mem_pair.mp hx with rfl | rfl
      · exact absurd hvisible (by decide)
      · exact ⟨source.2, by simp, .file _⟩
    · intro x hx _
      obtain rfl := List.mem_singleton.mp hx
      exact ⟨source.2, by simp, .file _⟩
  have hweb : Entry.SameButIgnored
      (.directory [(".cache", output), ("main", .directory [("target", output), source])])
      (.directory [("main", .directory [source]), ("out", .directory [])]) := by
    apply Entry.sameButIgnored_of_forall_mem (by decide) (by decide)
    · intro x hx hvisible
      rcases List.mem_pair.mp hx with rfl | rfl
      · exact absurd hvisible (by decide)
      · exact ⟨_, by simp, hmain⟩
    · intro x hx hvisible
      rcases List.mem_pair.mp hx with rfl | rfl
      · exact ⟨_, by simp, hmain⟩
      · exact absurd hvisible (by decide)
  have hsame : SameBelow before after "web" := by
    refine ⟨?_, ?_, _, _, ?_, ?_, hweb⟩
    · simp only [before, output, source, Entry.proper_directory, Entry.proper_file,
        List.map_cons, List.map_nil, List.mem_cons, List.not_mem_nil, or_false, forall_eq,
        forall_eq_or_imp, and_true]
      decide
    · simp only [after, source, Entry.proper_directory, Entry.proper_file, List.map_cons,
        List.map_nil, List.mem_cons, List.not_mem_nil, or_false, forall_eq, forall_eq_or_imp,
        IsEmpty.forall_iff, implies_true, and_true]
      decide
    · simp [before, FileTree.entry?, resolve, linkLimit, follow, startOf, steps, Text.pieces,
        Entry.below?, Entry.child?]
    · simp [after, FileTree.entry?, resolve, linkLimit, follow, startOf, steps, Text.pieces,
        Entry.below?, Entry.child?]
  refine ⟨hsame, rfl, ?_⟩
  have hnormal : (Path.ofString "web").toString = "web" := by decide
  obtain ⟨⟨hcatalog, houtcomes⟩, hmishaps⟩ :=
    run_eq_of_sameBelow {} settings "" rfl (hnormal.symm ▸ hsame)
  exact ⟨hcatalog, houtcomes, hmishaps .none⟩

end Survey

end ApiSurvey
