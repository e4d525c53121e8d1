import ApiSurvey.Proofs.Surroundings
import ApiSurvey.Proofs.Walks

/-!
# A directory as a list of its files

A survey of a directory lists the files of the directory first. Main statement: giving this list
instead of the directory has the same result, as long as payload classes are looked for in the same
place. The outcomes are the same for every path that leads to a file; a link that leads to none
fails in the directory and is skipped in the list.
-/

namespace ApiSurvey

/-- Settings by which payload classes are looked for below a directory, unless they say where. -/
def Settings.lookingBelow (s : Settings) (root : String) : Settings :=
  match s.searchRoot.filter (!·.isEmpty) with
  | some _ => s
  | none => { s with searchRoot := some (Path.ofString root).toString }

theorem Settings.exists_lookingBelow (s : Settings) (root : String) :
    ∃ place, s.lookingBelow root = { s with searchRoot := place } := by
  unfold lookingBelow
  split
  · exact ⟨s.searchRoot, rfl⟩
  · exact ⟨_, rfl⟩

theorem Settings.extension_lookingBelow (s : Settings) (root : String) :
    (s.lookingBelow root).extension = s.extension := by
  obtain ⟨place, hplace⟩ := s.exists_lookingBelow root
  rw [hplace]

theorem FileTree.exists_read_eq_error {t : FileTree} {path : String} (h : t.isFile path = false) :
    ∃ error, t.read path = .error error := by
  unfold isFile at h
  unfold read
  split at h
  · cases h
  · rename_i hfile
    split
    · rename_i content heq
      exact (hfile content heq).elim
    · exact ⟨_, rfl⟩
    · exact ⟨_, rfl⟩

namespace Survey

/-- What a survey says of a path that leads to no file: the path could not be read, unless the
parser gave up before that. -/
structure Unread (t : FileTree) (parser : Parser) (p : String) (o : Outcome) : Prop where
  path : o.path = (Path.ofString p).toString
  status : o.status = .failed
  nothing : o.controllers = 0 ∧ o.shapes = 0
  reason : parser.breakdown? o.path = none →
    ∃ error, t.read o.path = .error error ∧ o.message = (Failure.unreadable o.path error).message

/-- What a survey says of a listed path that leads to no file. -/
def missingOutcome (p : String) : Outcome :=
  { path := p, status := .skipped, message := "file does not exist" }

/-- Two runs, over a directory and over the list of its files, agree but for the paths that lead to
no file: these fail in the directory and are skipped, before all others, in the list. -/
structure SameAsListed (t : FileTree) (parser : Parser) (listed : List String)
    (whole list : Run) : Prop where
  catalog : list.catalog = whole.catalog
  same : (∀ p ∈ listed, t.isFile p = true) → list.outcomes = whole.outcomes
  outcomes : list.outcomes =
    (listed.filter (!t.isFile ·)).map missingOutcome ++
      ((listed.zip whole.outcomes).filter (t.isFile ·.1)).map (·.2)
  length : whole.outcomes.length = listed.length
  unread : ∀ x ∈ listed.zip whole.outcomes, t.isFile x.1 = false → Unread t parser x.1 x.2

/-! ## Paths that lead to no file -/

section NoFile

variable {t : FileTree} {parser : Parser} {l : Locator} {mishaps : Mishaps} {p : String}

theorem exists_unitOfFile_eq_error (h : t.isFile p = false) (parser : Parser) :
    ∃ e, (parser.unitOfFile t p).value = .error e ∧
      (parser.breakdown? p = none →
        ∃ error, t.read p = .error error ∧ e = .unreadable p error) := by
  obtain ⟨error, hread⟩ := FileTree.exists_read_eq_error h
  cases hparser : parser.breakdown? p with
  | some report =>
      obtain ⟨kind, text⟩ := report
      refine ⟨.breakdown kind text, by simp only [Parser.unitOfFile, hparser], ?_⟩
      simp
  | none =>
      refine ⟨.unreadable p error, by simp only [Parser.unitOfFile, hparser, hread], ?_⟩
      intro _
      exact ⟨error, hread, rfl⟩

theorem collect_of_not_isFile (h : t.isFile (Path.ofString p).toString = false)
    (c : Collection) : collect t parser l mishaps c p = c := by
  obtain ⟨e, hunit, -⟩ := exists_unitOfFile_eq_error h parser
  exact collect_of_error (resultIn_of_unitOfFile_error hunit)

theorem unread_outcomeIn (h : t.isFile (Path.ofString p).toString = false) (c : Collection) :
    Unread t parser p (outcomeIn t parser l mishaps c p) := by
  obtain ⟨e, hunit, hreason⟩ := exists_unitOfFile_eq_error h parser
  rw [outcomeIn_of_error (resultIn_of_unitOfFile_error hunit)]
  generalize hpath : (Path.ofString p).toString = path at hreason
  refine ⟨hpath.symm, rfl, ⟨rfl, rfl⟩, ?_⟩
  intro hparser
  obtain ⟨error, hread, rfl⟩ := hreason hparser
  exact ⟨error, hread, rfl⟩

end NoFile

/-! ## Leaving out files that add nothing -/

section LeavingOut

variable {t : FileTree} {parser : Parser} {l : Locator} {mishaps : Mishaps}
  {keep : String → Bool} {paths : List String}

theorem foldl_collect_filter
    (hdrop : ∀ p ∈ paths, keep p = false → ∀ c, collect t parser l mishaps c p = c)
    (c : Collection) :
    (paths.filter keep).foldl (collect t parser l mishaps) c =
      paths.foldl (collect t parser l mishaps) c := by
  induction paths generalizing c with
  | nil => rfl
  | cons p paths ih =>
      have hrest := ih fun q hq ↦ hdrop q (List.mem_cons_of_mem p hq)
      cases hkeep : keep p with
      | true => rw [List.filter_cons_of_pos hkeep, List.foldl_cons, List.foldl_cons, hrest]
      | false =>
          rw [List.filter_cons_of_neg (by simp [hkeep]), List.foldl_cons,
            hdrop p (List.mem_cons_self ..) hkeep, hrest]

theorem outcomesFrom_filter
    (hdrop : ∀ p ∈ paths, keep p = false → ∀ c, collect t parser l mishaps c p = c)
    (c : Collection) :
    outcomesFrom t parser l mishaps c (paths.filter keep) =
      ((paths.zip (outcomesFrom t parser l mishaps c paths)).filter (keep ·.1)).map (·.2) := by
  induction paths generalizing c with
  | nil => rfl
  | cons p paths ih =>
      have hrest := ih fun q hq ↦ hdrop q (List.mem_cons_of_mem p hq)
      cases hkeep : keep p with
      | true =>
          rw [List.filter_cons_of_pos hkeep, outcomesFrom, outcomesFrom, hrest]
          simp [hkeep]
      | false =>
          rw [List.filter_cons_of_neg (by simp [hkeep]), outcomesFrom, hrest,
            hdrop p (List.mem_cons_self ..) hkeep]
          simp [hkeep]

theorem length_outcomesFrom (c : Collection) :
    (outcomesFrom t parser l mishaps c paths).length = paths.length := by
  induction paths generalizing c with
  | nil => rfl
  | cons p paths ih => rw [outcomesFrom, List.length_cons, List.length_cons, ih]

theorem exists_of_mem_zip_outcomesFrom {c : Collection} {x : String × Outcome}
    (hx : x ∈ paths.zip (outcomesFrom t parser l mishaps c paths)) :
    ∃ c, x.2 = outcomeIn t parser l mishaps c x.1 := by
  induction paths generalizing c with
  | nil => cases hx
  | cons p paths ih =>
      rw [outcomesFrom, List.zip_cons_cons, List.mem_cons] at hx
      rcases hx with rfl | hx
      · exact ⟨c, rfl⟩
      · exact ih hx

end LeavingOut

/-! ## The same places -/

theorem searchRoot_lookingBelow (t : FileTree) (settings : Settings) (root : String)
    (paths : List String) :
    searchRoot t (settings.lookingBelow root) (.files paths) =
      searchRoot t settings (.directory root) := by
  unfold searchRoot Settings.lookingBelow
  cases hplace : settings.searchRoot.filter (!·.isEmpty) with
  | some place => simp only [hplace]
  | none =>
      have hroot : (some (Path.ofString root).toString).filter (!·.isEmpty) =
          some (Path.ofString root).toString := by
        simp [Path.normal_ne_empty]
      simp only [hroot, Path.ofString_normal]

theorem alike_lookingBelow (t : FileTree) (settings : Settings) (root : String)
    (paths : List String) :
    Alike t (locator t (settings.lookingBelow root) (.files paths)) t
      (locator t settings (.directory root)) := by
  have hroot := searchRoot_lookingBelow t settings root paths
  obtain ⟨place, hsettings⟩ := settings.exists_lookingBelow root
  rw [hsettings] at hroot ⊢
  refine alike_of_found? ?_ ?_ ?_
  · rw [locator_settings, locator_settings]
  · intro name
    rw [locator_settings, locator_settings]
    rfl
  · intro name
    rw [found?_locator, found?_locator, hroot]
    rfl

/-! ## Listing what a scan finds -/

section Scan

variable {t : FileTree} {settings : Settings} {root p : String}

theorem isFile_normal_of_mem_scan {extension marker : String} (hproper : t.root.Proper)
    (h : p ∈ t.scan extension marker root) :
    t.isFile (Path.ofString p).toString = t.isFile p := by
  have hentry := FileTree.entry?_normal_of_mem_walk hproper (FileTree.mem_walk_of_mem_scan h).1
  rw [FileTree.isFile, FileTree.isFile, hentry]

theorem refusal?_of_mem_scan {extension marker : String} (h : p ∈ t.scan extension marker root) :
    refusal? t extension p = if t.isFile p then none else some "file does not exist" := by
  rw [refusal?, (FileTree.mem_walk_of_mem_scan h).2]
  cases t.isFile p <;> rfl

theorem begin_scan (t : FileTree) (settings : Settings) (marker root : String) :
    (begin t settings (.files (t.scan settings.extension marker root))).1 =
      (t.scan settings.extension marker root).filter (t.isFile ·) := by
  rw [begin_files]
  apply List.filter_congr
  intro p hp
  rw [refusal?_of_mem_scan hp]
  cases t.isFile p <;> rfl

theorem begin_scan_outcomes (t : FileTree) (settings : Settings) (marker root : String) :
    (begin t settings (.files (t.scan settings.extension marker root))).2.outcomes =
      ((t.scan settings.extension marker root).filter (!t.isFile ·)).map missingOutcome := by
  rw [begin_files_outcomes, ← List.filterMap_eq_map, List.filterMap_filter]
  apply List.filterMap_congr
  intro p hp
  rw [skippedOutcome?, refusal?_of_mem_scan hp]
  cases t.isFile p <;> rfl

end Scan

/-- A directory and the list of its files, whatever goes wrong in both runs. -/
theorem sameAsListed_ofScope (t : FileTree) (parser : Parser) (settings : Settings)
    (mishaps : Mishaps) (now root : String) (hproper : t.root.Proper) :
    let listed := t.scan settings.extension settings.pathMarker root
    SameAsListed t parser listed
      (Run.ofScope t parser settings now (.directory root) mishaps)
      (Run.ofScope t parser (settings.lookingBelow root) now (.files listed) mishaps) := by
  intro listed
  set whole := Run.ofScope t parser settings now (.directory root) mishaps
  set list := Run.ofScope t parser (settings.lookingBelow root) now (.files listed) mishaps
  have hfiles : ∀ p ∈ listed, t.isFile (Path.ofString p).toString = t.isFile p :=
    fun _ ↦ isFile_normal_of_mem_scan hproper
  have hdrop : ∀ p ∈ listed, t.isFile p = false → ∀ c,
      collect t parser (locator t settings (.directory root)) mishaps c p = c :=
    fun p hp hfile ↦ collect_of_not_isFile ((hfiles p hp).trans hfile)
  have halike := alike_lookingBelow t settings root listed
  have hbegin := begin_scan t (settings.lookingBelow root) settings.pathMarker root
  have hskipped := begin_scan_outcomes t (settings.lookingBelow root) settings.pathMarker root
  rw [settings.extension_lookingBelow root] at hbegin hskipped
  -- A scan refuses nothing, so each of its paths has an outcome of its own, in the order of the scan.
  have hwhole : whole.outcomes =
      outcomesFrom t parser (locator t settings (.directory root)) mishaps {} listed := by
    rw [outcomes_ofScope, outcomes_finish, begin_directory_outcomes, begin_directory,
      List.nil_append]
  have hlist : list.outcomes =
      (listed.filter (!t.isFile ·)).map missingOutcome ++
        ((listed.zip whole.outcomes).filter (t.isFile ·.1)).map (·.2) := by
    rw [hwhole, ← outcomesFrom_filter hdrop, outcomes_ofScope, outcomes_finish, hbegin, hskipped,
      halike.outcomesFrom fun _ _ ↦ rfl]
  refine ⟨?_, ?_, hlist, ?_, ?_⟩
  · rw [catalog_ofScope, catalog_ofScope, collection_finish, collection_finish, hbegin,
      begin_directory, halike.foldl_collect fun _ _ ↦ rfl, foldl_collect_filter hdrop]
  · intro hall
    have hnone : listed.filter (!t.isFile ·) = [] := by
      rw [List.filter_eq_nil_iff]
      intro p hp
      simp [hall p hp]
    have hevery : (listed.zip whole.outcomes).filter (t.isFile ·.1) =
        listed.zip whole.outcomes := by
      rw [List.filter_eq_self]
      intro x hx
      exact hall x.1 (List.of_mem_zip hx).1
    rw [hlist, hnone, hevery, List.map_nil, List.nil_append]
    apply List.map_snd_zip
    exact Nat.le_of_eq (hwhole ▸ length_outcomesFrom {})
  · rw [hwhole, length_outcomesFrom]
  · intro x hx hfile
    have hlisted := (List.of_mem_zip hx).1
    rw [hwhole] at hx
    obtain ⟨c, houtcome⟩ := exists_of_mem_zip_outcomesFrom hx
    rw [houtcome]
    exact unread_outcomeIn ((hfiles x.1 hlisted).trans hfile) c

/-- Surveying a directory and surveying the list of its files comes to the same catalog, and to the
same outcomes when all of the list are files: whatever goes wrong in both runs, and when each of
them is run by itself. -/
theorem directory_sameAsListed (t : FileTree) (parser : Parser) (settings : Settings)
    (now root : String) (hproper : t.root.Proper) :
    let listed := t.scan settings.extension settings.pathMarker root
    let below := settings.lookingBelow root
    SameAsListed t parser listed (Run.plain t parser settings now (.directory root))
        (Run.plain t parser below now (.files listed)) ∧
      ∀ mishaps, SameAsListed t parser listed
        (Run.ofScope t parser settings now (.directory root) mishaps)
        (Run.ofScope t parser below now (.files listed) mishaps) := by
  intro listed below
  have hmishaps := fun mishaps ↦ sameAsListed_ofScope t parser settings mishaps now root hproper
  have htroubles : troubles t below (.files listed) = troubles t settings (.directory root) :=
    troubles_congr (congrArg _ (searchRoot_lookingBelow t settings root listed))
  refine ⟨?_, hmishaps⟩
  rw [Run.plain, Run.plain, htroubles]
  exact hmishaps _

/-- A current directory with a controller and a link to nowhere, which is a path of the list. -/
theorem sameAsListed_of_dangling_link :
    let controller := "@RestController class UserController \x7b @GetMapping UserDto get(); \x7d"
    let inner : List (String × Entry) :=
      [("UserController.java", .file controller.toUTF8), ("OldController.java", .link "gone.java")]
    let t : FileTree := { root := .directory [("web", .directory inner)], current := ["web"] }
    let listed := ["./OldController.java", "./UserController.java"]
    let settings : Settings := { pathMarker := "Controller" }
    t.root.Proper ∧ t.scan ".java" "Controller" "." = listed ∧
      t.isFile "./OldController.java" = false ∧ t.isFile "./UserController.java" = true ∧
        SameAsListed t {} listed
          (Run.plain t {} settings "" (.directory "."))
          (Run.plain t {} (settings.lookingBelow ".") "" (.files listed)) ∧
        SameAsListed t {} listed
          (Run.ofScope t {} settings "" (.directory ".") .none)
          (Run.ofScope t {} (settings.lookingBelow ".") "" (.files listed) .none) := by
  intro controller inner t listed settings
  have hproper : t.root.Proper := by
    simp only [t, inner, Entry.proper_directory, Entry.proper_file, Entry.proper_link,
      List.map_cons, List.map_nil, List.mem_cons, List.not_mem_nil, or_false, forall_eq,
      forall_eq_or_imp, and_true]
    decide
  have hgone : FileTree.absence "gone.java" = .noEntry := by decide
  have hold : t.entry? "./OldController.java" = .error .noEntry := by
    simp [t, inner, hgone, FileTree.entry?, FileTree.resolve, FileTree.linkLimit, FileTree.follow,
      FileTree.startOf, FileTree.steps, Text.pieces, Entry.below?, Entry.child?, List.lookup_cons]
  have huser : t.entry? "./UserController.java" = .ok (.file controller.toUTF8) := by
    simp [t, inner, FileTree.entry?, FileTree.resolve, FileTree.linkLimit, FileTree.follow,
      FileTree.startOf, FileTree.steps, Text.pieces, Entry.below?, Entry.child?]
  have hdot : t.entry? "." = .ok (.directory inner) := by
    simp [t, inner, FileTree.entry?, FileTree.resolve, FileTree.linkLimit, FileTree.follow,
      FileTree.startOf, FileTree.steps, Text.pieces, Entry.below?, Entry.child?]
  have hwalk : t.walk "." = listed := by
    have hjoin : ∀ name, Path.join "." name = "./" ++ name := by simp [Path.join]
    have hlink : t.isDirectory "./OldController.java" = false := by
      rw [FileTree.isDirectory, hold]
    have horder : nameLE "UserController.java" "OldController.java" = false := by decide
    simp only [FileTree.walk, hdot]
    simp [inner, listed, FileTree.walkEntry, FileTree.fileNames, FileTree.walkEntries,
      Entry.isDirectory, hjoin, hlink, horder, List.mergeSort,
      List.MergeSort.Internal.splitInTwo]
  have hscan : t.scan ".java" "Controller" "." = listed := by
    have hnormal : (Path.ofString ".").toString = "." := by decide
    rw [FileTree.scan, hnormal, hwalk]
    decide
  refine ⟨hproper, hscan, ?_, ?_, ?_⟩
  · rw [FileTree.isFile, hold]
  · rw [FileTree.isFile, huser]
  · have hsame := directory_sameAsListed t {} settings "" "." hproper
    simp only [hscan, settings] at hsame
    exact ⟨hsame.1, hsame.2 .none⟩

end Survey

end ApiSurvey
