import ApiSurvey.Proofs.Atomicity

/-!
# What is read is surveyed

Once a file is read and its tree is sound, its declarations are given their roles, turned into
records and searched for payload classes without a failure, whatever they hold. Only the text of the
search root can stand in the way: no payload class is located below a root that is too long to be
looked up. Main statement: in a run whose search root can be looked up, the files that fail are
those that cannot be read or parsed.
-/

namespace ApiSurvey

theorem exists_mem_of_find?_text {α : Type} {items : List α} {f : α → String} {text : String}
    {x : α} (h : items.find? (f · == text) = some x) : ∃ item ∈ items, text = f item := by
  have htext := List.find?_some h
  exact ⟨x, List.mem_of_find?_eq_some h, (eq_of_beq htext).symm⟩

theorem Verb.exists_textOfMapping (mapping : Option Marker) :
    ∃ verb ∈ Verb.all, Verb.textOfMapping mapping = verb.toString :=
  exists_mem_of_find?_text (Verb.ofString?_textOfMapping mapping)

theorem Location.exists_textOfMarkers (markers : List Marker) :
    ∃ location ∈ Location.all, Location.textOfMarkers markers = location.toString :=
  exists_mem_of_find?_text (Location.ofString?_textOfMarkers markers)

namespace Survey

variable {t : FileTree} {settings : Settings} {scope : Scope} {parser : Parser} {l : Locator}
  {c : Collection} {p : String} {e : Failure}

theorem troubles_eq_none (h : Locator.listing? t (searchRoot t settings scope) = none) :
    troubles t settings scope = Mishaps.none := by
  funext path stage
  unfold troubles
  cases stage with
  | locating n name => exact h
  | reading => rfl
  | classifying => rfl
  | extracting n => rfl
  | resolving n => rfl

/-- When the files can be listed, nothing goes wrong in a run by itself. -/
theorem plain_eq_ofScope (h : Locator.listing? t (searchRoot t settings scope) = none)
    (parser : Parser) (now : String) :
    Run.plain t parser settings now scope =
      Run.ofScope t parser settings now scope .none := by
  rw [Run.plain, troubles_eq_none h]

/-- At the top of a tree the files can be listed. -/
theorem listing?_of_top {entries : List (String × Entry)} (hroot : t.root = .directory entries)
    (hcurrent : t.current = []) (hsearch : settings.searchRoot.filter (!·.isEmpty) = none)
    (paths : List String) : Locator.listing? t (searchRoot t settings (.files paths)) = none := by
  have hnormal : (Path.ofString "/").toString = "/" := by decide
  have hcurrent : t.currentPath = "/" := by simp [FileTree.currentPath, hcurrent]
  have htop : searchRoot t settings (.files paths) = "/" := by
    unfold searchRoot
    simp only [hsearch, hcurrent, hnormal]
  have hentry : t.entry? "/" = .ok t.root := by
    simp [hroot, FileTree.entry?, FileTree.resolve, FileTree.linkLimit, FileTree.follow,
      FileTree.startOf, FileTree.steps, Text.pieces, Entry.below?]
  have hlength : decide (FileTree.pathLimit ≤ "/".utf8ByteSize) = false := by decide
  have hshort : t.isOverlong "/" = false := by
    rw [FileTree.isOverlong, hlength, hentry]
    rfl
  rw [htop, Locator.listing?, hshort]
  rfl

/-- The one thing that can go wrong in a run by itself is the listing of files. -/
theorem listing?_of_troubles {path : String} {stage : Stage}
    (h : troubles t settings scope path stage = some e) :
    Locator.listing? t (searchRoot t settings scope) = some e := by
  unfold troubles at h
  cases stage with
  | locating n name => exact h
  | reading => cases h
  | classifying => cases h
  | extracting n => cases h
  | resolving n => cases h

theorem findSome?_none (stages : List Stage) (path : String) :
    stages.findSome? (Mishaps.none path) = none := by
  rw [List.findSome?_eq_none_iff]
  intro stage _
  rfl

theorem value_yieldOfUnit (t : FileTree) (l : Locator) (mishap? : Stage → Option Failure)
    (known : List String) (path : String) (unit : SourceUnit) :
    (yieldOfUnit t l mishap? known path unit).value =
      settle ((Stage.classifying :: stagesFrom t l known path unit.package 0 {}
          (surveyed l.settings.suffixes path unit.classes)).findSome? mishap?)
        (undisturbedYield t l known path unit) := by
  rw [yieldOfUnit, Attempt.value_pass_bind, List.findSome?_cons]
  cases mishap? .classifying with
  | some e => rfl
  | none => exact value_addDeclarations ..

/-- Whatever the declarations of a file are, they give the undisturbed yield. -/
theorem value_yieldOfUnit_of_listing
    (h : Locator.listing? t (searchRoot t settings scope) = none) (l : Locator)
    (known : List String) (path : String) (unit : SourceUnit) :
    (yieldOfUnit t l (troubles t settings scope path) known path unit).value =
      .ok (undisturbedYield t l known path unit) := by
  rw [value_yieldOfUnit, troubles_eq_none h, findSome?_none]
  rfl

theorem exists_placeholdersBy (h : l.trouble? t = none) (known types : List String) :
    ∃ shapes after, placeholdersBy t l known types = .ok (shapes, after) := by
  unfold placeholdersBy
  by_cases hnone : (Shape.missingNames l.settings.suffixes known types).isEmpty = true
  · exact ⟨[], l, if_pos hnone⟩
  · rw [if_neg hnone, h]
    exact ⟨_, _, rfl⟩

/-- Below a root that is too long no missing class is located, though a path could be estimated. -/
theorem placeholdersBy_of_overlong {root : String} (hroot : l.searchRoot = some root)
    (hfiles : l.files = none) (hlong : FileTree.pathLimit ≤ root.utf8ByteSize)
    {known types : List String}
    (hmissing : Shape.missingNames l.settings.suffixes known types ≠ []) :
    placeholdersBy t l known types =
      .error (.breakdown "OSError" (PathError.nameTooLong.report root)) := by
  have hoverlong : t.isOverlong root = true := by
    simp [FileTree.isOverlong, hlong]
  have htrouble : l.trouble? t =
      some (.breakdown "OSError" (PathError.nameTooLong.report root)) := by
    simp [Locator.trouble?, hroot, hfiles, Locator.listing?, hoverlong]
  have hsome : (Shape.missingNames l.settings.suffixes known types).isEmpty = false := by
    simpa using hmissing
  rw [placeholdersBy, hsome, htrouble]
  rfl

/-- A file fails as reading it fails, or because files could not be listed. -/
theorem cause_of_resultIn_error
    (h : resultIn t parser l (troubles t settings scope) c p = .error e) :
    (parser.unitOfFile t (Path.ofString p).toString).value = .error e ∨
      Locator.listing? t (searchRoot t settings scope) = some e := by
  cases hread : (parser.unitOfFile t (Path.ofString p).toString).value with
  | error e' =>
      rw [resultIn_of_unitOfFile_error hread] at h
      exact .inl (congrArg Except.error (Except.error.inj h))
  | ok read =>
      obtain ⟨size, unit⟩ := read
      rw [resultIn_of_unitOfFile_ok hread] at h
      cases hstage : (stages t l c.shapeNames (Path.ofString p).toString unit).findSome?
          (troubles t settings scope (Path.ofString p).toString) with
      | none =>
          rw [hstage] at h
          cases h
      | some e' =>
          rw [hstage] at h
          obtain ⟨stage, -, htrouble⟩ := List.exists_of_findSome?_eq_some hstage
          have he : e' = e := Except.error.inj h
          exact .inr (he ▸ listing?_of_troubles htrouble)

/-- An outcome that follows from reading the file, or from the text of the search root. -/
structure Explained (t : FileTree) (parser : Parser) (settings : Settings) (scope : Scope)
    (o : Outcome) : Prop where
  failed : o.status = .failed → ∃ e, o.message = e.message ∧
    ((parser.unitOfFile t o.path).value = .error e ∨
      Locator.listing? t (searchRoot t settings scope) = some e)
  processed : o.status = .processed → ∃ unit, (parser.unitOfFile t o.path).value = .ok unit

theorem explained_of_skipped {o : Outcome} (h : o.status = .skipped) :
    Explained t parser settings scope o := by
  constructor
  · intro hfailed
    rw [h] at hfailed
    cases hfailed
  · intro hprocessed
    rw [h] at hprocessed
    cases hprocessed

theorem explained_outcomeIn (l : Locator) (c : Collection) (p : String) :
    Explained t parser settings scope
      (outcomeIn t parser l (troubles t settings scope) c p) := by
  cases hresult : resultIn t parser l (troubles t settings scope) c p with
  | ok y =>
      obtain ⟨size, unit, hread, -⟩ := exists_of_resultIn_ok hresult
      rw [outcomeIn_of_ok hresult]
      constructor
      · intro hfailed
        cases hfailed
      · intro _
        exact ⟨(size, unit), hread⟩
  | error e =>
      rw [outcomeIn_of_error hresult]
      constructor
      · intro _
        exact ⟨e, rfl, cause_of_resultIn_error hresult⟩
      · intro hprocessed
        cases hprocessed

theorem explained_of_mem_outcomes {now : String} {o : Outcome}
    (ho : o ∈ (Run.plain t parser settings now scope).outcomes) :
    Explained t parser settings scope o := by
  rw [Run.plain, outcomes_ofScope, outcomes_finish] at ho
  rcases List.mem_append.mp ho with ho | ho
  · exact explained_of_skipped (status_of_mem_begin ho).1
  · exact forall_mem_outcomesFrom (explained_outcomeIn _) _ _ o ho

/-- The texts for verbs and locations are those of the catalog, so no class is turned away; all
declarations give their yield; and a file of a run fails only when it cannot be read or parsed, or
when the search root is too long to be looked up. -/
theorem failed_only_if_unread (t : FileTree) (parser : Parser) (settings : Settings)
    (now : String) (scope : Scope) :
    (∀ mapping, ∃ verb ∈ Verb.all, Verb.textOfMapping mapping = verb.toString) ∧
      (∀ markers, ∃ location ∈ Location.all,
        Location.textOfMarkers markers = location.toString) ∧
      (∀ package c, RouteGroup.accept package c = .ok (RouteGroup.ofClass package c)) ∧
      (∀ l : Locator, l.trouble? t = none → ∀ known types,
        ∃ shapes after, placeholdersBy t l known types = .ok (shapes, after)) ∧
      (Locator.listing? t (searchRoot t settings scope) = none →
        ∀ l known path unit,
          (yieldOfUnit t l (troubles t settings scope path) known path unit).value =
            .ok (undisturbedYield t l known path unit)) ∧
      ∀ o ∈ (Run.plain t parser settings now scope).outcomes,
        Explained t parser settings scope o := by
  refine ⟨Verb.exists_textOfMapping, Location.exists_textOfMarkers, RouteGroup.accept_eq_ok,
    ?_, value_yieldOfUnit_of_listing, ?_⟩
  · intro l hlocator
    exact exists_placeholdersBy hlocator
  · intro o ho
    exact explained_of_mem_outcomes ho

/-- A file that makes the parser break down, after one whose tree is sound. -/
theorem failed_only_if_unread_of_breakdown :
    let parser : Parser :=
      { breakdown? := fun path ↦ if path = "B.java" then some ("RuntimeError", "bang") else none
        tree := fun _ _ ↦ { kind := .construct .program, span := ⟨0, 0, 1⟩ } }
    let t : FileTree :=
      { root := .directory [("A.java", .file .empty), ("B.java", .file .empty)] }
    let scope : Scope := .files ["A.java", "B.java"]
    let l : Locator := { searchRoot := some "/", settings := {} }
    let sound : Outcome := { path := "A.java", status := .processed }
    let broken : Outcome := { path := "B.java", status := .failed, message := "RuntimeError: bang" }
    (Run.plain t parser {} "" scope).outcomes = [sound, broken] ∧ l.trouble? t = none ∧
      Locator.listing? t (searchRoot t {} scope) = none ∧
      (∃ shapes after, placeholdersBy t l [] ["UserDto"] = .ok (shapes, after)) ∧
      Explained t parser {} scope sound ∧ Explained t parser {} scope broken := by
  intro parser t scope l sound broken
  have hentry : ∀ name ∈ ["A.java", "B.java"], t.entry? name = .ok (.file .empty) := by
    intro name hname
    rcases List.mem_pair.mp hname with rfl | rfl <;>
      simp [t, FileTree.entry?, FileTree.resolve, FileTree.linkLimit, FileTree.follow,
        FileTree.startOf, FileTree.steps, Text.pieces, Entry.below?, Entry.child?,
        List.lookup_cons]
  have hkept : ∀ name ∈ ["A.java", "B.java"], refusal? t ".java" name = none := by
    intro name hname
    have hsuffix : (!".java".toList.isSuffixOf name.toList) = false := by
      revert name
      decide
    rw [refusal?, FileTree.isFile, hentry name hname, hsuffix]
    rfl
  have hsearch : searchRoot t {} scope = "/" := by decide
  have hlisting : Locator.listing? t (searchRoot t {} scope) = none :=
    listing?_of_top rfl rfl rfl _
  have hsound : (parser.unitOfFile t (Path.ofString "A.java").toString).value =
      .ok (0, Java.readUnit .empty (parser.tree "A.java" .empty)) := by
    have hnormal : (Path.ofString "A.java").toString = "A.java" := by decide
    rw [hnormal, Parser.unitOfFile, FileTree.read, hentry "A.java" (by simp)]
    rfl
  have hbroken : (parser.unitOfFile t (Path.ofString "B.java").toString).value =
      .error (.breakdown "RuntimeError" "bang") := by
    have hnormal : (Path.ofString "B.java").toString = "B.java" := by decide
    rw [hnormal, Parser.unitOfFile]
    rfl
  have houtcomes : (Run.plain t parser {} "" scope).outcomes = [sound, broken] := by
    obtain ⟨hpaths, hskipped⟩ := begin_of_admitted t {} _ hkept
    have hfirst := @resultIn_of_unitOfFile_ok t parser (locator t {} scope) .none {} _ _ _ hsound
    rw [findSome?_none] at hfirst
    rw [plain_eq_ofScope hlisting, outcomes_ofScope, outcomes_finish, hskipped, hpaths,
      outcomesFrom, outcomesFrom, outcomesFrom, outcomeIn_of_ok hfirst,
      outcomeIn_of_error (resultIn_of_unitOfFile_error hbroken)]
    rfl
  have htrouble : l.trouble? t = none := by
    rw [hsearch] at hlisting
    exact hlisting
  obtain ⟨-, -, -, hplaced, -, hexplained⟩ := failed_only_if_unread t parser {} "" scope
  refine ⟨houtcomes, htrouble, hlisting, hplaced l htrouble [] ["UserDto"], ?_, ?_⟩
  · exact hexplained sound (by simp [houtcomes])
  · exact hexplained broken (by simp [houtcomes])

end Survey

end ApiSurvey
