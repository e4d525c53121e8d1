import ApiSurvey.Proofs.SurveyStep

/-!
# All or nothing

A file adds all that it yields or nothing at all. Main statement: wherever the survey of a file is
stopped, the collection stays as it was, and a file whose survey is not stopped adds its route
groups and its newcomers, which its outcome counts. So the files that fail, and those that are not
even surveyed, can be left out of a list without any effect on the catalog or on what becomes of
the other files.
-/

namespace ApiSurvey.Survey

/-- The points at which the survey of the file at a path can be stopped, with the failure that it is
stopped by. -/
inductive Stopped (t : FileTree) (parser : Parser) (l : Locator) (mishaps : Mishaps)
    (known : List String) (path : String) : Failure → Prop where
  /-- The parser gives up by itself. -/
  | breakdown {kind text : String} (hparser : parser.breakdown? path = some (kind, text)) :
      Stopped t parser l mishaps known path (.breakdown kind text)
  /-- The file cannot be read. -/
  | unreadable {error : PathError} (hparser : parser.breakdown? path = none)
      (hread : t.read path = .error error) :
      Stopped t parser l mishaps known path (.unreadable path error)
  /-- The source cannot be parsed. -/
  | syntaxError {source : ByteArray} (hparser : parser.breakdown? path = none)
      (hread : t.read path = .ok source) (htree : (parser.tree path source).hasError = true) :
      Stopped t parser l mishaps known path
        (.syntaxError path (parser.tree path source).firstErrorLine?)
  /-- Something goes wrong at one of the stages that follow, and at none before it. -/
  | mishap {source : ByteArray} {before after : List Stage} {stage : Stage} {e : Failure}
      (hparser : parser.breakdown? path = none) (hread : t.read path = .ok source)
      (htree : (parser.tree path source).hasError = false)
      (hstages : stages t l known path (Java.readUnit source (parser.tree path source)) =
        before ++ stage :: after)
      (hbefore : ∀ earlier ∈ before, mishaps path earlier = none)
      (hmishap : mishaps path stage = some e) :
      Stopped t parser l mishaps known path e

/-- What a run is like after a file that was dropped. -/
structure Dropped (s next : State) (path : String) (e : Failure) : Prop where
  collection : next.collection = s.collection
  outcomes : next.outcomes = s.outcomes ++
    [{ path := path, status := .failed, controllers := 0, shapes := 0, message := e.message }]

/-- What a run is like after a file that was taken in, with its route groups and the shapes that
were extracted from it. -/
structure TakenIn (s next : State) (path : String) (own : List RouteGroup)
    (extracted : List DataShape) : Prop where
  groups : next.collection.groups = s.collection.groups ++ own
  shapes : next.collection.shapes =
    s.collection.shapes ++ DataShape.newcomers s.collection.shapeNames extracted
  outcomes : next.outcomes = s.outcomes ++
    [{ path := path
       status := .processed
       controllers := own.length
       shapes := (DataShape.newcomers s.collection.shapeNames extracted).length }]

/-- The files of a list that have an outcome as processed. -/
def survivors (outcomes : List Outcome) (paths : List String) : List String :=
  ((paths.zip outcomes).filter (·.2.status = .processed)).map (·.1)

/-- The listed files that a run processed: those that are refused are skipped, and the outcomes of
the others come in the order of the list. -/
def processedFiles (t : FileTree) (settings : Settings) (paths : List String) (run : Run) :
    List String :=
  survivors (run.outcomes.filter (·.status ≠ .skipped))
    (paths.filter fun p ↦ (refusal? t settings.extension p).isNone)

section File

variable {t : FileTree} {parser : Parser} {l : Locator} {mishaps : Mishaps}
  {known : List String} {path : String}

theorem value_unitOfFile (hparser : parser.breakdown? path = none) {source : ByteArray}
    (hread : t.read path = .ok source) :
    (parser.unitOfFile t path).value =
      (soundTree path (parser.tree path source)).map fun tree ↦
        (source.size, Java.readUnit source tree) := by
  simp only [Parser.unitOfFile, hparser, hread]

theorem value_yieldOfFile_of_sound {source : ByteArray}
    (hparser : parser.breakdown? path = none) (hread : t.read path = .ok source)
    (htree : (parser.tree path source).hasError = false) :
    (yieldOfFile t parser l mishaps known path).value =
      settle ((stages t l known path
          (Java.readUnit source (parser.tree path source))).findSome? (mishaps path))
        (undisturbedYield t l known path (Java.readUnit source (parser.tree path source))) := by
  rw [value_yieldOfFile, value_unitOfFile hparser hread, soundTree, htree]
  rfl

theorem Stopped.value_yieldOfFile {e : Failure}
    (h : Stopped t parser l mishaps known path e) :
    (yieldOfFile t parser l mishaps known path).value = .error e := by
  cases h with
  | breakdown hparser =>
      rw [Survey.value_yieldOfFile, Parser.unitOfFile, hparser]
      rfl
  | unreadable hparser hread =>
      rw [Survey.value_yieldOfFile, Parser.unitOfFile, hparser, hread]
      rfl
  | syntaxError hparser hread htree =>
      rw [Survey.value_yieldOfFile, value_unitOfFile hparser hread, soundTree, htree]
      rfl
  | mishap hparser hread htree hstages hbefore hmishap =>
      have hfirst := List.findSome?_eq_some_iff.mpr ⟨_, _, _, hstages, hmishap, hbefore⟩
      rw [value_yieldOfFile_of_sound hparser hread htree, hfirst]
      rfl

/-- A survey that is stopped nowhere read the file and gives its undisturbed yield. -/
theorem exists_of_forall_not_stopped
    (h : ∀ e, ¬ Stopped t parser l mishaps known path e) :
    ∃ source, t.read path = .ok source ∧
      (yieldOfFile t parser l mishaps known path).value =
        .ok (undisturbedYield t l known path (Java.readUnit source (parser.tree path source))) := by
  cases hparser : parser.breakdown? path with
  | some report =>
      obtain ⟨kind, text⟩ := report
      exact (h _ (.breakdown hparser)).elim
  | none =>
      cases hread : t.read path with
      | error error => exact (h _ (.unreadable hparser hread)).elim
      | ok source =>
          refine ⟨source, rfl, ?_⟩
          cases htree : (parser.tree path source).hasError with
          | true => exact (h _ (.syntaxError hparser hread htree)).elim
          | false =>
              rw [value_yieldOfFile_of_sound hparser hread htree]
              cases hstage : (stages t l known path
                  (Java.readUnit source (parser.tree path source))).findSome? (mishaps path) with
              | none => rfl
              | some e =>
                  obtain ⟨before, stage, after, hstages, hmishap, hbefore⟩ :=
                    List.findSome?_eq_some_iff.mp hstage
                  exact (h e (.mishap hparser hread htree hstages hbefore hmishap)).elim

end File

section Step

variable {t : FileTree} {parser : Parser} {l : Locator} {mishaps : Mishaps} {s : State}
  {p : String} {e : Failure}

theorem dropped_of_stopped
    (h : Stopped t parser l mishaps s.collection.shapeNames (Path.ofString p).toString e) :
    Dropped s (surveyFile t parser l mishaps s p) (Path.ofString p).toString e := by
  have hresult : resultIn t parser l mishaps s.collection p = .error e := h.value_yieldOfFile
  constructor
  · rw [collection_surveyFile, collect_of_error hresult]
  · rw [outcomes_surveyFile, outcomeIn_of_error hresult]

/-- The run goes on after a file that is stopped as if the file had not been listed, but for its
outcome. -/
theorem surveyFiles_of_stopped
    (h : Stopped t parser l mishaps s.collection.shapeNames (Path.ofString p).toString e)
    (rest : List String) :
    (surveyFiles t parser l mishaps s (p :: rest)).collection =
        (surveyFiles t parser l mishaps s rest).collection ∧
      (surveyFiles t parser l mishaps s (p :: rest)).outcomes =
        (surveyFile t parser l mishaps s p).outcomes ++
          outcomesFrom t parser l mishaps s.collection rest := by
  have hresult : resultIn t parser l mishaps s.collection p = .error e := h.value_yieldOfFile
  constructor
  · rw [collection_surveyFiles, collection_surveyFiles, List.foldl_cons, collect_of_error hresult]
  · rw [outcomes_surveyFiles, outcomes_surveyFile, outcomesFrom, collect_of_error hresult,
      List.append_assoc, List.singleton_append]

theorem takenIn_of_forall_not_stopped
    (h : ∀ e, ¬ Stopped t parser l mishaps s.collection.shapeNames (Path.ofString p).toString e) :
    ∃ source, t.read (Path.ofString p).toString = .ok source ∧
      let unit := Java.readUnit source (parser.tree (Path.ofString p).toString source)
      TakenIn s (surveyFile t parser l mishaps s p) (Path.ofString p).toString
        (groupsOfUnit l.settings.suffixes (Path.ofString p).toString unit)
        (undisturbedYield t l s.collection.shapeNames (Path.ofString p).toString unit).shapes := by
  obtain ⟨source, hread, hresult⟩ := exists_of_forall_not_stopped h
  refine ⟨source, hread, ?_, ?_, ?_⟩
  · rw [collection_surveyFile, collect_of_ok hresult, grown, groups_undisturbedYield]
  · rw [collection_surveyFile, collect_of_ok hresult, grown]
  · rw [outcomes_surveyFile, outcomeIn_of_ok hresult, groups_undisturbedYield]

end Step

/-! ## Leaving out the files that give nothing -/

section LeavingOut

variable {t : FileTree} {parser : Parser} {l : Locator} {mishaps : Mishaps}

theorem survivors_subset (outcomes : List Outcome) (paths : List String) :
    survivors outcomes paths ⊆ paths := by
  intro p hp
  obtain ⟨⟨p', o⟩, hpair, rfl⟩ := List.mem_map.mp hp
  exact (List.of_mem_zip (List.mem_of_mem_filter hpair)).1

theorem survivors_cons_of_error {c : Collection} {p : String} {e : Failure}
    (h : resultIn t parser l mishaps c p = .error e) (paths : List String) :
    survivors (outcomesFrom t parser l mishaps c (p :: paths)) (p :: paths) =
      survivors (outcomesFrom t parser l mishaps c paths) paths := by
  simp [survivors, outcomesFrom, outcomeIn_of_error h, collect_of_error h]

theorem survivors_cons_of_ok {c : Collection} {p : String} {y : Yield}
    (h : resultIn t parser l mishaps c p = .ok y) (paths : List String) :
    survivors (outcomesFrom t parser l mishaps c (p :: paths)) (p :: paths) =
      p :: survivors (outcomesFrom t parser l mishaps (collect t parser l mishaps c p) paths)
        paths := by
  simp [survivors, outcomesFrom, outcomeIn_of_ok h]

theorem foldl_collect_survivors (c : Collection) (paths : List String) :
    (survivors (outcomesFrom t parser l mishaps c paths) paths).foldl
      (collect t parser l mishaps) c = paths.foldl (collect t parser l mishaps) c := by
  induction paths generalizing c with
  | nil => rfl
  | cons p paths ih =>
      cases hresult : resultIn t parser l mishaps c p with
      | error e =>
          rw [survivors_cons_of_error hresult, ih, List.foldl_cons, collect_of_error hresult]
      | ok y => rw [survivors_cons_of_ok hresult, List.foldl_cons, List.foldl_cons, ih]

theorem outcomesFrom_survivors (c : Collection) (paths : List String) :
    outcomesFrom t parser l mishaps c
        (survivors (outcomesFrom t parser l mishaps c paths) paths) =
      (outcomesFrom t parser l mishaps c paths).filter (·.status = .processed) := by
  induction paths generalizing c with
  | nil => rfl
  | cons p paths ih =>
      cases hresult : resultIn t parser l mishaps c p with
      | error e =>
          rw [survivors_cons_of_error hresult, ih, outcomesFrom, collect_of_error hresult,
            List.filter_cons_of_neg (by simp [outcomeIn_of_error hresult])]
      | ok y =>
          rw [survivors_cons_of_ok hresult, outcomesFrom, outcomesFrom, ih,
            List.filter_cons_of_pos (by simp [outcomeIn_of_ok hresult])]

variable (t parser mishaps) (settings : Settings) (paths : List String)

/-- The outcomes that are not skipped are those of the surveyed files. -/
theorem filter_outcomes_finish_files (keep : Outcome → Bool)
    (hkeep : ∀ o, o.status = .skipped → keep o = false) :
    (finish t parser settings mishaps (.files paths)).outcomes.filter keep =
      (outcomesFrom t parser (locator t settings (.files paths)) mishaps {}
        (begin t settings (.files paths)).1).filter keep := by
  have hskipped : (begin t settings (.files paths)).2.outcomes.filter keep = [] := by
    rw [List.filter_eq_nil_iff]
    intro o ho
    simp [hkeep o (status_of_mem_begin ho).1]
  rw [outcomes_finish, List.filter_append, hskipped, List.nil_append]

theorem processedFiles_ofScope (now : String) :
    processedFiles t settings paths (Run.ofScope t parser settings now (.files paths) mishaps) =
      survivors (outcomesFrom t parser (locator t settings (.files paths)) mishaps {}
        (begin t settings (.files paths)).1) (begin t settings (.files paths)).1 := by
  have hall : (outcomesFrom t parser (locator t settings (.files paths)) mishaps {}
      (begin t settings (.files paths)).1).filter (·.status ≠ .skipped) =
        outcomesFrom t parser (locator t settings (.files paths)) mishaps {}
          (begin t settings (.files paths)).1 := by
    rw [List.filter_eq_self]
    intro o ho
    have hne := forall_mem_outcomesFrom (P := fun o ↦ o.status ≠ .skipped)
      outcomeIn_status_ne_skipped _ _ o ho
    simpa using hne
  rw [processedFiles, outcomes_ofScope,
    filter_outcomes_finish_files t parser mishaps settings paths _ (by simp), hall, begin_files]

/-- A list of files that are all admitted is surveyed whole. -/
theorem begin_of_admitted (h : ∀ p ∈ paths, refusal? t settings.extension p = none) :
    (begin t settings (.files paths)).1 = paths ∧
      (begin t settings (.files paths)).2.outcomes = [] := by
  constructor
  · rw [begin_files, List.filter_eq_self]
    intro p hp
    simp [h p hp]
  · rw [begin_files_outcomes, List.filterMap_eq_nil_iff]
    intro p hp
    simp [skippedOutcome?, h p hp]

end LeavingOut

/-- Wherever the survey of a file is stopped, nothing of the file is collected and the run goes on;
a file whose survey is stopped nowhere is taken in whole; and a run over the files that were
processed has the same catalog as the run over the whole list. -/
theorem survey_all_or_nothing (t : FileTree) (parser : Parser) (settings : Settings)
    (mishaps : Mishaps) :
    (∀ (l : Locator) (s : State) (p : String),
      let path := (Path.ofString p).toString
      let next := surveyFile t parser l mishaps s p
      (∀ e, Stopped t parser l mishaps s.collection.shapeNames path e →
        Dropped s next path e ∧
          ∀ rest, (surveyFiles t parser l mishaps s (p :: rest)).collection =
              (surveyFiles t parser l mishaps s rest).collection ∧
            (surveyFiles t parser l mishaps s (p :: rest)).outcomes =
              next.outcomes ++ outcomesFrom t parser l mishaps s.collection rest) ∧
        ((∀ e, ¬ Stopped t parser l mishaps s.collection.shapeNames path e) →
          ∃ source, t.read path = .ok source ∧
            let unit := Java.readUnit source (parser.tree path source)
            TakenIn s next path (groupsOfUnit l.settings.suffixes path unit)
              (undisturbedYield t l s.collection.shapeNames path unit).shapes)) ∧
      ∀ (now : String) (paths : List String),
        let run := Run.ofScope t parser settings now (.files paths) mishaps
        let again := Run.ofScope t parser settings now
          (.files (processedFiles t settings paths run)) mishaps
        again.catalog = run.catalog ∧
          again.outcomes = run.outcomes.filter (·.status = .processed) := by
  refine ⟨?_, ?_⟩
  · intro l s p
    refine ⟨?_, takenIn_of_forall_not_stopped⟩
    intro e hstopped
    exact ⟨dropped_of_stopped hstopped, surveyFiles_of_stopped hstopped⟩
  · intro now paths
    have hkept := processedFiles_ofScope t parser mishaps settings paths now
    have hadmitted : ∀ p ∈ processedFiles t settings paths
        (Run.ofScope t parser settings now (.files paths) mishaps),
        refusal? t settings.extension p = none := by
      intro p hp
      rw [hkept, begin_files] at hp
      simpa using List.of_mem_filter (survivors_subset _ _ hp)
    obtain ⟨hpaths, houtcomes⟩ := begin_of_admitted t settings _ hadmitted
    have hlocator := locator_files t settings (processedFiles t settings paths
      (Run.ofScope t parser settings now (.files paths) mishaps)) paths
    constructor
    · rw [catalog_ofScope, catalog_ofScope, collection_finish, collection_finish, hpaths, hlocator,
        hkept, foldl_collect_survivors]
    · rw [outcomes_ofScope, outcomes_ofScope, outcomes_finish, houtcomes, List.nil_append, hpaths,
        hlocator, hkept, outcomesFrom_survivors,
        filter_outcomes_finish_files t parser mishaps settings paths _ (by simp +contextual)]

end ApiSurvey.Survey
