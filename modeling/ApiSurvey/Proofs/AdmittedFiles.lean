import ApiSurvey.Proofs.Extraction
import ApiSurvey.Proofs.TextCutting
import ApiSurvey.Proofs.Walks

/-!
# Admitted files are read

A listed file is admitted by the text of its path as it is given and read by the normal form of that
text, which drops empty steps and `.` but keeps `..`, since a link may stand before it. Main
statement: what an admitted path denotes is a file, its normal form denotes the same one, and so no
listed file fails because it cannot be read.
-/

namespace ApiSurvey

namespace FileTree

variable {t : FileTree} {path : String}

/-- A text that denotes something denotes the same in normal form. -/
theorem resolve_normal_of_ok {place : List String} (h : t.resolve path = .ok place) :
    t.resolve (Path.ofString path).toString = .ok place := by
  have hne : path ≠ "" := by
    rintro rfl
    simp [resolve] at h
  rw [resolve_eq_bind_normal t hne] at h
  cases hnormal : t.resolve (Path.ofString path).toString with
  | error e =>
      rw [hnormal] at h
      cases h
  | ok next =>
      rw [hnormal] at h
      have harrive : arrive t.root (steps path) next = .ok place := h
      rw [eq_of_arrive harrive]

theorem exists_of_isFile (h : t.isFile path = true) :
    ∃ place content, t.resolve path = .ok place ∧ t.root.below? place = some (.file content) := by
  unfold isFile at h
  split at h
  · rename_i content hentry
    obtain ⟨place, hresolve, hplace⟩ := entry?_eq_ok_iff.mp hentry
    exact ⟨place, content, hresolve, hplace⟩
  · cases h

theorem read_of_resolve {place : List String} {content : ByteArray}
    (hresolve : t.resolve path = .ok place)
    (hplace : t.root.below? place = some (.file content)) : t.read path = .ok content := by
  rw [read, entry?_eq_ok_iff.mpr ⟨place, hresolve, hplace⟩]

end FileTree

/-! ## Messages -/

/-- How the message about a file begins that cannot be read. -/
def readComplaint : List Char := "Cannot read ".toList

/-- A parser that names the kinds of its breakdowns as classes are named, without a blank. -/
def Parser.NamesKinds (parser : Parser) : Prop :=
  ∀ path kind text, parser.breakdown? path = some (kind, text) → ' ' ∉ kind.toList

/-- A text with another first word is no such message. -/
theorem not_readComplaint (word : List Char) {text : List Char} (hword : ' ' ∉ word)
    (hne : word ≠ "Cannot".toList) (htext : word ++ [' '] <+: text) : ¬readComplaint <+: text := by
  obtain ⟨rest, rfl⟩ := htext
  rintro ⟨more, hmore⟩
  have hsplit : readComplaint = "Cannot".toList ++ ' ' :: "read ".toList := by decide
  have hfirst := congrArg (Text.beforeFirst ' ') hmore
  rw [hsplit, List.append_assoc, List.cons_append, List.append_assoc, List.singleton_append,
    Text.beforeFirst_append_cons (by decide), Text.beforeFirst_append_cons hword] at hfirst
  exact hne hfirst.symm

theorem Failure.message_syntaxError (origin : String) (line? : Option Nat) :
    ¬readComplaint <+: (Failure.syntaxError origin line?).message.toList := by
  have hstart : "Syntax".toList ++ [' '] <+: "Syntax error in ".toList := by decide
  apply not_readComplaint "Syntax".toList (by decide) (by decide)
  cases line? with
  | none =>
      have hmessage : (Failure.syntaxError origin none).message = "Syntax error in " ++ origin := rfl
      rw [hmessage, String.toList_append]
      exact hstart.trans (List.prefix_append _ _)
  | some line =>
      have hmessage : (Failure.syntaxError origin (some line)).message =
          "Syntax error in " ++ origin ++ " (\x7b'line': " ++ toString line ++ "\x7d)" := rfl
      simp only [hmessage, String.toList_append, List.append_assoc]
      exact hstart.trans (List.prefix_append _ _)

theorem Failure.message_breakdown {kind : String} (hkind : ' ' ∉ kind.toList) (text : String) :
    ¬readComplaint <+: (Failure.breakdown kind text).message.toList := by
  have hmessage : (Failure.breakdown kind text).message = kind ++ ": " ++ text := rfl
  have hcolon : ": ".toList = [':'] ++ [' '] := by decide
  have hlast : ("Cannot".toList).getLast? = some 't' := by decide
  apply not_readComplaint (kind.toList ++ [':'])
  · simpa using hkind
  · intro hword
    rw [← hword, List.getLast?_concat] at hlast
    cases hlast
  · simp only [hmessage, String.toList_append, hcolon, ← List.append_assoc]
    exact List.prefix_append _ _

theorem Survey.message_refusal? {t : FileTree} {extension path reason : String}
    (h : refusal? t extension path = some reason) : ¬readComplaint <+: reason.toList := by
  unfold refusal? at h
  split at h
  · obtain rfl := Option.some.inj h
    have hstart : "not".toList ++ [' '] <+: "not a ".toList := by decide
    apply not_readComplaint "not".toList (by decide) (by decide)
    simp only [String.toList_append, List.append_assoc]
    exact hstart.trans (List.prefix_append _ _)
  · split at h
    · obtain rfl := Option.some.inj h
      exact not_readComplaint "file".toList (by decide) (by decide) (by decide)
    · cases h

namespace Survey

variable {t : FileTree} {parser : Parser} {settings : Settings} {extension p : String}
  {e : Failure} {paths : List String} {o : Outcome}

/-! ## Reading -/

theorem isFile_of_admitted (h : refusal? t extension p = none) : t.isFile p = true := by
  unfold refusal? at h
  split at h
  · cases h
  · split at h
    · cases h
    · rename_i hfile
      simpa using hfile

/-- An admitted text and its normal form denote one place, and what the file there holds is read by
the normal form. -/
theorem exists_read_of_admitted (h : refusal? t extension p = none) :
    ∃ place content, t.resolve p = .ok place ∧
      t.resolve (Path.ofString p).toString = .ok place ∧
      t.root.below? place = some (.file content) ∧
      t.read (Path.ofString p).toString = .ok content := by
  obtain ⟨place, content, hresolve, hplace⟩ := FileTree.exists_of_isFile (isFile_of_admitted h)
  have hnormal := FileTree.resolve_normal_of_ok hresolve
  exact ⟨place, content, hresolve, hnormal, hplace, FileTree.read_of_resolve hnormal hplace⟩

/-- Reading an admitted file fails as the parser breaks down or as its tree is not sound. -/
theorem cause_of_admitted (h : refusal? t extension p = none)
    (he : (parser.unitOfFile t (Path.ofString p).toString).value = .error e) :
    (∃ kind text, parser.breakdown? (Path.ofString p).toString = some (kind, text) ∧
      e = .breakdown kind text) ∨ ∃ line, e = .syntaxError (Path.ofString p).toString line := by
  cases hparser : parser.breakdown? (Path.ofString p).toString with
  | some breakdown =>
      obtain ⟨kind, text⟩ := breakdown
      rw [Parser.unitOfFile, hparser] at he
      exact .inl ⟨kind, text, rfl, (Except.error.inj he).symm⟩
  | none =>
      obtain ⟨-, content, -, -, -, hread⟩ := exists_read_of_admitted h
      rw [value_unitOfFile hparser hread, soundTree] at he
      split at he
      · exact .inr ⟨_, (Except.error.inj he).symm⟩
      · cases he

theorem breakdown_of_listing? {root : String} (h : Locator.listing? t root = some e) :
    ∃ text, e = .breakdown "OSError" text := by
  unfold Locator.listing? at h
  split at h
  · exact ⟨_, (Option.some.inj h).symm⟩
  · cases h

/-- An outcome that does not say that a file cannot be read. -/
structure Readable (parser : Parser) (o : Outcome) : Prop where
  failed : o.status = .failed →
    ∃ e : Failure, o.message = e.message ∧ ∀ path error, e ≠ .unreadable path error
  message : parser.NamesKinds → ¬readComplaint <+: o.message.toList

theorem readable_of_refusal? {path reason : String} (h : refusal? t extension path = some reason) :
    Readable parser { path := path, status := .skipped, message := reason } := by
  constructor
  · intro hfailed
    cases hfailed
  · intro _
    exact message_refusal? h

theorem readable_of_failure {path : String} (hother : ∀ path error, e ≠ .unreadable path error)
    (hmessage : parser.NamesKinds → ¬readComplaint <+: e.message.toList) :
    Readable parser { path := path, status := .failed, message := e.message } :=
  ⟨fun _ ↦ ⟨e, rfl, hother⟩, hmessage⟩

/-- The step: the outcome of an admitted file, whatever is collected. -/
theorem readable_outcomeIn {scope : Scope} (h : refusal? t extension p = none) (l : Locator)
    (c : Collection) :
    Readable parser (outcomeIn t parser l (troubles t settings scope) c p) := by
  cases hresult : resultIn t parser l (troubles t settings scope) c p with
  | ok y =>
      rw [outcomeIn_of_ok hresult]
      constructor
      · intro hfailed
        cases hfailed
      · intro _ hcomplaint
        exact absurd (List.eq_nil_of_prefix_nil hcomplaint) (by decide)
  | error e =>
      rw [outcomeIn_of_error hresult]
      rcases cause_of_resultIn_error hresult with hunit | hlisting
      · rcases cause_of_admitted h hunit with ⟨kind, text, hparser, rfl⟩ | ⟨line, rfl⟩
        · apply readable_of_failure (by simp)
          intro hkinds
          exact Failure.message_breakdown (hkinds _ _ _ hparser) text
        · apply readable_of_failure (by simp)
          intro _
          exact Failure.message_syntaxError _ line
      · obtain ⟨text, rfl⟩ := breakdown_of_listing? hlisting
        apply readable_of_failure (by simp)
        intro _
        exact Failure.message_breakdown (by decide) text

/-- The run: a listed file is refused, or surveyed after it was admitted. -/
theorem readable_of_mem_outcomes {now : String}
    (ho : o ∈ (Run.plain t parser settings now (.files paths)).outcomes) : Readable parser o := by
  rw [Run.plain, outcomes_ofScope, outcomes_finish, begin_files_outcomes, begin_files] at ho
  rcases List.mem_append.mp ho with ho | ho
  · obtain ⟨p, -, hskipped⟩ := List.mem_filterMap.mp ho
    obtain ⟨reason, hreason, rfl⟩ := Option.map_eq_some_iff.mp hskipped
    exact readable_of_refusal? hreason
  · obtain ⟨c, p, hp, rfl⟩ := exists_of_mem_outcomesFrom ho
    have hadmitted := List.of_mem_filter hp
    exact readable_outcomeIn (Option.isNone_iff_eq_none.mp hadmitted) _ c

/-- A path that is admitted as it is written denotes a file, its normal form denotes the same file,
and reading by the normal form gives its content to the parser and never fails; so no outcome of a
list of files is about one that cannot be read. -/
theorem admitted_files_are_read (t : FileTree) :
    (∀ extension p, refusal? t extension p = none →
      ∃ place content, t.resolve p = .ok place ∧
        t.resolve (Path.ofString p).toString = .ok place ∧
        t.root.below? place = some (.file content) ∧
        t.read (Path.ofString p).toString = .ok content ∧
        ∀ parser : Parser,
          (parser.breakdown? (Path.ofString p).toString = none →
            (parser.unitOfFile t (Path.ofString p).toString).value =
              (soundTree (Path.ofString p).toString
                (parser.tree (Path.ofString p).toString content)).map fun tree ↦
                  (content.size, Java.readUnit content tree)) ∧
          ∀ path error,
            (parser.unitOfFile t (Path.ofString p).toString).value ≠
              .error (.unreadable path error)) ∧
      ∀ parser settings now paths, ∀ o ∈ (Run.plain t parser settings now (.files paths)).outcomes,
        Readable parser o := by
  refine ⟨?_, fun _ _ _ _ _ ho ↦ readable_of_mem_outcomes ho⟩
  intro extension p hadmitted
  obtain ⟨place, content, hresolve, hnormal, hplace, hread⟩ := exists_read_of_admitted hadmitted
  refine ⟨place, content, hresolve, hnormal, hplace, hread, ?_⟩
  intro parser
  refine ⟨fun hparser ↦ value_unitOfFile hparser hread, ?_⟩
  intro path error hunit
  rcases cause_of_admitted hadmitted hunit with ⟨_, _, -, he⟩ | ⟨_, he⟩ <;> cases he

/-- A file behind a link, with a step back from where the link leads, and a parser that breaks down
on another one with a message of that beginning. -/
theorem admitted_files_are_read_behind_link :
    let source := "package a;".toUTF8
    let parser : Parser :=
      { breakdown? := fun path ↦
          if path = "B.java" then some ("RuntimeError", "Cannot read it") else none
        tree := fun _ _ ↦ { kind := .construct .program, span := ⟨0, 10, 1⟩ } }
    let t : FileTree :=
      { root := .directory
          [("src", .directory [("main", .directory [("A.java", .file source)])]),
            ("link", .link "src/main"), ("B.java", .file source)] }
    let p := ".//link/../main/./A.java"
    let normal := "link/../main/A.java"
    refusal? t ".java" p = none ∧ (Path.ofString p).toString = normal ∧
      t.resolve p = .ok ["src", "main", "A.java"] ∧ t.read normal = .ok source ∧
      (parser.unitOfFile t normal).value =
        .ok (source.size, Java.readUnit source (parser.tree normal source)) ∧
      parser.NamesKinds ∧ ∀ o ∈ (Run.plain t parser {} "" (.files [p, "B.java"])).outcomes,
        Readable parser o ∧ ¬readComplaint <+: o.message.toList := by
  intro source parser t p normal
  have hresolve : t.resolve p = .ok ["src", "main", "A.java"] := by
    simp [t, p, FileTree.resolve, FileTree.linkLimit, FileTree.follow, FileTree.startOf,
      FileTree.steps, Text.pieces, Entry.below?, Entry.child?, List.lookup_cons]
  have hentry : t.entry? p = .ok (.file source) := by
    apply FileTree.entry?_eq_ok_iff.mpr
    exact ⟨_, hresolve, rfl⟩
  have hsuffix : (!".java".toList.isSuffixOf p.toList) = false := by decide
  have hadmitted : refusal? t ".java" p = none := by
    rw [refusal?, FileTree.isFile, hentry, hsuffix]
    rfl
  have hnormal : (Path.ofString p).toString = normal := by decide
  have hkinds : parser.NamesKinds := by
    intro path kind text hparser
    simp only [parser] at hparser
    split at hparser
    · cases hparser
      decide
    · cases hparser
  obtain ⟨hreads, hreadable⟩ := admitted_files_are_read t
  obtain ⟨place, content, hplace, -, hfile, hread, hunit⟩ := hreads ".java" p hadmitted
  obtain rfl : ["src", "main", "A.java"] = place := Except.ok.inj (hresolve.symm.trans hplace)
  obtain rfl : source = content := by cases hfile; rfl
  rw [hnormal] at hread hunit
  refine ⟨hadmitted, hnormal, hresolve, hread, (hunit parser).1 rfl, hkinds, ?_⟩
  intro o ho
  have houtcome := hreadable parser {} "" _ o ho
  exact ⟨houtcome, houtcome.message hkinds⟩

end Survey

end ApiSurvey
