import ApiSurvey.Proofs.ScannedFiles
import ApiSurvey.Proofs.Surroundings
import ApiSurvey.Proofs.TextCutting

/-!
# Located files

What a locator answers. The files are listed at the first look-up, and of the paths with one file
name the first is kept; whether it is a file is asked at each look-up. Main statements: whatever
happens to the files between look-ups, an answer is the estimate or a path that is a file at that
moment and that the walk at the first look-up met first under its name; and a locator finds the
first path that is a file unless a path that is none, such as a link that leads nowhere, comes
before it.
-/

namespace ApiSurvey

namespace FileTree

theorem suffix_of_baseName {p name extension : String} (h : baseName p = name ++ extension) :
    extension.toList <:+ p.toList := by
  have hbase := Text.afterLast_suffix '/' p.toList
  rw [← String.toList_ofList (l := Text.afterLast '/' p.toList)] at hbase
  change (baseName p).toList <:+ p.toList at hbase
  rw [h, String.toList_append] at hbase
  exact (List.suffix_append _ _).trans hbase

/-- Every path with the name of a source file is that of a source file. -/
theorem find?_scan_unmarked (t : FileTree) (root name extension : String) :
    (t.scan extension "" root).find? (baseName · == name ++ extension) =
      (t.walk (Path.ofString root).toString).find? (baseName · == name ++ extension) := by
  rw [scan_unmarked, List.find?_filter]
  congr 1
  funext p
  rw [Bool.eq_iff_iff, decide_eq_true_iff, beq_iff_eq, List.isSuffixOf_iff_suffix]
  exact ⟨And.right, fun hname ↦ ⟨suffix_of_baseName hname, hname⟩⟩

end FileTree

namespace Locator

open FileTree

variable {t first : FileTree} {l : Locator} {className : String}

/-- The path that a walk of the search root meets first under the name of a class's file; none when
there is no directory to walk. -/
def candidate? (t : FileTree) (l : Locator) (className : String) : Option String :=
  (l.searchRoot.filter t.isDirectory).bind fun root ↦
    (t.walk (Path.ofString root).toString).find? (baseName · == l.settings.fileName className)

theorem lookup_listFiles (t : FileTree) (l : Locator) (className : String) :
    (l.listFiles t).lookup (l.settings.fileName className) = l.candidate? t className := by
  unfold listFiles candidate?
  cases l.searchRoot with
  | none => rfl
  | some root =>
      dsimp only
      by_cases hroot : t.isDirectory root = true
      · rw [if_pos hroot, Option.filter_some, if_pos hroot, Option.bind_some, lookup_index]
        exact find?_scan_unmarked t root className l.settings.extension
      · rw [if_neg hroot, Option.filter_some, if_neg hroot]
        rfl

/-- A look-up asks whether the path that was listed is a file now. -/
theorem pathOf_prepare (hfresh : l.files = none) (first now : FileTree) (className : String) :
    ((l.prepare first).pathOf now className).1 =
      ((l.candidate? first className).filter now.isFile).getD
        (l.settings.estimatedPath className) := by
  rw [Survey.pathOf_eq_getD, ← lookup_listFiles]
  simp only [found?, prepare, hfresh, Option.getD_none, Option.getD_some]

/-! ## Look-ups while files change -/

/-- What happens while a locator is in use. -/
inductive Event where
  /-- The files change in some way: something is written, linked or removed. -/
  | change (f : FileTree → FileTree)
  | locate (className : String)

/-- A look-up, with the files as they were at that moment. -/
structure Call where
  tree : FileTree
  className : String
  answer : Except Failure String

/-- The look-ups among some events. A look-up that fails leaves the locator as it was. -/
def calls (t : FileTree) (l : Locator) : List Event → List Call
  | [] => []
  | .change f :: events => calls (f t) l events
  | .locate className :: events =>
      match l.locate t className with
      | .ok (path, next) => ⟨t, className, .ok path⟩ :: calls t next events
      | .error e => ⟨t, className, .error e⟩ :: calls t l events

theorem locate_prepare (l : Locator) (first t : FileTree) (className : String) :
    (l.prepare first).locate t className =
      .ok (((l.prepare first).pathOf t className).1, l.prepare first) := by
  rfl

theorem trouble?_of_fresh (hfresh : l.files = none) (t : FileTree) :
    l.trouble? t = l.searchRoot.bind (listing? t) := by
  rw [trouble?, hfresh]
  rfl

theorem locate_of_no_trouble (h : l.trouble? t = none) (className : String) :
    l.locate t className = .ok (((l.prepare t).pathOf t className).1, l.prepare t) := by
  rw [locate, h]

theorem locate_of_trouble {e : Failure} (h : l.trouble? t = some e) (className : String) :
    l.locate t className = .error e := by
  rw [locate, h]

theorem listing?_eq_some_iff {root : String} {e : Failure} :
    listing? t root = some e ↔
      t.isOverlong root = true ∧ .breakdown "OSError" (PathError.nameTooLong.report root) = e := by
  unfold listing?
  split <;> simp_all

theorem listing?_eq_none_iff {root : String} :
    listing? t root = none ↔ t.isOverlong root = false := by
  unfold listing?
  split <;> simp_all

/-- Once the files are listed every look-up has an answer, from that list and from what is a file at
that moment. -/
theorem answer_of_mem_calls_prepare (hfresh : l.files = none) (events : List Event) {c : Call}
    (hc : c ∈ (l.prepare first).calls t events) :
    c.answer = .ok (((l.candidate? first c.className).filter c.tree.isFile).getD
      (l.settings.estimatedPath c.className)) := by
  induction events generalizing t with
  | nil => cases hc
  | cons event events ih =>
      cases event with
      | change f => exact ih hc
      | locate className =>
          rw [calls, locate_prepare] at hc
          rcases List.mem_cons.mp hc with rfl | hc
          · exact congrArg Except.ok (pathOf_prepare hfresh first t className)
          · exact ih hc

/-- Look-ups fail until the files can be listed; from then on the locator is the one that listed
them. -/
theorem exists_calls_eq_append (l : Locator) (t : FileTree) (events : List Event) :
    ∃ refused answered, l.calls t events = refused ++ answered ∧
      (∀ c ∈ refused, ∃ e, c.answer = .error e ∧ l.trouble? c.tree = some e) ∧
      ∀ start ∈ answered.head?, l.trouble? start.tree = none ∧
        ∃ events', answered = (l.prepare start.tree).calls start.tree events' := by
  induction events generalizing t with
  | nil => exact ⟨[], [], rfl, by simp, by simp⟩
  | cons event events ih =>
      cases event with
      | change f => exact ih (f t)
      | locate className =>
          cases htrouble : l.trouble? t with
          | some e =>
              obtain ⟨refused, answered, hcalls, hrefused, hanswered⟩ := ih t
              refine ⟨⟨t, className, .error e⟩ :: refused, answered, ?_, ?_, hanswered⟩
              · rw [calls, locate_of_trouble htrouble, hcalls, List.cons_append]
              · exact List.forall_mem_cons.mpr ⟨⟨e, rfl, htrouble⟩, hrefused⟩
          | none =>
              have hcalls : l.calls t (.locate className :: events) =
                  (l.prepare t).calls t (.locate className :: events) := by
                rw [calls, calls, locate_of_no_trouble htrouble, locate_prepare]
              refine ⟨[], (l.prepare t).calls t (.locate className :: events), hcalls, by simp, ?_⟩
              intro start hstart
              rw [calls, locate_prepare, List.head?_cons] at hstart
              obtain rfl := Option.some.inj hstart
              exact ⟨htrouble, _, rfl⟩

/-- A path is no stale answer to a look-up, when the files were listed in the tree `first`. -/
structure IsCurrent (l : Locator) (first : FileTree) (c : Call) (path : String) : Prop where
  sound : path = l.settings.estimatedPath c.className ∨
    c.tree.isFile path = true ∧ baseName path = l.settings.fileName c.className ∧
      l.candidate? first c.className = some path
  unlisted : (∀ root ∈ l.searchRoot, first.isDirectory root = false) →
    path = l.settings.estimatedPath c.className

theorem baseName_of_candidate? {path : String} (h : l.candidate? first className = some path) :
    baseName path = l.settings.fileName className := by
  obtain ⟨root, -, hfound⟩ := Option.bind_eq_some_iff.mp h
  have hname := List.find?_some hfound
  rwa [beq_iff_eq] at hname

theorem candidate?_eq_none (h : ∀ root ∈ l.searchRoot, first.isDirectory root = false)
    (className : String) : l.candidate? first className = none := by
  unfold candidate?
  cases hroot : l.searchRoot with
  | none => rfl
  | some root =>
      rw [Option.filter_some, h root hroot]
      rfl

theorem isCurrent_answer (l : Locator) (first : FileTree) (c : Call) :
    l.IsCurrent first c (((l.candidate? first c.className).filter c.tree.isFile).getD
      (l.settings.estimatedPath c.className)) := by
  constructor
  · cases hfound : (l.candidate? first c.className).filter c.tree.isFile with
    | none => exact .inl rfl
    | some path =>
        obtain ⟨hcandidate, hfile⟩ := Option.filter_eq_some_iff.mp hfound
        exact .inr ⟨hfile, baseName_of_candidate? hcandidate, hcandidate⟩
  · intro hroot
    rw [candidate?_eq_none hroot]
    rfl

/-- Whatever happens to the files between look-ups, an answer is the estimate or a path that is a
file at that moment and that was the first of its name when the files were listed. Look-ups fail as
long as the search root is too long to be looked up; the first that does not fail lists the
files. -/
theorem located_never_stale (searchRoot : Option String) (settings : Settings) (t : FileTree)
    (events : List Event) :
    let l : Locator := { searchRoot := searchRoot, settings := settings }
    ∃ refused answered, l.calls t events = refused ++ answered ∧
      (∀ c ∈ refused, ∃ root ∈ searchRoot, c.tree.isOverlong root = true ∧
        c.answer = .error (.breakdown "OSError" (PathError.nameTooLong.report root))) ∧
      ∀ first ∈ answered.head?, (∀ root ∈ searchRoot, first.tree.isOverlong root = false) ∧
        ∀ c ∈ answered, ∃ path, c.answer = .ok path ∧ l.IsCurrent first.tree c path := by
  intro l
  have hfresh : l.files = none := rfl
  obtain ⟨refused, answered, hcalls, hrefused, hanswered⟩ :=
    exists_calls_eq_append l t events
  refine ⟨refused, answered, hcalls, ?_, ?_⟩
  · intro c hc
    obtain ⟨e, hanswer, htrouble⟩ := hrefused c hc
    rw [trouble?_of_fresh hfresh] at htrouble
    obtain ⟨root, hroot, hlisting⟩ := Option.bind_eq_some_iff.mp htrouble
    obtain ⟨hlong, rfl⟩ := listing?_eq_some_iff.mp hlisting
    exact ⟨root, hroot, hlong, hanswer⟩
  · intro first hfirst
    obtain ⟨htrouble, events', rfl⟩ := hanswered first hfirst
    refine ⟨?_, ?_⟩
    · rw [trouble?_of_fresh hfresh, Option.bind_eq_none_iff] at htrouble
      intro root hroot
      exact listing?_eq_none_iff.mp (htrouble root hroot)
    · intro c hc
      exact ⟨_, answer_of_mem_calls_prepare hfresh events' hc, isCurrent_answer l first.tree c⟩

/-! ## Files that are there -/

theorem isOverlong_eq_false {root : String} (hroot : t.isDirectory root = true)
    (hshort : root.utf8ByteSize < pathLimit) : t.isOverlong root = false := by
  have hlength : decide (pathLimit ≤ root.utf8ByteSize) = false :=
    decide_eq_false (Nat.not_le.mpr hshort)
  unfold isDirectory at hroot
  rw [isOverlong, hlength, Bool.false_or]
  cases hentry : t.entry? root with
  | ok e => rfl
  | error e => simp [hentry] at hroot

/-- The first item, if it passes a test, is the first item that passes unless one that fails comes
before one that passes. -/
theorem getD_filter_head?_eq_iff {α : Type} (test : α → Bool) (xs : List α) (default : α) :
    (xs.head?.filter test).getD default = (xs.find? test).getD default ↔
      (∀ x ∈ xs.head?, test x = true) ∨ (∀ x ∈ xs, test x = false) ∨
        xs.find? test = some default := by
  cases xs with
  | nil => simp
  | cons x xs =>
      rw [List.head?_cons, Option.filter_some]
      by_cases hx : test x = true
      · simp [hx]
      · rw [if_neg hx, List.find?_cons_of_neg hx]
        have hhead : ¬ ∀ y ∈ some x, test y = true := fun h ↦ hx (h x rfl)
        have hnone : (∀ y ∈ x :: xs, test y = false) ↔ xs.find? test = none := by
          simp [hx]
        rw [hnone, or_iff_right hhead]
        cases xs.find? test with
        | none => simp
        | some y => simp [eq_comm]

/-- A fresh locator answers with the first path of the walk that has the name of the class's file,
if that path is a file, and else with the estimate. This is the first path of that name that is a
file exactly when the first of all is a file, or none is, or the estimate happens to be that
path. -/
theorem locate_eq_first_file_iff {root : String} (hroot : t.isDirectory root = true)
    (hshort : root.utf8ByteSize < pathLimit) (settings : Settings) (className : String) :
    let l : Locator := { searchRoot := some root, settings := settings }
    let candidates := (t.walk (Path.ofString root).toString).filter
      (baseName · == settings.fileName className)
    let estimate := settings.estimatedPath className
    ∃ path after, l.locate t className = .ok (path, after) ∧
      path = (candidates.head?.filter t.isFile).getD estimate ∧
      (path = (candidates.find? t.isFile).getD estimate ↔
        (∀ p ∈ candidates.head?, t.isFile p = true) ∨ (∀ p ∈ candidates, t.isFile p = false) ∨
          candidates.find? t.isFile = some estimate) := by
  intro l candidates estimate
  have hfresh : l.files = none := rfl
  have htrouble : l.trouble? t = none := by
    rw [trouble?_of_fresh hfresh]
    exact listing?_eq_none_iff.mpr (isOverlong_eq_false hroot hshort)
  have hcandidate : l.candidate? t className = candidates.head? := by
    rw [candidate?, Option.filter_some, if_pos hroot, Option.bind_some, List.head?_filter]
  refine ⟨_, _, locate_of_no_trouble htrouble className, ?_, ?_⟩
  · rw [pathOf_prepare hfresh, hcandidate]
  · rw [pathOf_prepare hfresh, hcandidate]
    exact getD_filter_head?_eq_iff t.isFile candidates estimate

/-- A link that leads nowhere stands before a file of the same name: the file is not found. -/
theorem locate_eq_first_file_iff_of_dangling_link :
    let t : FileTree :=
      { root := .directory [("src", .directory
          [("a", .directory [("UserDto.java", .link "missing")]),
            ("b", .directory [("UserDto.java", .file .empty)])])] }
    let l : Locator := { searchRoot := some "src", settings := {} }
    let estimate := "src/main/java/com/example/dto/UserDto.java"
    t.isDirectory "src" = true ∧ "src".utf8ByteSize < pathLimit ∧
      t.walk "src" = ["src/a/UserDto.java", "src/b/UserDto.java"] ∧
      t.isFile "src/b/UserDto.java" = true ∧
      ∃ after, l.locate t "UserDto" = .ok (estimate, after) := by
  intro t l estimate
  have hentry : t.entry? "src" = .ok (.directory
      [("a", .directory [("UserDto.java", .link "missing")]),
        ("b", .directory [("UserDto.java", .file .empty)])]) := by
    simp [t, entry?, resolve, linkLimit, follow, startOf, steps, Text.pieces, Entry.below?,
      Entry.child?]
  have hroot : t.isDirectory "src" = true := by
    rw [isDirectory, hentry]
  have hlink : t.entry? "src/a/UserDto.java" = .error .noEntry := by
    have hmissing : absence "missing" = .noEntry := by decide
    simp [t, hmissing, entry?, resolve, linkLimit, follow, startOf, steps, Text.pieces,
      Entry.below?, Entry.child?, List.lookup_cons]
  have hfile : t.isFile "src/b/UserDto.java" = true := by
    simp [t, isFile, entry?, resolve, linkLimit, follow, startOf, steps, Text.pieces,
      Entry.below?, Entry.child?, List.lookup_cons]
  have hwalk : t.walk "src" = ["src/a/UserDto.java", "src/b/UserDto.java"] := by
    have ha : Path.join "src" "a" = "src/a" := by decide
    have hb : Path.join "src" "b" = "src/b" := by decide
    have hinA : Path.join "src/a" "UserDto.java" = "src/a/UserDto.java" := by decide
    have hinB : Path.join "src/b" "UserDto.java" = "src/b/UserDto.java" := by decide
    have hleaf : t.isDirectory "src/a/UserDto.java" = false := by
      rw [isDirectory, hlink]
    have horder : nameLE "a" "b" = true := by decide
    have hentered : isIgnoredName "a" = false ∧ isIgnoredName "b" = false := by decide
    simp only [walk, hentry]
    simp [walkEntry, fileNames, walkEntries, Entry.isDirectory, ha, hb, hinA, hinB, hleaf, horder,
      hentered, List.mergeSort, List.MergeSort.Internal.splitInTwo]
  obtain ⟨path, after, hlocate, hpath, -⟩ :=
    locate_eq_first_file_iff hroot (by decide) ({} : Settings) "UserDto"
  have hnormal : (Path.ofString "src").toString = "src" := by decide
  have hfirst : ["src/a/UserDto.java", "src/b/UserDto.java"].filter
      (baseName · == ({} : Settings).fileName "UserDto") =
        ["src/a/UserDto.java", "src/b/UserDto.java"] := by decide
  have hnot : t.isFile "src/a/UserDto.java" = false := by
    rw [isFile, hlink]
  have hestimate : ({} : Settings).estimatedPath "UserDto" = estimate := by decide
  rw [hnormal, hwalk, hfirst, List.head?_cons, Option.filter_some, hnot, hestimate] at hpath
  refine ⟨hroot, by decide, hwalk, hfile, after, ?_⟩
  rw [hlocate, hpath]
  rfl

end Locator

end ApiSurvey
