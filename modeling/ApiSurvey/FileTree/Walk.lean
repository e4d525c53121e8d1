import ApiSurvey.FileTree.Basic

/-!
# Walking a directory

A walk lists the files of a directory in the order of their names and then walks its directories in
the order of theirs. Hidden directories and build output are passed over, links to directories are
not entered, and every other link counts as a file.
-/

namespace ApiSurvey

/-- Build output and tool state. -/
def ignoredNames : List String :=
  ["build", "out", "target", "bin", "node_modules", "generated-sources"]

def isIgnoredName (name : String) : Bool :=
  name.toList.head? == some '.' || ignoredNames.contains name

/-- The order of names, by code points. -/
def nameLE (a b : String) : Bool :=
  !decide (b < a)

namespace FileTree

/-- The names in a directory, whose own path has the text `path`, that count as files, in order. -/
def fileNames (t : FileTree) (path : String) (entries : List (String × Entry)) : List String :=
  let names := entries.filterMap fun (name, e) ↦
    match e with
    | .file _ => some name
    | .link _ => if t.isDirectory (Path.join path name) then none else some name
    | .directory _ => none
  names.mergeSort nameLE

mutual

/-- The paths of all files below an entry whose own path has the text `path`. -/
def walkEntry (t : FileTree) (path : String) : Entry → List String
  | .file _ => []
  | .link _ => []
  | .directory entries =>
      let files := (fileNames t path entries).map (Path.join path)
      let inner := walkEntries t path entries
      files ++ (inner.mergeSort fun a b ↦ nameLE a.1 b.1).flatMap (·.2)

/-- The walks of the directories among some entries, by name. -/
def walkEntries (t : FileTree) (path : String) :
    List (String × Entry) → List (String × List String)
  | [] => []
  | (name, e) :: rest =>
      let others := walkEntries t path rest
      if e.isDirectory && !isIgnoredName name then
        (name, walkEntry t (Path.join path name) e) :: others
      else others

end

/-- The paths of all files below a directory, each starting with the text by which the directory is
given; nothing when it is no directory. -/
def walk (t : FileTree) (path : String) : List String :=
  match t.entry? path with
  | .ok e => walkEntry t path e
  | .error _ => []

/-- The source files below a directory whose path holds a marker. -/
def scan (t : FileTree) (extension marker path : String) : List String :=
  (t.walk (Path.ofString path).toString).filter fun p ↦
    extension.toList.isSuffixOf p.toList && Text.occursIn marker.toList p.toList

/-- The name of the file at the end of a path text: what follows the last slash. -/
def baseName (path : String) : String :=
  Text.lastPart '/' path

/-- The first path for each file name, in the order of a walk. -/
def index (t : FileTree) (extension path : String) : List (String × String) :=
  let sources := (t.walk (Path.ofString path).toString).filter fun p ↦
    extension.toList.isSuffixOf p.toList
  sources.foldl (fun out p ↦
    if (out.lookup (baseName p)).isSome then out else out ++ [(baseName p, p)]) []

end FileTree

end ApiSurvey
