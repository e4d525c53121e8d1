import ApiSurvey.FileTree.Path

/-!
# File trees

A directory tree with files and symbolic links, and a current directory. Looking a path up goes
component by component and follows links, as many as the limit allows; every component but the last
must be a directory, also before a trailing slash or a `.`.

A name that is longer than the limit for names is not looked for, and neither is a path text that is
longer than the limit for paths. The latter limit is part of `isOverlong` alone, which is asked of
the directory in which a search or a command starts: `entry?`, and with it `isFile`, `read` and the
walk of a directory, take a path text of any length. Permissions and special files (devices, pipes, sockets) are not modelled: every file can
be read and every directory can be listed.
-/

namespace ApiSurvey

inductive Entry where
  | file (content : ByteArray)
  | link (target : String)
  | directory (entries : List (String × Entry))
  deriving Inhabited

namespace Entry

def isDirectory : Entry → Bool
  | .directory _ => true
  | _ => false

def child? (name : String) : Entry → Option Entry
  | .directory entries => entries.lookup name
  | _ => none

/-- The entry at a chain of names below this one. -/
def below? : List String → Entry → Option Entry
  | [], e => some e
  | name :: names, e => (e.child? name).bind (below? names)

/-- A directory with the entry of one name replaced, added or removed. -/
def setChild (name : String) (new : Option Entry) : Entry → Entry
  | .directory entries =>
      match new with
      | none => .directory (entries.filter (·.1 != name))
      | some e =>
          if (entries.lookup name).isSome then
            .directory (entries.map fun (n, old) ↦ if n == name then (n, e) else (n, old))
          else .directory (entries ++ [(name, e)])
  | e => e

/-- The tree with the entry at a chain of names replaced, added or removed; directories on the way
are made where nothing stands. -/
def setBelow (new : Option Entry) : List String → Entry → Entry
  | [], e => new.getD e
  | name :: names, e =>
      let inner := (e.child? name).getD (.directory [])
      match names with
      | [] => e.setChild name new
      | _ :: _ => e.setChild name (some (setBelow new names inner))

end Entry

inductive PathError where
  | noEntry
  | notDirectory
  | isDirectory
  | nameTooLong
  | tooManyLinks
  deriving DecidableEq, Repr

namespace PathError

def code : PathError → Nat
  | .noEntry => 2
  | .notDirectory => 20
  | .isDirectory => 21
  | .nameTooLong => 36
  | .tooManyLinks => 40

def text : PathError → String
  | .noEntry => "No such file or directory"
  | .notDirectory => "Not a directory"
  | .isDirectory => "Is a directory"
  | .nameTooLong => "File name too long"
  | .tooManyLinks => "Too many levels of symbolic links"

end PathError

/-- A tree of files with the directory from which relative paths start. -/
structure FileTree where
  root : Entry := .directory []
  current : List String := []
  deriving Inhabited

namespace FileTree

/-- The components of a path text, with those that only demand a directory. -/
def steps (path : String) : List String :=
  (Text.pieces '/' path.toList).map String.ofList

/-- Where a path text starts: at the root when it is absolute, else at a given directory. -/
def startOf (base : List String) (path : String) : List String :=
  if path.toList.head? == some '/' then [] else base

/-- The greatest length of a name, in bytes. -/
def nameLimit : Nat := 255

/-- The least length in bytes at which a path text is too long. -/
def pathLimit : Nat := 4096

/-- Why a directory has no entry of some name. -/
def absence (name : String) : PathError :=
  if nameLimit < name.utf8ByteSize then .nameTooLong else .noEntry

/-- Follows components from a place in the tree; `links` links may be followed. The answer is a
chain of names without links. -/
def follow (root : Entry) (links : Nat) (place : List String) :
    List String → Except PathError (List String)
  | [] => .ok place
  | step :: rest =>
      match root.below? place with
      | some (.directory entries) =>
          if step == "" || step == "." then follow root links place rest
          else if step == ".." then follow root links place.dropLast rest
          else
            match entries.lookup step with
            | none => .error (absence step)
            | some (.link target) =>
                match links with
                | 0 => .error .tooManyLinks
                | links + 1 =>
                    if target.isEmpty then .error .noEntry
                    else follow root links (startOf place target) (steps target ++ rest)
            | some _ => follow root links (place ++ [step]) rest
      | some _ => .error .notDirectory
      | none => .error .noEntry
termination_by todo => (links, todo.length)

def linkLimit : Nat := 40

/-- The chain of names that a path text denotes. -/
def resolve (t : FileTree) (path : String) : Except PathError (List String) :=
  if path.isEmpty then .error .noEntry
  else follow t.root linkLimit (startOf t.current path) (steps path)

/-- The entry that a path text denotes, links followed. -/
def entry? (t : FileTree) (path : String) : Except PathError Entry :=
  match t.resolve path with
  | .error e => .error e
  | .ok place =>
      match t.root.below? place with
      | some e => .ok e
      | none => .error .noEntry

def isFile (t : FileTree) (path : String) : Bool :=
  match t.entry? path with
  | .ok (.file _) => true
  | _ => false

def isDirectory (t : FileTree) (path : String) : Bool :=
  match t.entry? path with
  | .ok (.directory _) => true
  | _ => false

/-- Whether a path text cannot be looked up because it, or a name on the way, is too long. -/
def isOverlong (t : FileTree) (path : String) : Bool :=
  decide (pathLimit ≤ path.utf8ByteSize) ||
    match t.entry? path with
    | .error .nameTooLong => true
    | _ => false

def read (t : FileTree) (path : String) : Except PathError ByteArray :=
  match t.entry? path with
  | .ok (.file content) => .ok content
  | .ok _ => .error .isDirectory
  | .error e => .error e

def currentPath (t : FileTree) : String :=
  "/" ++ "/".intercalate t.current

/-- Makes a directory and those above it; what stands there already is kept. -/
def makeDirectory (t : FileTree) (place : List String) : List String → Option (FileTree × List String)
  | [] => some (t, place)
  | step :: rest =>
      if step == "" || step == "." then makeDirectory t place rest
      else
        match follow t.root linkLimit place [step] with
        | .ok next =>
            match t.root.below? next with
            | some (.directory _) => makeDirectory t next rest
            | _ => none
        | .error .noEntry =>
            let next := place ++ [step]
            makeDirectory { t with root := t.root.setBelow (some (.directory [])) next } next rest
        | .error _ => none

/-- Puts an entry at a path, in directories that are made as needed. A link at the path is followed
when `through` holds, and replaced otherwise. -/
def put (t : FileTree) (through : Bool) (path : String) (e : Entry) : Option FileTree :=
  let p := Path.ofString path
  match makeDirectory t (startOf t.current path) p.parent.parts with
  | none => none
  | some (t, place) =>
      if p.name.isEmpty then none
      else
        let target := if through then follow t.root linkLimit place [p.name] else .error .noEntry
        match target with
        | .ok found =>
            match t.root.below? found with
            | some (.directory _) => none
            | _ => some { t with root := t.root.setBelow (some e) found }
        | .error _ => some { t with root := t.root.setBelow (some e) (place ++ [p.name]) }

def write (t : FileTree) (path : String) (content : ByteArray) : Option FileTree :=
  t.put true path (.file content)

/-- Removes a file, a link or a whole directory. -/
def remove (t : FileTree) (path : String) : FileTree :=
  let p := Path.ofString path
  match follow t.root linkLimit (startOf t.current path) p.parent.parts with
  | .ok place => { t with root := t.root.setBelow none (place ++ [p.name]) }
  | .error _ => t

end FileTree

end ApiSurvey
