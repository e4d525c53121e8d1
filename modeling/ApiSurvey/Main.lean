import ApiSurvey.Command.Basic
import ApiSurvey.Command.Clock
import Std.Time

/-!
# The program

Collects the files that a command asks about, carries the command out and prints what it says. All
decisions are made by `Command.run`.
-/

namespace ApiSurvey.Program

open Command

/-- The entry at a path, links followed at the path itself. Below it a link to a file is that file,
a link to a directory leads to some directory and is not entered, and a broken link stays broken.
Only the content of source files is kept. -/
partial def load (path : String) : IO (Option Entry) := do
  let place := (← IO.currentDir) / path
  match ← place.metadata.toBaseIO with
  | .error _ => return none
  | .ok data =>
      if data.type == .dir then
        let listed ← place.readDir
        let entries ← listed.toList.filterMapM fun e ↦ do
          let name := e.fileName
          let inner := path ++ "/" ++ name
          let own ← e.path.symlinkMetadata
          let isDir ← e.path.isDir
          if own.type == .symlink && isDir then return some (name, Entry.link ".")
          else if isDir && isIgnoredName name then return none
          else
            match ← load inner with
            | some entry => return some (name, entry)
            | none => return some (name, Entry.link "")
        return some (.directory entries)
      else if path.endsWith ({} : Settings).extension then
        return some (.file (← IO.FS.readBinFile place))
      else return some (.file .empty)

/-- The paths whose entries a command may ask about. -/
def asked (home here : String) (o : Options) : List String :=
  let roots := match o.src with
    | some src => [(expandHome home src).getD src]
    | none => if o.searchRoot.isSome then [] else [here]
  roots ++ o.searchRoot.toList ++ o.files

/-- The file tree that holds the entries at some paths. -/
def collect (here : String) (paths : List String) : IO FileTree := do
  let current := Path.components here
  let empty : FileTree :=
    { root := Entry.setBelow (some (.directory [])) current (.directory []), current := current }
  paths.foldlM (fun t path ↦ do
    match ← load path with
    | some entry =>
        if (Path.ofString path).name.isEmpty then
          match t.resolve path with
          | .ok place => return { t with root := t.root.setBelow (some entry) place }
          | .error _ => return t
        else return (t.put false path entry).getD t
    | none => return t) empty

def microseconds : IO Nat := do
  let now ← Std.Time.Timestamp.now
  return (now.toNanosecondsSinceUnixEpoch.val / 1000).toNat

def report (s : Surroundings) (debug : Bool) (ending : Ending) : IO Unit := do
  match ending with
  | .misuse => IO.eprintln "Usage: extract | endpoints | shapes, with --src or --file"
  | .refused why => IO.eprintln ("Invalid value: " ++ why.message)
  | .broken => IO.eprintln "A path cannot be used"
  | .done output warned written log =>
      let lowest := shownLevel (if debug then some true else none) s.environment
      for record in shownRecords lowest log do
        IO.eprintln record.line
      if warned then
        IO.eprintln "warning: no files were processed, the result is empty"
      if let some (path, text) := written then
        let place := (← IO.currentDir) / path
        if let some directory := place.parent then
          IO.FS.createDirAll directory
        IO.FS.writeFile place text
      for line in output do
        IO.println line

/-- The environment variables that a command reads. -/
def environment : IO Environment := do
  let names := ["RESTSCAN_PATH_MARKER", "RESTSCAN_ESTIMATED_DTO_DIR", "RESTSCAN_DEBUG"]
  names.filterMapM fun name ↦ do
    return (← IO.getEnv name).map (name, ·)

end ApiSurvey.Program

open ApiSurvey Command Program in
def main (args : List String) : IO UInt32 := do
  let here := (← IO.currentDir).toString
  let home := (← IO.getEnv "HOME").getD here
  let options := ((readCommand args).map (·.2)).getD {}
  let s : Surroundings :=
    { environment := ← environment
      files := ← collect here (asked home here options)
      home := home
      time := timeStamp (← microseconds) }
  let ending := Command.run s args
  report s options.debug ending
  return ending.code.toUInt32
