/-!
# Command line arguments

A command is followed by options in any order. The value of an option stands in the next argument
or, behind an equals sign, in the same one; a short option may carry its value directly. Of an option
given twice the last counts, except that files add up. Anything else is misuse.
-/

namespace ApiSurvey.Command

/-- What is asked for. -/
inductive Action where
  | extract
  | endpoints
  | shapes
  deriving DecidableEq, Repr

namespace Action

def ofName? : String → Option Action
  | "extract" => some .extract
  | "endpoints" => some .endpoints
  | "shapes" => some .shapes
  | _ => none

end Action

structure Options where
  src : Option String := none
  files : List String := []
  out : Option String := none
  searchRoot : Option String := none
  pathMarker : Option String := none
  debug : Bool := false
  deriving DecidableEq, Repr, Inhabited

inductive Valued where
  | src
  | file
  | out
  | searchRoot
  | pathMarker
  deriving DecidableEq, Repr

/-- The valued option of that name; only the document can be sent to a file. -/
def Valued.ofName? (action : Action) : String → Option Valued
  | "--src" => some .src
  | "--file" => some .file
  | "--out" => if action == .extract then some .out else none
  | "--search-root" => some .searchRoot
  | "--path-marker" => some .pathMarker
  | _ => none

def Options.set (o : Options) (value : String) : Valued → Options
  | .src => { o with src := some value }
  | .file => { o with files := o.files ++ [value] }
  | .out => { o with out := some value }
  | .searchRoot => { o with searchRoot := some value }
  | .pathMarker => { o with pathMarker := some value }

inductive Argument where
  | debug
  | needsValue (option : Valued)
  | withValue (option : Valued) (value : String)
  | misuse
  deriving DecidableEq, Repr

def Argument.ofString (action : Action) (arg : String) : Argument :=
  if arg == "--debug" then .debug
  else
    let cs := arg.toList
    let name := String.ofList (cs.takeWhile (· != '='))
    match Valued.ofName? action name, cs.dropWhile (· != '=') with
    | some option, [] => .needsValue option
    | some option, _ :: value => .withValue option (String.ofList value)
    | none, _ =>
        match cs with
        | ['-', 'f'] => .needsValue .file
        | '-' :: 'f' :: value => .withValue .file (String.ofList value)
        | _ => .misuse

/-- Reads the arguments behind a command; `none` when they are misused. -/
def readOptions (action : Action) (o : Options) : List String → Option Options
  | [] => some o
  | arg :: rest =>
      if arg == "--" then if rest.isEmpty then some o else none
      else
        match Argument.ofString action arg, rest with
        | .debug, rest => readOptions action { o with debug := true } rest
        | .withValue option value, rest => readOptions action (o.set value option) rest
        | .needsValue option, value :: rest => readOptions action (o.set value option) rest
        | .needsValue _, [] => none
        | .misuse, _ => none

/-- Reads a command line; `none` when it is misused. -/
def readCommand (args : List String) : Option (Action × Options) :=
  let args := if args.head? == some "--" then args.drop 1 else args
  match args with
  | [] => none
  | name :: rest =>
      (Action.ofName? name).bind fun action ↦ (readOptions action {} rest).map (action, ·)

end ApiSurvey.Command
