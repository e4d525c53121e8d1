import ApiSurvey.FileTree.Basic
import ApiSurvey.Text.Quoted

/-!
# Failures

Why a file yields nothing, and why a survey is not begun.
-/

namespace ApiSurvey

/-- The full text of an error, with the path that it is about. -/
def PathError.report (error : PathError) (path : String) : String :=
  "[Errno " ++ toString error.code ++ "] " ++ error.text ++ ": " ++ Text.quoted path

/-- Why a file yields nothing. -/
inductive Failure where
  | unreadable (path : String) (error : PathError)
  /-- The source is outside the language; the line is that of the first error, if one is known. -/
  | syntaxError (origin : String) (line? : Option Nat)
  /-- The parser or a later stage gave up, for a reason of its own. -/
  | breakdown (kind text : String)
  deriving DecidableEq, Repr

namespace Failure

def message : Failure → String
  | .unreadable path error => "Cannot read " ++ path ++ ": " ++ error.report path
  | .syntaxError origin none => "Syntax error in " ++ origin
  | .syntaxError origin (some line) =>
      "Syntax error in " ++ origin ++ " (\x7b'line': " ++ toString line ++ "\x7d)"
  | .breakdown kind text => kind ++ ": " ++ text

/-- Whether a failure is one that sources are known to cause. -/
def isForeseen : Failure → Bool
  | .breakdown _ _ => false
  | _ => true

end Failure

/-- Why a survey is not begun. -/
inductive ConfigurationError where
  /-- Not exactly one of a source root and a list of files was given. -/
  | sourceChoice
  deriving DecidableEq, Repr

def ConfigurationError.message : ConfigurationError → String
  | .sourceChoice => "Give either a source root or a list of files, not both"

end ApiSurvey
