import ApiSurvey.Survey.Settings

/-!
# Log records

What a run reports about itself, by level and by the component that reports it.
-/

namespace ApiSurvey

inductive Level where
  | debug
  | info
  | warning
  | error
  deriving DecidableEq, Repr, Inhabited

/-- The level in capitals. -/
def Level.toString : Level → String
  | .debug => "DEBUG"
  | .info => "INFO"
  | .warning => "WARNING"
  | .error => "ERROR"

def Level.rank : Level → Nat
  | .debug => 0
  | .info => 1
  | .warning => 2
  | .error => 3

/-- The name under which the whole program reports. -/
def rootLogger : String := "restscan"

def loggerName (component : String) : String :=
  rootLogger ++ "." ++ component

structure LogRecord where
  level : Level
  component : String
  message : String
  deriving DecidableEq, Repr, Inhabited

def LogRecord.line (r : LogRecord) : String :=
  r.level.toString ++ " [" ++ loggerName r.component ++ "] " ++ r.message

def shownRecords (lowest : Level) (log : List LogRecord) : List LogRecord :=
  log.filter fun r ↦ lowest.rank ≤ r.level.rank

/-- The lowest level shown: debugging is asked for by the caller, or else by the environment. -/
def shownLevel (debug : Option Bool) (env : Environment) : Level :=
  let wanted := debug.getD <|
    ["true", "1", "yes"].contains ((env.lookup "RESTSCAN_DEBUG").getD "").toLower
  if wanted then .debug else .info

end ApiSurvey
