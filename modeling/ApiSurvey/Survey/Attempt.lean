import ApiSurvey.Json.Decoder
import ApiSurvey.Survey.Failure
import ApiSurvey.Survey.Log

/-!
# Attempts

Surveying a file is an attempt: a chain of steps, each of which may report something and may stop
the chain with a failure. What was reported before a failure stays reported. Besides the failures
that reading and parsing find, anything may go wrong at any later stage, for reasons that lie
outside of the survey.
-/

namespace ApiSurvey

/-- A value with the records of its making. -/
structure Logged (α : Type) where
  value : α
  log : List LogRecord := []
  deriving Inhabited

/-- A value, or the failure that stopped its making, with the records made until then. -/
structure Attempt (α : Type) where
  value : Except Failure α
  log : List LogRecord := []

namespace Attempt

variable {α β : Type}

/-- Goes on with a further step unless the first one failed. -/
def andThen (x : Attempt α) (next : α → Attempt β) : Attempt β :=
  match x.value with
  | .error e => ⟨.error e, x.log⟩
  | .ok a => ⟨(next a).value, x.log ++ (next a).log⟩

instance : Monad Attempt where
  pure a := ⟨.ok a, []⟩
  bind := andThen

def ofLogged (x : Logged α) : Attempt α :=
  ⟨.ok x.value, x.log⟩

/-- Goes on with a record, unless the catalog does not admit it. -/
def ofAdmission (x : Except DecodeError α) : Attempt α :=
  ⟨x.mapError fun e ↦ .breakdown "ValidationError" e.message, []⟩

/-- Passes a stage, unless something goes wrong there. -/
def pass (failure? : Option Failure) : Attempt Unit :=
  match failure? with
  | some e => ⟨.error e, []⟩
  | none => ⟨.ok (), []⟩

@[simp] theorem value_pure (a : α) : (pure a : Attempt α).value = .ok a := rfl

@[simp] theorem value_ofLogged (x : Logged α) : (ofLogged x).value = .ok x.value := rfl

theorem value_bind (x : Attempt α) (next : α → Attempt β) :
    (x >>= next).value = x.value.bind fun a ↦ (next a).value := by
  change (andThen x next).value = _
  unfold andThen
  cases x.value with
  | error e => rfl
  | ok a => rfl

end Attempt

/-- A stage in the survey of a file whose tree was made. Declarations are counted from zero, among
those surveyed. -/
inductive Stage where
  /-- The declarations are read off the tree. -/
  | reading
  /-- The declarations are given their roles. -/
  | classifying
  /-- A declaration is turned into a route group or a data shape. -/
  | extracting (declaration : Nat)
  /-- The payload classes that a route group mentions are collected. -/
  | resolving (declaration : Nat)
  /-- A payload class that a route group mentions is located. -/
  | locating (declaration : Nat) (className : String)
  deriving DecidableEq, Repr

/-- What goes wrong at a stage of the survey of the file at a path. -/
abbrev Mishaps := String → Stage → Option Failure

def Mishaps.none : Mishaps :=
  fun _ _ ↦ Option.none

end ApiSurvey
