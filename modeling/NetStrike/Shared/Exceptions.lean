import NetStrike.Foundation.Raising

/-!
# Exceptions

The exception classes that the modelled code raises or catches, with the ancestors an `except`
clause tests, and an exception as a class, a message and the code that `ActionExecutionError`
carries.
-/

set_option autoImplicit false

namespace NetStrike.Shared

/-- The exception classes of the modelled code; `other` is a class that only handlers raise. -/
inductive ExceptionType where
  | EventContractError
  | EventCompatibilityError
  | EventValidationError
  | ActionContractError
  | ActionValidationError
  | ActionCancelled
  | ActionExecutionError
  | ControllerError
  | ScenarioDefinitionError
  | SsoExperienceError
  | TimeoutError
  | ValueError
  | TypeError
  | KeyError
  | RuntimeError
  | RecursionError
  | OSError
  | sqlite3Error
  | other (name : String)
deriving DecidableEq

namespace ExceptionType

/-- The name of the class. -/
def name : ExceptionType → String
  | EventContractError => "EventContractError"
  | EventCompatibilityError => "EventCompatibilityError"
  | EventValidationError => "EventValidationError"
  | ActionContractError => "ActionContractError"
  | ActionValidationError => "ActionValidationError"
  | ActionCancelled => "ActionCancelled"
  | ActionExecutionError => "ActionExecutionError"
  | ControllerError => "ControllerError"
  | ScenarioDefinitionError => "ScenarioDefinitionError"
  | SsoExperienceError => "SsoExperienceError"
  | TimeoutError => "TimeoutError"
  | ValueError => "ValueError"
  | TypeError => "TypeError"
  | KeyError => "KeyError"
  | RuntimeError => "RuntimeError"
  | RecursionError => "RecursionError"
  | OSError => "OSError"
  | sqlite3Error => "Error"
  | other name => name

/-- The proper ancestors of the class among the modelled ones. -/
def ancestors : ExceptionType → List ExceptionType
  | EventContractError => [ValueError]
  | EventCompatibilityError => [EventContractError, ValueError]
  | EventValidationError => [EventContractError, ValueError]
  | ActionContractError => [ValueError]
  | ActionValidationError => [ActionContractError, ValueError]
  | ActionCancelled => [ActionContractError, ValueError]
  | ActionExecutionError => [ActionContractError, ValueError]
  | ControllerError => [RuntimeError]
  | ScenarioDefinitionError => [ValueError]
  | SsoExperienceError => [ValueError]
  | TimeoutError => [OSError]
  | RecursionError => [RuntimeError]
  | _ => []

/-- `issubclass`. -/
def isA (t ancestor : ExceptionType) : Bool := t == ancestor || t.ancestors.contains ancestor

end ExceptionType

/-- A raised exception. -/
structure Exn where
  type : ExceptionType
  message : String
  code : Option String
deriving DecidableEq

/-- An exception with a message only. -/
def Exn.of (type : ExceptionType) (message : String) : Exn := ⟨type, message, none⟩

/-- Computations of the modelled code. -/
abbrev Py (σ : Type) (α : Type) := Foundation.Raising Exn σ α

end NetStrike.Shared
