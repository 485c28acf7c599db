import CodeShelf.Url.Error

/-!
# Errors

What can go wrong, from the data outwards: `DataError` for samples, requests and
response bodies, `CallError` for a call to the service, `ConfigError` for the address
of the service, and `OperationError` for what an operation of a store or a session
returns.  Each has one function for its wording.
-/

namespace CodeShelf

inductive Field where
  | name
  | code
  deriving DecidableEq, Repr

def Field.word : Field → String
  | name => "name"
  | code => "code"

inductive DataError where
  | emptyField (field : Field)
  | executionPending
  | malformedResponse (reason : String)
  deriving DecidableEq, Repr

def DataError.message : DataError → String
  | emptyField field => field.word ++ " must not be empty"
  | executionPending => "an execution request is already pending"
  | malformedResponse reason => "malformed response: " ++ reason

structure CallError where
  status : Option Nat
  cause : String
  deriving DecidableEq, Repr

def CallError.message (e : CallError) : String :=
  match e.status with
  | some status => "HTTP " ++ toString status ++ ": " ++ e.cause
  | none => e.cause

def backendVariable : String := "MONKEYPAD_BACKEND_URL"

inductive ConfigError where
  | variableNotSet
  | noBackend
  | invalidUrl (text : String) (error : UrlError)
  | unsupportedScheme (scheme : String)
  deriving DecidableEq, Repr

def ConfigError.message : ConfigError → String
  | variableNotSet => backendVariable ++ " is not set"
  | noBackend => "no backend URL: pass --backend or set " ++ backendVariable
  | invalidUrl text error => "invalid backend URL '" ++ text ++ "': " ++ error.message
  | unsupportedScheme scheme =>
      "unsupported backend URL scheme '" ++ scheme ++ "': use http or https"

inductive Slot where
  | sampleAdd
  | execution
  deriving DecidableEq, Repr

def Slot.word : Slot → String
  | sampleAdd => "sample add"
  | execution => "execution"

inductive OperationError where
  | validation (error : DataError)
  | notFound (name : String)
  | transport (error : CallError)
  | busy (slot : Slot)
  | detached
  | config (error : ConfigError)
  deriving DecidableEq, Repr

def OperationError.message : OperationError → String
  | validation error => "validation failed: " ++ error.message
  | notFound name => "no code sample named '" ++ name ++ "'"
  | transport error => "transport error: " ++ error.message
  | busy slot => slot.word ++ " already in progress"
  | detached => "component detached"
  | config error => "configuration error: " ++ error.message

def OperationError.ofData : DataError → OperationError
  | .emptyField field => .validation (.emptyField field)
  | .executionPending => .busy .execution
  | .malformedResponse reason => .transport ⟨none, reason⟩

end CodeShelf
