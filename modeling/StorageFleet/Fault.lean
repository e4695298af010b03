import StorageFleet.Identifier
import StorageFleet.Json.Printer
import StorageFleet.Time.Span

/-!
# Faults

Everything that can go wrong is a `Fault`: a cause with the data it concerns.  `Fault.message` is
its wording, `Fault.status` the status reported to the orchestrator, and `Fault.isRetryable` says
whether the same call may succeed later.

An appliance describes its own failures in a JSON body.  Only the `code` of that body classifies
the failure; the message is for people.
-/

namespace StorageFleet

/-- A failure that an appliance reported about itself. -/
structure ApplianceError where
  message : String
  code : String
  deriving Repr, DecidableEq, Inhabited

namespace ApplianceError

/-- The code of a resource that exists already. -/
def codeExists : String := "EEXIST"
/-- The code of a resource that does not exist. -/
def codeMissing : String := "ENOENT"
/-- The code of an invalid argument. -/
def codeInvalid : String := "EINVAL"
/-- The code of a malformed argument. -/
def codeBadArgument : String := "EBADARG"
/-- The code of a resource in use. -/
def codeBusy : String := "EBUSY"
/-- The code of a missing or expired session. -/
def codeUnauthenticated : String := "EAUTH"

/-- A JSON value as text: a string as it is, anything else in its written form. -/
def plainText : Json → String
  | .string text => text
  | value => value.render

/-- The error that a response body describes, after `context`.  A body with neither a name nor a
message describes none. -/
def ofBody (body : Json) (context : String) : Option ApplianceError :=
  let name := (body.get? "name").map plainText
  let message := (body.get? "message").map plainText
  if name.isNone && message.isNone then none
  else
    let shown := match message with
      | some text => ": " ++ text
      | none => ""
    let details := match body.get? "errors" with
      | some errors => ", errors: [" ++ errors.render ++ "]"
      | none => ""
    some {
      message := context ++ ": " ++ name.getD "" ++ shown ++ details
      code := ((body.get? "code").map plainText).getD "" }

/-- The error in words. -/
def display (error : ApplianceError) : String :=
  if error.code.isEmpty then error.message
  else error.message ++ " [code: " ++ error.code ++ "]"

end ApplianceError

/-- A failed operation. -/
inductive Fault where
  | internal (text : String)
  | configuration (text : String)
  | http (text : String)
  | jsonParse (text : String)
  | yamlParse (text : String)
  | io (text : String)
  | appliance (error : ApplianceError)
  | unexpectedResponse (endpoint : String) (status : Nat) (body : String)
  | malformedResponse (endpoint reason : String)
  | authenticationFailed (endpoint reason : String)
  | jobTimeout (endpoint job : String) (limit : Span)
  | cancelled (operation : String)
  | invalidIdentifier (id reason : String)
  | invalidArgument (text : String)
  | notFoundOnAnyBackend (path : String) (source : Fault)
  | backendNotFound (name : String)
  | zoneMismatch (backend requested configured : String)
  | noBackendAvailable (text : String)
  | sizeMismatch (name : String) (existing requested : Nat)
  | failedPrecondition (text : String)
  | invalidStartingToken (token : String)
  deriving Repr, DecidableEq, Inhabited

/-- The status reported to the orchestrator for a failed call. -/
inductive Status where
  | invalidArgument
  | notFound
  | alreadyExists
  | failedPrecondition
  | unauthenticated
  | deadlineExceeded
  | aborted
  | cancelled
  | unavailable
  | internal
  deriving Repr, DecidableEq, Inhabited

/-- The name of a status. -/
def Status.name : Status → String
  | .invalidArgument => "invalid_argument"
  | .notFound => "not_found"
  | .alreadyExists => "already_exists"
  | .failedPrecondition => "failed_precondition"
  | .unauthenticated => "unauthenticated"
  | .deadlineExceeded => "deadline_exceeded"
  | .aborted => "aborted"
  | .cancelled => "cancelled"
  | .unavailable => "unavailable"
  | .internal => "internal"

namespace Fault

/-- The fault in words. -/
def message : Fault → String
  | .internal text => "Internal error: " ++ text
  | .configuration text => "Configuration error: " ++ text
  | .http text => "HTTP transport error: " ++ text
  | .jsonParse text => "JSON parse error: " ++ text
  | .yamlParse text => "YAML parse error: " ++ text
  | .io text => "IO error: " ++ text
  | .appliance error => error.display
  | .unexpectedResponse endpoint status body =>
    "Request to " ++ endpoint ++ " failed with status " ++ toString status ++ ": " ++ body
  | .malformedResponse endpoint reason => "Malformed response from " ++ endpoint ++ ": " ++ reason
  | .authenticationFailed endpoint reason =>
    "Authentication failed on " ++ endpoint ++ ", check address and credentials: " ++ reason
  | .jobTimeout endpoint job limit =>
    "Job " ++ job ++ " on " ++ endpoint ++ ": timeout exceeded (" ++ limit.render ++ ")"
  | .cancelled operation => "Operation cancelled: " ++ operation
  | .invalidIdentifier id reason => "Invalid identifier '" ++ id ++ "': " ++ reason
  | .invalidArgument text => "Invalid argument: " ++ text
  | .notFoundOnAnyBackend path source =>
    "Path '" ++ path ++ "' not found on any backend: " ++ source.message
  | .backendNotFound name => "Backend not found: " ++ name
  | .zoneMismatch backend requested configured =>
    "Backend " ++ backend ++ " is in zone '" ++ configured ++ "', requested zone is '" ++
      requested ++ "'"
  | .noBackendAvailable text => "No backend could serve the request: " ++ text
  | .sizeMismatch name existing requested =>
    "Volume " ++ name ++ " already exists with size " ++ toString existing ++
      " bytes, requested " ++ toString requested ++ " bytes"
  | .failedPrecondition text => "Failed precondition: " ++ text
  | .invalidStartingToken token => "Starting token '" ++ token ++ "' not found"

/-- The code that the appliance gave, if the fault is the appliance's own. -/
def code? : Fault → Option String
  | .appliance error => some error.code
  | _ => none

/-- Whether the appliance reported that the resource exists already. -/
def isAlreadyExists (fault : Fault) : Bool :=
  fault.code? == some ApplianceError.codeExists

/-- Whether the appliance reported that the resource is missing, or no backend has the path. -/
def isNotFound (fault : Fault) : Bool :=
  match fault with
  | .notFoundOnAnyBackend .. => true
  | _ => fault.code? == some ApplianceError.codeMissing

/-- Whether the appliance refused an argument. -/
def isInvalidArgument (fault : Fault) : Bool :=
  fault.code? == some ApplianceError.codeInvalid ||
    fault.code? == some ApplianceError.codeBadArgument

/-- Whether the appliance reported that the resource is in use. -/
def isBusy (fault : Fault) : Bool :=
  fault.code? == some ApplianceError.codeBusy

/-- Whether the appliance wants a new session. -/
def isUnauthenticated (fault : Fault) : Bool :=
  fault.code? == some ApplianceError.codeUnauthenticated

/-- The status of a failure that an appliance reported. -/
def applianceStatus (fault : Fault) : Status :=
  if fault.isNotFound then .notFound
  else if fault.isAlreadyExists then .alreadyExists
  else if fault.isInvalidArgument then .invalidArgument
  else if fault.isBusy then .failedPrecondition
  else if fault.isUnauthenticated then .unauthenticated
  else .internal

/-- The status reported to the orchestrator. -/
def status (fault : Fault) : Status :=
  match fault with
  | .appliance _ => fault.applianceStatus
  | .authenticationFailed .. => .unauthenticated
  | .jobTimeout .. => .deadlineExceeded
  | .cancelled _ => .cancelled
  | .http _ => .unavailable
  | .invalidIdentifier .. | .invalidArgument _ => .invalidArgument
  | .notFoundOnAnyBackend .. | .backendNotFound _ => .notFound
  | .zoneMismatch .. | .failedPrecondition _ => .failedPrecondition
  | .noBackendAvailable _ => .unavailable
  | .sizeMismatch .. => .alreadyExists
  | .invalidStartingToken _ => .aborted
  | .internal _ | .configuration _ | .jsonParse _ | .yamlParse _ | .io _
  | .unexpectedResponse .. | .malformedResponse .. => .internal

/-- Whether trying the same call again may succeed. -/
def isRetryable (fault : Fault) : Bool :=
  fault.isBusy || fault.status == .unavailable || fault.status == .deadlineExceeded ||
    fault.status == .aborted

/-- The fault of a text that is no identifier of the wanted kind. -/
def ofDefect (id : String) (defect : Identifier.Defect) : Fault :=
  .invalidIdentifier id defect.message

/-- The fault of a name that cannot be a backend's. -/
def ofNameDefect (name : String) : Identifier.NameDefect → Fault
  | .empty => .configuration "backend name must not be empty"
  | .containsMark =>
    .configuration ("backend name '" ++ name ++ "' must not contain ':' or '@'")

/-- An appliance's own failure with a known code. -/
def ofCode (code text : String) : Fault :=
  .appliance ⟨text, code⟩

end Fault
end StorageFleet
