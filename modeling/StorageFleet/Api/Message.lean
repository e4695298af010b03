import StorageFleet.Fault
import StorageFleet.Text.Basic

/-!
# Messages of the HTTP interface

A `Message` is a request as it arrives: method, address, content type and body.  A `Reply` is the
status, the content type and the content that goes back.  `Reply.ofFault` is the reply to a failed
operation, and `Fault.report` the line that is logged with it.
-/

namespace StorageFleet

/-- How serious a logged line is. -/
inductive Severity where
  | warning
  | error
  deriving Repr, DecidableEq, Inhabited

/-- A line of the log. -/
structure LogLine where
  severity : Severity
  text : String
  deriving Repr, DecidableEq, Inhabited

/-- The line as it is written. -/
def LogLine.render (line : LogLine) : String :=
  match line.severity with
  | .warning => "WARN " ++ line.text
  | .error => "ERROR " ++ line.text

namespace Api

/-- A request as it arrives. -/
structure Message where
  method : String
  /-- The path and query of the request. -/
  address : String
  contentType : Option String := none
  body : String := ""
  deriving Repr, DecidableEq, Inhabited

namespace Message

/-- The address without what follows a hash. -/
def target (message : Message) : List Char :=
  message.address.toList.takeWhile (· != '#')

/-- The path that is asked for. -/
def path (message : Message) : String :=
  String.ofList (message.target.takeWhile (· != '?'))

/-- The query behind the path. -/
def query (message : Message) : String :=
  match Text.splitOnce '?' message.target with
  | some (_, query) => String.ofList query
  | none => ""

end Message

/-! ## Content types -/

/-- Whether a character may stand in a name of a content type. -/
def isTokenChar (c : Char) : Bool :=
  c.isAlphanum || "!#$%&'*+-.^_|~\x60".toList.contains c

/-- Whether a text is a name of a content type. -/
def isToken (cs : List Char) : Bool :=
  !cs.isEmpty && cs.all isTokenChar

/-- Whether a parameter of a content type has the form `name=value`. -/
def isParameter (cs : List Char) : Bool :=
  match Text.splitOnce '=' (cs.dropWhile (· == ' ')) with
  | some (name, _) => isToken name
  | none => false

/-- What follows the last plus sign of a subtype, unless that is its first character. -/
def subtypeSuffix (subtype : List Char) : Option (List Char) :=
  match subtype with
  | [] => none
  | _ :: rest => match Text.splitAll '+' rest with
    | [] | [_] => none
    | pieces => pieces.getLast?

/-- Whether the main part of a content type, in small letters, says that the content is JSON. -/
def isJsonEssence (essence : List Char) : Bool :=
  match Text.splitOnce '/' essence with
  | none => false
  | some (main, subtype) =>
    isToken subtype && main == "application".toList &&
      (subtype == "json".toList || subtypeSuffix subtype == some "json".toList)

/-- Whether a content type says that the content is JSON. -/
def isJsonType (contentType : String) : Bool :=
  match Text.splitAll ';' (contentType.toList.map Char.toLower) with
  | [] => false
  | essence :: parameters => isJsonEssence essence && parameters.all isParameter

/-! ## Replies -/

/-- What a reply carries. -/
inductive Content where
  | none
  | json (value : Json)
  | text (text : String)
  /-- A remark for people, whose wording is open. -/
  | remark
  deriving Repr, Inhabited

/-- A reply. -/
structure Reply where
  status : Nat
  contentType : Option String
  content : Content
  deriving Repr, Inhabited

namespace Reply

/-- A reply with nothing in it. -/
def bare (status : Nat) : Reply :=
  ⟨status, none, .none⟩

/-- A reply with JSON in it. -/
def json (status : Nat) (value : Json) : Reply :=
  ⟨status, some "application/json", .json value⟩

/-- A reply with plain text in it. -/
def plain (text : String) : Reply :=
  ⟨200, some "text/plain; charset=utf-8", .text text⟩

/-- A reply that refuses a request before it was looked at closely. -/
def refusal (status : Nat) : Reply :=
  ⟨status, some "text/plain; charset=utf-8", .remark⟩

/-- The reply without its content, as for a request that asks for the head alone. -/
def head (reply : Reply) : Reply :=
  { reply with content := match reply.content with
    | .none => .none
    | _ => .text "" }

end Reply

/-- The HTTP status that goes with a status. -/
def httpStatus : Status → Nat
  | .invalidArgument => 400
  | .notFound => 404
  | .alreadyExists | .aborted => 409
  | .failedPrecondition => 412
  | .unauthenticated => 401
  | .deadlineExceeded => 504
  | .cancelled | .unavailable => 503
  | .internal => 500

/-- The reply to an operation that failed. -/
def Reply.ofFault (fault : Fault) : Reply :=
  .json (httpStatus fault.status)
    (.object [("error", .string fault.status.name), ("message", .string fault.message)])

end Api

/-- What is logged with the reply to an operation that failed: an error if the fault lies with the
server, a warning otherwise. -/
def Fault.report (fault : Fault) : LogLine :=
  if 500 ≤ Api.httpStatus fault.status then ⟨.error, "Request failed: " ++ fault.message⟩
  else ⟨.warning, "Request rejected (" ++ fault.status.name ++ "): " ++ fault.message⟩

end StorageFleet
