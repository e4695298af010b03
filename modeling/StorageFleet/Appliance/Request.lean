import StorageFleet.Appliance.Resource
import StorageFleet.Fault
import StorageFleet.Text.Percent

/-!
# Requests to an appliance and their responses

A request is a method, a path with its query, an optional JSON body and an optional session token.
A response is a status and a body, which is empty, JSON, or text that is not JSON.

`queryUri` writes the parameters of a query in ascending order of their keys and leaves out the
empty ones, so equal parameters give equal requests.
-/

namespace StorageFleet

/-- A request to an appliance. -/
structure Request where
  method : String
  path : String
  body : Option Json := none
  token : Option String := none
  deriving Repr, Inhabited

/-- The body of a response. -/
inductive Body where
  | empty
  | json (value : Json)
  | raw (text : String)
  deriving Repr, Inhabited

/-- The response of an appliance. -/
structure Response where
  status : Nat
  body : Body
  deriving Repr, Inhabited

namespace Response

/-- The JSON body, if there is one. -/
def json? (response : Response) : Option Json :=
  match response.body with
  | .json value => some value
  | _ => none

/-- The body as text. -/
def text (response : Response) : String :=
  match response.body with
  | .empty => ""
  | .json value => value.render
  | .raw text => text

/-- The value that the JSON body holds. -/
def decode (reader : Reader α) (endpoint : String) (response : Response) : Except Fault α :=
  match response.body with
  | .json value =>
    match value.decode reader with
    | .ok value => .ok value
    | .error flaw => .error (.jsonParse flaw.message)
  | .empty => .error (.malformedResponse endpoint "empty response body")
  | .raw text => .error (.malformedResponse endpoint ("body is not JSON: " ++ text))

/-- Whether the status says that the request succeeded. -/
def isSuccess (response : Response) : Bool :=
  200 ≤ response.status && response.status < 300

/-- Whether the appliance refused the request for want of a valid session. -/
def wantsSession (response : Response) : Bool :=
  response.status == 401 &&
    match response.json?.bind fun body => ApplianceError.ofBody body "" with
    | some error => error.code == ApplianceError.codeUnauthenticated
    | none => false

/-- The fault that a failed request to `endpoint` comes down to. -/
def fault (endpoint : String) (request : Request) (response : Response) : Fault :=
  let context := request.method ++ " " ++ endpoint ++ " " ++ request.path
  match response.json?.bind fun body => ApplianceError.ofBody body context with
  | some error => .appliance error
  | none => .unexpectedResponse context response.status response.text

end Response

/-! ## Paths and queries -/

/-- A path as one segment of an address. -/
def segment (path : String) : String :=
  Text.percentEncode path

/-- One parameter of a query. -/
def queryPair (pair : String × String) : String :=
  Text.percentEncode pair.1 ++ "=" ++ Text.percentEncode pair.2

/-- The parameters of a query: empty ones dropped, in ascending order of their keys, of one key the
last. -/
def queryParameters (parameters : List (String × String)) : List (String × String) :=
  (parameters.filter fun pair => !pair.2.isEmpty).foldl
    (fun sorted pair => insertSorted pair.1 pair.2 sorted) []

/-- The path with its query, if any parameter is left. -/
def queryUri (path : String) (parameters : List (String × String)) : String :=
  match queryParameters parameters with
  | [] => path
  | pairs => path ++ "?" ++ String.intercalate "&" (pairs.map queryPair)

/-! ## Bodies around the resources -/

/-- Reads the items of a list body; without `data` the list is empty. -/
def Reader.dataList (reader : Reader α) : Reader (List α) :=
  (Record.of id |>.defaulted "data" (Reader.list reader) []).read

/-- Reads the token that a login gives. -/
def Reader.loginToken : Reader String :=
  (Record.of id |>.required "token" Reader.string).read

/-- A link to a related resource. -/
structure ResourceLink where
  rel : String
  href : String
  deriving Repr, DecidableEq, Inhabited

/-- How a link is read. -/
def ResourceLink.record : Record ResourceLink :=
  Record.of ResourceLink.mk
    |>.defaulted "rel" Reader.string ""
    |>.defaulted "href" Reader.string ""

/-- Reads the links of a response to a request that started a job. -/
def Reader.acceptedLinks : Reader (List ResourceLink) :=
  (Record.of id |>.required "links" (Reader.list ResourceLink.record.read)).read

/-- Where the first link to a job's monitor leads. -/
def monitorOf (links : List ResourceLink) : Option String :=
  (links.find? fun link => link.rel == "monitor").map ResourceLink.href

/-- Reads the name of an SMB share; unnamed shares have an empty one. -/
def Reader.shareName : Reader String :=
  (Record.of id |>.defaulted "shareName" Reader.string "").read

/-- The credentials of a login. -/
def loginBody (username password : String) : Json :=
  .object [("username", .string username), ("password", .string password)]

/-- A field with a number that is only written if there is one. -/
def countField (key : String) (value : Option Nat) : List (String × Json) :=
  match value with
  | some n => [(key, .nat n)]
  | none => []

/-- An NFS share that every host may write to, with the client's root kept as root. -/
def nfsShareBody (path : String) : Json :=
  let everyone := Json.array [.object [("etype", .string "fqdn"), ("entity", .string "*")]]
  .object [("filesystem", .string path), ("anon", .string "root"),
    ("securityContexts", .array [.object [("securityModes", .ofStrings ["sys"]),
      ("readWriteList", everyone), ("rootList", everyone)]])]

/-- An SMB share, named only if the name is not empty. -/
def smbShareBody (path : String) (name : Option String) : Json :=
  let named := match name.filter fun name => !name.isEmpty with
    | some name => [("shareName", Json.string name)]
    | none => []
  .object (("filesystem", .string path) :: named)

end StorageFleet
