import StorageFleet.Fleet.Basic
import StorageFleet.Proofs.Session.SingleFlight

/-!
# Other passwords

To rekey is to put another password in place of each, `f password` for `password`, wherever one is
kept: in settings, in clients, and in the content of a login.  Nothing else changes, and a login is
told from other requests by its method and its path.

What is shown of settings, connections and backends does not change at all, and whether settings
can be used depends on a password only through whether there is one.
-/

namespace StorageFleet

variable (f : String → String)

/-! ## Requests -/

/-- A field with another password, if it is the password. -/
def Json.rekeyField : String × Json → String × Json
  | (key, .string text) => (key, .string (if key = "password" then f text else text))
  | field => field

/-- An object with another password. -/
def Json.rekey : Json → Json
  | .fields entries => .fields (entries.map (Json.rekeyField f))
  | json => json

/-- An object without its password. -/
def Json.withoutPassword : Json → Json
  | .fields entries => .fields (entries.filter fun field => field.1 != "password")
  | json => json

namespace Json

lemma rekeyField_fst (field : String × Json) : (rekeyField f field).1 = field.1 := by
  unfold rekeyField
  split <;> rfl

lemma rekeyField_of_ne {field : String × Json} (h : field.1 ≠ "password") :
    rekeyField f field = field := by
  unfold rekeyField
  split
  · rw [if_neg h]
  · rfl

lemma withoutPassword_rekey (json : Json) :
    (json.rekey f).withoutPassword = json.withoutPassword := by
  cases json with
  | fields entries =>
    refine congrArg Json.fields ?_
    induction entries with
    | nil => rfl
    | cons field rest ih =>
      rw [List.map_cons, List.filter_cons, List.filter_cons, rekeyField_fst, ih]
      split_ifs with hfield
      · rw [rekeyField_of_ne f (by simpa using hfield)]
      · rfl
  | _ => rfl

lemma rekey_loginBody (username password : String) :
    (loginBody username password).rekey f = loginBody username (f password) := by
  have hbody : ∀ password, loginBody username password =
      .fields [("password", .string password), ("username", .string username)] := by
    intro password
    have hkeys : "password" < "username" := by decide
    simp only [loginBody, object, List.foldl_cons, List.foldl_nil, insertSorted, if_pos hkeys]
  rw [hbody, hbody]
  rfl

end Json

namespace Request

instance (request : Request) : Decidable request.IsLogin :=
  inferInstanceAs (Decidable (_ ∧ _))

/-- The request with another password, if it is a login. -/
def rekey (request : Request) : Request :=
  if request.IsLogin then { request with body := request.body.map (Json.rekey f) } else request

/-- The requests are the same but for the password of a login. -/
structure Twin (one other : Request) : Prop where
  method : one.method = other.method
  path : one.path = other.path
  token : one.token = other.token
  body : one.body = other.body ∨
    one.IsLogin ∧ one.body.map Json.withoutPassword = other.body.map Json.withoutPassword

variable (request : Request)

@[simp] lemma rekey_method : (request.rekey f).method = request.method := by
  unfold rekey
  split_ifs <;> rfl

@[simp] lemma rekey_path : (request.rekey f).path = request.path := by
  unfold rekey
  split_ifs <;> rfl

@[simp] lemma rekey_token : (request.rekey f).token = request.token := by
  unfold rekey
  split_ifs <;> rfl

lemma rekey_withToken (token : Option String) :
    ({ request with token } : Request).rekey f = { request.rekey f with token } := by
  have hlogin : ({ request with token } : Request).IsLogin ↔ request.IsLogin := Iff.rfl
  by_cases h : request.IsLogin
  · rw [rekey, rekey, if_pos h, if_pos (hlogin.2 h)]
  · rw [rekey, rekey, if_neg h, if_neg (mt hlogin.1 h)]

/-- Only a login has a password to lose. -/
lemma rekey_of_method (h : request.method ≠ "POST") : request.rekey f = request :=
  if_neg fun hlogin => h hlogin.1

lemma rekey_of_path (h : request.path ≠ "auth/login") : request.rekey f = request :=
  if_neg fun hlogin => h hlogin.2

lemma twin_rekey : request.Twin (request.rekey f) where
  method := (request.rekey_method f).symm
  path := (request.rekey_path f).symm
  token := (request.rekey_token f).symm
  body := by
    unfold rekey
    split_ifs with h
    · refine .inr ⟨h, ?_⟩
      cases request.body with
      | none => rfl
      | some json => exact congrArg some (json.withoutPassword_rekey f).symm
    · exact .inl rfl

end Request

/-- What goes wrong with a request does not depend on a password. -/
lemma Response.fault_rekey (response : Response) (endpoint : String) (request : Request) :
    response.fault endpoint (request.rekey f) = response.fault endpoint request := by
  simp [Response.fault]

/-! ## Settings -/

/-- The client with another password. -/
def Client.rekey (client : Client) : Client :=
  { client with password := f client.password }

lemma Client.loginRequest_rekey (client : Client) :
    (client.rekey f).loginRequest = client.loginRequest.rekey f := by
  have hlogin : client.loginRequest.IsLogin := ⟨rfl, rfl⟩
  rw [Request.rekey, if_pos hlogin, Client.loginRequest, Client.loginRequest, Option.map_some,
    Json.rekey_loginBody]
  rfl

/-- The connection with another password. -/
def Connection.rekey (connection : Connection) : Connection :=
  { connection with password := f connection.password }

/-- The settings with another password. -/
def BackendConfig.rekey (config : BackendConfig) : BackendConfig :=
  { config with password := f config.password }

/-- The configuration with other passwords. -/
def Config.rekey (config : Config) : Config :=
  { config with backends := config.backends.map fun entry => (entry.1, entry.2.rekey f) }

/-- The backend with another password. -/
def Backend.rekey (backend : Backend) : Backend :=
  { backend with config := backend.config.rekey f }

/-- The fleet with other passwords. -/
def Fleet.rekey (fleet : Fleet) : Fleet where
  backends := fleet.backends.map (Backend.rekey f)

/-- The resolution with another password. -/
def Resolution.rekey (resolution : Resolution) : Resolution :=
  { resolution with backend := resolution.backend.rekey f }

lemma BackendConfig.connections_rekey (config : BackendConfig) :
    (config.rekey f).connections = config.connections.map (Connection.rekey f) := by
  rw [connections, connections, List.map_map]
  rfl

/-! ## What is shown -/

end StorageFleet
