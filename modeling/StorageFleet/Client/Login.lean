import StorageFleet.Task

/-!
# Sessions

A client holds the credentials for one appliance.  `Client.sendAuthenticated` sends a request with
the session's token and, if the appliance wants a new session, logs in and sends it once more.

Logins happen one at a time, under the appliance's login lock.  Whoever gets the lock and finds
that a login attempt has ended since its token was read takes over the outcome of that attempt in
place of logging in again, so a burst of refused requests costs one login.
-/

namespace StorageFleet

/-- The client of one appliance. -/
structure Client where
  appliance : ApplianceRef
  username : String
  password : String
  /-- The time between two looks at a running job. -/
  interval : Span := .ofSeconds 3
  /-- The longest time to wait for a job. -/
  timeout : Span := .ofSeconds 60
  deriving Repr, DecidableEq, Inhabited

namespace Client

/-- The address that requests go to. -/
def endpoint (client : Client) : String :=
  client.appliance.endpoint

/-- The request that logs in. -/
def loginRequest (client : Client) : Request where
  method := "POST"
  path := "auth/login"
  body := some (loginBody client.username client.password)

/-- The fault of credentials or a session that the appliance does not accept. -/
def refused (client : Client) (reason : String) : Fault :=
  .authenticationFailed client.endpoint reason

/-- What a login response comes down to: the token, or why there is none. -/
def tokenOf (client : Client) (response : Response) : Except Fault String :=
  if response.isSuccess then
    match response.decode Reader.loginToken client.endpoint with
    | .ok token => .ok token
    | .error _ => .error (.malformedResponse client.endpoint "login response has no token")
  else
    let fault := response.fault client.endpoint client.loginRequest
    .error (if fault.isUnauthenticated then client.refused fault.message else fault)

/-- Sends the credentials and reads the token. -/
def authenticate (client : Client) : Exchange String := do
  let response ← Exchange.send client.appliance client.loginRequest
  Exchange.ofExcept (client.tokenOf response)

/-- Logs in and records how it ended; for the holder of the login lock. -/
def logInLocked (client : Client) : Exchange Unit :=
  ExceptT.mk (client.authenticate.run.bind fun outcome =>
    let ended := match outcome with
      | .ok token => .ok token
      | .error fault => .error fault.message
    .settle client.appliance ended (.done (outcome.map fun _ => ())))

/-- Logs in. -/
def logIn (client : Client) : Exchange Unit :=
  Exchange.locked client.appliance client.logInLocked

/-- Logs in, unless a login attempt has ended since generation `seen`: then its outcome is
shared. -/
def renew (client : Client) (seen : Nat) : Exchange Unit :=
  Exchange.locked client.appliance do
    let session ← Exchange.session client.appliance
    if session.generation ≠ seen then
      match session.failure with
      | some reason => throw (client.refused reason)
      | none => return ()
    else
      Exchange.count (.relogin client.endpoint)
      client.logInLocked

/-- Why a request that is refused with a fresh session too has failed. -/
def stillRefused (client : Client) (request : Request) (response : Response) : Fault :=
  client.refused (request.method ++ " " ++ request.path ++ " still unauthorized after login: " ++
    response.text)

/-- Sends a request with the session's token, renewing the session at most once. -/
def sendAuthenticated (client : Client) (request : Request) : Exchange Response := do
  let session ← Exchange.session client.appliance
  let response ← Exchange.send client.appliance { request with token := session.token }
  if !response.wantsSession then return response
  client.renew session.generation
  let session ← Exchange.session client.appliance
  let response ← Exchange.send client.appliance { request with token := session.token }
  if response.wantsSession then throw (client.stillRefused request response)
  return response

end Client
end StorageFleet
