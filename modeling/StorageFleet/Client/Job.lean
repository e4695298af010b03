import StorageFleet.Client.Login

/-!
# Asynchronous jobs

An appliance may accept a request and carry it out later.  Its response then links to a monitor,
which the client asks at fixed intervals until the job has ended or the time for it is over.

`Client.submit` hides the difference: it gives the response once the work is done.
-/

namespace StorageFleet.Client

/-- Where the links to job monitors begin. -/
def jobStatusRoot : String := "/jobStatus/"

/-- The job that an accepting response started. -/
def jobOf (client : Client) (response : Response) : Except Fault String :=
  let malformed (reason : String) : Except Fault String :=
    .error (.malformedResponse client.endpoint reason)
  match response.decode Reader.acceptedLinks client.endpoint with
  | .error _ => malformed "202 response without links"
  | .ok links => match monitorOf links with
    | none => malformed "202 response without a monitor link"
    | some href => match Text.dropStart? jobStatusRoot.toList href.toList with
      | some (c :: job) => .ok (String.ofList (c :: job))
      | _ => malformed ("unexpected monitor link '" ++ href ++ "'")

/-- The request that looks at a job. -/
def jobRequest (job : String) : Request where
  method := "GET"
  path := "jobStatus/" ++ job

/-- Whether a look at a job says that it is done. -/
def jobIsDone (client : Client) (job : String) (response : Response) : Except Fault Bool :=
  if response.status = 200 ∨ response.status = 201 then .ok true
  else if response.status = 202 then .ok false
  else .error (response.fault client.endpoint (jobRequest job))

/-- Looks at a job once. -/
def checkJob (client : Client) (job : String) : Exchange Bool := do
  let response ← client.sendAuthenticated (jobRequest job)
  Exchange.ofExcept (client.jobIsDone job response)

/-- The fault of a job that took too long. -/
def jobLate (client : Client) (job : String) : Fault :=
  .jobTimeout client.endpoint job client.timeout

/-- Looks at a job after every interval until it has ended, at most `rounds` times. -/
def pollJob (client : Client) (job : String) : Nat → Exchange Unit
  | 0 => throw (client.jobLate job)
  | rounds + 1 => ExceptT.mk (.sleep client.interval (ExceptT.run do
      if ← client.checkJob job then return ()
      client.pollJob job rounds))

/-- More looks than fit into the time for a job. -/
def jobRounds (client : Client) : Nat :=
  client.timeout.milliseconds / max client.interval.milliseconds 1 + 1

/-- What the outcome of a job counts as. -/
def jobEnd : Except Fault Unit → JobEnd
  | .ok _ => .done
  | .error (.jobTimeout ..) => .timeout
  | .error _ => .failed

/-- Counts the outcome of a job and warns if it is a failure. -/
def reportJob (client : Client) (job : String) (outcome : Except Fault Unit) :
    Task (Except Fault Unit) :=
  .count (.job (jobEnd outcome)) (match outcome with
    | .ok _ => .done outcome
    | .error fault =>
      .warn (client.endpoint ++ ": job " ++ job ++ " did not complete: " ++ fault.message)
        (.done outcome))

/-- Waits until a job has ended or the time for it is over. -/
def awaitJob (client : Client) (job : String) : Exchange Unit :=
  ExceptT.mk ((Task.within client.timeout (client.pollJob job client.jobRounds).run
    (.error (client.jobLate job))).bind (client.reportJob job))

/-- Sends a request and waits for the job that it may start. -/
def submit (client : Client) (request : Request) : Exchange Response := do
  let response ← client.sendAuthenticated request
  if response.status = 202 then
    let job ← Exchange.ofExcept (client.jobOf response)
    client.awaitJob job
    return response
  else if 300 ≤ response.status then throw (response.fault client.endpoint request)
  else return response

end StorageFleet.Client
