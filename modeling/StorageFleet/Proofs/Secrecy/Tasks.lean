import StorageFleet.Deployment.Basic
import StorageFleet.Proofs.Secrecy.Rekeying

/-!
# Tasks with other passwords

To rekey a task is to rekey each request that it may send.  What it is told does not change, and so
the rest of it is that of the old task, rekeyed.  The exchanges of a client with another password
are those of the old client, rekeyed (`Client.answer_rekey`): a client reads its password to log in
and for nothing else.
-/

namespace StorageFleet

variable (f : String → String)

/-- The task with other passwords; `g` rekeys what it finds. -/
def Task.rekey (g : α → β) : Task α → Task β
  | .done result => .done (g result)
  | .perform appliance call next => .perform appliance call fun outcome => (next outcome).rekey g
  | .send appliance request next =>
    .send appliance (request.rekey f) fun answer => (next answer).rekey g
  | .session appliance next => .session appliance fun session => (next session).rekey g
  | .acquire appliance next => .acquire appliance (next.rekey g)
  | .release appliance next => .release appliance (next.rekey g)
  | .settle appliance outcome next => .settle appliance outcome (next.rekey g)
  | .sleep span next => .sleep span (next.rekey g)
  | .limit span late next => .limit span (late.rekey g) (next.rekey g)
  | .unlimit next => .unlimit (next.rekey g)
  | .count counter next => .count counter (next.rekey g)
  | .warn line next => .warn line (next.rekey g)

lemma Task.rekey_bind (task : Task α) (next : α → Task β) (g : β → γ) :
    (task.bind next).rekey f g = (task.rekey f id).bind fun result => (next result).rekey f g := by
  induction task <;> simp_all [Task.bind, Task.rekey]

/-! ## Exchanges -/

/-- The exchange with other passwords. -/
def Exchange.rekey (exchange : Exchange α) : Exchange α :=
  ExceptT.mk (exchange.run.rekey f id)

namespace Exchange

variable {exchange : Exchange α}

lemma rekey_bind (exchange : Exchange α) (next : α → Exchange β) :
    (exchange >>= next).rekey f = exchange.rekey f >>= fun result => (next result).rekey f := by
  refine (Task.rekey_bind f exchange.run _ id).trans ?_
  refine congrArg (Task.bind _) (funext fun outcome => ?_)
  cases outcome <;> rfl

lemma rekey_pure (result : α) : (pure result : Exchange α).rekey f = pure result :=
  rfl

lemma rekey_throw (fault : Fault) : (throw fault : Exchange α).rekey f = throw fault :=
  rfl

lemma rekey_ite {c : Prop} [Decidable c] (one other : Exchange α) :
    (if c then one else other).rekey f = if c then one.rekey f else other.rekey f :=
  apply_ite _ _ _ _

lemma rekey_send (appliance : ApplianceRef) (request : Request) :
    (send appliance request).rekey f = send appliance (request.rekey f) :=
  rfl

lemma rekey_session (appliance : ApplianceRef) :
    (session appliance).rekey f = session appliance :=
  rfl

lemma rekey_ofExcept (result : Except Fault α) :
    (ofExcept result).rekey f = ofExcept result :=
  rfl

lemma rekey_locked (appliance : ApplianceRef) (exchange : Exchange α) :
    (locked appliance exchange).rekey f = locked appliance (exchange.rekey f) :=
  congrArg (Task.acquire appliance) (Task.rekey_bind f exchange.run _ id)

end Exchange

/-! ## Sessions and jobs -/

namespace Client

variable (client : Client)

lemma authenticate_rekey :
    (client.rekey f).authenticate = client.authenticate.rekey f := by
  have htoken : (client.rekey f).tokenOf = client.tokenOf := by
    funext response
    -- The fault of a login that is refused tells the method and the path, not the content.
    have hfault : response.fault (client.rekey f).endpoint (client.rekey f).loginRequest =
        response.fault client.endpoint client.loginRequest := by
      rw [loginRequest_rekey, Response.fault_rekey]
      rfl
    rw [tokenOf, tokenOf, hfault]
    rfl
  simp only [authenticate, Exchange.rekey_bind, Exchange.rekey_send, Exchange.rekey_ofExcept,
    loginRequest_rekey, htoken]
  rfl

lemma logInLocked_rekey : (client.rekey f).logInLocked = client.logInLocked.rekey f := by
  refine Eq.trans ?_ (Task.rekey_bind f client.authenticate.run _ id).symm
  rw [logInLocked, authenticate_rekey]
  rfl

lemma logIn_rekey : (client.rekey f).logIn = client.logIn.rekey f := by
  rw [logIn, logIn, Exchange.rekey_locked, logInLocked_rekey]
  rfl

lemma renew_rekey (seen : Nat) : (client.rekey f).renew seen = (client.renew seen).rekey f := by
  rw [renew, renew, Exchange.rekey_locked, Exchange.rekey_bind]
  refine congrArg (Exchange.locked client.appliance) (congrArg _ (funext fun session => ?_))
  split_ifs
  · cases session.failure <;> rfl
  · rw [Exchange.rekey_bind, logInLocked_rekey]
    rfl

/-- A request with another password is refused for the same reason. -/
lemma stillRefused_rekey (request : Request) (response : Response) :
    (client.rekey f).stillRefused (request.rekey f) response =
      client.stillRefused request response := by
  rw [stillRefused, stillRefused, Request.rekey_method, Request.rekey_path]
  rfl

lemma sendAuthenticated_rekey (request : Request) :
    (client.rekey f).sendAuthenticated (request.rekey f) =
      (client.sendAuthenticated request).rekey f := by
  simp only [sendAuthenticated, Exchange.rekey_bind, Exchange.rekey_session, Exchange.rekey_send,
    Exchange.rekey_ite, Exchange.rekey_pure, Exchange.rekey_throw, Request.rekey_withToken,
    renew_rekey, stillRefused_rekey]
  rfl

lemma jobRequest_rekey (job : String) : (jobRequest job).rekey f = jobRequest job :=
  Request.rekey_of_method f _ (by simp [jobRequest])

lemma checkJob_rekey (job : String) :
    (client.rekey f).checkJob job = (client.checkJob job).rekey f := by
  have hsent : (client.rekey f).sendAuthenticated (jobRequest job) =
      (client.sendAuthenticated (jobRequest job)).rekey f := by
    rw [← sendAuthenticated_rekey, jobRequest_rekey]
  rw [checkJob, checkJob, Exchange.rekey_bind, hsent]
  rfl

lemma pollJob_rekey (job : String) (rounds : Nat) :
    (client.rekey f).pollJob job rounds = (client.pollJob job rounds).rekey f := by
  induction rounds with
  | zero => rfl
  | succ rounds ih =>
    have hround : (do
        if ← (client.rekey f).checkJob job then return ()
        (client.rekey f).pollJob job rounds) = Exchange.rekey f (do
        if ← client.checkJob job then return ()
        client.pollJob job rounds) := by
      simp only [Exchange.rekey_bind, Exchange.rekey_ite, Exchange.rekey_pure, checkJob_rekey, ih]
    exact congrArg (Task.sleep client.interval) hround

lemma awaitJob_rekey (job : String) :
    (client.rekey f).awaitJob job = (client.awaitJob job).rekey f := by
  have hpolled : ((client.pollJob job client.jobRounds).run.bind fun result =>
        Task.unlimit (.done result)).rekey f id =
      ((client.rekey f).pollJob job client.jobRounds).run.bind fun result =>
        Task.unlimit (.done result) := by
    rw [Task.rekey_bind, pollJob_rekey]
    rfl
  have hwithin : (Task.within client.timeout (client.pollJob job client.jobRounds).run
        (.error (client.jobLate job))).rekey f id =
      Task.within client.timeout ((client.rekey f).pollJob job client.jobRounds).run
        (.error (client.jobLate job)) :=
    congrArg (Task.limit client.timeout _) hpolled
  refine Eq.symm ((Task.rekey_bind f _ _ _).trans ?_)
  rw [hwithin]
  refine congrArg (Task.bind _) (funext fun outcome => ?_)
  cases outcome <;> rfl

lemma submit_rekey (request : Request) :
    (client.rekey f).submit (request.rekey f) = (client.submit request).rekey f := by
  have hfault : ∀ response : Response,
      response.fault (client.rekey f).endpoint (request.rekey f) =
        response.fault client.endpoint request := fun response => response.fault_rekey f _ request
  simp only [submit, Exchange.rekey_bind, Exchange.rekey_ite, Exchange.rekey_pure,
    Exchange.rekey_throw, Exchange.rekey_ofExcept, sendAuthenticated_rekey, awaitJob_rekey, hfault]
  rfl

/-! ## Calls -/

lemma fetch_rekey (reader : Reader α) (path : String) :
    (client.rekey f).fetch reader path = (client.fetch reader path).rekey f := by
  have hrequest : ({ method := "GET", path } : Request).rekey f = { method := "GET", path } :=
    Request.rekey_of_method f _ (by simp)
  have hsent := client.submit_rekey f { method := "GET", path }
  rw [hrequest] at hsent
  rw [fetch, fetch, Exchange.rekey_bind, hsent]
  rfl

lemma fetchFirst_rekey (reader : Reader α) (kind path uri : String) :
    (client.rekey f).fetchFirst reader kind path uri =
      (client.fetchFirst reader kind path uri).rekey f := by
  rw [fetchFirst, fetchFirst, Exchange.rekey_bind, fetchList, fetchList, fetch_rekey]
  refine congrArg _ (funext fun found => ?_)
  cases found <;> rfl

/-- An order that is no login. -/
lemma order_rekey {method path : String} (h : method ≠ "POST" ∨ path ≠ "auth/login")
    (body : Option Json) :
    (client.rekey f).order method path body = (client.order method path body).rekey f := by
  have hrequest : ({ method, path, body } : Request).rekey f = { method, path, body } :=
    h.elim (Request.rekey_of_method f { method, path, body })
      (Request.rekey_of_path f { method, path, body })
  have hsent := client.submit_rekey f { method, path, body }
  rw [hrequest] at hsent
  rw [order, order, Exchange.rekey_bind, hsent]
  rfl

lemma delete_rekey (path : String) : (client.rekey f).delete path = (client.delete path).rekey f :=
  client.order_rekey f (.inl (by simp)) none

lemma childrenFrom_rekey (parent : String) (pages offset : Nat) :
    (client.rekey f).childrenFrom parent pages offset =
      (client.childrenFrom parent pages offset).rekey f := by
  induction pages generalizing offset with
  | zero => rfl
  | succ pages ih =>
    simp only [childrenFrom, fetchList, Exchange.rekey_bind, Exchange.rekey_ite,
      Exchange.rekey_pure, fetch_rekey, ih]

/-- What begins like the address of a storage resource is no login. -/
lemma ne_login_of_head {start : String} (h : start.toList.head? = some 's')
    (segment rest : String) : start ++ segment ++ rest ≠ "auth/login" := by
  intro heq
  have hlogin : "auth/login".toList.head? = some 'a' := by simp
  rw [← heq, String.toList_append, String.toList_append, List.head?_append, List.head?_append,
    h] at hlogin
  simp at hlogin

lemma filesystemPath_append_ne (path rest : String) :
    filesystemPath path ++ rest ≠ "auth/login" :=
  ne_login_of_head (by simp) (segment path) rest

lemma snapshotPath_append_ne (path rest : String) : snapshotPath path ++ rest ≠ "auth/login" :=
  ne_login_of_head (by simp) (segment path) rest

lemma promoteFilesystem_rekey (path : String) :
    (client.rekey f).promoteFilesystem path = (client.promoteFilesystem path).rekey f :=
  client.order_rekey f (.inr (filesystemPath_append_ne path _)) none

lemma promoteNewestClone_rekey (path : String) :
    (client.rekey f).promoteNewestClone path = (client.promoteNewestClone path).rekey f := by
  rw [promoteNewestClone, promoteNewestClone, Exchange.rekey_bind, snapshotsOf, snapshotsOf,
    fetchList, fetchList, fetch_rekey]
  refine congrArg _ (funext fun snapshots => ?_)
  cases (newestCloned snapshots).bind fun snapshot => snapshot.clones.head? with
  | none => rfl
  | some clone => exact client.promoteFilesystem_rekey f clone

lemma destroyFilesystem_rekey (path : String) (snapshots promote : Bool) :
    (client.rekey f).destroyFilesystem path snapshots promote =
      (client.destroyFilesystem path snapshots promote).rekey f := by
  cases promote with
  | false => exact client.delete_rekey f _
  | true =>
    simp only [destroyFilesystem, if_true, Exchange.rekey_bind, promoteNewestClone_rekey,
      delete_rekey]

/-- The calls of a client with another password are those of the old one. -/
theorem answer_rekey (call : Call) :
    (client.rekey f).answer call = (client.answer call).rekey f := by
  cases call with
  | logIn => exact client.logIn_rekey f
  | getPools | getSnapshots | getLicense | getClusters => exact client.fetch_rekey f _ _
  | getFilesystem path | getSnapshot path => exact client.fetchFirst_rekey f _ _ _ _
  | getFilesystems parent => exact client.childrenFrom_rekey f parent _ _
  | destroyFilesystem path snapshots promote =>
    exact client.destroyFilesystem_rekey f path snapshots promote
  | promoteFilesystem path => exact client.promoteFilesystem_rekey f path
  | getAvailable path =>
    refine Eq.trans ?_ (Exchange.rekey_bind f _ _).symm
    exact congrArg (· >>= _) (client.fetchFirst_rekey f _ _ _ _)
  | getSmbShareName path =>
    refine Eq.trans ?_ (Exchange.rekey_bind f _ _).symm
    exact congrArg (· >>= _) (client.fetch_rekey f _ _)
  | updateFilesystem => exact client.order_rekey f (.inl (by simp)) _
  | deleteNfsShare | deleteSmbShare | destroySnapshot => exact client.delete_rekey f _
  -- A login is a POST too, so these are told from it by their paths.
  | createFilesystem | createNfsShare | createSmbShare | createSnapshot =>
    exact client.order_rekey f (.inr (by simp)) _
  | setAccess path => exact client.order_rekey f (.inr (filesystemPath_append_ne path _)) _
  | cloneSnapshot path => exact client.order_rekey f (.inr (snapshotPath_append_ne path _)) _

end Client
end StorageFleet
