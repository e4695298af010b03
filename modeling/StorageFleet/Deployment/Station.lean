import StorageFleet.Appliance.Simulated
import StorageFleet.Client.Answer

/-!
# Stations

A station is where an appliance is reached: an appliance in memory, or the client of one that is
reached over a link.  A link is either a script, a list of rules that answer requests, or a network
on which nothing answers.

The login lock of a client goes to whoever asked first.
-/

namespace StorageFleet

/-! ## Scripts -/

/-- A rule of a script: which requests it answers, how often, after what time, and how. -/
structure Rule where
  method : Option String := none
  path : Option String := none
  /-- What the path begins with. -/
  start : Option String := none
  /-- What the path contains. -/
  part : Option String := none
  /-- The token, or that there is none. -/
  token : Option (Option String) := none
  times : Option Nat := none
  delay : Nat := 0
  answer : Except Fault Response
  used : Nat := 0

namespace Rule

/-- Whether the rule answers this request. -/
def fits (rule : Rule) (request : Request) : Bool :=
  rule.method.all (· == request.method) && rule.path.all (· == request.path) &&
    rule.start.all (fun start => Text.startsWith start request.path) &&
    rule.part.all (fun part => Text.containsPart part.toList request.path.toList) &&
    rule.token.all (· == request.token) && rule.times.all (rule.used < ·)

end Rule

/-- The answer of a script, the time it takes, and the script afterwards; the first rule that fits
counts, and without one the answer is a failure. -/
def answerByScript (request : Request) :
    List Rule → Except Fault Response × Nat × List Rule
  | [] => (.ok ⟨500, .raw "no rule"⟩, 0, [])
  | rule :: rest =>
    if rule.fits request then
      (rule.answer, rule.delay, { rule with used := rule.used + 1 } :: rest)
    else
      let (answer, delay, rest) := answerByScript request rest
      (answer, delay, rule :: rest)

/-- How an appliance is reached. -/
inductive Link where
  | scripted (rules : List Rule)
  /-- No request gets through. -/
  | unreachable

namespace Link

/-- The answer to a request, the time it takes, and the link afterwards. -/
def send (request : Request) : Link → Except Fault Response × Nat × Link
  | .scripted rules =>
    let (answer, delay, rules) := answerByScript request rules
    (answer, delay, .scripted rules)
  | .unreachable => (.error (.http "no connection"), 0, .unreachable)

end Link

/-! ## The login lock -/

/-- A lock and who waits for it, in the order they asked. -/
structure Lock where
  owner : Option Nat := none
  queue : List Nat := []
  deriving Repr, DecidableEq, Inhabited

namespace Lock

/-- Takes the lock if it is free, and waits for it otherwise. -/
def request (lock : Lock) (thread : Nat) : Lock :=
  match lock.owner with
  | none => { lock with owner := some thread }
  | some _ => { lock with queue := lock.queue ++ [thread] }

/-- Gives the lock to the next in the queue if `thread` has it, and takes `thread` out of the
queue. -/
def abandon (lock : Lock) (thread : Nat) : Lock :=
  if lock.owner = some thread then ⟨lock.queue.head?, lock.queue.tail⟩
  else { lock with queue := lock.queue.erase thread }

end Lock

/-! ## Stations -/

/-- A client with its session and its link. -/
structure Connected where
  client : Client
  session : Session := {}
  lock : Lock := {}
  link : Link

/-- Where an appliance is reached. -/
inductive Station where
  | simulated (appliance : Simulated)
  | connected (connected : Connected)

namespace Station

/-- The appliance in memory, if it is one. -/
def simulated? : Station → Option Simulated
  | .simulated appliance => some appliance
  | .connected _ => none

/-- The client, if there is one. -/
def connected? : Station → Option Connected
  | .simulated _ => none
  | .connected station => some station

end Station
end StorageFleet
