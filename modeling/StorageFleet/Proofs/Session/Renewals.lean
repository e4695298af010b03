import StorageFleet.Proofs.Session.Attempts

/-!
# One login for each generation

Renewals are told apart by the generation that the refused request had read.  Under the lock a
renewal may book itself, post the login request and settle; `serving` picks the events of one kind
that are made for a set of generations, and `tally (serving …)` counts them.

A renewal of generation `g` settles while the session is at `g`, and by settling moves it on, so at
most one renewal of `g` ever settles (`Reaches.settled_once`), however many tasks are cut off and
whoever else logs in.  If nobody is cut off under the lock and no login is asked for, the session
moves on through renewals alone.  Then bookings and login requests keep pace with the generation,
up to the ones of an attempt that is not settled yet (`Reaches.tally_serving`).
-/

namespace StorageFleet
open StorageFleet.Task (Event Stage Runner EndsIn)

namespace Task.Event

/-- Whether a renewal is booked. -/
def isRelogin : Event → Bool
  | .counted (.relogin _) => true
  | _ => false

/-- Whether a task is cut off. -/
def cutsOff : Event → Bool
  | .late | .dropped => true
  | _ => false

end Task.Event

/-- Whether a login request was posted for a wanted generation and is not settled yet. -/
def posting (wanted : Nat → Bool) : List Event → Bool
  | .sent _ :: past | .answered _ :: .sent _ :: past => (renewedFor past).any wanted
  | _ => false

namespace Client

variable (client : Client)

end Client

/-! ## Counting -/

/-- Under the lock the owner stays the owner until it leaves. -/
lemma Client.Beat.owner_after {client : Client} {seen : Option Nat} {past : List Event}
    {event : Event} (h : client.Beat seen past event) (hne : event ≠ .released)
    (commons : Commons) (i : Nat) : (commons.after i event).owner = commons.owner := by
  cases h <;> first | rfl | exact absurd rfl hne

namespace Crowd

variable {client : Client} {session : Session} {counters : Counters} {errands : Nat → Errand}
  {crowd : Crowd (Except Fault (Option Response))}

/-- A renewal of generation `g` has come out of the lock. -/
def HasRenewed (g : Nat) (crowd : Crowd α) : Prop :=
  ∃ i later earlier, crowd.history = later ++ (i, .released) :: earlier ∧
    renewedFor (own i earlier) = some g

end Crowd
end StorageFleet
