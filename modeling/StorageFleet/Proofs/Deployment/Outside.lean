import StorageFleet.Proofs.Deployment.Setup

/-!
# What is behind the stations

An appliance in memory changes with the calls that are made to it, and a script of answers with the
requests that it has answered.  `Outside` is this part of a station, without what a client keeps on
this side.  In a step it changes by what a thread does at the station, or where a link turns to
another way of answering (`Next.outside`); so along a course in which no link turns, it is what the
deeds there have made of it (`Quiet.outside`).
-/

namespace StorageFleet

/-- What is behind a station. -/
inductive Outside where
  | memory (appliance : Simulated)
  | remote (link : Link)

namespace Outside

/-- What becomes of it with a deed of a thread. -/
def after : Outside → Deed → Outside
  | .memory appliance, .called call => .memory (appliance.step call).2
  | .remote link, .sent request => .remote (link.send request).2.2
  | outside, _ => outside

end Outside

/-- What is behind the station. -/
def Station.outside : Station → Outside
  | .simulated appliance => .memory appliance
  | .connected found => .remote found.link

/-- What has been done at a station. -/
def deedsAt (entries : List Entry) (station : Nat) : List Deed :=
  (entries.filter (·.station = station)).map Entry.deed

lemma deedsAt_append (entries others : List Entry) (station : Nat) :
    deedsAt (entries ++ others) station = deedsAt entries station ++ deedsAt others station := by
  simp [deedsAt]

namespace Deployment

variable {d : Deployment}

/-- What is behind a station; where there is none, nothing answers. -/
def outside (d : Deployment) (station : Nat) : Outside :=
  ((d.station? station).map Station.outside).getD (.remote .unreachable)

/-- A deed leaves alone what is behind other stations. -/
def outsideAfter (d : Deployment) (station : Nat) : Option (Nat × Deed) → Outside
  | some (place, deed) =>
    if station = place then (d.outside station).after deed else d.outside station
  | none => d.outside station

lemma outsideAfter_self (d : Deployment) (place : Nat) (deed : Deed) :
    d.outsideAfter place (some (place, deed)) = (d.outside place).after deed :=
  if_pos rfl

lemma outsideAfter_of_ne {station place : Nat} (h : station ≠ place) (deed : Deed) :
    d.outsideAfter station (some (place, deed)) = d.outside station :=
  if_neg h

lemma outside_employ (d : Deployment) (clients : List Client) (station : Nat) :
    (d.employ clients).outside station = d.outside station := by
  unfold outside station? employ
  by_cases hstation : station < d.stations.length
  · rw [List.getElem?_append_left hstation]
  · have hle := Nat.le_of_not_lt hstation
    rw [List.getElem?_append_right hle, List.getElem?_eq_none hle, List.getElem?_map]
    cases clients[station - d.stations.length]? <;> rfl

lemma outside_adjust_of_eq {id : Nat} {change : Connected → Connected}
    (hchange : ∀ connected, (change connected).link = connected.link) (station : Nat) :
    (d.adjust id change).outside station = d.outside station := by
  unfold outside
  rw [station?_adjust]
  split
  · cases d.station? station with
    | none => rfl
    | some found =>
      cases found with
      | simulated => rfl
      | connected connected => exact congrArg Outside.remote (hchange connected)
  · rfl

lemma outside_perform (d : Deployment) (appliance : ApplianceRef) (call : Call) (station : Nat) :
    (d.perform appliance call).2.outside station =
      d.outsideAfter station (some (appliance.id, .called call)) := by
  by_cases hplace : station = appliance.id
  · rw [hplace, outsideAfter_self, outside, outside, station?_perform, if_pos rfl]
    cases d.station? appliance.id with
    | none => rfl
    | some found => cases found <;> rfl
  · rw [outsideAfter_of_ne hplace, outside, outside, station?_perform, if_neg hplace]

lemma outside_send (d : Deployment) (appliance : ApplianceRef) (request : Request)
    (station : Nat) : (d.send appliance request).2.2.outside station =
      d.outsideAfter station (some (appliance.id, .sent request)) := by
  by_cases hplace : station = appliance.id
  · rw [hplace, outsideAfter_self, outside, outside, station?_send, station?_adjust, if_pos rfl]
    cases d.station? appliance.id with
    | none => rfl
    | some found => cases found <;> rfl
  · rw [outsideAfter_of_ne hplace, outside, outside, station?_send, station?_adjust, if_neg hplace]

lemma outside_abandonLocks (d : Deployment) (thread station : Nat) :
    (d.abandonLocks thread).outside station = d.outside station := by
  unfold outside
  rw [station?_abandonLocks]
  cases d.station? station with
  | none => rfl
  | some found => cases found <;> rfl

lemma outside_abandonAll (d : Deployment) (threads : List (Thread α)) (station : Nat) :
    (Thread.abandonAll d threads).outside station = d.outside station := by
  induction threads generalizing d with
  | nil => rfl
  | cons thread rest ih => exact (ih _).trans (d.outside_abandonLocks thread.id station)

/-- Deeds on this side of a station. -/
lemma outsideAfter_of_eq {deed : Deed} (hdeed : ∀ outside : Outside, outside.after deed = outside)
    (station place : Nat) : d.outsideAfter station (some (place, deed)) = d.outside station := by
  by_cases hplace : station = place
  · rw [hplace, outsideAfter_self, hdeed]
  · exact outsideAfter_of_ne hplace deed

end Deployment

/-- What a move changes behind the stations is what the thread does there. -/
lemma Thread.Moves.outside {d d' : Deployment} {thread thread' : Thread α}
    {deed : Option (Nat × Deed)} (h : thread.Moves d deed d' thread') (station : Nat) :
    d'.outside station = d.outsideAfter station deed := by
  cases h with
  | performs => exact d.outside_perform _ _ _
  | sends => exact d.outside_send _ _ _
  | reads | obtains =>
    exact (Deployment.outsideAfter_of_eq (by intro outside; cases outside <;> rfl) _ _).symm
  | acquires | releases | settles =>
    rw [Deployment.outsideAfter_of_eq (by intro outside; cases outside <;> rfl)]
    exact Deployment.outside_adjust_of_eq (by intro; rfl) _
  | queues => exact Deployment.outside_adjust_of_eq (by intro; rfl) _
  | lapses => exact d.outside_abandonLocks _ _
  | sleeps | limits | unlimits | counts | warns | done | wakes => rfl

namespace Scene

variable {start scene later : Scene} {entry : Option Entry} {entries : List Entry}

/-- What is behind a link answers in another way. -/
def turn (scene : Scene) (station : Nat) (link : Link) : Scene :=
  ⟨scene.deployment.adjust station fun connected => { connected with link }, scene.jobs,
    scene.active⟩

/-- A course of steps in which no link turns. -/
inductive Quiet (start : Scene) : List Entry → Scene → Prop where
  | here : Quiet start [] start
  | step {entries between entry later} (h : Quiet start entries between)
      (hnext : Next between entry later)
      (hquiet : ∀ station link, later = between.turn station link → later = between) :
      Quiet start (entries ++ entry.toList) later

/-- What is behind a station changes with the deeds there, and with turns of the link. -/
lemma Next.outside (h : Next scene entry later) (station : Nat) :
    later.deployment.outside station =
      (deedsAt entry.toList station).foldl Outside.after (scene.deployment.outside station) ∨
    entry = none ∧ ∃ place link, later = scene.turn place link := by
  cases h with
  | begins hbegins =>
    obtain ⟨connections, hbegun⟩ := hbegins.deployment_eq
    refine .inl ?_
    rw [hbegun]
    exact scene.deployment.outside_employ _ station
  | resumes | rests | cancels | waits | closes => exact .inl rfl
  | @moves d jobs active i job threads k thread deed d' thread' _ _ _ _ hmoves =>
    refine .inl ?_
    dsimp only
    rw [hmoves.outside]
    cases deed with
    | none => rfl
    | some done =>
      obtain ⟨place, deed⟩ := done
      by_cases hplace : station = place
      · rw [hplace, Deployment.outsideAfter_self]
        simp [deedsAt, Entry.of]
      · rw [Deployment.outsideAfter_of_ne hplace]
        simp [deedsAt, Entry.of, Ne.symm hplace]
  | @ends d jobs active i job threads parts =>
    obtain ⟨fleet, log, hfinish⟩ := job.work.finish_eq d parts
    refine .inl ?_
    dsimp only
    rw [hfinish]
    rfl
  | gives _ _ _ _ hcancelled =>
    obtain ⟨log, rfl⟩ := Work.cancelled_eq hcancelled
    exact .inl (Deployment.outside_abandonAll _ _ station)
  | turns place link => exact .inr ⟨rfl, place, link, rfl⟩

/-- Where no link turns, what is behind a station is what the deeds there have made of it, in the
order in which they were done. -/
theorem Quiet.outside (h : start.Quiet entries scene) (station : Nat) :
    scene.deployment.outside station =
      (deedsAt entries station).foldl Outside.after (start.deployment.outside station) := by
  induction h with
  | here => rfl
  | @step entries between entry later _ hnext hquiet ih =>
    rw [deedsAt_append, List.foldl_append, ← ih]
    rcases hnext.outside station with hafter | ⟨rfl, place, link, hturn⟩
    · exact hafter
    · rw [hquiet place link hturn]
      rfl

end Scene
end StorageFleet
