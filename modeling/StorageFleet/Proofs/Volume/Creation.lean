import Mathlib
import StorageFleet.Proofs.Rack.Site

/-!
# Creating a volume, again and side by side

Requests that differ in size only run side by side on a rack, step by step in any order.  As long as
nobody has tried to make the filesystem, a request is either on its way to it or about to make it,
and the rack is as it was or has the snapshot in addition (`Site.Early`).  The step that makes the
filesystem settles everything: from then on, or if nobody can make it, each request is bound for its
result (`Site.Late`).  `Site.Early.step` is the step lemma and `Site.Early.run` the lemma about
whole runs.

`concurrent_creation` says what requests side by side come to.  A request that is stopped and tried
again is a case of it, in which all but the last go no further (`resumed_creation`).
-/

namespace StorageFleet

section

variable {fleet : Fleet} {request : CreateVolumeRequest} {rack : Rack} {ι : Type}

/-- Requests that differ in size only. -/
def Fleet.creating (fleet : Fleet) (request : CreateVolumeRequest) (sizes : ι → Option Nat)
    (i : ι) : Plan (Except Fault Volume) :=
  (fleet.createVolume (request.sized (sizes i))).run

/-- The requests at their beginning, side by side. -/
def Fleet.together (fleet : Fleet) (request : CreateVolumeRequest) (rack : Rack)
    (sizes : ι → Option Nat) : Concert ι (Except Fault Volume) where
  rack
  plans := fleet.creating request sizes

namespace Site

/-- The appliance once its snapshot is there. -/
def ready (site : Site fleet request rack) : Simulated := (site.recipe.takeIn site.found).2

/-- The rack with another appliance in place of the one that was found. -/
def holding (site : Site fleet request rack) (a : Simulated) : Rack :=
  rack.set site.resolution.appliance.id a

/-- What is left of a request once the snapshot is there. -/
def making (site : Site fleet request rack) (size : Option Nat) : Plan (Except Fault Volume) :=
  site.recipe.making site.resolution (request.sized size)

/-- The plan only looks until it begins to follow the recipe. -/
def Looking (site : Site fleet request rack) (size : Option Nat)
    (plan : Plan (Except Fault Volume)) : Prop :=
  plan.Leads (rack.Near site.resolution.appliance.id)
    (site.recipe.carryOut site.resolution (request.sized size))

/-- The plan has not tried yet to make the filesystem. -/
def Ahead (site : Site fleet request rack) (size : Option Nat)
    (plan : Plan (Except Fault Volume)) : Prop :=
  site.Looking size plan ∨ plan = site.making size

variable {site : Site fleet request rack} {a b : Simulated} {size capacity : Option Nat}
  {plan : Plan (Except Fault Volume)}

lemma holding_here : site.holding a site.resolution.appliance.id = some a :=
  Rack.set_self ..

lemma set_holding : (site.holding a).set site.resolution.appliance.id b = site.holding b :=
  Rack.set_set ..

/-- Once the snapshot is there it is not taken again. -/
lemma takeIn_eq (hgrows : site.ready.Grows a) : site.recipe.takeIn a = (.ok (), a) :=
  Recipe.takeIn_of_grows site.taken hgrows

lemma near_holding (hgrows : site.ready.Grows a) :
    rack.Near site.resolution.appliance.id (site.holding a) :=
  Rack.near_set site.here (Recipe.takeIn_grows.trans hgrows)

/-- Where the snapshot is there, only the making is left. -/
lemma Ahead.leads_making (h : site.Ahead size plan) (hgrows : site.ready.Grows a) :
    plan.Leads (· = site.holding a) (site.making size) := by
  rcases h with hlooking | rfl
  · have hhere : ∀ other, other = site.holding a →
        rack.Near site.resolution.appliance.id other := by
      rintro _ rfl
      exact near_holding hgrows
    exact (Plan.Leads.mono hlooking hhere).trans
      (Recipe.carryOut_leads holding_here (takeIn_eq hgrows))
  · exact .here

lemma exec_holding (hgrows : site.ready.Grows a) (size : Option Nat) :
    (fleet.createVolume (request.sized size)).run.exec (site.holding a) =
      (site.making size).exec (site.holding a) := by
  have hahead : site.Ahead size (fleet.createVolume (request.sized size)).run :=
    .inl (site.leads size)
  exact (hahead.leads_making hgrows).exec_eq rfl

/-- The snapshot is all that was missing for the making. -/
lemma exec_eq (site : Site fleet request rack) (size : Option Nat) :
    (fleet.createVolume (request.sized size)).run.exec rack =
      (site.making size).exec (site.holding site.ready) := by
  rw [(site.leads size).exec_eq (Rack.near_self site.here)]
  exact Recipe.exec_carryOut site.here site.taken

/-- Where nobody can make the filesystem, a request is bound for the result of a whole run. -/
lemma Ahead.bound (h : site.Ahead size plan) (hgrows : site.ready.Grows a)
    (same : ∀ capacity, (site.recipe.makeIn capacity a).2 = a) :
    plan.Leads (· = site.holding a)
      (.done ((fleet.createVolume (request.sized size)).run.exec (site.holding a)).1) := by
  rw [exec_holding hgrows]
  exact (h.leads_making hgrows).trans (Recipe.making_rests holding_here (same _))

/-- A request that is made after the filesystem was. -/
lemma exec_of_made (made : site.recipe.Made site.ready capacity b) (size : Option Nat) :
    (fleet.createVolume (request.sized size)).run.exec (site.holding b) =
      (site.recipe.verdict site.resolution (request.sized size) (capacity.getD 0),
        site.holding b) := by
  have honline : b.offline = false := by
    rw [made.grows.offline, ready, Recipe.takeIn_grows.offline, site.online]
  rw [exec_holding made.grows]
  exact Recipe.exec_making_of_found holding_here honline made

/-- The request that makes the filesystem might have found it instead. -/
lemma exec_eq_of_made (made : site.recipe.Made site.ready (request.sized size).capacity b) :
    (fleet.createVolume (request.sized size)).run.exec rack =
      (fleet.createVolume (request.sized size)).run.exec (site.holding b) := by
  rw [site.exec_eq, exec_of_made made, making,
    Recipe.exec_making_of_made holding_here made, set_holding]

/-! ## Side by side -/

variable {sizes : ι → Option Nat} {concert : Concert ι (Except Fault Volume)} {i : ι}

/-- Nobody has tried to make the filesystem. -/
structure Early (site : Site fleet request rack) (sizes : ι → Option Nat)
    (concert : Concert ι (Except Fault Volume)) : Prop where
  rack_eq : concert.rack = rack ∨ concert.rack = site.holding site.ready
  plans : ∀ j, site.Looking (sizes j) (concert.plans j) ∨
    concert.rack = site.holding site.ready ∧ concert.plans j = site.making (sizes j)
  creations : concert.creations = []

/-- Somebody has made the filesystem, or nobody can make it. -/
structure Late (site : Site fleet request rack) (sizes : ι → Option Nat)
    (concert : Concert ι (Except Fault Volume)) : Prop where
  settled : concert.Settled rack (fleet.creating request sizes)
  made : concert.rack = site.holding site.ready ∧ concert.creations = [] ∨
    ∃ entry b, concert.rack = site.holding b ∧ concert.creations = [entry] ∧
      entry.call.target? = some site.recipe.target ∧
      site.recipe.Made site.ready (request.sized (sizes entry.who)).capacity b

lemma Early.ahead (h : site.Early sizes concert) (j : ι) :
    site.Ahead (sizes j) (concert.plans j) :=
  (h.plans j).imp_right And.right

lemma Early.near (h : site.Early sizes concert) :
    rack.Near site.resolution.appliance.id concert.rack := by
  rcases h.rack_eq with heq | heq
  · rw [heq]
    exact Rack.near_self site.here
  · rw [heq]
    exact near_holding (.refl _)

/-- A concert has settled when nobody can make the filesystem and each plan is bound for its
result. -/
lemma settled_of_same (hgrows : site.ready.Grows a) (hrack : concert.rack = site.holding a)
    (same : ∀ capacity, (site.recipe.makeIn capacity a).2 = a)
    (bound : ∀ j, (concert.plans j).Leads (· = site.holding a)
      (.done ((fleet.creating request sizes j).exec (site.holding a)).1))
    (reached : (fleet.creating request sizes i).exec rack =
      (fleet.creating request sizes i).exec (site.holding a)) :
    concert.Settled rack (fleet.creating request sizes) where
  rests j := by
    rw [hrack]
    have hwhole : site.Ahead (sizes j) (fleet.creating request sizes j) := .inl (site.leads _)
    exact hwhole.bound hgrows same
  bound j := by
    rw [hrack]
    exact bound j
  reached := by
    rw [hrack]
    exact .inr ⟨i, reached⟩

/-- Where somebody is about to fail to make the filesystem, it is late already. -/
lemma Early.late_of_fails (h : site.Early sizes concert) (i : ι)
    (hrack : concert.rack = site.holding site.ready) {fault : Fault}
    (hfails : ∀ capacity, site.recipe.makeIn capacity site.ready = (.error fault, site.ready)) :
    site.Late sizes concert where
  settled := by
    have hsame : ∀ capacity, (site.recipe.makeIn capacity site.ready).2 = site.ready :=
      fun capacity => by rw [hfails]
    have hreached : (fleet.creating request sizes i).exec rack =
        (fleet.creating request sizes i).exec (site.holding site.ready) :=
      (site.exec_eq (sizes i)).trans (exec_holding (.refl _) (sizes i)).symm
    exact settled_of_same (.refl _) hrack hsame (fun j => (h.ahead j).bound (.refl _) hsame)
      hreached
  made := .inl ⟨hrack, h.creations⟩

/-- At the beginning. -/
lemma early_start (site : Site fleet request rack) (sizes : ι → Option Nat) :
    site.Early sizes (fleet.together request rack sizes) where
  rack_eq := .inl rfl
  plans j := .inl (site.leads (sizes j))
  creations := rfl

/-- A plan that has not tried yet to make the filesystem is not done. -/
lemma Ahead.ne_done (h : site.Ahead size plan) (result : Except Fault Volume) :
    plan ≠ .done result := by
  have hmaking : site.making size ≠ .done result := by
    obtain ⟨call, read, -, -, hmake⟩ :=
      site.recipe.make_eq_call site.resolution (request.sized size).capacity
    rw [making, Recipe.making, hmake]
    rintro ⟨⟩
  rintro rfl
  rcases h with hlooking | hplan
  · have hcarryOut := Plan.Leads.eq_of_done hlooking
    cases htaken : site.recipe.taken with
    | none =>
      rw [Recipe.carryOut, Recipe.take, htaken] at hcarryOut
      exact hmaking hcarryOut
    | some snapshot =>
      rw [Recipe.carryOut, Recipe.take, htaken] at hcarryOut
      cases hcarryOut
  · exact hmaking hplan.symm

/-- As long as it is early nobody is done. -/
lemma Early.not_done (h : site.Early sizes concert) (i : ι) (result : Except Fault Volume) :
    concert.plans i ≠ .done result :=
  (h.ahead i).ne_done result

lemma Late.length_creations_le (h : site.Late sizes concert) : concert.creations.length ≤ 1 := by
  rcases h.made with ⟨-, hnone⟩ | ⟨_, _, -, hone, -⟩
  · rw [hnone]
    exact Nat.zero_le 1
  · rw [hone]
    exact Nat.le_refl 1

/-- Once the filesystem was made, everybody who is done has found it. -/
lemma Late.result_eq (h : site.Late sizes concert) {made : Concert.Entry ι}
    (hmade : made ∈ concert.creations) : made.call.target? = some site.recipe.target ∧
    ∀ i result, concert.plans i = .done result → result = site.recipe.verdict site.resolution
      (request.sized (sizes i)) ((request.sized (sizes made.who)).capacity.getD 0) := by
  rcases h.made with ⟨-, hnone⟩ | ⟨entry, b, hrack, hone, htarget, hb⟩
  · rw [hnone] at hmade
    cases hmade
  · rw [hone, List.mem_singleton] at hmade
    subst hmade
    refine ⟨htarget, fun i result hdone => ?_⟩
    rw [← h.settled.result_eq hdone, hrack, Fleet.creating, exec_of_made hb]

/-! ## Steps and runs -/

variable [DecidableEq ι]

lemma Late.step (h : site.Late sizes concert) (i : ι) : site.Late sizes (concert.step i) := by
  obtain ⟨hsettled, hrack, hcreations⟩ := h.settled.step i
  refine ⟨hsettled, ?_⟩
  rw [hrack, hcreations]
  exact h.made

/-- The step that makes the filesystem. -/
lemma Early.step_of_made (h : site.Early sizes concert)
    (hrack : concert.rack = site.holding site.ready)
    (hplan : concert.plans i = site.making (sizes i))
    (made : site.recipe.Made site.ready (request.sized (sizes i)).capacity b) :
    site.Late sizes (concert.step i) := by
  obtain ⟨call, read, htarget, hread, hmake⟩ :=
    site.recipe.make_eq_call site.resolution (request.sized (sizes i)).capacity
  have hexec : (site.recipe.make site.resolution (request.sized (sizes i)).capacity).exec
      concert.rack = (.ok (), site.holding b) := by
    rw [hrack, Recipe.exec_make holding_here, made.outcome, set_holding]
  have hstep := Concert.step_of_call hplan hmake
  rw [hexec] at hstep
  have hok : (concert.rack.answer site.resolution.appliance call).1.isOk = true := by
    rw [← hread]
    rw [hmake] at hexec
    exact congrArg Except.isOk (congrArg Prod.fst hexec)
  have hafter : ∀ capacity, (site.recipe.makeIn capacity b).2 = b :=
    fun capacity => congrArg Prod.snd (made.again capacity)
  rw [hstep]
  refine ⟨settled_of_same made.grows rfl hafter (fun j => ?_) (exec_eq_of_made made),
    .inr ⟨⟨i, site.resolution.appliance, call, true⟩, b, rfl, ?_, htarget, made⟩⟩
  · by_cases hj : j = i
    · subst hj
      dsimp only
      rw [Function.update_self, Recipe.conclude_run, Fleet.creating, exec_of_made made,
        Recipe.verdict_own]
      exact .here
    · dsimp only
      rw [Function.update_of_ne hj]
      exact (h.ahead j).bound made.grows hafter
  · rw [Concert.creations_cons, if_pos (by simp [htarget, hok]), h.creations, hok]

/-- Whoever tries to make the filesystem makes it, or nobody can. -/
lemma Early.step_of_making (h : site.Early sizes concert)
    (hrack : concert.rack = site.holding site.ready)
    (hplan : concert.plans i = site.making (sizes i)) : site.Late sizes (concert.step i) := by
  rcases site.recipe.makeIn_cases site.ready with ⟨fault, hfails⟩ | hmakes
  · exact (h.late_of_fails i hrack hfails).step i
  · obtain ⟨b, made⟩ := hmakes (request.sized (sizes i)).capacity
    exact h.step_of_made hrack hplan made

/-- What a step of a plan does that leaves the filesystem alone. -/
lemma Early.update (h : site.Early sizes concert) {after : Concert ι (Except Fault Volume)}
    (hplans : after.plans = Function.update concert.plans i plan)
    (hrack : after.rack = concert.rack ∨ after.rack = site.holding site.ready)
    (hplan : site.Looking (sizes i) plan ∨
      after.rack = site.holding site.ready ∧ plan = site.making (sizes i))
    (hcreations : after.creations = concert.creations) : site.Early sizes after where
  rack_eq := by
    rcases hrack with heq | heq
    · rw [heq]
      exact h.rack_eq
    · exact .inr heq
  plans j := by
    rw [hplans]
    by_cases hj : j = i
    · subst hj
      rw [Function.update_self]
      exact hplan
    · rw [Function.update_of_ne hj]
      rcases h.plans j with hlooking | ⟨hready, hmaking⟩
      · exact .inl hlooking
      · exact .inr ⟨hrack.elim (fun heq => heq.trans hready) id, hmaking⟩
  creations := hcreations.trans h.creations

/-- The first step of the recipe. -/
lemma Early.step_of_carryOut (h : site.Early sizes concert)
    (hplan : concert.plans i = site.recipe.carryOut site.resolution (request.sized (sizes i))) :
    site.Early sizes (concert.step i) ∨ site.Late sizes (concert.step i) := by
  cases htaken : site.recipe.taken with
  | none =>
    have hready : site.holding site.ready = rack := by
      rw [holding, ready, Recipe.takeIn_of_none htaken]
      exact Rack.set_eq_self site.here
    have hrack : concert.rack = site.holding site.ready :=
      h.rack_eq.elim (fun heq => heq.trans hready.symm) id
    have hmaking : site.recipe.carryOut site.resolution (request.sized (sizes i)) =
        site.making (sizes i) := by
      rw [Recipe.carryOut, Recipe.take, htaken]
      rfl
    exact .inr (h.step_of_making hrack (hplan.trans hmaking))
  | some snapshot =>
    have htake : site.recipe.take site.resolution = .call site.resolution.appliance
        (.createSnapshot snapshot) fun outcome => .done (Fleet.tolerateExisting outcome) := by
      rw [Recipe.take, htaken]
    have hexec : (site.recipe.take site.resolution).exec concert.rack =
        (.ok (), site.holding site.ready) := by
      rcases h.rack_eq with heq | heq
      · rw [heq, Recipe.exec_take site.here, site.taken]
        rfl
      · rw [heq, Recipe.exec_take holding_here, takeIn_eq (.refl _), set_holding]
    have hstep := Concert.step_of_call hplan htake
    rw [hexec] at hstep
    refine .inl (h.update (congrArg Concert.plans hstep) (.inr (congrArg Concert.rack hstep))
      (.inr ⟨congrArg Concert.rack hstep, rfl⟩) ?_)
    rw [hstep, Concert.creations_cons, if_neg (by simp [Call.target?])]

/-- One step: it looks, takes the snapshot, or tries to make the filesystem. -/
lemma Early.step (h : site.Early sizes concert) (i : ι) :
    site.Early sizes (concert.step i) ∨ site.Late sizes (concert.step i) := by
  rcases h.plans i with hlooking | ⟨hrack, hplan⟩
  · rcases Concert.step_of_leads hlooking h.near with
      hplan | ⟨after, hafter, hplans, hrack, hcreations⟩
    · exact h.step_of_carryOut hplan
    · exact .inl (h.update hplans (.inl hrack) (.inl hafter) hcreations)
  · exact .inr (h.step_of_making hrack hplan)

/-- A whole run. -/
theorem Early.run (h : site.Early sizes concert) (schedule : List ι) :
    site.Early sizes (concert.run schedule) ∨ site.Late sizes (concert.run schedule) := by
  have hrun : ∀ concert : Concert ι (Except Fault Volume),
      site.Early sizes concert ∨ site.Late sizes concert →
      site.Early sizes (concert.run schedule) ∨ site.Late sizes (concert.run schedule) := by
    induction schedule with
    | nil => exact fun _ h => h
    | cons i rest ih =>
      intro concert h
      apply ih
      rcases h with h | h
      · exact h.step i
      · exact .inr (h.step i)
  exact hrun concert (.inl h)

end Site

/-- What becomes of requests side by side: either none of them ever changes the rack, or they have a
site. -/
theorem Fleet.Apart.course [DecidableEq ι] (apart : fleet.Apart) (request : CreateVolumeRequest)
    (rack : Rack) (sizes : ι → Option Nat) :
    (∀ schedule,
      ((fleet.together request rack sizes).run schedule).Settled rack
        (fleet.creating request sizes) ∧
      ((fleet.together request rack sizes).run schedule).rack = rack ∧
      ((fleet.together request rack sizes).run schedule).creations = []) ∨
    ∃ site : Site fleet request rack, ∀ schedule,
      site.Early sizes ((fleet.together request rack sizes).run schedule) ∨
      site.Late sizes ((fleet.together request rack sizes).run schedule) := by
  rcases apart.rests_or_site request rack with hrests | ⟨⟨site⟩⟩
  · have hsettled : (fleet.together request rack sizes).Settled rack
        (fleet.creating request sizes) :=
      ⟨fun i => hrests (sizes i), fun i => hrests (sizes i), .inl rfl⟩
    exact .inl hsettled.run
  · exact .inr ⟨site, (site.early_start sizes).run⟩

/-- Requests that are all done while it is early are none. -/
lemma Site.Early.serial {site : Site fleet request rack} {n : Nat} {sizes : Fin n → Option Nat}
    {schedule : List (Fin n)} {results : Fin n → Except Fault Volume}
    (h : site.Early sizes ((fleet.together request rack sizes).run schedule))
    (finished : ∀ i,
      ((fleet.together request rack sizes).run schedule).plans i = .done (results i)) :
    ∃ order : List (Fin n), order.Perm (List.finRange n) ∧
      Plan.serially (fleet.creating request sizes) order rack =
        (order.map fun i => (i, results i),
          ((fleet.together request rack sizes).run schedule).rack) := by
  have hempty : ∀ order : List (Fin n), order = [] := fun order =>
    List.eq_nil_iff_forall_not_mem.2 fun i _ => h.not_done i _ (finished i)
  refine ⟨[], by rw [hempty (List.finRange n)], ?_⟩
  rw [hempty schedule]
  rfl

/-! ## Snapshots left behind -/

/-- The later rack has no more snapshots than the first but for one at most. -/
def Rack.Gains (rack later : Rack) (place : Nat) (path : String) : Prop :=
  ∀ id a snapshot, later id = some a → a.snapshots.contains snapshot = true →
    (∃ before, rack id = some before ∧ before.snapshots.contains snapshot = true) ∨
      id = place ∧ snapshot = path

lemma Rack.gains_self (rack : Rack) (place : Nat) (path : String) :
    rack.Gains rack place path :=
  fun _ a _ hthere hsnapshot => .inl ⟨a, hthere, hsnapshot⟩

namespace Site

variable {site : Site fleet request rack} {a : Simulated} {sizes : ι → Option Nat}
  {concert : Concert ι (Except Fault Volume)}

lemma gains_holding (h : ∀ path, a.snapshots.contains path = true →
      site.ready.snapshots.contains path = true) :
    rack.Gains (site.holding a) site.resolution.appliance.id
      (request.transient site.resolution) := by
  intro id other snapshot hother hsnapshot
  by_cases hid : id = site.resolution.appliance.id
  · rw [hid, holding_here] at hother
    cases hother
    rcases Recipe.contains_of_takeIn (h snapshot hsnapshot) with hbefore | htaken
    · exact .inl ⟨site.found, by rw [hid, site.here], hbefore⟩
    · exact .inr ⟨hid, site.named snapshot htaken⟩
  · rw [holding, Rack.set_of_ne hid] at hother
    exact .inl ⟨other, hother, hsnapshot⟩

lemma Early.gains (h : site.Early sizes concert) : rack.Gains concert.rack
    site.resolution.appliance.id (request.transient site.resolution) := by
  rcases h.rack_eq with heq | heq
  · rw [heq]
    exact rack.gains_self _ _
  · rw [heq]
    exact gains_holding fun _ h => h

lemma Late.gains (h : site.Late sizes concert) : rack.Gains concert.rack
    site.resolution.appliance.id (request.transient site.resolution) := by
  rcases h.made with ⟨heq, -⟩ | ⟨entry, b, heq, -, -, made⟩
  · rw [heq]
    exact gains_holding fun _ h => h
  · rw [heq]
    exact gains_holding made.snapshots

end Site

/-- No more than one snapshot is left behind, and always the same. -/
lemma Fleet.Apart.exists_gains [DecidableEq ι] (apart : fleet.Apart)
    (request : CreateVolumeRequest) (rack : Rack) (sizes : ι → Option Nat) :
    ∃ place dataset, ∀ schedule,
      rack.Gains ((fleet.together request rack sizes).run schedule).rack place
        (dataset ++ "@" ++ cloneSnapshotStart ++ request.name) := by
  rcases apart.course request rack sizes with hsettled | ⟨site, hstage⟩
  · refine ⟨0, "", fun schedule => ?_⟩
    rw [(hsettled schedule).2.1]
    exact rack.gains_self _ _
  · exact ⟨site.resolution.appliance.id, site.resolution.path, fun schedule =>
      (hstage schedule).elim Site.Early.gains Site.Late.gains⟩

/-! ## One more request -/

/-- Where requests of one size have got to, another one does what it would have done at the
beginning. -/
lemma Fleet.Apart.exec_again [DecidableEq ι] (apart : fleet.Apart)
    (request : CreateVolumeRequest) (rack : Rack) (size : Option Nat) (schedule : List ι) :
    (fleet.createVolume (request.sized size)).run.exec
        ((fleet.together request rack fun _ : ι => size).run schedule).rack =
      (fleet.createVolume (request.sized size)).run.exec rack := by
  have hsettled : ∀ {concert : Concert ι (Except Fault Volume)},
      concert.Settled rack (fleet.creating request fun _ => size) →
      (fleet.createVolume (request.sized size)).run.exec concert.rack =
        (fleet.createVolume (request.sized size)).run.exec rack := by
    intro concert h
    rcases h.reached with heq | ⟨i, heq⟩
    · rw [heq]
    · exact heq.symm
  rcases apart.course request rack fun _ : ι => size with hnever | ⟨site, hstage⟩
  · exact hsettled (hnever schedule).1
  · rcases hstage schedule with hearly | hlate
    · rcases hearly.rack_eq with heq | heq
      · rw [heq]
      · rw [heq, Site.exec_holding (.refl _), site.exec_eq]
    · exact hsettled hlate.settled

end

/-! ## A volume to clone -/

namespace SourceInWest

lemma nonempty (appliance : ApplianceRef) : [appliance] ≠ [] := by
  simp

def backend (name : String) (appliance : ApplianceRef) : Backend where
  name
  config := { restIp := appliance.endpoint, username := "admin", password := "secret" }
  appliances := [appliance]
  nonempty := nonempty appliance

def east : Backend := backend "east" ⟨0, "https://east"⟩

def west : Backend := backend "west" ⟨1, "https://west"⟩

def fleet : Fleet where
  backends := [east, west]

/-- Only the second appliance has the source. -/
def rack : Rack
  | 0 => some (.ofContents "https://east" [("pool", 0)] [])
  | 1 => some (.ofContents "https://west" [("pool", 0), ("pool/source", 7)] [])
  | _ => none

def request : CreateVolumeRequest where
  name := "copy"
  capacityBytes := some 5
  parameters := { dataset := some "pool" }
  source := some (.volume "pool/source")

/-- Three sizes; two of the requests fit each other. -/
def sizes : Fin 3 → Option Nat
  | 0 => none
  | 1 => some 5
  | 2 => some 6

/-- What is made with the second of the sizes. -/
def volume : Volume := .of west "pool/copy" 5 request.parameters

def results : Fin 3 → Except Fault Volume
  | 0 => .ok volume
  | 1 => .ok volume
  | 2 => .error (.sizeMismatch "copy" 5 6)

/-- The second request makes the filesystem while the others are on their way. -/
def concert : Concert (Fin 3) (Except Fault Volume) :=
  (fleet.together request rack sizes).run
    [0, 0, 1, 1, 2, 2, 2, 1, 0, 1, 2, 0, 0, 2]

lemma apart : fleet.Apart := by
  simp [Fleet.Apart, fleet, east, west, backend]

end SourceInWest

/-! ## The results -/

/-- A request that was stopped any number of times, each time after any number of its calls, comes
to the same result and the same rack as if it had not been stopped, and so does one that is made
again after it was done.  At most one snapshot is left that was not there before. -/
theorem resumed_creation (fleet : Fleet) (apart : fleet.Apart) (request : CreateVolumeRequest)
    (rack : Rack) :
    let create := (fleet.createVolume request).run
    let stopped := fun stops : List Nat => stops.foldl (fun rack k => create.upTo k rack) rack
    (∀ stops, create.exec (stopped stops) = create.exec rack) ∧
    create.exec (create.exec rack).2 = create.exec rack ∧
    ∃ place dataset, ∀ stops, rack.Gains (stopped stops) place
      (dataset ++ "@" ++ cloneSnapshotStart ++ request.name) := by
  intro create stopped
  -- Every stopped run is a copy of the request that is scheduled no more.
  have hstopped : ∀ stops, ∃ schedule, ((fleet.together request rack fun _ : Nat =>
      request.capacityBytes).run schedule).rack = stopped stops :=
    Concert.exists_schedule_resumed _ 0 fun _ _ => rfl
  have hsame : ∀ stops, create.exec (stopped stops) = create.exec rack := by
    intro stops
    obtain ⟨schedule, hschedule⟩ := hstopped stops
    rw [← hschedule]
    exact apart.exec_again request rack request.capacityBytes schedule
  have hfinished : stopped [create.calls rack] = (create.exec rack).2 :=
    create.upTo_calls rack
  obtain ⟨place, dataset, hgains⟩ :=
    apart.exists_gains request rack fun _ : Nat => request.capacityBytes
  refine ⟨hsame, ?_, place, dataset, fun stops => ?_⟩
  · rw [← hfinished]
    exact hsame _
  · obtain ⟨schedule, hschedule⟩ := hstopped stops
    rw [← hschedule]
    exact hgains schedule

/-- The request is stopped once it has taken the snapshot, and tried again. -/
theorem resumed_creation_clone :
    let create := (SourceInWest.fleet.createVolume SourceInWest.request).run
    (create.upTo 3 SourceInWest.rack 1).map (fun a => (a.filesystems.keys, a.snapshots.keys)) =
      some (["pool", "pool/source"], ["pool/source@k8s-clone-snapshot-copy"]) ∧
    create.exec (create.upTo 3 SourceInWest.rack) = create.exec SourceInWest.rack ∧
    (create.exec SourceInWest.rack).1 = .ok SourceInWest.volume :=
  ⟨rfl, (resumed_creation SourceInWest.fleet SourceInWest.apart SourceInWest.request
    SourceInWest.rack).1 [3], rfl⟩

/-- Requests that differ in size only, side by side in any order, come to what they come to one
after the other in some order.  At most one of them makes the filesystem, and then those that ask
for its size or for none get the volume, and those that ask for another size are refused. -/
theorem concurrent_creation (fleet : Fleet) (apart : fleet.Apart) (request : CreateVolumeRequest)
    (rack : Rack) {n : Nat} (sizes : Fin n → Option Nat) (schedule : List (Fin n)) :
    let start := fleet.together request rack sizes
    let concert := start.run schedule
    let asked := fun i => (request.sized (sizes i)).capacity
    concert.creations.length ≤ 1 ∧
    (∃ more, ∀ i, ∃ result, (start.run (schedule ++ more)).plans i = .done result) ∧
    ∀ results : Fin n → Except Fault Volume, (∀ i, concert.plans i = .done (results i)) →
      (∃ order : List (Fin n), order.Perm (List.finRange n) ∧
        Plan.serially (fleet.creating request sizes) order rack =
          (order.map fun i => (i, results i), concert.rack)) ∧
      ∀ made ∈ concert.creations, ∃ backend path, made.call.target? = some path ∧
        let size := (asked made.who).getD 0
        ∀ i,
          (asked i = none ∨ asked i = some size →
            results i = .ok (Volume.of backend path size request.parameters)) ∧
          ∀ other, asked i = some other → other ≠ size →
            results i = .error (.sizeMismatch request.name size other) := by
  intro start concert asked
  have hmore : ∃ more, ∀ i, ∃ result, (start.run (schedule ++ more)).plans i = .done result := by
    obtain ⟨more, hdone⟩ := Concert.exists_schedule_done concert
    refine ⟨more, ?_⟩
    rw [Concert.run_append]
    exact hdone
  rcases apart.course request rack sizes with hnever | ⟨site, hstage⟩
  · obtain ⟨hsettled, -, hnone⟩ := hnever schedule
    rw [hnone]
    exact ⟨Nat.zero_le 1, hmore, fun results finished =>
      ⟨hsettled.serial finished, fun _ hmade => nomatch hmade⟩⟩
  · rcases hstage schedule with hearly | hlate
    · rw [hearly.creations]
      exact ⟨Nat.zero_le 1, hmore, fun results finished =>
        ⟨hearly.serial finished, fun _ hmade => nomatch hmade⟩⟩
    · refine ⟨hlate.length_creations_le, hmore, fun results finished =>
        ⟨hlate.settled.serial finished, fun made hmade => ?_⟩⟩
      obtain ⟨htarget, hresult⟩ := hlate.result_eq hmade
      refine ⟨site.resolution.backend, site.recipe.target, htarget, fun i => ?_⟩
      rw [hresult i _ (finished i)]
      exact ⟨fun hfits => Recipe.verdict_of_fits hfits,
        fun other hasked hne => Recipe.verdict_of_ne hasked hne⟩

/-- The second of three requests makes the filesystem, the first finds it, and the third asks for
another size. -/
theorem concurrent_creation_three :
    SourceInWest.concert.creations.map (fun made => (made.who, made.call.target?)) =
      [(1, some "pool/copy")] ∧
    (∀ i, SourceInWest.concert.plans i = .done (SourceInWest.results i)) ∧
    ∃ order : List (Fin 3), order.Perm (List.finRange 3) ∧
      Plan.serially (SourceInWest.fleet.creating SourceInWest.request SourceInWest.sizes) order
        SourceInWest.rack =
          (order.map fun i => (i, SourceInWest.results i), SourceInWest.concert.rack) := by
  have finished : ∀ i, SourceInWest.concert.plans i = .done (SourceInWest.results i) := by
    intro i
    match i with
    | 0 => cbv
    | 1 => cbv
    | 2 => cbv
  exact ⟨by cbv, finished, ((concurrent_creation SourceInWest.fleet SourceInWest.apart
    SourceInWest.request SourceInWest.rack SourceInWest.sizes _).2.2 _ finished).1⟩

end StorageFleet
