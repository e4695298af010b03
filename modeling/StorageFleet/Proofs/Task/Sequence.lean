import StorageFleet.Proofs.Task.Playback

/-!
# Tasks one after the other

A path of `task.bind next` is a path of `task`, and once `task` has ended, a path of what comes
next.  `Runner.bind` is the residual: the runner of `task.bind next` while `task` is under way.
`Runner.Does.of_bind` takes a single step apart and `Runner.Path.of_bind` a whole path.

A time limit that a task sets may outlast it.  `Tidy` rules that out: a tidy task has lifted its
limits when it is done, so what comes next starts as if nothing had come before.  Everything that a
client does is tidy (`tidy_answer`).  `Sends` is what all requests of a task have in common.

`Task.Yields` is the result of it: a task can end with a result, after these events.
`Yields.of_bind` and `Exchange.yields_bind` are how the modules about a program read it, one step of
the program after the other.
-/

namespace StorageFleet
open StorageFleet.Task (Event Stage Runner)

namespace Task

/-! ## Steps of a sequence -/

/-- Where a task stands that goes on with `next`. -/
def Stage.bind (next : α → Task β) : Stage α → Stage β
  | .ready task => .ready (task.bind next)
  | .waiting request rest => .waiting request fun answer => (rest answer).bind next
  | .gone => .gone

namespace Runner

/-- The runner of a task that goes on with `next`. -/
def bind (next : α → Task β) (runner : Runner α) : Runner β where
  stage := runner.stage.bind next
  late := runner.late.map fun task => task.bind next

variable {next : α → Task β} {session : Session} {free : Bool} {event : Event}

/-- A sequence can be cut off only where its first part can, until that has ended. -/
lemma suspended_of_bind {runner : Runner α} (undone : runner.result? = none)
    (h : (runner.stage.bind next).isSuspended = true) : runner.stage.isSuspended = true := by
  obtain ⟨stage, late⟩ := runner
  cases stage with
  | ready task =>
    cases task with
    | done result => simp [result?] at undone
    | _ => exact h
  | _ => exact h

/-- What is cut off in a sequence is cut off in its first part. -/
lemma CutOff.of_bind {late : Option (Task α)} {after : Runner β}
    (h : CutOff (late.map fun task => task.bind next) event after) :
    ∃ inner, CutOff late event inner ∧ after = inner.bind next := by
  cases h with
  | late hlate =>
    obtain ⟨task, rfl, rfl⟩ := Option.map_eq_some_iff.1 hlate
    exact ⟨⟨.ready task, none⟩, .late rfl, rfl⟩
  | dropped => exact ⟨⟨.gone, none⟩, .dropped, rfl⟩

/-- A step of a sequence whose first part has not ended is a step of that part. -/
lemma Does.of_bind {runner : Runner α} {after : Runner β} (undone : runner.result? = none)
    (does : Does session free (runner.bind next) event after) :
    ∃ inner, Does session free runner event inner ∧ after = inner.bind next := by
  have hsuspended : (runner.stage.bind next).isSuspended = true → runner.stage.isSuspended = true :=
    suspended_of_bind undone
  obtain ⟨stage, late⟩ := runner
  have hcut : (stage.bind next).isSuspended = true →
      CutOff (late.map fun task => task.bind next) event after →
      ∃ inner, Does session free ⟨stage, late⟩ event inner ∧ after = inner.bind next := by
    intro suspended cutOff
    obtain ⟨inner, hinner, rfl⟩ := cutOff.of_bind
    exact ⟨inner, .cut (hsuspended suspended) hinner, rfl⟩
  cases stage with
  | gone =>
    cases does with
    | cut suspended cutOff => exact hcut suspended cutOff
  | waiting request rest =>
    cases does with
    | answered answer => exact ⟨_, .answered answer, rfl⟩
    | cut suspended cutOff => exact hcut suspended cutOff
  | ready task =>
    cases task with
    | done result => simp [result?] at undone
    | perform =>
      cases does with
      | cut suspended cutOff => exact hcut suspended cutOff
    | acquire =>
      cases does with
      | acquired isFree => exact ⟨_, .acquired isFree, rfl⟩
      | cut suspended cutOff => exact hcut suspended cutOff
    | _ =>
      cases does
      case cut suspended cutOff => exact hcut suspended cutOff
      all_goals exact ⟨⟨_, _⟩, by constructor, rfl⟩

lemma stage_of_result? {runner : Runner α} {result : α} (h : runner.result? = some result) :
    runner.stage = .ready (.done result) := by
  obtain ⟨stage, late⟩ := runner
  cases stage with
  | ready task =>
    cases task with
    | done found =>
      cases h
      rfl
    | _ => cases h
  | _ => cases h

/-- A path of a sequence stays within the first part, or the first part ends on the way and the rest
is a path of what comes next. -/
lemma Path.of_bind {start : Runner α} {past : List Event} {runner : Runner β}
    (h : Path (start.bind next) past runner) :
    (∃ inner, Path start past inner ∧ inner.result? = none ∧ runner = inner.bind next) ∨
    ∃ later earlier inner result, past = later ++ earlier ∧ Path start earlier inner ∧
      inner.stage = .ready (.done result) ∧ Path (inner.bind next) later runner := by
  induction h with
  | here =>
    cases hresult : start.result? with
    | none => exact .inl ⟨start, .here, hresult, rfl⟩
    | some result => exact .inr ⟨[], [], start, result, rfl, .here, stage_of_result? hresult, .here⟩
  | @step past runner after session free event _ does ih =>
    rcases ih with ⟨inner, path, undone, rfl⟩ | ⟨later, earlier, inner, result, rfl, path, hstage,
      hlater⟩
    · obtain ⟨inner', hdoes, rfl⟩ := does.of_bind undone
      have path' : Path start (event :: past) inner' := .step path hdoes
      cases hresult : inner'.result? with
      | none => exact .inl ⟨inner', path', hresult, rfl⟩
      | some result =>
        exact .inr ⟨[], _, inner', result, rfl, path', stage_of_result? hresult, .here⟩
    · exact .inr ⟨event :: later, earlier, inner, result, rfl, path, hstage, .step hlater does⟩

end Runner

/-! ## Time limits that are lifted -/

/-- The task keeps its time limits in order: if it begins with one set just if `begins`, it ends
with one set just if `ends`, and so it does after a time limit has passed. -/
def Tidy (ends : Bool) : Bool → Task α → Prop
  | begins, .done _ => begins = ends
  | begins, .perform _ _ next => ∀ outcome, (next outcome).Tidy ends begins
  | begins, .send _ _ next => ∀ answer, (next answer).Tidy ends begins
  | begins, .session _ next => ∀ session, (next session).Tidy ends begins
  | _, .limit _ late next => late.Tidy ends false ∧ next.Tidy ends true
  | _, .unlimit next => next.Tidy ends false
  | begins, .acquire _ next | begins, .release _ next | begins, .settle _ _ next
  | begins, .sleep _ next | begins, .count _ next | begins, .warn _ next => next.Tidy ends begins

lemma Tidy.bind {task : Task α} {next : α → Task β} {begins between ends : Bool}
    (h : task.Tidy between begins) (hnext : ∀ result, (next result).Tidy ends between) :
    (task.bind next).Tidy ends begins := by
  induction task generalizing begins with
  | done result =>
    obtain rfl : begins = between := h
    exact hnext result
  | perform _ _ rest ih => exact fun outcome => ih outcome (h outcome)
  | send _ _ rest ih => exact fun answer => ih answer (h answer)
  | session _ rest ih => exact fun session => ih session (h session)
  | limit _ late rest ihLate ih => exact ⟨ihLate h.1, ih h.2⟩
  | unlimit _ ih => exact ih h
  | acquire _ _ ih | release _ _ ih | settle _ _ _ ih | sleep _ _ ih | count _ _ ih
  | warn _ _ ih => exact ih h

/-- A task that does not look at the clock leaves time limits alone. -/
lemma Untimed.tidy {task : Task α} (h : task.Untimed) (limited : Bool) :
    task.Tidy limited limited := by
  induction task with
  | done result => rfl
  | perform | sleep | limit | unlimit => exact h.elim
  | send _ _ next ih => exact fun answer => ih answer (h answer)
  | session _ next ih => exact fun session => ih session (h session)
  | acquire _ _ ih | release _ _ ih | settle _ _ _ ih | count _ _ ih | warn _ _ ih => exact ih h

/-- Where a task stands that keeps its time limits in order. -/
def Stage.Tidy (ends begins : Bool) : Stage α → Prop
  | .ready task => task.Tidy ends begins
  | .waiting _ next => ∀ answer, (next answer).Tidy ends begins
  | .gone => True

/-- A runner whose task keeps its time limits in order. -/
structure Runner.Tidy (ends : Bool) (runner : Runner α) : Prop where
  stage : runner.stage.Tidy ends runner.late.isSome
  late : ∀ task, runner.late = some task → task.Tidy ends false

lemma Runner.Tidy.next {runner after : Runner α} {ends : Bool} (h : runner.Tidy ends)
    {session : Session} {free : Bool} {event : Event}
    (does : Runner.Does session free runner event after) : after.Tidy ends := by
  obtain ⟨hstage, hlate⟩ := h
  have hnone : ∀ task : Task α, none = some task → task.Tidy ends false :=
    fun _ htask => nomatch htask
  cases does with
  | read => exact ⟨hstage _, hlate⟩
  | answered answer => exact ⟨hstage answer, hlate⟩
  | limited => exact ⟨hstage.2, fun _ htask => Option.some.inj htask ▸ hstage.1⟩
  | unlimited => exact ⟨hstage, hnone⟩
  | sent | acquired | settled | released | slept | counted | warned => exact ⟨hstage, hlate⟩
  | cut _ cutOff =>
    cases cutOff with
    | late h => exact ⟨hlate _ h, hnone⟩
    | dropped => exact ⟨trivial, hnone⟩

lemma Runner.Path.tidy {start runner : Runner α} {past : List Event} {ends : Bool}
    (h : Runner.Path start past runner) (hstart : start.Tidy ends) : runner.Tidy ends := by
  induction h with
  | here => exact hstart
  | step _ does ih => exact ih.next does

/-! ## Requests that may be sent -/

/-- Every request that the task may send satisfies `p`. -/
def Sends (p : Request → Prop) : Task α → Prop
  | .done _ => True
  | .perform _ _ next => ∀ outcome, (next outcome).Sends p
  | .send _ request next => p request ∧ ∀ answer, (next answer).Sends p
  | .session _ next => ∀ session, (next session).Sends p
  | .limit _ late next => late.Sends p ∧ next.Sends p
  | .acquire _ next | .release _ next | .settle _ _ next | .sleep _ next | .unlimit next
  | .count _ next | .warn _ next => next.Sends p

lemma Sends.bind {p : Request → Prop} {task : Task α} {next : α → Task β} (h : task.Sends p)
    (hnext : ∀ result, (next result).Sends p) : (task.bind next).Sends p := by
  induction task with
  | done result => exact hnext result
  | perform _ _ rest ih => exact fun outcome => ih outcome (h outcome)
  | send _ _ rest ih => exact ⟨h.1, fun answer => ih answer (h.2 answer)⟩
  | session _ rest ih => exact fun session => ih session (h session)
  | limit _ _ _ ihLate ih => exact ⟨ihLate h.1, ih h.2⟩
  | acquire _ _ ih | release _ _ ih | settle _ _ _ ih | sleep _ _ ih | unlimit _ ih
  | count _ _ ih | warn _ _ ih => exact ih h

/-- Where a task stands whose requests satisfy `p`. -/
def Stage.Sends (p : Request → Prop) : Stage α → Prop
  | .ready task => task.Sends p
  | .waiting _ next => ∀ answer, (next answer).Sends p
  | .gone => True

/-- A runner whose requests satisfy `p`. -/
structure Runner.Sends (p : Request → Prop) (runner : Runner α) : Prop where
  stage : runner.stage.Sends p
  late : ∀ task, runner.late = some task → task.Sends p

lemma Runner.Sends.next {p : Request → Prop} {runner after : Runner α} (h : runner.Sends p)
    {session : Session} {free : Bool} {event : Event}
    (does : Runner.Does session free runner event after) :
    after.Sends p ∧ ∀ request, event.sent? = some request → p request := by
  obtain ⟨hstage, hlate⟩ := h
  have hnone : ∀ task : Task α, none = some task → task.Sends p := fun _ htask => nomatch htask
  cases does with
  | read => exact ⟨⟨hstage _, hlate⟩, by simp⟩
  | sent => exact ⟨⟨hstage.2, hlate⟩, by simpa using hstage.1⟩
  | answered answer => exact ⟨⟨hstage answer, hlate⟩, by simp⟩
  | limited => exact ⟨⟨hstage.2, fun _ htask => Option.some.inj htask ▸ hstage.1⟩, by simp⟩
  | unlimited => exact ⟨⟨hstage, hnone⟩, by simp⟩
  | acquired | settled | released | slept | counted | warned =>
    exact ⟨⟨hstage, hlate⟩, by simp⟩
  | cut _ cutOff =>
    cases cutOff with
    | late h => exact ⟨⟨hlate _ h, hnone⟩, by simp⟩
    | dropped => exact ⟨⟨trivial, hnone⟩, by simp⟩

/-- What is sent along a path satisfies what every request of the task does. -/
lemma Runner.Path.sends {p : Request → Prop} {start runner : Runner α} {past : List Event}
    (h : Runner.Path start past runner) (hstart : start.Sends p) :
    runner.Sends p ∧ ∀ request, .sent request ∈ past → p request := by
  induction h with
  | here => exact ⟨hstart, by simp⟩
  | step _ does ih =>
    obtain ⟨hrunner, hpast⟩ := ih
    obtain ⟨hafter, hevent⟩ := hrunner.next does
    refine ⟨hafter, fun request hmem => ?_⟩
    rcases List.mem_cons.1 hmem with heq | hmem
    · exact hevent request (by rw [← heq]; rfl)
    · exact hpast request hmem

/-! ## Results -/

/-- The task can end with `result`, after these events, the latest first. -/
def Yields (task : Task α) (past : List Event) (result : α) : Prop :=
  Runner.Path (.start task) past ⟨.ready (.done result), none⟩

lemma yields_done {result found : α} {past : List Event}
    (h : (Task.done result).Yields past found) : past = [] ∧ found = result := by
  obtain ⟨rfl, hresult⟩ := Runner.Path.of_done h
  exact ⟨rfl, Option.some.inj hresult⟩

/-- A tidy task that is done has lifted its time limits. -/
lemma eq_of_path {task : Task α} (tidy : task.Tidy false false) {past : List Event}
    {runner : Runner α} {result : α} (h : Runner.Path (.start task) past runner)
    (hstage : runner.stage = .ready (.done result)) : runner = ⟨.ready (.done result), none⟩ := by
  have hends : runner.Tidy false := h.tidy ⟨tidy, fun _ htask => nomatch htask⟩
  obtain ⟨stage, late⟩ := runner
  obtain rfl : stage = .ready (.done result) := hstage
  have hlate : late.isSome = false := hends.stage
  rw [Option.isSome_eq_false_iff, Option.isNone_iff_eq_none] at hlate
  rw [hlate]

lemma Yields.sends {p : Request → Prop} {task : Task α} {past : List Event} {result : α}
    (h : task.Yields past result) (hsends : task.Sends p) (request : Request)
    (hmem : .sent request ∈ past) : p request :=
  (Runner.Path.sends h ⟨hsends, fun _ htask => nomatch htask⟩).2 request hmem

lemma yields_of_path {task : Task α} (tidy : task.Tidy false false) {past : List Event}
    {runner : Runner α} {result : α} (h : Runner.Path (.start task) past runner)
    (hresult : runner.result? = some result) : task.Yields past result := by
  have hrunner := eq_of_path tidy h (Runner.stage_of_result? hresult)
  rw [Yields, ← hrunner]
  exact h

/-- A sequence ends when its second part has ended, which begins when the first has. -/
lemma Yields.of_bind {task : Task α} {next : α → Task β} (tidy : task.Tidy false false)
    {past : List Event} {result : β} (h : (task.bind next).Yields past result) :
    ∃ later earlier value, past = later ++ earlier ∧ task.Yields earlier value ∧
      (next value).Yields later result := by
  have hpath : Runner.Path ((Runner.start task).bind next) past ⟨.ready (.done result), none⟩ := h
  rcases hpath.of_bind with
    ⟨inner, -, undone, hinner⟩ | ⟨later, earlier, inner, value, rfl, path, hstage, hlater⟩
  · obtain ⟨stage, late⟩ := inner
    have hstage : stage.bind next = .ready (.done result) := (congrArg Runner.stage hinner).symm
    cases stage with
    | ready task =>
      cases task with
      | done value => simp [Runner.result?] at undone
      | _ => cases hstage
    | _ => cases hstage
  · obtain rfl := eq_of_path tidy path hstage
    exact ⟨later, earlier, value, rfl, path, hlater⟩

end Task

/-! ## Exchanges -/

namespace Exchange

variable {first : Exchange α} {next : α → Exchange β}

lemma tidy_bind {begins between ends : Bool} (h : first.run.Tidy between begins)
    (hfailed : between = ends) (hnext : ∀ value, (next value).run.Tidy ends between) :
    (first >>= next).run.Tidy ends begins := by
  apply Task.Tidy.bind h
  rintro (fault | value)
  · exact hfailed
  · exact hnext value

lemma sends_bind {p : Request → Prop} (h : first.run.Sends p)
    (hnext : ∀ value, (next value).run.Sends p) : (first >>= next).run.Sends p := by
  apply Task.Sends.bind h
  rintro (fault | value)
  · trivial
  · exact hnext value

/-- An exchange fails with its first part, or goes on with what that has found. -/
lemma yields_bind (tidy : first.run.Tidy false false) {past : List Event}
    {outcome : Except Fault β} (h : (first >>= next).run.Yields past outcome) :
    (∃ fault, outcome = .error fault ∧ first.run.Yields past (.error fault)) ∨
    ∃ later earlier value, past = later ++ earlier ∧ first.run.Yields earlier (.ok value) ∧
      (next value).run.Yields later outcome := by
  obtain ⟨later, earlier, found, rfl, hfirst, hnext⟩ := Task.Yields.of_bind tidy h
  cases found with
  | error fault =>
    obtain ⟨rfl, rfl⟩ := Task.yields_done hnext
    exact .inl ⟨fault, rfl, hfirst⟩
  | ok value => exact .inr ⟨later, earlier, value, rfl, hfirst, hnext⟩

end Exchange
end StorageFleet
