import Mathlib.Logic.Function.Basic
import Mathlib.Tactic.Common
import StorageFleet.Client.Job

/-!
# Tasks, step by step

A `Task` says what a program asks for, not when it is served.  Here a task moves in single steps.
A `Move` is what the surroundings let happen: the task goes on, the answer to its request comes
in, its time limit passes, or it is cut off.  `Runner.next` is the one step that a move leads to,
together with the `Event` that it leaves behind.

Nothing is assumed about the surroundings.  What a read of the session finds and whether the login
lock is free are arguments of `Runner.next`, answers are part of the move, and a task can be cut
off wherever it is suspended (`Stage.isSuspended`), never in between.

`Runner.Path` collects the events of many steps.  `EndsIn` describes the tails of tasks that are
decided already: whatever happens, they release, count and warn, and give the one result.
-/

namespace StorageFleet
namespace Task

/-- What a task does, or is told, in one step. -/
inductive Event where
  | read (session : Session)
  | sent (request : Request)
  | answered (answer : Except Fault Response)
  | acquired
  | settled (outcome : Except String String)
  | released
  | slept
  | limited
  | unlimited
  | counted (counter : Counter)
  | warned (line : String)
  /-- The time limit has passed, and what it covered is cut off. -/
  | late
  /-- The whole task is cut off. -/
  | dropped

namespace Event

@[simp] def sent? : Event → Option Request
  | .sent request => some request
  | _ => none

@[simp] def answered? : Event → Option (Except Fault Response)
  | .answered answer => some answer
  | _ => none

@[simp] def read? : Event → Option Session
  | .read found => some found
  | _ => none

@[simp] def counter? : Event → Option Counter
  | .counted counter => some counter
  | _ => none

@[simp] def line? : Event → Option String
  | .warned line => some line
  | _ => none

end Event

/-- How far a task has come. -/
inductive Stage (α : Type) where
  | ready (task : Task α)
  | waiting (request : Request) (next : Except Fault Response → Task α)
  | gone

/-- Whether a task can be cut off here: it waits for an answer, the session, the lock or a
moment. -/
def Stage.isSuspended : Stage α → Bool
  | .waiting .. => true
  | .ready (.session ..) | .ready (.send ..) | .ready (.acquire ..) | .ready (.sleep ..) => true
  | _ => false

/-- A task under way, and how it goes on if its time limit passes. -/
structure Runner (α : Type) where
  stage : Stage α
  late : Option (Task α) := none

/-- What the surroundings of a task let happen. -/
inductive Move where
  | go
  | answer (answer : Except Fault Response)
  | timeUp
  | drop

namespace Runner

/-- The runner of a task that has not begun. -/
def start (task : Task α) : Runner α where
  stage := .ready task

/-- The result, if the task is done. -/
def result? (runner : Runner α) : Option α :=
  match runner.stage with
  | .ready (.done result) => some result
  | _ => none

/-- The step of a task that goes on by itself. -/
def advance (session : Session) (free : Bool) (runner : Runner α) : Option (Event × Runner α) :=
  match runner.stage with
  | .ready (.session _ next) => some (.read session, ⟨.ready (next session), runner.late⟩)
  | .ready (.send _ request next) => some (.sent request, ⟨.waiting request next, runner.late⟩)
  | .ready (.acquire _ next) =>
    if free then some (.acquired, ⟨.ready next, runner.late⟩) else none
  | .ready (.release _ next) => some (.released, ⟨.ready next, runner.late⟩)
  | .ready (.settle _ outcome next) => some (.settled outcome, ⟨.ready next, runner.late⟩)
  | .ready (.sleep _ next) => some (.slept, ⟨.ready next, runner.late⟩)
  | .ready (.limit _ late next) => some (.limited, ⟨.ready next, some late⟩)
  | .ready (.unlimit next) => some (.unlimited, ⟨.ready next, none⟩)
  | .ready (.count counter next) => some (.counted counter, ⟨.ready next, runner.late⟩)
  | .ready (.warn line next) => some (.warned line, ⟨.ready next, runner.late⟩)
  | .ready (.done _) | .ready (.perform ..) | .waiting .. | .gone => none

/-- The step that a move leads to, if it leads to one: `session` is what a read of the session
finds, `free` whether the login lock is free. -/
def next (session : Session) (free : Bool) (runner : Runner α) :
    Move → Option (Event × Runner α)
  | .go => runner.advance session free
  | .answer answer => match runner.stage with
    | .waiting _ next => some (.answered answer, ⟨.ready (next answer), runner.late⟩)
    | _ => none
  | .timeUp => match runner.late with
    | some late => if runner.stage.isSuspended then some (.late, ⟨.ready late, none⟩) else none
    | none => none
  | .drop => if runner.stage.isSuspended then some (.dropped, ⟨.gone, none⟩) else none

/-- The steps that cut something off: what a time limit covers, or all. -/
inductive CutOff (late : Option (Task α)) : Event → Runner α → Prop where
  | late {task} (h : late = some task) : CutOff late .late ⟨.ready task, none⟩
  | dropped : CutOff late .dropped ⟨.gone, none⟩

/-- What a single step can be. -/
inductive Does (session : Session) (free : Bool) :
    Runner α → Event → Runner α → Prop where
  | read {appliance next late} : Does session free ⟨.ready (.session appliance next), late⟩
      (.read session) ⟨.ready (next session), late⟩
  | sent {appliance request next late} :
      Does session free ⟨.ready (.send appliance request next), late⟩
        (.sent request) ⟨.waiting request next, late⟩
  | answered {request next late} (answer) : Does session free ⟨.waiting request next, late⟩
      (.answered answer) ⟨.ready (next answer), late⟩
  | acquired {appliance next late} (isFree : free = true) :
      Does session free ⟨.ready (.acquire appliance next), late⟩ .acquired ⟨.ready next, late⟩
  | settled {appliance outcome next late} :
      Does session free ⟨.ready (.settle appliance outcome next), late⟩
        (.settled outcome) ⟨.ready next, late⟩
  | released {appliance next late} :
      Does session free ⟨.ready (.release appliance next), late⟩ .released ⟨.ready next, late⟩
  | slept {span next late} :
      Does session free ⟨.ready (.sleep span next), late⟩ .slept ⟨.ready next, late⟩
  | limited {span task next late} : Does session free ⟨.ready (.limit span task next), late⟩
      .limited ⟨.ready next, some task⟩
  | unlimited {next late} :
      Does session free ⟨.ready (.unlimit next), late⟩ .unlimited ⟨.ready next, none⟩
  | counted {counter next late} : Does session free ⟨.ready (.count counter next), late⟩
      (.counted counter) ⟨.ready next, late⟩
  | warned {line next late} : Does session free ⟨.ready (.warn line next), late⟩
      (.warned line) ⟨.ready next, late⟩
  | cut {stage late event after} (suspended : stage.isSuspended = true)
      (cutOff : CutOff late event after) : Does session free ⟨stage, late⟩ event after

lemma does_of_next {session : Session} {free : Bool} {runner after : Runner α} {move : Move}
    {event : Event} (taken : runner.next session free move = some (event, after)) :
    Does session free runner event after := by
  obtain ⟨stage, late⟩ := runner
  cases move with
  | go =>
    simp only [next, advance] at taken
    split at taken
    case h_3 =>
      split at taken
      · next isFree =>
        cases taken
        exact .acquired isFree
      · exact absurd taken (by simp)
    all_goals first
      | (cases taken; constructor)
      | exact absurd taken (by simp)
  | answer answer =>
    simp only [next] at taken
    split at taken
    · cases taken
      exact .answered answer
    · exact absurd taken (by simp)
  | timeUp =>
    simp only [next] at taken
    split at taken
    · split at taken
      · next suspended =>
        cases taken
        exact .cut suspended (.late rfl)
      · exact absurd taken (by simp)
    · exact absurd taken (by simp)
  | drop =>
    simp only [next] at taken
    split at taken
    · next suspended =>
      cases taken
      exact .cut suspended .dropped
    · exact absurd taken (by simp)

lemma Does.read_eq {session found : Session} {free : Bool} {runner after : Runner α}
    (does : Does session free runner (.read found) after) : found = session := by
  cases does with
  | read => rfl
  | cut _ cutOff => cases cutOff

lemma Does.free_of_acquired {session : Session} {free : Bool} {runner after : Runner α}
    (does : Does session free runner .acquired after) : free = true := by
  cases does with
  | acquired isFree => exact isFree
  | cut _ cutOff => cases cutOff

/-- What a runner has done since `start`, latest first, and what has become of it. -/
inductive Path (start : Runner α) : List Event → Runner α → Prop where
  | here : Path start [] start
  | step {past : List Event} {runner after : Runner α} {session : Session} {free : Bool}
      {event : Event} (before : Path start past runner)
      (does : Does session free runner event after) : Path start (event :: past) after

/-- A first step may be put before a path. -/
lemma Path.after_step {start between runner : Runner α} {past : List Event} {session : Session}
    {free : Bool} {event : Event} (path : Path between past runner)
    (does : Does session free start event between) : Path start (past ++ [event]) runner := by
  induction path with
  | here => exact .step .here does
  | step _ last ih => exact .step ih last

/-- A task that is done does nothing more. -/
lemma Path.of_done {result : α} {past : List Event} {runner : Runner α}
    (h : Path (.start (.done result)) past runner) :
    past = [] ∧ runner.result? = some result := by
  induction h with
  | here => exact ⟨rfl, rfl⟩
  | @step past runner after session free event before does ih =>
    have hrunner : runner = .start (.done result) := by
      cases before with
      | here => rfl
      | step => simp at ih
    subst hrunner
    cases does with
    | cut suspended => exact absurd suspended (by simp [Stage.isSuspended])

end Runner

/-! ## Tasks that are decided -/

/-- Whatever happens, the task only releases, counts and warns before it gives `result`. -/
def EndsIn (result : α) : Task α → Prop
  | .done found => found = result
  | .release _ next | .unlimit next | .count _ next | .warn _ next => next.EndsIn result
  | _ => False

lemma EndsIn.bind {task : Task α} {first : α} {next : α → Task β} {result : β}
    (h : task.EndsIn first) (hnext : (next first).EndsIn result) :
    (task.bind next).EndsIn result := by
  induction task with
  | done found =>
    obtain rfl : found = first := h
    exact hnext
  | release _ _ ih => exact ih h
  | unlimit _ ih => exact ih h
  | count _ _ ih => exact ih h
  | warn _ _ ih => exact ih h
  | _ => exact h.elim

/-- A task under way that is decided. -/
def Runner.EndsIn (result : α) (runner : Runner α) : Prop :=
  ∃ task, runner.stage = .ready task ∧ task.EndsIn result

/-- A decided task cannot be cut off, and each of its steps leaves it decided. -/
lemma Runner.EndsIn.next {runner after : Runner α} {result : α} (h : runner.EndsIn result)
    {session : Session} {free : Bool} {event : Event}
    (does : Runner.Does session free runner event after) : after.EndsIn result := by
  obtain ⟨stage, late⟩ := runner
  obtain ⟨task, rfl, hends⟩ := h
  have hsuspended : (Stage.ready task).isSuspended = false := by
    cases task <;> first | rfl | exact hends.elim
  cases does with
  | released => exact ⟨_, rfl, hends⟩
  | unlimited => exact ⟨_, rfl, hends⟩
  | counted => exact ⟨_, rfl, hends⟩
  | warned => exact ⟨_, rfl, hends⟩
  | cut suspended => simp [hsuspended] at suspended
  | _ => exact hends.elim

lemma Runner.EndsIn.eq_of_result? {runner : Runner α} {result found : α}
    (h : runner.EndsIn result) (hfound : runner.result? = some found) : found = result := by
  obtain ⟨stage, late⟩ := runner
  obtain ⟨task, rfl, hends⟩ := h
  cases task with
  | done result' => exact (Option.some.inj hfound).symm.trans hends
  | _ => cases hfound

end Task
end StorageFleet
