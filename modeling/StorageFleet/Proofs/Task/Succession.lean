import StorageFleet.Proofs.Task.Sequence

/-!
# Tasks on a clock, one after the other

A task that has lifted its time limits when it is done leaves nothing behind but the moment of its
ending.  So the playback of a sequence is that of its first part, and where that ends the playback
of what comes next: `play_bind_of_tidy`.  `play_bind` says this of tasks that do not look at the
clock, under any time limit; here the first part may set limits of its own, and there is none around
it.

`Exchange.play_bind` is how programs are read with it: a part that fails is the end.
-/

namespace StorageFleet
namespace Task

/-- Goes on with `next` where the playback ends, if it does. -/
def Playback.andThen (run : Playback α) (next : Ending α → Playback β) : Playback β :=
  match run.ending with
  | none => ⟨run.events, none⟩
  | some ending => (next ending).after run.events

/-- The deadline, with `next` after what is played when it has passed. -/
def Deadline.andThen (next : Ending α → Playback β) (deadline : Deadline α) : Deadline β where
  time := deadline.time
  late moment := (deadline.late moment).andThen next

namespace Playback

variable {run : Playback α} {next : Ending α → Playback β} {events earlier : List (Nat × Event)}
  {ending : Ending α}

lemma andThen_of_none (h : run.ending = none) : run.andThen next = ⟨run.events, none⟩ := by
  unfold andThen
  rw [h]

lemma andThen_of_some (h : run.ending = some ending) :
    run.andThen next = (next ending).after run.events := by
  unfold andThen
  rw [h]

lemma andThen_after (run : Playback α) (earlier : List (Nat × Event))
    (next : Ending α → Playback β) :
    (run.after earlier).andThen next = (run.andThen next).after earlier := by
  unfold andThen after
  cases run.ending with
  | none => rfl
  | some ending => simp

lemma mem_events_andThen {entry : Nat × Event} (h : entry ∈ (run.andThen next).events) :
    entry ∈ run.events ∨ ∃ ending, run.ending = some ending ∧ entry ∈ (next ending).events := by
  cases hending : run.ending with
  | none =>
    rw [andThen_of_none hending] at h
    exact .inl h
  | some ending =>
    rw [andThen_of_some hending, events_after] at h
    exact (List.mem_append.1 h).imp_right fun hlater => ⟨ending, rfl, hlater⟩

/-- What has ended with a second part has ended with a first one before. -/
lemma exists_of_andThen {last : Ending β} (h : run.andThen next = ⟨events, some last⟩) :
    ∃ earlier between later, run = ⟨earlier, some between⟩ ∧
      next between = ⟨later, some last⟩ ∧ events = earlier ++ later := by
  obtain ⟨earlier, _ | between⟩ := run
  · simp [andThen] at h
  · rw [andThen_of_some rfl] at h
    obtain ⟨later, hlast⟩ : ∃ later, next between = ⟨later, some last⟩ :=
      ⟨_, congrArg (Playback.mk _) (congrArg Playback.ending h)⟩
    rw [hlast] at h
    exact ⟨earlier, between, later, rfl, hlast, (congrArg Playback.events h).symm⟩

lemma map_eq_iff {f : α → β} {moment : Moment} {result : β} :
    run.map f = ⟨events, some ⟨moment, result⟩⟩ ↔
      ∃ found, run = ⟨events, some ⟨moment, found⟩⟩ ∧ f found = result := by
  constructor
  · intro h
    obtain ⟨said, _ | ⟨later, found⟩⟩ := run
    · cases h
    · cases h
      exact ⟨found, rfl, rfl⟩
  · rintro ⟨found, rfl, rfl⟩
    rfl

end Playback

lemma pass_andThen (next : Ending α → Playback β) (deadline : Deadline α) (used : Nat) :
    (deadline.pass used).andThen next = (deadline.andThen next).pass used :=
  Playback.andThen_after _ _ _

lemma await_andThen (next : Ending α → Playback β) (deadline : Option (Deadline α)) (now : Moment)
    (delay : Option Nat) (go : Moment → Playback α) :
    (await deadline now delay go).andThen next =
      await (deadline.map (Deadline.andThen next)) now delay fun later =>
        (go later).andThen next := by
  cases deadline with
  | none => cases delay <;> rfl
  | some passed =>
    cases delay with
    | none => exact pass_andThen next passed now.used
    | some span =>
      simp only [await, Option.map_some, Deadline.andThen]
      split
      · rfl
      · exact pass_andThen next passed now.used

/-- What a tidy task and all that comes after it does: what the task does, and then, from its ending
on, what comes after it does. -/
theorem play_bind_of_tidy (world : Nat → Circumstance) {task : Task α} (next : α → Task β)
    (deadline : Option (Deadline α)) (now : Moment) (tidy : task.Tidy false deadline.isSome) :
    (task.bind next).play world
        (deadline.map (Deadline.andThen fun ending =>
          (next ending.result).play world none ending.moment)) now =
      (task.play world deadline now).andThen fun ending =>
        (next ending.result).play world none ending.moment := by
  induction task generalizing deadline now with
  | done result =>
    obtain rfl : deadline = none := by simpa [Tidy] using tidy
    rfl
  | perform => rfl
  | send _ request rest ih =>
    have hrest := fun answer later => ih answer deadline later (tidy answer)
    simp only [Task.bind, play, hrest, Playback.andThen_after, await_andThen]
  | session _ rest ih =>
    have hrest := fun session later => ih session deadline later (tidy session)
    simp only [Task.bind, play, hrest, Playback.andThen_after]
  | acquire _ rest ih =>
    have hrest := fun later => ih deadline later tidy
    simp only [Task.bind, play, hrest, Playback.andThen_after, await_andThen]
  | sleep span rest ih =>
    have hrest := fun later => ih deadline later tidy
    simp only [Task.bind, play, hrest, Playback.andThen_after, await_andThen]
    cases deadline <;> rfl
  | limit span late rest ihLate ih =>
    have hlate := funext fun later => ihLate none later tidy.1
    have hrest := ih (some ⟨now.time + span.milliseconds, late.play world none⟩) now tidy.2
    simp only [Option.map_none] at hlate
    simp only [Option.map_some, Deadline.andThen, ← hlate] at hrest
    simp only [Task.bind, play, hrest, Playback.andThen_after]
  | unlimit rest ih =>
    have hrest := ih none now tidy
    simp only [Option.map_none] at hrest
    simp only [Task.bind, play, hrest, Playback.andThen_after]
  | release _ rest ih | settle _ _ rest ih | count _ rest ih | warn _ rest ih =>
    have hrest := ih deadline now tidy
    simp only [Task.bind, play, hrest, Playback.andThen_after]

end Task

/-! ## Exchanges -/

namespace Exchange
open StorageFleet.Task (Circumstance Moment Ending Playback)

/-- Goes on after a part of an exchange: a failure is the end. -/
def proceed (world : Nat → Circumstance) (next : α → Exchange β)
    (ending : Ending (Except Fault α)) : Playback (Except Fault β) :=
  match ending.result with
  | .error fault => ⟨[], some ⟨ending.moment, .error fault⟩⟩
  | .ok value => (next value).run.play world none ending.moment

/-- An exchange fails with its first part, or goes on with what that has found. -/
lemma play_bind (world : Nat → Circumstance) {first : Exchange α} (next : α → Exchange β)
    (now : Moment) (tidy : first.run.Tidy false false) :
    (first >>= next).run.play world none now =
      (first.run.play world none now).andThen (proceed world next) := by
  refine (Task.play_bind_of_tidy world _ none now tidy).trans ?_
  congr 1
  funext ending
  obtain ⟨moment, outcome⟩ := ending
  cases outcome <;> rfl

/-- A last step that asks nothing changes the result only. -/
lemma play_bind_ofExcept (world : Nat → Circumstance) (first : Exchange α)
    (conclude : α → Except Fault β) (now : Moment) :
    (first >>= fun value => ofExcept (conclude value)).run.play world none now =
      (first.run.play world none now).map fun outcome => outcome.bind conclude := by
  refine Eq.trans ?_ (Task.play_map world _ first.run none now)
  congr 2
  show Task.bind _ _ = Task.bind _ _
  congr 1
  funext outcome
  cases outcome <;> rfl

end Exchange
end StorageFleet
