import StorageFleet.Appliance.Call

/-!
# Plans

A `Plan` is a program whose only effects are calls to appliances, each answered before the next,
and warnings.  It says nothing about how an appliance answers: the same plan runs on appliances in
memory and on ones that are reached through a client.

`Attempt` is a plan that may fail, with the first fault ending it.
-/

namespace StorageFleet

/-- An appliance of the fleet, as plans refer to it. -/
structure ApplianceRef where
  /-- Tells appliances of one endpoint apart. -/
  id : Nat
  endpoint : String
  deriving Repr, DecidableEq, Inhabited

/-- A program that calls appliances and warns. -/
inductive Plan (α : Type) where
  | done (result : α)
  | call (appliance : ApplianceRef) (call : Call) (next : call.Outcome → Plan α)
  | warn (line : String) (next : Plan α)

namespace Plan

/-- Runs one plan and then another that depends on its result. -/
def bind (plan : Plan α) (next : α → Plan β) : Plan β :=
  match plan with
  | .done result => next result
  | .call appliance asked rest => .call appliance asked fun outcome => (rest outcome).bind next
  | .warn line rest => .warn line (rest.bind next)

instance : Monad Plan where
  pure := .done
  bind := .bind

theorem bind_done (plan : Plan α) : plan.bind .done = plan := by
  induction plan with
  | done result => rfl
  | call appliance asked rest ih => simp only [Plan.bind, ih]
  | warn line rest ih => simp only [Plan.bind, ih]

theorem bind_assoc (plan : Plan α) (f : α → Plan β) (g : β → Plan γ) :
    (plan.bind f).bind g = plan.bind fun result => (f result).bind g := by
  induction plan with
  | done result => rfl
  | call appliance asked rest ih => simp only [Plan.bind, ih]
  | warn line rest ih => simp only [Plan.bind, ih]

instance : LawfulMonad Plan :=
  LawfulMonad.mk' Plan bind_done (fun _ _ => rfl) bind_assoc

end Plan

/-- A plan that may fail. -/
abbrev Attempt := ExceptT Fault Plan

namespace Attempt

/-- Calls an appliance; its failure is the attempt's. -/
def ask (appliance : ApplianceRef) (call : Call) : Attempt call.Answer :=
  ExceptT.mk (.call appliance call .done)

/-- Warns. -/
def warn (line : String) : Attempt Unit :=
  ExceptT.mk (.warn line (.done (.ok ())))

/-- The outcome of an attempt, without failing. -/
def outcome (attempt : Attempt α) : Attempt (Except Fault α) :=
  ExceptT.mk (attempt.run.bind fun result => .done (.ok result))

/-- A result that is known already. -/
def ofExcept (result : Except Fault α) : Attempt α :=
  ExceptT.mk (.done result)

end Attempt
end StorageFleet
