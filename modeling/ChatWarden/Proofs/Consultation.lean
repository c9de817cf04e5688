import ChatWarden.Access
import ChatWarden.Proofs.Policy.Ruling

/-!
# What policies say before the default

A decision about a command has three parts: the refusals that come before every policy, what the
policy of the owner says (`PolicySet.consult`), and the default where that leaves it open.
`canRun_eq` puts them together.
-/

namespace ChatWarden

/-- The verdict of a scope that comes first, or that of the scope above it. -/
def Verdict.otherwise (v above : Verdict) : Verdict :=
  match v with
  | .undecided => above
  | v => v

namespace Policy

/-- What the rules of a policy say where a group of it comes first. -/
def rulingAbove (p : Policy) (g : Group) (actor : Actor) : Verdict :=
  if g.ignoresAbove then .undecided else ruling p.rules actor

/-- What a policy says about an actor and a method, its group first. -/
def consult (p : Policy) (method : String) (actor : Actor) : Verdict :=
  match p.group? method with
  | none => ruling p.rules actor
  | some g => (ruling g.rules actor).otherwise (p.rulingAbove g actor)

end Policy

namespace PolicySet

/-- What the policy of a command's owner says about an actor, if there is one. -/
def consult (policies : PolicySet) (command : Command) (actor : Actor) : Verdict :=
  match policies.get? command.owner with
  | none => .undecided
  | some p => p.consult command.method actor

theorem canRun_eq (policies : PolicySet) (command : Command) (actor : Actor) :
    policies.canRun command actor =
      if actor.isMaintainer then .approved
      else if Policy.ruling command.filters actor = .denied then .denied
      else if command.dmOnly && !actor.isDirect then .denied
      else (policies.consult command actor).orDefault command.container.allowsByDefault := by
  simp only [canRun, consult, Policy.Scope.resolve_eq_ruling]
  cases policies.get? command.owner with
  | none => rfl
  | some p =>
      simp only [Policy.consult]
      cases p.group? command.method with
      | none => rfl
      | some g =>
          simp only [Policy.rulingAbove]
          cases Policy.ruling g.rules actor <;> cases g.ignoresAbove <;> rfl

end PolicySet

end ChatWarden
