import ChatWarden.Access

/-!
# Deliberating on a command

`PolicySet.canRun` is a decision as a whole. `PolicySet.deliberate` comes to the same decision
(`deliberate_fst`) and notes on the way what a log shows of it. The mark that a command is meant for
direct messages is looked up and noted; nothing is decided by it.
-/

namespace ChatWarden

/-- What is noted while a command is deliberated on. -/
inductive Note where
  | rejectedByFilter (command : String)
  | isDM (command : String) (isDM isDirect : Bool)
deriving DecidableEq

/-- A course of deliberation, which adds to the notes taken before. -/
abbrev Deliberation := StateM (List Note)

namespace Deliberation

def takeNote (note : Note) : Deliberation Unit := fun notes =>
  ((), notes ++ [note])

section Steps

variable {α β : Type} (notes : List Note)

@[simp] theorem pure_apply (a : α) : (pure a : Deliberation α) notes = (a, notes) := rfl

@[simp] theorem bind_apply (x : Deliberation α) (f : α → Deliberation β) :
    (x >>= f) notes = f (x notes).1 (x notes).2 := rfl

@[simp] theorem takeNote_apply (note : Note) : takeNote note notes = ((), notes ++ [note]) := rfl

end Steps

end Deliberation

namespace Policy

/-- The mark of a group, or else of its policy, that a command is meant for direct messages. -/
def isDM? (p : Policy) (g : Group) : Option Bool :=
  (g.flag Scope.isDM).or (p.flag Scope.isDM)

end Policy

namespace PolicySet

open Deliberation

def deliberate (policies : PolicySet) (command : Command) (actor : Actor) :
    Deliberation Decision := do
  let filters : Policy.Scope := { rules := command.filters }
  let fallback := command.container.allowsByDefault
  if actor.isMaintainer then return .approved
  else if filters.resolve actor = .denied then
    takeNote (.rejectedByFilter command.name)
    return .denied
  else if command.dmOnly && !actor.isDirect then return .denied
  else
    match policies.get? command.owner with
    | none => return .ofBool fallback
    | some policy =>
      match policy.group? command.method with
      | none => return (policy.resolve actor).orDefault fallback
      | some group =>
        if let some isDM := policy.isDM? group then
          takeNote (.isDM command.name isDM actor.isDirect)
        match group.resolve actor with
        | .undecided =>
          if group.ignoresAbove then return .ofBool fallback
          else return (policy.resolve actor).orDefault fallback
        | v => return v.orDefault fallback

/-- Whatever is noted, the decision is the same. -/
theorem deliberate_fst (policies : PolicySet) (command : Command) (actor : Actor)
    (notes : List Note) :
    (policies.deliberate command actor notes).1 = policies.canRun command actor := by
  unfold deliberate canRun
  by_cases hm : actor.isMaintainer
  · simp only [hm, if_true, pure_apply]
  by_cases hf : ({ rules := command.filters } : Policy.Scope).resolve actor = .denied
  · simp [hm, hf]
  by_cases hd : (command.dmOnly && !actor.isDirect) = true
  · simp only [hm, hf, hd, if_true, if_false, Bool.false_eq_true, pure_apply]
  simp only [hm, hf, hd, if_false, Bool.false_eq_true]
  cases policies.get? command.owner with
  | none => rfl
  | some policy =>
      dsimp only
      cases policy.group? command.method with
      | none => rfl
      | some group =>
          dsimp only
          cases policy.isDM? group <;> cases group.resolve actor <;>
            cases group.ignoresAbove <;> rfl

end PolicySet

end ChatWarden
