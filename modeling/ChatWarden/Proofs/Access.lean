import ChatWarden.Access
import ChatWarden.Proofs.Policy.Ruling

/-!
# Who may run a command, said by sets of rules

`PolicySet.decision` restates the decision about a command through `Policy.ruling`, in which neither
the order of rules nor that of roles has a part. `canRun_eq_decision` says that the two agree.
-/

namespace ChatWarden

namespace Policy.Scope

/-- Whether a scope asks, in whatever case, for the scope above it to be left out. -/
def AsksToIgnoreAbove (s : Scope) : Prop :=
  ∃ value, s.properties.get? ignoreAbove = some value ∧ Text.sameIgnoringCase value "true"

theorem ignoresAbove_iff {s : Scope} : s.ignoresAbove = true ↔ s.AsksToIgnoreAbove := by
  unfold ignoresAbove flag AsksToIgnoreAbove
  have htrue : Text.foldAscii "true" = "true".toList := by decide
  cases hv : s.properties.get? ignoreAbove with
  | none => simp
  | some value =>
      simp only [Option.bind_some, Option.some.injEq, exists_eq_left', Text.sameIgnoringCase_iff,
        htrue]
      by_cases ht : Text.foldAscii value = "true".toList
      · simp only [ht, if_true, Option.getD_some]
      · simp only [ht, if_false]
        split <;> simp

instance : DecidablePred AsksToIgnoreAbove := fun _ => decidable_of_iff _ ignoresAbove_iff

end Policy.Scope

namespace PolicySet

/-- The decision about a command: a maintainer passes; then the filters and the restriction to
direct messages may refuse; then the group of the method rules; then, unless it asks to be the last,
the policy of the owner; and at last the default of the container. -/
def decision (policies : PolicySet) (command : Command) (actor : Actor) : Decision :=
  let fallback := Decision.ofBool command.container.allowsByDefault
  if actor.isMaintainer then .approved
  else if Policy.ruling command.filters actor = .denied ∨ (command.dmOnly ∧ ¬actor.isDirect) then
    .denied
  else
    match policies.get? command.owner with
    | none => fallback
    | some policy =>
      let group := policy.group? command.method
      let ruled := (group.map fun g => Policy.ruling g.rules actor).getD .undecided
      if ruled = .approved then .approved
      else if ruled = .denied then .denied
      else if ∃ g ∈ group, g.AsksToIgnoreAbove then fallback
      else if Policy.ruling policy.rules actor = .approved then .approved
      else if Policy.ruling policy.rules actor = .denied then .denied
      else fallback

theorem orDefault_eq (v : Verdict) (allowed : Bool) :
    v.orDefault allowed =
      if v = .approved then .approved
      else if v = .denied then .denied
      else Decision.ofBool allowed := by
  cases v <;> rfl

theorem canRun_eq_decision (policies : PolicySet) (command : Command) (actor : Actor) :
    policies.canRun command actor = policies.decision command actor := by
  unfold canRun decision
  by_cases hm : actor.isMaintainer
  · simp [hm]
  by_cases hf : Policy.ruling command.filters actor = .denied
  · simp [hm, Policy.Scope.resolve_eq_ruling, hf]
  by_cases hd : command.dmOnly = true ∧ ¬actor.isDirect = true
  · simp [hm, Policy.Scope.resolve_eq_ruling, hd]
  have hd' : (command.dmOnly && !actor.isDirect) = false := by simpa using hd
  simp only [hm, Policy.Scope.resolve_eq_ruling, hf, hd, hd', or_self, if_false, orDefault_eq,
    Bool.false_eq_true]
  cases policies.get? command.owner with
  | none => rfl
  | some policy =>
      dsimp only
      cases hg : policy.group? command.method with
      | none => simp
      | some group =>
          cases hr : Policy.ruling group.rules actor with
          | approved => simp [hr]
          | denied => simp [hr]
          | undecided =>
              by_cases hi : group.AsksToIgnoreAbove
              · simp [hr, hi, Policy.Scope.ignoresAbove_iff]
              · simp [hr, hi, Policy.Scope.ignoresAbove_iff]

end PolicySet

end ChatWarden
