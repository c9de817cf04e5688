import ChatWarden.Command.Basic
import ChatWarden.Policy.Basic

/-!
# Who may run a command

The command's own filters come first, then the group of its method in the policy of its container,
then that policy itself, and at last the default of the container. A maintainer may run everything.
-/

namespace ChatWarden

namespace PolicySet

def canRun (policies : PolicySet) (command : Command) (actor : Actor) : Decision :=
  if actor.isMaintainer then .approved
  else
    let filters : Policy.Scope := { rules := command.filters }
    let fallback := command.container.allowsByDefault
    if filters.resolve actor = .denied then .denied
    else if command.dmOnly && !actor.isDirect then .denied
    else
      match policies.get? command.owner with
      | none => .ofBool fallback
      | some policy =>
        match policy.group? command.method with
        | none => (policy.resolve actor).orDefault fallback
        | some group =>
          match group.resolve actor with
          | .undecided =>
            if group.ignoresAbove then .ofBool fallback
            else (policy.resolve actor).orDefault fallback
          | v => v.orDefault fallback

end PolicySet

end ChatWarden
