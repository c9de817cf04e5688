import ChatWarden.Deliberation
import ChatWarden.Proofs.Policy.Likeness

/-!
# What a decision depends on

Two runs of a decision may differ in almost everything: in the order and number of rules,
identifiers, filters and roles, in all groups but the one of the method, in every property of the
policy and in all properties of that group but whether it leaves the policy out, and in whatever a
command says about itself. The relations below name the rest, on which two runs have to agree.
`canRun_noninterference` says that they decide alike then.
-/

namespace ChatWarden

/-- Two commands that policies know as one, with the same declared filters as a set. -/
structure Command.Alike (c d : Command) : Prop where
  owner : c.owner = d.owner
  method : c.method = d.method
  container : c.container = d.container
  dmOnly : c.dmOnly = d.dmOnly
  filters : Policy.SameRules c.filters d.filters

namespace Policy

structure Group.Alike (g h : Group) : Prop where
  rules : SameRules g.rules h.rules
  ignoresAbove : g.ignoresAbove = h.ignoresAbove

/-- Two policies with the same rules of their own, of which both or neither have a group for a
method, and like groups if they have. -/
structure AlikeFor (p : Policy) (method : String) (q : Policy) : Prop where
  rules : SameRules p.rules q.rules
  group : Option.Rel Group.Alike (p.group? method) (q.group? method)

end Policy

namespace PolicySet

/-- Whether both or neither of two sets have a policy for the owner of a command, and like ones if
they have. -/
def AlikeFor (policies : PolicySet) (command : Command) (others : PolicySet) : Prop :=
  Option.Rel (fun p q => p.AlikeFor command.method q)
    (policies.get? command.owner) (others.get? command.owner)

variable {policies others : PolicySet} {c d : Command} {a b : Actor}

theorem canRun_congr (hp : policies.AlikeFor c others) (hc : c.Alike d) (ha : a.Alike b) :
    policies.canRun c a = others.canRun d b := by
  have hfilters : ({ rules := c.filters } : Policy.Scope).resolve a =
      ({ rules := d.filters } : Policy.Scope).resolve b :=
    Policy.Scope.resolve_congr hc.filters ha
  rw [AlikeFor, hc.owner, hc.method] at hp
  simp only [canRun, ha.isMaintainer, ha.isDirect, hc.owner, hc.method, hc.container, hc.dmOnly,
    hfilters]
  generalize policies.get? d.owner = found, others.get? d.owner = found' at hp
  cases hp with
  | none => rfl
  | @some policy policy' hpolicy =>
      have hresolve : policy.resolve a = policy'.resolve b :=
        Policy.Scope.resolve_congr hpolicy.rules ha
      have hgroup := hpolicy.group
      simp only [hresolve]
      generalize policy.group? d.method = group, policy'.group? d.method = group' at hgroup
      cases hgroup with
      | none => rfl
      | @some group group' hlike =>
          have hruled : group.resolve a = group'.resolve b :=
            Policy.Scope.resolve_congr hlike.rules ha
          simp only [hruled, hlike.ignoresAbove]

/-- Two runs that agree on what the relations name come to the same decision, also where they note
different things on the way. -/
theorem canRun_noninterference (hp : policies.AlikeFor c others) (hc : c.Alike d)
    (ha : a.Alike b) :
    policies.canRun c a = others.canRun d b ∧
      ∀ notes notes', (policies.deliberate c a notes).1 = (others.deliberate d b notes').1 := by
  refine ⟨canRun_congr hp hc ha, fun notes notes' => ?_⟩
  rw [deliberate_fst, deliberate_fst, canRun_congr hp hc ha]

/-- The rules of a policy shuffled and repeated, its groups in another order and of another kind,
other properties and another policy beside it, a command under another name, and roles shuffled: a
group that denies still does. -/
theorem canRun_noninterference_shuffled :
    let roles : Policy.Rule := ⟨.whitelist, .role, [7, 8]⟩
    let channel : Policy.Rule := ⟨.blacklist, .channel, [5]⟩
    let listing : Policy.Group :=
      { owner := "Files", name := "list", kind := .method, rules := [roles, channel] }
    let policy : Policy := { name := "Files", rules := [channel], groups := [listing] }
    let listing' : Policy.Group :=
      { owner := "Files", name := "list", kind := .group
        rules := [channel, ⟨.whitelist, .role, [8, 7, 7]⟩, channel]
        properties := .ofList [("IsDM", "true"), ("IgnoreAbove", "maybe")] }
    let reading : Policy.Group :=
      { owner := "Files", name := "read", kind := .method, rules := [roles] }
    let policy' : Policy :=
      { name := "Files", rules := [channel, channel], groups := [reading, listing']
        properties := .ofList [("IgnoreAbove", "true")] }
    let policies : PolicySet := .add ∅ policy
    let others : PolicySet := .add (.add ∅ { name := "Music", rules := [roles] }) policy'
    let command : Command := { Command.ofSegments ["file", "list"] with owner := "Files" }
    let command' : Command :=
      { Command.ofSegments ["ls"] with owner := "Files", method := "list", isHidden := true }
    let actor : Actor := { user := 1, channel := 2, roles := [6, 9] }
    let actor' : Actor := { user := 1, channel := 2, roles := [9, 6, 9] }
    policies.AlikeFor command others ∧ command.Alike command' ∧ actor.Alike actor' ∧
      policies.canRun command actor = .denied ∧
      policies.canRun command actor = others.canRun command' actor' ∧
      ∀ notes notes',
        (policies.deliberate command actor notes).1 =
          (others.deliberate command' actor' notes').1 := by
  intro roles channel listing policy listing' reading policy' policies others command command'
    actor actor'
  have hlisting : listing.Alike listing' := ⟨by decide, by decide⟩
  have hpolicy : policy.AlikeFor "list" policy' := ⟨by decide, .some hlisting⟩
  have hp : policies.AlikeFor command others := by
    have hfound : policies.get? command.owner = some policy := by decide
    have hfound' : others.get? command.owner = some policy' := by decide
    rw [AlikeFor, hfound, hfound']
    exact .some hpolicy
  have hc : command.Alike command' := ⟨rfl, rfl, rfl, rfl, by decide⟩
  have ha : actor.Alike actor' := ⟨rfl, rfl, rfl, fun id => by grind, rfl, rfl⟩
  exact ⟨hp, hc, ha, by decide, canRun_noninterference hp hc ha⟩

end PolicySet

end ChatWarden
