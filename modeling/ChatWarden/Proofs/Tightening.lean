import ChatWarden.Proofs.Consultation
import ChatWarden.Proofs.SortedMap

/-!
# Stricter rules never grant

A list of rules is tightened by taking identifiers off a whitelist, by putting identifiers on a
blacklist, or by one more rule about a kind of identifier that it speaks about already. Which kind
decides about an actor stays the same then, and it lets the actor pass only if it did before
(`Policy.Tightened.ruling_atMost`). A denied command stays denied when its filters, the policy of
its owner or the group of its method are tightened (`canRun_denied_of_tightening`).
-/

namespace ChatWarden

namespace Verdict

/-- The same verdict, or a denial in the place of an approval. -/
def AtMost (w v : Verdict) : Prop :=
  w = v ∨ w = .denied ∧ v = .approved

variable {w v : Verdict}

theorem AtMost.refl (v : Verdict) : v.AtMost v :=
  .inl rfl

theorem AtMost.otherwise {above above' : Verdict} (h : w.AtMost v) (ha : above'.AtMost above) :
    (w.otherwise above').AtMost (v.otherwise above) := by
  rcases h with rfl | ⟨rfl, rfl⟩
  · cases w with
    | undecided => exact ha
    | approved | denied => exact .refl _
  · exact .inr ⟨rfl, rfl⟩

theorem AtMost.denied (h : w.AtMost v) (hv : v = .denied) : w = .denied := by
  rcases h with rfl | ⟨hw, _⟩
  · exact hv
  · exact hw

theorem AtMost.orDefault_denied {allowed : Bool} (h : w.AtMost v)
    (hv : v.orDefault allowed = .denied) : w.orDefault allowed = .denied := by
  rcases h with rfl | ⟨rfl, rfl⟩
  · exact hv
  · rfl

end Verdict

namespace Policy

/-! ## Rules -/

/-- One list of rules made stricter in one place. -/
inductive Tightened : List Rule → List Rule → Prop
  | unlist {front back : List Rule} {r : Rule} {ids : List Id}
      (hkind : r.kind = .whitelist) (hids : ids ⊆ r.ids) :
      Tightened (front ++ r :: back) (front ++ { r with ids } :: back)
  | list {front back : List Rule} {r : Rule} {ids : List Id}
      (hkind : r.kind = .blacklist) (hids : r.ids ⊆ ids) :
      Tightened (front ++ r :: back) (front ++ { r with ids } :: back)
  /-- A rule about a kind of its own could decide before all others, so that kind has a rule. -/
  | insert {front back : List Rule} {r : Rule} (hr : Concerns (front ++ back) r.target) :
      Tightened (front ++ back) (front ++ r :: back)

/-- Whether a rule is about the same target as another and denies whomever that one denies. -/
def Rule.AsStrictAs (s r : Rule) : Prop :=
  s.target = r.target ∧ ∀ id, r.verdict id = .denied → s.verdict id = .denied

variable {rules others : List Rule} {target : Target} {id : Option Id} {actor : Actor}

namespace Rule

variable {r : Rule} {ids : List Id}

theorem AsStrictAs.refl (r : Rule) : r.AsStrictAs r :=
  ⟨rfl, fun _ h => h⟩

theorem Lists.mono {s : Rule} (h : r.ids ⊆ s.ids) (hl : r.Lists id) : s.Lists id := by
  cases id with
  | none => exact hl
  | some id => exact h hl

theorem asStrictAs_unlist (hkind : r.kind = .whitelist) (hids : ids ⊆ r.ids) :
    ({ r with ids } : Rule).AsStrictAs r := by
  refine ⟨rfl, fun id hd => ?_⟩
  have hout : ¬r.Lists id := by
    intro hl
    simp [verdict_whitelist hkind, hl] at hd
  have hout' : ¬({ r with ids } : Rule).Lists id := fun hl => hout (hl.mono hids)
  exact (verdict_whitelist (r := { r with ids }) hkind id).trans (if_neg hout')

theorem asStrictAs_list (hkind : r.kind = .blacklist) (hids : r.ids ⊆ ids) :
    ({ r with ids } : Rule).AsStrictAs r := by
  refine ⟨rfl, fun id hd => ?_⟩
  have hin : r.Lists id := by
    by_cases hl : r.Lists id
    · exact hl
    · simp [verdict_blacklist hkind, hl] at hd
  have hin' : ({ r with ids } : Rule).Lists id := hin.mono hids
  exact (verdict_blacklist (r := { r with ids }) hkind id).trans (if_pos hin')

end Rule

namespace Tightened

/-- In one place there is a rule as strict as the one that was there, or one more rule about a kind
that had rules. -/
theorem replaced_or_inserted (h : Tightened rules others) :
    ∃ front s back, others = front ++ s :: back ∧
      ((∃ r, rules = front ++ r :: back ∧ s.AsStrictAs r) ∨
        (rules = front ++ back ∧ Concerns rules s.target)) := by
  cases h with
  | @unlist front back r ids hkind hids =>
      exact ⟨front, { r with ids }, back, rfl, .inl ⟨r, rfl, Rule.asStrictAs_unlist hkind hids⟩⟩
  | @list front back r ids hkind hids =>
      exact ⟨front, { r with ids }, back, rfl, .inl ⟨r, rfl, Rule.asStrictAs_list hkind hids⟩⟩
  | @insert front back s hs => exact ⟨front, s, back, rfl, .inr ⟨rfl, hs⟩⟩

/-- Nothing that denied before is lost. -/
theorem exists_asStrictAs (h : Tightened rules others) {r : Rule} (hr : r ∈ rules) :
    ∃ s ∈ others, s.AsStrictAs r := by
  obtain ⟨front, s, back, rfl, ⟨q, rfl, hs⟩ | ⟨rfl, _⟩⟩ := h.replaced_or_inserted
  · simp only [List.mem_append, List.mem_cons] at hr
    rcases hr with hr | rfl | hr
    · exact ⟨r, by simp [hr], .refl r⟩
    · exact ⟨s, by simp, hs⟩
    · exact ⟨r, by simp [hr], .refl r⟩
  · refine ⟨r, ?_, .refl r⟩
    rcases List.mem_append.mp hr with hr | hr <;> simp [hr]

/-- No kind of identifier gets its first rule. -/
theorem concerns_of_mem (h : Tightened rules others) {s : Rule} (hs : s ∈ others) :
    Concerns rules s.target := by
  obtain ⟨front, new, back, rfl, hcases⟩ := h.replaced_or_inserted
  have hold : s = new ∨ s ∈ rules := by
    simp only [List.mem_append, List.mem_cons] at hs
    rcases hcases with ⟨q, rfl, _⟩ | ⟨rfl, _⟩ <;> rcases hs with hs | hs | hs <;> simp [hs]
  rcases hold with rfl | hs
  · rcases hcases with ⟨q, rfl, hstrict⟩ | ⟨_, hconcerns⟩
    · exact ⟨q, by simp, hstrict.1.symm⟩
    · exact hconcerns
  · exact ⟨s, hs, rfl⟩

theorem concerns_iff (h : Tightened rules others) :
    Concerns others target ↔ Concerns rules target := by
  constructor
  · rintro ⟨s, hs, rfl⟩
    exact h.concerns_of_mem hs
  · rintro ⟨r, hr, rfl⟩
    obtain ⟨s, hs, hstrict⟩ := h.exists_asStrictAs hr
    exact ⟨s, hs, hstrict.1⟩

theorem admits (h : Tightened rules others) (ha : Admits others target id) :
    Admits rules target id := by
  rw [admits_iff] at ha ⊢
  intro r hr ht hd
  obtain ⟨s, hs, hstrict⟩ := h.exists_asStrictAs hr
  exact ha s hs (hstrict.1.trans ht) (hstrict.2 id hd)

theorem settles_iff (h : Tightened rules others) :
    Settles others actor target ↔ Settles rules actor target :=
  and_congr h.concerns_iff Iff.rfl

theorem passes (h : Tightened rules others) (hp : Passes others actor target) :
    Passes rules actor target := by
  cases target with
  | role =>
      obtain ⟨id, hid, ha⟩ := hp
      exact ⟨id, hid, h.admits ha⟩
  | user | channel | guild => exact h.admits hp

theorem ruling_atMost (h : Tightened rules others) (actor : Actor) :
    (ruling others actor).AtMost (ruling rules actor) := by
  simp only [ruling, h.settles_iff]
  cases precedence.find? fun target => Settles rules actor target with
  | none => exact .refl .undecided
  | some target =>
      by_cases hp : Passes others actor target
      · simp only [hp, h.passes hp, if_true]
        exact .refl .approved
      · by_cases hp' : Passes rules actor target
        · simp only [hp, hp', if_true, if_false]
          exact .inr ⟨rfl, rfl⟩
        · simp only [hp, hp', if_false]
          exact .refl .denied

end Tightened

/-! ## Policies -/

/-- A policy whose own rules, or those of the group that a method is found in, are tightened. -/
inductive TightenedFor (p : Policy) (method : String) : Policy → Prop
  | rules {rules : List Rule} (h : Tightened p.rules rules) : TightenedFor p method { p with rules }
  | group {front back : List Group} {g : Group} {rules : List Rule}
      (hgroups : p.groups = front ++ g :: back) (hname : g.name = method)
      (hfront : ∀ g' ∈ front, g'.name ≠ method) (h : Tightened g.rules rules) :
      TightenedFor p method { p with groups := front ++ { g with rules } :: back }

variable {p q : Policy} {method : String}

theorem group?_eq_some {front back : List Group} {g : Group}
    (hgroups : p.groups = front ++ g :: back) (hname : g.name = method)
    (hfront : ∀ g' ∈ front, g'.name ≠ method) :
    p.group? method = some g := by
  have hnone : front.find? (·.name == method) = none := by simpa using hfront
  rw [group?, hgroups, List.find?_append, hnone]
  simp [hname]

theorem TightenedFor.consult_atMost (h : p.TightenedFor method q) (actor : Actor) :
    (q.consult method actor).AtMost (p.consult method actor) := by
  cases h with
  | @rules rules h =>
      have hruling := h.ruling_atMost actor
      have hgroup : ({ p with rules } : Policy).group? method = p.group? method := rfl
      unfold consult
      rw [hgroup]
      cases p.group? method with
      | none => exact hruling
      | some g =>
          refine Verdict.AtMost.otherwise (.refl _) ?_
          unfold rulingAbove
          split
          · exact .refl .undecided
          · exact hruling
  | @group front back g rules hgroups hname hfront h =>
      have hfound : p.group? method = some g := group?_eq_some hgroups hname hfront
      have hfound' : ({ p with groups := front ++ { g with rules } :: back } : Policy).group? method
          = some { g with rules } := group?_eq_some rfl hname hfront
      unfold consult
      rw [hfound, hfound']
      exact (h.ruling_atMost actor).otherwise (.refl _)

end Policy

/-! ## Decisions -/

namespace PolicySet

/-- A command and the policies it is judged by, one of them made stricter in one place: the filters
of the command, or the policy of its owner. -/
inductive Tightening (policies : PolicySet) (command : Command) : PolicySet → Command → Prop
  | filters {filters : List Policy.Rule} (h : Policy.Tightened command.filters filters) :
      Tightening policies command policies { command with filters }
  | policy {p q : Policy} (hp : policies.get? command.owner = some p)
      (h : p.TightenedFor command.method q) :
      Tightening policies command (policies.insert command.owner q) command

variable {policies others : PolicySet} {command stricter : Command}

theorem canRun_denied_of_atMost {actor : Actor}
    (hfilters : (Policy.ruling stricter.filters actor).AtMost (Policy.ruling command.filters actor))
    (hconsult : (others.consult stricter actor).AtMost (policies.consult command actor))
    (hdm : stricter.dmOnly = command.dmOnly) (hcontainer : stricter.container = command.container)
    (hd : policies.canRun command actor = .denied) : others.canRun stricter actor = .denied := by
  rw [canRun_eq] at hd ⊢
  rw [hdm, hcontainer]
  by_cases hm : actor.isMaintainer
  · simp [hm] at hd
  by_cases hf : Policy.ruling command.filters actor = .denied
  · simp [hm, hfilters.denied hf]
  by_cases hdirect : (command.dmOnly && !actor.isDirect) = true
  · simp [hdirect, hm]
  simp only [hm, hf, hdirect, if_false, Bool.false_eq_true] at hd ⊢
  rw [hconsult.orDefault_denied hd]
  split <;> rfl

/-- Whatever is tightened, and wherever in its list: what was denied is denied. -/
theorem canRun_denied_of_tightening (h : Tightening policies command others stricter)
    {actor : Actor} (hd : policies.canRun command actor = .denied) :
    others.canRun stricter actor = .denied := by
  cases h with
  | filters h =>
      have hconsult : policies.consult { command with filters := _ } actor
          = policies.consult command actor := rfl
      exact canRun_denied_of_atMost (h.ruling_atMost actor) (hconsult ▸ .refl _) rfl rfl hd
  | @policy p q hp h =>
      have hq : (policies.insert command.owner q).get? command.owner = some q := by
        simp [SortedMap.get?_insert]
      refine canRun_denied_of_atMost (.refl _) ?_ rfl rfl hd
      unfold consult
      rw [hp, hq]
      exact h.consult_atMost actor

/-- A rule about channels in front of a group that lists roles and channels: the roles still
decide. -/
theorem canRun_denied_of_tightening_listing :
    let roles : Policy.Rule := ⟨.whitelist, .role, [7]⟩
    let channel : Policy.Rule := ⟨.whitelist, .channel, [5]⟩
    let banned : Policy.Rule := ⟨.blacklist, .role, [9]⟩
    let listing : Policy.Group :=
      { owner := "Files", name := "list", kind := .method, rules := [channel, roles] }
    let reading : Policy.Group := { owner := "Files", name := "read", kind := .group }
    let policy : Policy := { name := "Files", groups := [reading, listing] }
    let policy' : Policy :=
      { policy with groups := [reading, { listing with rules := [banned, channel, roles] }] }
    let policies : PolicySet := .add ∅ policy
    let others : PolicySet := policies.add policy'
    let command : Command := { Command.ofSegments ["file", "list"] with owner := "Files" }
    let actor : Actor := { user := 1, channel := 5, roles := [8] }
    Tightening policies command others command ∧ policies.canRun command actor = .denied ∧
      others.canRun command actor = .denied := by
  intro roles channel banned listing reading policy policy' policies others command actor
  have hrules : Policy.Tightened listing.rules [banned, channel, roles] :=
    @Policy.Tightened.insert [] [channel, roles] banned (by decide)
  have hpolicy : policy.TightenedFor "list" policy' :=
    @Policy.TightenedFor.group policy "list" [reading] [] listing _ rfl rfl (by decide) hrules
  have hp : policies.get? command.owner = some policy := by decide
  have h : Tightening policies command others command := .policy hp hpolicy
  have hd : policies.canRun command actor = .denied := by decide
  exact ⟨h, hd, canRun_denied_of_tightening h hd⟩

/-- Where no rule is about users yet, one for users decides before the roles and may grant. -/
example :
    let roles : Policy.Rule := ⟨.whitelist, .role, [7]⟩
    let user : Policy.Rule := ⟨.whitelist, .user, [1]⟩
    let command : Command := { Command.ofSegments ["list"] with filters := [roles] }
    let actor : Actor := { user := 1, channel := 5, roles := [8] }
    PolicySet.canRun ∅ command actor = .denied ∧
      PolicySet.canRun ∅ { command with filters := [user, roles] } actor = .approved := by
  decide

end PolicySet

end ChatWarden
