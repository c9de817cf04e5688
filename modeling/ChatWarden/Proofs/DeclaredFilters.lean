import ChatWarden.Proofs.Consultation

/-!
# Filters that deny on their own

The filters of a command are judged together, by the first kind of identifier that any of them is
about. A filter that would deny on its own is therefore final unless a kind that is consulted before
its own lets the actor pass; then the filters refuse nothing at all
(`PolicySet.canRun_of_denying_filter`).
-/

namespace ChatWarden

namespace Policy

/-- Whether a target is consulted before another. -/
def Target.Before (t u : Target) : Prop :=
  precedence.idxOf t < precedence.idxOf u

instance : DecidableRel Target.Before := fun t u =>
  inferInstanceAs (Decidable (precedence.idxOf t < precedence.idxOf u))

/-- Whether the first target that settles what rules say is consulted before that of one of them,
and lets the actor pass. -/
def Overruled (rules : List Rule) (actor : Actor) (r : Rule) : Prop :=
  ∃ target ∈ precedence.find? fun target => Settles rules actor target,
    target.Before r.target ∧ Passes rules actor target

instance (rules : List Rule) (actor : Actor) : DecidablePred (Overruled rules actor) := fun _ =>
  inferInstanceAs
    (Decidable (∃ target ∈ precedence.find? fun target => Settles rules actor target, _))

variable {rules : List Rule} {actor : Actor} {r : Rule} {target : Target}

/-- The search for a target ends at the latest with one that is known to do. -/
theorem before_or_eq_of_find? {p : Target → Bool} {t u : Target} (h : precedence.find? p = some t)
    (hu : p u = true) : t.Before u ∨ t = u := by
  obtain ⟨ht, before, after, hsplit, hbefore⟩ := List.find?_eq_some_iff_append.mp h
  have hout : ∀ v, p v = true → v ∉ before := by
    intro v hv hmem
    simpa [hv] using hbefore v hmem
  by_cases htu : t = u
  · exact .inr htu
  · left
    rw [Target.Before, hsplit, List.idxOf_append, List.idxOf_append, if_neg (hout t ht),
      if_neg (hout u hu), List.idxOf_cons_self, List.idxOf_cons, beq_false_of_ne htu]
    simp

theorem Admits.of_mem (hr : r ∈ rules) {id : Option Id} (ha : Admits rules target id) :
    Admits [r] target id := by
  rw [admits_iff] at ha ⊢
  intro q hq
  rw [List.mem_singleton.mp hq]
  exact ha r hr

theorem Passes.of_mem (hr : r ∈ rules) (hp : Passes rules actor target) :
    Passes [r] actor target := by
  cases target with
  | role =>
      obtain ⟨id, hid, ha⟩ := hp
      exact ⟨id, hid, ha.of_mem hr⟩
  | user | channel | guild => exact Admits.of_mem hr hp

theorem Settles.of_mem (hr : r ∈ rules) (hs : Settles [r] actor target) :
    Settles rules actor target := by
  obtain ⟨⟨q, hq, ht⟩, hroles⟩ := hs
  rw [List.mem_singleton.mp hq] at ht
  exact ⟨⟨r, hr, ht⟩, hroles⟩

/-- A rule that denies on its own does so by its target. -/
theorem settles_of_ruling_denied (hd : ruling [r] actor = .denied) :
    Settles [r] actor r.target ∧ ¬Passes [r] actor r.target := by
  unfold ruling at hd
  split at hd
  · contradiction
  · rename_i target hfind
    have hs : Settles [r] actor target := by simpa using List.find?_some hfind
    obtain ⟨⟨q, hq, ht⟩, _⟩ := id hs
    rw [List.mem_singleton.mp hq] at ht
    subst ht
    split at hd
    · contradiction
    · rename_i hp
      exact ⟨hs, hp⟩

/-- A rule that denies on its own decides for the whole list, unless it is overruled. -/
theorem ruling_of_denying_rule (hr : r ∈ rules) (hd : ruling [r] actor = .denied) :
    ruling rules actor = if Overruled rules actor r then .approved else .denied := by
  obtain ⟨hs, hp⟩ := settles_of_ruling_denied hd
  have hs : Settles rules actor r.target := hs.of_mem hr
  have hp : ¬Passes rules actor r.target := mt (Passes.of_mem hr) hp
  cases hfind : precedence.find? fun target => Settles rules actor target with
  | none =>
      have := List.find?_eq_none.mp hfind r.target (by cases r.target <;> decide)
      simp [hs] at this
  | some target =>
      have hover :
          Overruled rules actor r ↔ target.Before r.target ∧ Passes rules actor target := by
        simp [Overruled, hfind]
      simp only [ruling, hfind, hover]
      rcases before_or_eq_of_find? hfind (by simpa using hs) with hbefore | rfl
      · simp only [hbefore, true_and]
      · simp [hp]

theorem ruling_nil (actor : Actor) : ruling [] actor = .undecided := rfl

end Policy

namespace PolicySet

open Policy

/-- A filter that denies on its own is final, whatever the policies are, unless it is overruled. If
it is, the command is judged as one without filters. -/
theorem canRun_of_denying_filter (policies : PolicySet) {command : Command} {actor : Actor}
    {filter : Rule} (hm : actor.isMaintainer = false) (hmem : filter ∈ command.filters)
    (hd : ({ rules := [filter] } : Scope).resolve actor = .denied) :
    policies.canRun command actor =
      if Overruled command.filters actor filter then
        policies.canRun { command with filters := [] } actor
      else .denied := by
  rw [Scope.resolve_eq_ruling] at hd
  have hruling := ruling_of_denying_rule hmem hd
  rw [canRun_eq, canRun_eq, hruling, ruling_nil]
  by_cases hover : Overruled command.filters actor filter
  · simp only [hover, if_true]
    rfl
  · simp [hover, hm]

/-- A closed channel outweighs an open guild and a policy that lists the user. -/
theorem canRun_of_denying_filter_channel :
    let channel : Rule := ⟨.blacklist, .channel, [5]⟩
    let guild : Rule := ⟨.whitelist, .guild, [9]⟩
    let policies : PolicySet := .add ∅ { name := "Music", rules := [⟨.whitelist, .user, [1]⟩] }
    let command : Command :=
      { Command.ofSegments ["play"] with owner := "Music", filters := [guild, channel] }
    let actor : Actor := { user := 1, channel := 5, guild := some 9 }
    actor.isMaintainer = false ∧ channel ∈ command.filters ∧
      ({ rules := [channel] } : Scope).resolve actor = .denied ∧
      ¬Overruled command.filters actor channel ∧ policies.canRun command actor = .denied := by
  intro channel guild policies command actor
  have hmem : channel ∈ command.filters := by decide
  have hd : ({ rules := [channel] } : Scope).resolve actor = .denied := by decide
  have hover : ¬Overruled command.filters actor channel := by decide
  exact ⟨rfl, hmem, hd, hover,
    (canRun_of_denying_filter policies rfl hmem hd).trans (if_neg hover)⟩

/-- A listed user is let into a closed channel: users are consulted before channels. -/
theorem canRun_approved_of_denying_filter :
    let user : Rule := ⟨.whitelist, .user, [1]⟩
    let channel : Rule := ⟨.blacklist, .channel, [5]⟩
    let command : Command :=
      { Command.ofSegments ["play"] with owner := "Music", filters := [user, channel] }
    let actor : Actor := { user := 1, channel := 5 }
    actor.isMaintainer = false ∧ channel ∈ command.filters ∧
      ({ rules := [channel] } : Scope).resolve actor = .denied ∧
      PolicySet.canRun ∅ command actor = .approved := by
  decide

end PolicySet

end ChatWarden
