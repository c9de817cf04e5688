import ChatWarden.Policy.Scope

/-!
# What rules say as sets

`Scope.resolve` walks over rules, roles and kinds of identifiers and stops early. `ruling` says the
same without an order among the rules: which kind of identifier decides depends on which kinds have
rules at all, and whether it admits the actor on what the rules list. `resolve_eq_ruling` joins the
two.
-/

namespace ChatWarden.Policy

/-- Whether a rule lists an identifier. One that is absent is listed nowhere. -/
def Rule.Lists (r : Rule) : Option Id → Prop
  | some id => id ∈ r.ids
  | none => False

instance (r : Rule) : DecidablePred r.Lists
  | some id => inferInstanceAs (Decidable (id ∈ r.ids))
  | none => inferInstanceAs (Decidable False)

/-- Whether the rules about a target let an identifier pass: every whitelist lists it and no
blacklist does. -/
def Admits (rules : List Rule) (target : Target) (id : Option Id) : Prop :=
  (∀ r ∈ rules, r.target = target → r.kind = .whitelist → r.Lists id) ∧
    ∀ r ∈ rules, r.target = target → r.kind = .blacklist → ¬r.Lists id

instance (rules : List Rule) (target : Target) (id : Option Id) :
    Decidable (Admits rules target id) :=
  inferInstanceAs (Decidable (_ ∧ _))

/-- Whether there is a rule about a target. -/
def Concerns (rules : List Rule) (target : Target) : Prop :=
  ∃ r ∈ rules, r.target = target

instance (rules : List Rule) (target : Target) : Decidable (Concerns rules target) :=
  inferInstanceAs (Decidable (∃ r ∈ rules, _))

/-- Whether a kind of identifier settles what rules say about an actor. Roles do not where the actor
has none. -/
def Settles (rules : List Rule) (actor : Actor) (target : Target) : Prop :=
  Concerns rules target ∧ (target = .role → actor.roles ≠ [])

instance (rules : List Rule) (actor : Actor) : DecidablePred (Settles rules actor) :=
  fun _ => inferInstanceAs (Decidable (_ ∧ _))

/-- Whether the rules about a target let an actor pass. One admitted role is enough. -/
def Passes (rules : List Rule) (actor : Actor) : Target → Prop
  | .user => Admits rules .user (some actor.user)
  | .role => ∃ id ∈ actor.roles, Admits rules .role (some id)
  | .channel => Admits rules .channel (some actor.channel)
  | .guild => Admits rules .guild actor.guild

instance (rules : List Rule) (actor : Actor) : DecidablePred (Passes rules actor)
  | .user => inferInstanceAs (Decidable (Admits _ _ _))
  | .role => inferInstanceAs (Decidable (∃ id ∈ actor.roles, _))
  | .channel => inferInstanceAs (Decidable (Admits _ _ _))
  | .guild => inferInstanceAs (Decidable (Admits _ _ _))

/-- Targets in the order in which they are consulted. -/
def precedence : List Target :=
  [.user, .role, .channel, .guild]

/-- What rules say about an actor: whether it passes those about the first target that settles
it. -/
def ruling (rules : List Rule) (actor : Actor) : Verdict :=
  match precedence.find? fun target => Settles rules actor target with
  | none => .undecided
  | some target => if Passes rules actor target then .approved else .denied

/-! ## Rules of one target -/

namespace Rule

theorem verdict_whitelist {r : Rule} (h : r.kind = .whitelist) (id : Option Id) :
    r.verdict id = if r.Lists id then .approved else .denied := by
  cases id with
  | none => simp [verdict, checkAbsent, verdictOn, h, Lists]
  | some id => by_cases hid : id ∈ r.ids <;> simp [verdict, check, verdictOn, h, Lists, hid]

theorem verdict_blacklist {r : Rule} (h : r.kind = .blacklist) (id : Option Id) :
    r.verdict id = if r.Lists id then .denied else .approved := by
  cases id with
  | none => simp [verdict, checkAbsent, verdictOn, h, Lists]
  | some id => by_cases hid : id ∈ r.ids <;> simp [verdict, check, verdictOn, h, Lists, hid]

/-- A single rule is never undecided. -/
theorem verdict_eq_denied_or (r : Rule) (id : Option Id) :
    r.verdict id = .denied ∨ r.verdict id = .approved := by
  cases hk : r.kind with
  | whitelist => rw [verdict_whitelist hk]; split <;> simp
  | blacklist => rw [verdict_blacklist hk]; split <;> simp

end Rule

theorem admits_iff {rules : List Rule} {target : Target} {id : Option Id} :
    Admits rules target id ↔ ∀ r ∈ rules, r.target = target → r.verdict id ≠ .denied := by
  constructor
  · intro h r hr ht
    cases hk : r.kind with
    | whitelist => simp [Rule.verdict_whitelist hk, h.1 r hr ht hk]
    | blacklist => simp [Rule.verdict_blacklist hk, h.2 r hr ht hk]
  · intro h
    refine ⟨fun r hr ht hk => ?_, fun r hr ht hk hl => ?_⟩
    · have hv := h r hr ht
      rw [Rule.verdict_whitelist hk] at hv
      by_cases hl : r.Lists id
      · exact hl
      · simp [hl] at hv
    · have hv := h r hr ht
      rw [Rule.verdict_blacklist hk] at hv
      simp [hl] at hv

namespace Scope

/-- The walk over rules stops at the first that denies, so only whether one does matters. -/
theorem verdictFrom_eq (soFar : Verdict) (id : Option Id) (rs : List Rule) :
    verdictFrom soFar id rs =
      if rs = [] then soFar
      else if ∀ r ∈ rs, r.verdict id ≠ .denied then .approved else .denied := by
  induction rs generalizing soFar with
  | nil => simp [verdictFrom]
  | cons r rs ih =>
      rcases r.verdict_eq_denied_or id with hd | ha
      · simp [verdictFrom, hd]
      · simp only [verdictFrom, ha, ih]
        cases rs <;> simp [ha]

theorem verdictFor_eq (s : Scope) (target : Target) (id : Option Id) :
    s.verdictFor target id =
      if Concerns s.rules target then
        if Admits s.rules target id then .approved else .denied
      else .undecided := by
  have hempty : s.rules.filter (·.target == target) = [] ↔ ¬Concerns s.rules target := by
    simp [Concerns]
  have hall : (∀ r ∈ s.rules.filter (·.target == target), r.verdict id ≠ .denied) ↔
      Admits s.rules target id := by
    simp [admits_iff]
  rw [verdictFor, verdictFrom_eq]
  by_cases hc : Concerns s.rules target
  · by_cases ha : Admits s.rules target id <;> simp only [hempty, hall, hc, ha] <;> rfl
  · simp [hempty, hc]

/-- The walk over roles stops at the first that is approved; a denied one is remembered. -/
theorem rolesVerdictFrom_eq (s : Scope) (soFar : Verdict) (ids : List Id) :
    s.rolesVerdictFrom soFar ids =
      if Concerns s.rules .role ∧ ids ≠ [] then
        if ∃ id ∈ ids, Admits s.rules .role (some id) then .approved else .denied
      else soFar := by
  induction ids generalizing soFar with
  | nil => simp [rolesVerdictFrom]
  | cons id ids ih =>
      simp only [rolesVerdictFrom, verdictFor_eq]
      by_cases hc : Concerns s.rules .role
      · by_cases ha : Admits s.rules .role (some id)
        · simp [hc, ha]
        · simp only [hc, ha, if_true, if_false, ih]
          cases ids <;> simp [ha]
      · simp [hc, ih]

/-- What the rules about one target say about an actor. -/
def verdictAbout (s : Scope) (actor : Actor) : Target → Verdict
  | .user => s.verdictFor .user (some actor.user)
  | .role => s.rolesVerdictFrom .undecided actor.roles
  | .channel => s.verdictFor .channel (some actor.channel)
  | .guild => s.verdictFor .guild actor.guild

theorem verdictAbout_eq (s : Scope) (actor : Actor) (target : Target) :
    s.verdictAbout actor target =
      if Settles s.rules actor target then
        if Passes s.rules actor target then .approved else .denied
      else .undecided := by
  have hsettles : Settles s.rules actor target ↔
      Concerns s.rules target ∧ (target = .role → actor.roles ≠ []) := Iff.rfl
  cases target with
  | role =>
      rw [verdictAbout, rolesVerdictFrom_eq]
      simp only [hsettles, forall_const]
      rfl
  | user | channel | guild =>
      rw [verdictAbout, verdictFor_eq]
      simp only [hsettles, reduceCtorEq, false_implies, and_true]
      rfl

/-- The answer is that of the first target, in order of precedence, with anything to say. -/
theorem resolve_eq_find (s : Scope) (actor : Actor) :
    s.resolve actor
      = ((precedence.map (s.verdictAbout actor)).find? (· ≠ .undecided)).getD .undecided := by
  simp only [precedence, List.map_cons, List.map_nil, List.find?_cons, List.find?_nil]
  unfold resolve verdictAbout
  cases s.verdictFor .user (some actor.user)
  case undecided =>
    cases s.rolesVerdictFrom .undecided actor.roles
    case undecided =>
      cases s.verdictFor .channel (some actor.channel)
      case undecided => cases s.verdictFor .guild actor.guild <;> rfl
      all_goals rfl
    all_goals rfl
  all_goals rfl

theorem resolve_eq_ruling (s : Scope) (actor : Actor) :
    s.resolve actor = ruling s.rules actor := by
  rw [resolve_eq_find]
  simp only [precedence, List.map_cons, List.map_nil, verdictAbout_eq, ruling, List.find?_cons,
    List.find?_nil]
  by_cases hu : Settles s.rules actor .user
  · by_cases hp : Passes s.rules actor .user <;> simp [hu, hp]
  by_cases hr : Settles s.rules actor .role
  · by_cases hp : Passes s.rules actor .role <;> simp [hu, hr, hp]
  by_cases hc : Settles s.rules actor .channel
  · by_cases hp : Passes s.rules actor .channel <;> simp [hu, hr, hc, hp]
  by_cases hg : Settles s.rules actor .guild
  · by_cases hp : Passes s.rules actor .guild <;> simp [hu, hr, hc, hg, hp]
  simp [hu, hr, hc, hg]

end Scope

end ChatWarden.Policy
