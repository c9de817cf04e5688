import ChatWarden.Proofs.Policy.Ruling

/-!
# Rules that are alike

Two lists of rules are the same to an actor if each rule of one is, but for the order and number of
its identifiers, also in the other. `ruling_congr` says that they rule alike, also about two actors
who differ in the order and number of their roles only.
-/

namespace ChatWarden

/-- Two actors that no rule can tell apart. -/
structure Actor.Alike (a b : Actor) : Prop where
  user : a.user = b.user
  channel : a.channel = b.channel
  guild : a.guild = b.guild
  roles : ∀ id, id ∈ a.roles ↔ id ∈ b.roles
  isMaintainer : a.isMaintainer = b.isMaintainer
  isDirect : a.isDirect = b.isDirect

namespace Policy

/-- Two rules that say the same: the identifiers they list are the same as a set. -/
structure Rule.Alike (r s : Rule) : Prop where
  kind : r.kind = s.kind
  target : r.target = s.target
  ids : ∀ id, id ∈ r.ids ↔ id ∈ s.ids

theorem Rule.alike_iff {r s : Rule} :
    r.Alike s ↔ r.kind = s.kind ∧ r.target = s.target ∧ r.ids ⊆ s.ids ∧ s.ids ⊆ r.ids :=
  ⟨fun h => ⟨h.kind, h.target, fun id => (h.ids id).mp, fun id => (h.ids id).mpr⟩,
    fun h => ⟨h.1, h.2.1, fun _ => ⟨@h.2.2.1 _, @h.2.2.2 _⟩⟩⟩

instance : DecidableRel Rule.Alike := fun _ _ => decidable_of_iff _ Rule.alike_iff.symm

theorem Rule.Alike.lists_iff {r s : Rule} (h : r.Alike s) (id : Option Id) :
    r.Lists id ↔ s.Lists id := by
  cases id with
  | none => exact Iff.rfl
  | some id => exact h.ids id

/-- Whether every rule of the second list says the same as one of the first. -/
def Covers (rules others : List Rule) : Prop :=
  ∀ s ∈ others, ∃ r ∈ rules, r.Alike s

instance (rules others : List Rule) : Decidable (Covers rules others) :=
  inferInstanceAs (Decidable (∀ s ∈ others, ∃ r ∈ rules, _))

/-- Whether two lists of rules are the same as a set. -/
structure SameRules (rules others : List Rule) : Prop where
  covers : Covers rules others
  covered : Covers others rules

instance (rules others : List Rule) : Decidable (SameRules rules others) :=
  decidable_of_iff (Covers rules others ∧ Covers others rules)
    ⟨fun h => ⟨h.1, h.2⟩, fun h => ⟨h.covers, h.covered⟩⟩

variable {rules others : List Rule} {target : Target} {id : Option Id} {a b : Actor}

theorem Admits.of_covers (h : Covers rules others) (ha : Admits rules target id) :
    Admits others target id := by
  constructor
  · intro s hs ht hk
    obtain ⟨r, hr, halike⟩ := h s hs
    exact (halike.lists_iff id).mp (ha.1 r hr (halike.target.trans ht) (halike.kind.trans hk))
  · intro s hs ht hk hl
    obtain ⟨r, hr, halike⟩ := h s hs
    exact ha.2 r hr (halike.target.trans ht) (halike.kind.trans hk) ((halike.lists_iff id).mpr hl)

theorem Concerns.of_covers (h : Covers rules others) (hc : Concerns others target) :
    Concerns rules target := by
  obtain ⟨s, hs, ht⟩ := hc
  obtain ⟨r, hr, halike⟩ := h s hs
  exact ⟨r, hr, halike.target.trans ht⟩

namespace SameRules

theorem admits_iff (h : SameRules rules others) :
    Admits rules target id ↔ Admits others target id :=
  ⟨.of_covers h.covers, .of_covers h.covered⟩

theorem concerns_iff (h : SameRules rules others) :
    Concerns rules target ↔ Concerns others target :=
  ⟨.of_covers h.covered, .of_covers h.covers⟩

theorem settles_iff (h : SameRules rules others) (ha : a.Alike b) :
    Settles rules a target ↔ Settles others b target := by
  have hroles : a.roles = [] ↔ b.roles = [] := by
    simp only [List.eq_nil_iff_forall_not_mem, ha.roles]
  exact and_congr h.concerns_iff (imp_congr_right fun _ => not_congr hroles)

theorem passes_iff (h : SameRules rules others) (ha : a.Alike b) :
    Passes rules a target ↔ Passes others b target := by
  cases target with
  | user => simp only [Passes, ha.user, h.admits_iff]
  | role => simp only [Passes, ha.roles, h.admits_iff]
  | channel => simp only [Passes, ha.channel, h.admits_iff]
  | guild => simp only [Passes, ha.guild, h.admits_iff]

end SameRules

theorem ruling_congr (h : SameRules rules others) (ha : a.Alike b) :
    ruling rules a = ruling others b := by
  simp only [ruling, h.settles_iff ha, h.passes_iff ha]

theorem Scope.resolve_congr {s t : Scope} (h : SameRules s.rules t.rules) (ha : a.Alike b) :
    s.resolve a = t.resolve b := by
  rw [resolve_eq_ruling, resolve_eq_ruling, ruling_congr h ha]

end Policy

end ChatWarden
