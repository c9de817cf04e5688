import ChatWarden.Proofs.Policy.Items

/-!
# Reading a document is cutting it into clauses

The draft that the reader keeps is an outline (`Outline.draft`), and adding an item to it is adding
the clause unless the name of a group is taken. So a document is accepted exactly if it can be cut
into clauses that open no group twice, and its policy is what the clauses mean.
-/

namespace ChatWarden.Policy

/-! ## Outlines as drafts -/

namespace Outline

/-- Whether lines that go to a group go to a proper one. -/
def Proper (o : Outline) : Prop :=
  ∀ g ∈ o.current, g.kind ≠ .whole

theorem proper_empty : Proper {} := by
  intro g hg
  contradiction

def names (o : Outline) : List String :=
  o.groups.map Group.name

/-- The draft at the same point. -/
def draft (name : String) (o : Outline) : Draft :=
  ⟨o.policy name, (o.current.map Group.kind).getD .whole⟩

variable {o : Outline} {name : String}

theorem draft_edit (h : o.Proper) (change : Scope → Scope) :
    { o.draft name with
      policy := (o.draft name).policy.updateScope (o.draft name).inGroup change }
      = (o.edit change).draft name := by
  obtain ⟨whole, closed, current⟩ := o
  cases current with
  | none => rfl
  | some g =>
      have hk : (g.kind != .whole) = true := by simpa using h g rfl
      simp [updateScope, Draft.inGroup, draft, policy, edit, groups, hk]

theorem edit_names (change : Scope → Scope) : (o.edit change).names = o.names := by
  obtain ⟨whole, closed, current⟩ := o
  cases current with
  | none => rfl
  | some g => simp [names, groups, edit]

theorem edit_proper (h : o.Proper) (change : Scope → Scope) : (o.edit change).Proper := by
  obtain ⟨whole, closed, current⟩ := o
  cases current with
  | none => exact h
  | some g =>
      intro g' hg
      cases hg
      exact h g rfl

theorem add_proper (h : o.Proper) (c : Clause) : (o.add name c).Proper := by
  cases c with
  | rule | property => exact edit_proper h _
  | stray => exact h
  | scope kind group properties =>
      intro g hg
      cases kind <;> cases hg <;> simp

theorem add_names (c : Clause) : (o.add name c).names = o.names ++ c.groupName?.toList := by
  cases c with
  | rule | property => simp [add, edit_names, Clause.groupName?]
  | stray => simp [add, Clause.groupName?]
  | scope kind group properties =>
      cases kind <;> simp [add, names, groups, Clause.groupName?]

/-- The names stay different exactly if a group that is opened is new. -/
theorem nodup_add_names_iff {c : Clause} :
    (o.add name c).names.Nodup ↔ o.names.Nodup ∧ ∀ group ∈ c.groupName?, group ∉ o.names := by
  rw [add_names]
  cases c.groupName? with
  | none => simp
  | some group =>
      rw [List.nodup_append]
      constructor
      · rintro ⟨hn, _, hne⟩
        refine ⟨hn, fun other hother hmem => ?_⟩
        exact hne other hmem other (by simpa [eq_comm] using hother) rfl
      · rintro ⟨hn, hfresh⟩
        refine ⟨hn, by simp, fun other hmem new hnew => ?_⟩
        rintro rfl
        exact hfresh other (by simpa [eq_comm] using hnew) hmem

end Outline

theorem group?_eq_none_iff {p : Policy} {name : String} :
    p.group? name = none ↔ name ∉ p.groups.map Group.name := by
  rw [group?, List.find?_eq_none]
  constructor
  · intro h hm
    obtain ⟨g, hg, rfl⟩ := List.mem_map.mp hm
    exact h g hg (beq_self_eq_true g.name)
  · intro h g hg heq
    apply h
    rw [← eq_of_beq heq]
    exact List.mem_map_of_mem hg

theorem addGroup?_eq (p : Policy) (g : Group) :
    p.addGroup? g =
      if g.name ∈ p.groups.map Group.name then none
      else some { p with groups := p.groups ++ [g] } := by
  by_cases h : g.name ∈ p.groups.map Group.name
  · rw [if_pos h, addGroup?]
    cases hg : p.group? g.name with
    | none => exact absurd h (group?_eq_none_iff.mp hg)
    | some other => rfl
  · rw [if_neg h, addGroup?, group?_eq_none_iff.mpr h]

/-- An item is added to a draft exactly if it opens no group whose name is taken. -/
theorem Draft.add_eq_ok_iff {o : Outline} {name : String} (h : o.Proper) {c : Clause} {line : Nat}
    {d : Draft} :
    (o.draft name).add (c.item line) = .ok d ↔
      (∀ group ∈ c.groupName?, group ∉ o.names) ∧ (o.add name c).draft name = d := by
  cases c with
  | rule r =>
      rw [Clause.item, Draft.add, Outline.draft_edit h]
      simp [Clause.groupName?, Outline.add, Scope.addRule]
  | property key value =>
      rw [Clause.item, Draft.add, Outline.draft_edit h]
      simp [Clause.groupName?, Outline.add, Scope.setProperty]
  | stray => simp [Clause.item, Draft.add, Clause.groupName?, Outline.add]
  | scope kind group properties =>
      have hnames : (o.draft name).policy.groups.map Group.name = o.names := rfl
      cases kind with
      | whole =>
          simp [Clause.item, Draft.add, Clause.groupName?, Outline.add, Outline.draft,
            Outline.policy, Outline.groups]
      | group | method =>
          simp only [Clause.item, Draft.add, addGroup?_eq, hnames, Clause.groupName?]
          by_cases hg : group ∈ o.names
          · simp [hg]
          · simp [hg, Outline.add, Outline.draft, Outline.policy, Outline.groups]

@[simp] theorem groupNames_nil : groupNames [] = [] := rfl

theorem groupNames_cons (c : Clause) (cs : List Clause) :
    groupNames (c :: cs) = c.groupName?.toList ++ groupNames cs := by
  cases h : c.groupName? <;> simp [groupNames, h]

theorem Outline.add_names_append (o : Outline) (name : String) (c : Clause) (cs : List Clause) :
    (o.add name c).names ++ groupNames cs = o.names ++ groupNames (c :: cs) := by
  rw [add_names, groupNames_cons, List.append_assoc]

/-! ## Whole documents -/

variable {endLine : Nat} {t : PolicyToken} {ts rest : List PolicyToken} {name : String}

theorem readAll_cons_eq_ok_iff {d d' : Draft} :
    Draft.readAll endLine d (t :: ts) = .ok d' ↔
      ∃ item rest d₁, readItem endLine t ts = .ok (item, rest) ∧ d.add item = .ok d₁ ∧
        Draft.readAll endLine d₁ rest = .ok d' := by
  rw [Draft.readAll]
  constructor
  · intro h
    split at h
    · contradiction
    · rename_i item rest hitem
      split at h
      · contradiction
      · rename_i d₁ hadd
        exact ⟨item, rest, d₁, hitem, hadd, h⟩
  · rintro ⟨item, rest, d₁, hitem, hadd, h⟩
    split
    · rename_i e he
      rw [hitem] at he
      contradiction
    · rename_i item' rest' hitem'
      rw [hitem] at hitem'
      cases hitem'
      simp only [hadd, h]

theorem cut_nil_iff {cs : List Clause} : Cut cs [] ↔ cs = [] := by
  constructor
  · intro h
    generalize hl : [] = ls at h
    cases h with
    | nil => rfl
    | @cons c cs ls rest hc hcs =>
        -- No clause is written without a lexeme.
        have hls : ls = [] := (List.append_eq_nil_iff.mp hl.symm).1
        cases hc <;> simp [assignment] at hls
  · rintro rfl
    exact .nil

/-- The first clause of a document is its first item. -/
theorem exists_readItem_of_cut (endLine : Nat) {c : Clause} {cs : List Clause}
    (hreg : RegularTokens ts) (h : Cut (c :: cs) (spelling ts)) :
    ∃ t us rest, ts = t :: us ∧ readItem endLine t us = .ok (c.item t.line, rest) ∧
      RegularTokens rest ∧ Cut cs (spelling rest) := by
  generalize hl : spelling ts = ls at h
  cases h with
  | cons hc hcs =>
      obtain ⟨taken, rest, rfl, rfl, rfl⟩ := exists_append_of_spelling hl
      obtain ⟨t, us, rfl, hitem⟩ := readItem_of_written endLine hreg.left hc
      exact ⟨t, us ++ rest, rest, rfl, hitem, hreg.right, hcs⟩

theorem item_injective {line : Nat} {c c' : Clause} (h : c.item line = c'.item line) : c = c' := by
  cases c <;> cases c' <;> simp_all [Clause.item]

/-- There is at most one way to cut a document. -/
theorem cut_unique {cs cs' : List Clause} (hreg : RegularTokens ts) (h : Cut cs (spelling ts))
    (h' : Cut cs' (spelling ts)) : cs = cs' := by
  induction cs generalizing ts cs' with
  | nil =>
      generalize hl : spelling ts = ls at h
      cases h
      rw [hl] at h'
      exact (cut_nil_iff.mp h').symm
  | cons c cs ih =>
      obtain ⟨t, us, rest, rfl, hitem, hrest, hcut⟩ := exists_readItem_of_cut 0 hreg h
      cases cs' with
      | nil => cases h'
      | cons c' cs' =>
          -- One reader reads both first items, so they are the same and so is what is left.
          obtain ⟨t', us', rest', hts, hitem', _, hcut'⟩ := exists_readItem_of_cut 0 hreg h'
          obtain ⟨rfl, rfl⟩ := List.cons.inj hts
          rw [hitem] at hitem'
          obtain ⟨hc, rfl⟩ := Prod.mk.inj (Except.ok.inj hitem')
          rw [item_injective hc, ih hrest hcut hcut']

theorem readAll_of_cut {o : Outline} {cs : List Clause} (ho : o.Proper) (hreg : RegularTokens ts)
    (hcut : Cut cs (spelling ts)) (hnodup : (o.names ++ groupNames cs).Nodup) :
    Draft.readAll endLine (o.draft name) ts
      = .ok ((cs.foldl (Outline.add name) o).draft name) := by
  induction cs generalizing o ts with
  | nil =>
      generalize hl : spelling ts = ls at hcut
      cases hcut
      rw [spelling_eq_nil_iff.mp hl, Draft.readAll]
      rfl
  | cons c cs ih =>
      obtain ⟨t, us, rest, rfl, hitem, hrest, hcut⟩ := exists_readItem_of_cut endLine hreg hcut
      rw [← o.add_names_append name] at hnodup
      have hnames := Outline.nodup_add_names_iff.mp (List.nodup_append.mp hnodup).1
      have hadd : (o.draft name).add (c.item t.line) = .ok ((o.add name c).draft name) :=
        (Draft.add_eq_ok_iff ho).mpr ⟨hnames.2, rfl⟩
      exact readAll_cons_eq_ok_iff.mpr
        ⟨_, rest, _, hitem, hadd, ih (o.add_proper ho c) hrest hcut hnodup⟩

theorem exists_cut_of_readAll {o : Outline} {d : Draft} (ho : o.Proper) (hn : o.names.Nodup)
    (hreg : RegularTokens ts) (h : Draft.readAll endLine (o.draft name) ts = .ok d) :
    ∃ cs, Cut cs (spelling ts) ∧ (o.names ++ groupNames cs).Nodup ∧
      (cs.foldl (Outline.add name) o).draft name = d := by
  induction hlen : ts.length using Nat.strongRecOn generalizing o ts with
  | ind n ih =>
      cases ts with
      | nil =>
          rw [Draft.readAll] at h
          cases h
          exact ⟨[], .nil, by simpa using hn, rfl⟩
      | cons t ts =>
          obtain ⟨item, rest, d₁, hitem, hadd, hrun⟩ := readAll_cons_eq_ok_iff.mp h
          have hle := length_le_of_readItem hitem
          have hlt : rest.length < n := by
            rw [← hlen, List.length_cons]
            omega
          obtain ⟨c, taken, hts, hw, rfl⟩ := written_of_readItem hreg hitem
          obtain ⟨hfresh, rfl⟩ := (Draft.add_eq_ok_iff ho).mp hadd
          rw [hts] at hreg ⊢
          have hn' : (o.add name c).names.Nodup := Outline.nodup_add_names_iff.mpr ⟨hn, hfresh⟩
          obtain ⟨cs, hcut, hnodup, hd⟩ :=
            ih rest.length hlt (o.add_proper ho c) hn' hreg.right hrun rfl
          rw [o.add_names_append] at hnodup
          rw [spelling_append]
          exact ⟨c :: cs, .cons hw hcut, hnodup, hd⟩

theorem regularTokens_lex (source : String) : RegularTokens (lexer.lex source) :=
  fun _ ht => regular_of_mem_lexemes (List.mem_map_of_mem ht)

theorem ofTokens_eq_ok_iff {p : Policy} (hreg : RegularTokens ts) :
    ofTokens name ts = .ok p ↔
      ∃ cs, Cut cs (spelling ts) ∧ (groupNames cs).Nodup ∧ meaning name cs = p := by
  have hstart : Draft.start name = Outline.draft name {} := rfl
  rw [ofTokens, hstart]
  constructor
  · intro h
    obtain ⟨d, hr, rfl⟩ := exists_of_map_eq_ok h
    obtain ⟨cs, hcut, hnodup, rfl⟩ :=
      exists_cut_of_readAll Outline.proper_empty List.nodup_nil hreg hr
    exact ⟨cs, hcut, hnodup, rfl⟩
  · rintro ⟨cs, hcut, hnodup, rfl⟩
    rw [readAll_of_cut Outline.proper_empty hreg hcut hnodup]
    rfl

/-- A document is accepted exactly if it can be cut into clauses that open no group twice, and its
policy is what these mean. -/
theorem parse_eq_ok_iff (name source : String) (p : Policy) :
    parse name source = .ok p ↔
      ∃ cs, Cut cs (lexer.lexemes source) ∧ (groupNames cs).Nodup ∧ meaning name cs = p :=
  ofTokens_eq_ok_iff (regularTokens_lex source)

end ChatWarden.Policy
