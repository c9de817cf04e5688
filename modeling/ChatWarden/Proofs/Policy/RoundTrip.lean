import ChatWarden.Proofs.Policy.Parsing
import ChatWarden.Proofs.Policy.Printer

/-!
# Reading what was written

The policies that documents declare are exactly the well-formed ones, and each of them is declared
by its own written form. One direction is an invariant of the outline: every step keeps the names,
keys and values words. The other follows from the clauses of the written form, which mean the
policy that they were written for.
-/

namespace ChatWarden.Policy

/-- A group as documents declare them for a policy of the given name. -/
structure Group.BelongsTo (owner : String) (g : Group) : Prop where
  owner : g.owner = owner
  kind : g.kind = .method ∨ g.kind = .group
  writable : g.Writable

/-- Rules and identifiers are arbitrary, and so is the order of the groups. -/
structure WellFormed (p : Policy) : Prop where
  groups : ∀ g ∈ p.groups, g.BelongsTo p.name
  distinct : (p.groups.map Group.name).Nodup
  words : Words p.properties

/-! ## Documents declare well-formed policies -/

theorem words_empty : Words ∅ := by
  intro e he
  contradiction

theorem words_insertAll {properties : Properties} {es : List (String × String)}
    (h : Words properties) (hes : ∀ e ∈ es, IsWord e.1 ∧ IsWord e.2) :
    Words (properties.insertAll es) := by
  intro e he
  rcases SortedMap.mem_of_mem_insertAll he with he | he
  · exact h e he
  · exact hes e he

/-- A clause whose name, keys and values are words. -/
def Clause.Writable : Clause → Prop
  | .scope _ name properties => (name = "" ∨ IsWord name) ∧ Words properties
  | .property key value => IsWord key ∧ IsWord value
  | _ => True

theorem writable_of_written {c : Clause} {ls rest : List PolicyLexeme} (h : Written c ls rest)
    (hreg : ∀ l ∈ ls, Regular l) : c.Writable := by
  cases h with
  | rule | stray => trivial
  | @property key value _ hkey _ hvalue =>
      have hk : Regular key := hreg key (by simp [assignment])
      have hv : Regular value := hreg value (by simp [assignment])
      exact ⟨isWord_of_regular hk hkey, isWord_of_regular hv hvalue⟩
  | @scope kind? colon name? pairs _ _ hname hpairs =>
      constructor
      · cases name? with
        | none => exact .inl rfl
        | some l =>
            have hl : Regular l := hreg l (by simp [bracketBody])
            exact .inr (isWord_of_regular hl (hname l rfl))
      · apply words_insertAll words_empty
        intro e he
        obtain ⟨pair, hpair, rfl⟩ := List.mem_map.mp he
        have hsub : ∀ l ∈ assignment pair, Regular l := by
          intro l hl
          apply hreg
          have : l ∈ pairs.flatMap assignment := List.mem_flatMap.mpr ⟨pair, hpair, hl⟩
          simp [bracketBody, bracketEnd, this]
        obtain ⟨hkey, hvalue⟩ := hpairs pair hpair
        exact ⟨isWord_of_regular (hsub pair.1 (by simp [assignment])) hkey,
          isWord_of_regular (hsub pair.2 (by simp [assignment])) hvalue⟩

theorem writable_of_cut {cs : List Clause} {ls : List PolicyLexeme} (h : Cut cs ls)
    (hreg : ∀ l ∈ ls, Regular l) : ∀ c ∈ cs, c.Writable := by
  induction h with
  | nil => simp
  | cons hc _ ih =>
      intro c hmem
      rcases List.mem_cons.mp hmem with rfl | hmem
      · exact writable_of_written hc fun l hl => hreg l (by simp [hl])
      · exact ih (fun l hl => hreg l (by simp [hl])) c hmem

namespace Outline

/-- What every outline of a document satisfies. -/
structure Sound (name : String) (o : Outline) : Prop where
  groups : ∀ g ∈ o.groups, g.BelongsTo name
  words : Words o.whole.properties

variable {o : Outline} {name : String}

theorem edit_sound {change : Scope → Scope} (h : o.Sound name)
    (hchange : ∀ s : Scope, Words s.properties → Words (change s).properties) :
    (o.edit change).Sound name := by
  obtain ⟨whole, closed, current⟩ := o
  cases current with
  | none => exact ⟨h.groups, hchange whole h.words⟩
  | some g =>
      refine ⟨fun g' hg => ?_, h.words⟩
      have hg : g' ∈ closed ++ [{ g with toScope := change g.toScope }] := hg
      rcases List.mem_append.mp hg with hg | hg
      · exact h.groups g' (List.mem_append_left _ hg)
      · have hlast : g.BelongsTo name := h.groups g (by simp [groups])
        have hw := hlast.writable
        rw [List.mem_singleton.mp hg]
        exact ⟨hlast.owner, hlast.kind, hw.name, hchange g.toScope hw.properties⟩

theorem add_sound {c : Clause} (h : o.Sound name) (hc : c.Writable) :
    (o.add name c).Sound name := by
  cases c with
  | rule r =>
      change (o.edit fun s => { s with rules := s.rules ++ [r] }).Sound name
      exact edit_sound h fun _ hs => hs
  | property key value =>
      change (o.edit fun s => { s with properties := s.properties.insert key value }).Sound name
      apply edit_sound h
      intro s hs
      have hpair : ∀ e ∈ [(key, value)], IsWord e.1 ∧ IsWord e.2 := by
        intro e he
        rw [List.mem_singleton.mp he]
        exact hc
      exact words_insertAll hs hpair
  | stray => exact h
  | scope kind group properties =>
      obtain ⟨hname, hwords⟩ := hc
      cases kind with
      | whole =>
          refine ⟨fun g hg => ?_, words_insertAll h.words hwords⟩
          have hg : g ∈ o.groups ++ [] := hg
          rw [List.append_nil] at hg
          exact h.groups g hg
      | group | method =>
          refine ⟨fun g hg => ?_, h.words⟩
          rcases List.mem_append.mp hg with hg | hg
          · exact h.groups g hg
          · rw [List.mem_singleton.mp hg]
            exact ⟨rfl, by simp, hname, hwords⟩

theorem foldl_sound {cs : List Clause} (h : o.Sound name) (hcs : ∀ c ∈ cs, c.Writable) :
    (cs.foldl (Outline.add name) o).Sound name := by
  induction cs generalizing o with
  | nil => exact h
  | cons c cs ih =>
      apply ih (add_sound h (hcs c (by simp)))
      intro d hd
      exact hcs d (by simp [hd])

theorem foldl_names (cs : List Clause) :
    (cs.foldl (Outline.add name) o).names = o.names ++ groupNames cs := by
  induction cs generalizing o with
  | nil => simp
  | cons c cs ih => rw [List.foldl_cons, ih, add_names, groupNames_cons, List.append_assoc]

end Outline

theorem names_meaning (name : String) (cs : List Clause) :
    (meaning name cs).groups.map Group.name = groupNames cs :=
  Outline.foldl_names cs

theorem wellFormed_meaning (name : String) {cs : List Clause} {ls : List PolicyLexeme}
    (hcut : Cut cs ls) (hreg : ∀ l ∈ ls, Regular l) (hnodup : (groupNames cs).Nodup) :
    (meaning name cs).WellFormed := by
  have hstart : Outline.Sound name {} := ⟨by simp [Outline.groups], words_empty⟩
  have hsound := Outline.foldl_sound hstart (writable_of_cut hcut hreg)
  refine ⟨hsound.groups, ?_, hsound.words⟩
  rw [names_meaning]
  exact hnodup

/-! ## A written policy means itself -/

namespace Outline

variable {o : Outline} {name : String}

theorem foldl_rules (rs : List Rule) :
    (rs.map Clause.rule).foldl (Outline.add name) o
      = o.edit fun s => { s with rules := s.rules ++ rs } := by
  induction rs generalizing o with
  | nil =>
      obtain ⟨whole, closed, current⟩ := o
      cases current <;> simp [edit]
  | cons r rs ih =>
      rw [List.map_cons, List.foldl_cons, ih]
      obtain ⟨whole, closed, current⟩ := o
      cases current <;> simp [add, edit]

theorem foldl_group {g : Group} (h : g.BelongsTo name) :
    (groupClauses g).foldl (Outline.add name) o = ⟨o.whole, o.groups, some g⟩ := by
  rw [groupClauses, List.foldl_cons, foldl_rules]
  obtain ⟨⟨rules, properties⟩, owner, group, kind⟩ := g
  obtain ⟨rfl, hkind, _⟩ := h
  rcases hkind with rfl | rfl <;> simp [add, edit]

theorem foldl_groups {gs : List Group} (h : ∀ g ∈ gs, g.BelongsTo name) :
    ((gs.flatMap groupClauses).foldl (Outline.add name) o).whole = o.whole ∧
      ((gs.flatMap groupClauses).foldl (Outline.add name) o).groups = o.groups ++ gs := by
  induction gs generalizing o with
  | nil => simp
  | cons g gs ih =>
      have hgs := ih (o := ⟨o.whole, o.groups, some g⟩) fun g' hg => h g' (by simp [hg])
      rw [List.flatMap_cons, List.foldl_append, foldl_group (h g (by simp))]
      refine ⟨hgs.1, hgs.2.trans ?_⟩
      simp [groups]

end Outline

theorem meaning_policyClauses {p : Policy} (h : p.WellFormed) :
    meaning p.name (policyClauses p) = p := by
  have hstart : (p.rules.map Clause.rule).foldl (Outline.add p.name) {}
      = { whole := { rules := p.rules } } := Outline.foldl_rules p.rules
  have hgroups := Outline.foldl_groups (o := { whole := { rules := p.rules } }) h.groups
  rw [meaning, policyClauses, List.foldl_append, List.foldl_append, hstart]
  revert hgroups
  generalize (p.groups.flatMap groupClauses).foldl (Outline.add p.name)
    { whole := { rules := p.rules } } = o
  rintro ⟨hwhole, hgroups⟩
  have hgroups : o.groups = p.groups := hgroups
  by_cases he : p.properties.isEmpty
  · have hp : p.properties = ∅ := SortedMap.ext_entries (List.isEmpty_iff.mp he)
    rw [if_pos he, List.foldl_nil, Outline.policy, hwhole, hgroups, ← hp]
  · have hlast : o.groups ++ [] = p.groups := by rw [List.append_nil, hgroups]
    rw [if_neg he, List.foldl_cons, List.foldl_nil, Outline.add, Outline.policy, hwhole]
    show ({ rules := p.rules, properties := SortedMap.union ∅ p.properties, name := p.name,
            groups := o.groups ++ [] } : Policy) = p
    rw [hlast, SortedMap.union_empty]

/-! ## Both ways -/

theorem wellFormed_of_parse {name source : String} {p : Policy} (h : parse name source = .ok p) :
    p.WellFormed ∧ p.name = name := by
  have hreg := regularTokens_lex source
  obtain ⟨cs, hcut, hnodup, rfl⟩ := (ofTokens_eq_ok_iff hreg).mp h
  refine ⟨wellFormed_meaning name hcut (fun l hl => ?_) hnodup, rfl⟩
  obtain ⟨t, ht, rfl⟩ := List.mem_map.mp hl
  exact hreg t ht

/-- Whatever is read as the written form of a policy declares that policy. -/
theorem parse_of_lexemes {p : Policy} (h : p.WellFormed) {source : String}
    (hs : lexer.lexemes source = lexer.lexemesIn p.render.toList) :
    parse p.name source = .ok p := by
  have hgroups : ∀ g ∈ p.groups, g.Writable := fun g hg => (h.groups g hg).writable
  rw [parse, ofTokens_eq_ok_iff (regularTokens_lex source)]
  refine ⟨policyClauses p, ?_, ?_, meaning_policyClauses h⟩
  · have hcut := cut_policy hgroups h.words
    rw [← lexemesIn_render hgroups h.words, ← hs] at hcut
    exact hcut
  · rw [← names_meaning p.name, meaning_policyClauses h]
    exact h.distinct

/-- What documents declare under a name are the well-formed policies of that name, and each of them
is declared by its written form, with or without the blanks at the end. -/
theorem parse_eq_ok_iff_wellFormed (name : String) (p : Policy) :
    ((∃ source, parse name source = .ok p) ↔ p.WellFormed ∧ p.name = name) ∧
      (parse name p.render = .ok p ↔ p.WellFormed ∧ p.name = name) ∧
      (parse name (Text.trimEnd p.render) = .ok p ↔ p.WellFormed ∧ p.name = name) := by
  have hrender : p.WellFormed ∧ p.name = name → parse name p.render = .ok p := by
    rintro ⟨h, rfl⟩
    exact parse_of_lexemes h (lexer.lexemes_eq p.render)
  have htrimmed : p.WellFormed ∧ p.name = name → parse name (Text.trimEnd p.render) = .ok p := by
    rintro ⟨h, rfl⟩
    apply parse_of_lexemes h
    rw [lexer.lexemes_trimEnd, lexer.lexemes_eq]
  refine ⟨⟨?_, fun h => ⟨p.render, hrender h⟩⟩, ⟨wellFormed_of_parse, hrender⟩,
    ⟨wellFormed_of_parse, htrimmed⟩⟩
  rintro ⟨source, h⟩
  exact wellFormed_of_parse h

end ChatWarden.Policy
