import ChatWarden.Proofs.Policy.RoundTrip

/-!
# Documents one after the other

Between two documents the bracket that leads back to the policy itself stands on a line of its own.
No clause reaches across it: an opening bracket only ever begins a clause, and what a clause allows
to follow it an opening bracket is (`cut_append_opening_iff`). The second document then goes on
where the first one ended, which is as if the policy of the first stood before everything that the
second declares (`Outline.after`). So the whole is accepted exactly if both documents are and no
group is declared twice, and it declares both policies (`parse_append_bracket_iff`).
-/

namespace ChatWarden.Policy

/-- Two policies as one, under the name of the first: the rules and groups of the first before those
of the second, and of two values for one property that of the second (`SortedMap.get?_union`). -/
def merge (p q : Policy) : Policy where
  rules := p.rules ++ q.rules
  properties := p.properties.union q.properties
  name := p.name
  groups := p.groups ++ q.groups

/-! ## What an opening bracket separates -/

abbrev opening : PolicyLexeme := (.bracket, "<")

section Cutting

variable {c : Clause} {cs : List Clause} {l : PolicyLexeme} {ls ms rest : List PolicyLexeme}

theorem ne_opening_of_isWord (h : l.1.isWord = true) : l ≠ opening := by
  rintro rfl
  contradiction

theorem opening_not_mem_bracketBody (colon : Bool) {name? : Option PolicyLexeme}
    {pairs : List (PolicyLexeme × PolicyLexeme)} (hname : ∀ l ∈ name?, l.1.isWord = true)
    (hpairs : AreWords pairs) : opening ∉ bracketBody colon name? pairs := by
  have hnamed : opening ∉ name?.toList := fun hmem =>
    ne_opening_of_isWord (hname _ (Option.mem_toList.mp hmem)) rfl
  have hassigned : opening ∉ pairs.flatMap assignment := by
    intro hmem
    obtain ⟨pair, hpair, hmem⟩ := List.mem_flatMap.mp hmem
    obtain ⟨hkey, hvalue⟩ := hpairs pair hpair
    simp [assignment, (ne_opening_of_isWord hkey).symm, (ne_opening_of_isWord hvalue).symm] at hmem
  cases colon <;> simp [bracketBody, bracketEnd, hnamed, hassigned]

/-- An opening bracket is only ever the first lexeme of a clause. -/
theorem Written.opening_not_mem_tail (h : Written c (l :: ls) rest) : opening ∉ ls := by
  cases h with
  | rule => simp [numerals]
  | @scope kind? colon name? pairs _ _ hname hpairs =>
      have hbody := opening_not_mem_bracketBody colon hname hpairs
      cases kind? <;> simp [hbody]
  | property _ _ hvalue => simp [(ne_opening_of_isWord hvalue).symm]
  | stray => simp

/-- A clause sees of what follows it only whether that is a number or an equals sign. -/
theorem Written.congr_rest {rest' : List PolicyLexeme} (h : Written c ls rest)
    (hnumber : firstKind? rest' = some .number → firstKind? rest = some .number)
    (hoperator : firstKind? rest' = some .operator → firstKind? rest = some .operator) :
    Written c ls rest' := by
  cases h with
  | rule hids hrest => exact .rule hids (mt hnumber hrest)
  | scope hkind hname hpairs => exact .scope hkind hname hpairs
  | property hkey hrule hvalue => exact .property hkey hrule hvalue
  | stray hrule hbracket hrest => exact .stray hrule hbracket (mt hoperator hrest)

theorem written_append_opening_iff :
    Written c ls (rest ++ opening :: ms) ↔ Written c ls rest := by
  cases rest with
  | nil => exact ⟨(·.congr_rest nofun nofun), (·.congr_rest nofun nofun)⟩
  | cons => exact ⟨(·.congr_rest id id), (·.congr_rest id id)⟩

/-- A clause that goes as far as an opening bracket begins or ends there. -/
theorem Written.eq_nil_of_opening {beyond : List PolicyLexeme} (h : Written c (ls ++ beyond) rest)
    (hbeyond : opening :: ms = beyond ++ rest) : ls = [] ∨ beyond = [] := by
  cases ls with
  | nil => exact .inl rfl
  | cons l ls =>
      cases beyond with
      | nil => exact .inr rfl
      | cons m beyond =>
          obtain ⟨rfl, _⟩ := List.cons.inj hbeyond
          exact absurd (by simp) h.opening_not_mem_tail

theorem cut_append_opening {ds : List Clause} (hcs : Cut cs ls) (hds : Cut ds (opening :: ms)) :
    Cut (cs ++ ds) (ls ++ opening :: ms) := by
  induction hcs with
  | nil => exact hds
  | cons hc _ ih =>
      rw [List.append_assoc]
      exact .cons (written_append_opening_iff.mpr hc) ih

theorem exists_of_cut_append_opening (h : Cut cs (ls ++ opening :: ms)) :
    ∃ as bs, cs = as ++ bs ∧ Cut as ls ∧ Cut bs (opening :: ms) := by
  generalize hall : ls ++ opening :: ms = all at h
  induction h generalizing ls with
  | nil => simp at hall
  | @cons c cs taken rest hc hcs ih =>
      rcases List.append_eq_append_iff.mp hall with ⟨beyond, rfl, hrest⟩ | ⟨left, rfl, rfl⟩
      · -- The first clause does not end before the bracket.
        rcases hc.eq_nil_of_opening hrest with rfl | rfl
        · exact ⟨[], c :: cs, rfl, .nil, hrest ▸ .cons hc hcs⟩
        · obtain rfl : opening :: ms = rest := hrest
          have hc : Written c (ls ++ []) ([] ++ opening :: ms) := hc
          have hlast := Cut.cons (written_append_opening_iff.mp hc) .nil
          exact ⟨[c], cs, rfl, by simpa using hlast, hcs⟩
      · -- It does, and the rest is cut at the bracket.
        obtain ⟨as, bs, rfl, has, hbs⟩ := ih rfl
        exact ⟨c :: as, bs, rfl, .cons (written_append_opening_iff.mp hc) has, hbs⟩

theorem cut_append_opening_iff :
    Cut cs (ls ++ opening :: ms) ↔ ∃ as bs, cs = as ++ bs ∧ Cut as ls ∧ Cut bs (opening :: ms) := by
  constructor
  · exact exists_of_cut_append_opening
  · rintro ⟨as, bs, rfl, has, hbs⟩
    exact cut_append_opening has hbs

end Cutting

/-! ## The bracket that leads back -/

/-- The bracket `<class>`: lines go to the policy itself from there on. -/
abbrev leadingBack : Clause := .scope .whole "" ∅

section LeadingBack

variable {cs : List Clause} {ls ms : List PolicyLexeme}

/-- Where a bracket is closed at once, nothing stands in it. -/
theorem bracketBody_of_closing {colon : Bool} {name? : Option PolicyLexeme}
    {pairs : List (PolicyLexeme × PolicyLexeme)} {rest : List PolicyLexeme}
    (hname : ∀ l ∈ name?, l.1.isWord = true) (hpairs : AreWords pairs)
    (h : bracketEnd [] ++ ms = bracketBody colon name? pairs ++ rest) :
    name? = none ∧ pairs = [] ∧ ms = rest := by
  cases colon with
  | true => cases h
  | false =>
      cases name? with
      | some l =>
          have hword := hname l rfl
          cases h
          contradiction
      | none =>
          cases pairs with
          | nil => exact ⟨rfl, rfl, (List.cons.inj h).2⟩
          | cons pair pairs =>
              have hword := (hpairs pair (by simp)).1
              rw [← show (TokenKind.bracket, ">") = pair.1 from (List.cons.inj h).1] at hword
              contradiction

/-- Only one clause starts with the bracket that leads back. -/
theorem Written.eq_leadingBack {c : Clause} {rest : List PolicyLexeme} (h : Written c ls rest)
    (hall : bracketLexemes .whole "" ∅ ++ ms = ls ++ rest) : c = leadingBack ∧ ms = rest := by
  cases h with
  | rule => cases hall
  | @property key _ _ hkey =>
      rw [← show opening = key from (List.cons.inj hall).1] at hkey
      contradiction
  | @stray l _ _ hbracket =>
      rw [← show opening = l from (List.cons.inj hall).1] at hbracket
      contradiction
  | @scope kind? colon name? pairs _ hkind hname hpairs =>
      have htail : (.scopeWord, "class") :: (bracketEnd [] ++ ms)
          = (kind?.map fun k => (.scopeWord, k.word)).toList
            ++ bracketBody colon name? pairs ++ rest := (List.cons.inj hall).2
      cases kind? with
      | none =>
          have hfirst : some .scopeWord = firstKind? (bracketBody colon name? pairs ++ rest) :=
            congrArg firstKind? htail
          rw [firstKind?_append (bracketBody_ne_nil colon name? pairs)] at hfirst
          exact absurd hfirst.symm (hkind rfl)
      | some kind =>
          obtain ⟨hword, hbody⟩ := List.cons.inj htail
          obtain ⟨rfl, rfl, hrest⟩ := bracketBody_of_closing hname hpairs hbody
          have hkind : ScopeKind.whole.word = kind.word := congrArg Prod.snd hword
          have : some ScopeKind.whole = some kind := by
            rw [← ScopeKind.ofWord?_word kind, ← hkind, ScopeKind.ofWord?_word]
          cases this
          exact ⟨rfl, hrest⟩

theorem cut_bracketLexemes_iff :
    Cut cs (bracketLexemes .whole "" ∅ ++ ms) ↔ ∃ bs, cs = leadingBack :: bs ∧ Cut bs ms := by
  constructor
  · intro h
    generalize hall : bracketLexemes .whole "" ∅ ++ ms = all at h
    cases h with
    | nil => contradiction
    | @cons c bs taken rest hc hbs =>
        obtain ⟨rfl, rfl⟩ := hc.eq_leadingBack hall
        exact ⟨bs, rfl, hbs⟩
  · rintro ⟨bs, rfl, hbs⟩
    exact .cons (written_bracket .whole (.inl rfl) words_empty ms) hbs

theorem cut_append_bracketLexemes_iff :
    Cut cs (ls ++ (bracketLexemes .whole "" ∅ ++ ms)) ↔
      ∃ as bs, cs = as ++ leadingBack :: bs ∧ Cut as ls ∧ Cut bs ms := by
  have hsplit : Cut cs (ls ++ (bracketLexemes .whole "" ∅ ++ ms)) ↔
      ∃ as bs, cs = as ++ bs ∧ Cut as ls ∧ Cut bs (bracketLexemes .whole "" ∅ ++ ms) :=
    cut_append_opening_iff
  rw [hsplit]
  constructor
  · rintro ⟨as, ds, rfl, has, hds⟩
    obtain ⟨bs, rfl, hbs⟩ := cut_bracketLexemes_iff.mp hds
    exact ⟨as, bs, rfl, has, hbs⟩
  · rintro ⟨as, bs, hcs, has, hbs⟩
    exact ⟨as, leadingBack :: bs, hcs, has, cut_bracketLexemes_iff.mpr ⟨bs, rfl, hbs⟩⟩

theorem lexemes_append_bracket (a b : String) :
    lexer.lexemes (a ++ "\n<class>\n" ++ b)
      = lexer.lexemes a ++ (bracketLexemes .whole "" ∅ ++ lexer.lexemes b) := by
  have hline : (a ++ "\n<class>\n" ++ b).toList
      = a.toList ++ '\n' :: ((renderBracket .whole "" ∅).toList ++ b.toList) := by
    simp [renderBracket, ScopeKind.word]
  rw [lexer.lexemes_eq, hline, lexemesIn_line, lexemesIn_bracket .whole (.inl rfl) words_empty,
    lexer.lexemes_eq, lexer.lexemes_eq]

end LeadingBack

/-! ## Going on where a document ended -/

namespace Outline

variable {o : Outline} {name : String} {p : Policy}

/-- The outline with a policy before everything in it. -/
def after (p : Policy) (o : Outline) : Outline where
  whole := ⟨p.rules ++ o.whole.rules, p.properties.union o.whole.properties⟩
  closed := p.groups ++ o.closed
  current := o.current

theorem policy_after (p : Policy) (o : Outline) :
    (o.after p).policy p.name = p.merge (o.policy name) := by
  simp [after, policy, merge, groups]

theorem add_after (c : Clause) : (o.after p).add name c = (o.add name c).after p := by
  obtain ⟨whole, closed, current⟩ := o
  cases c with
  | rule r => cases current <;> simp [add, edit, after]
  | property key value =>
      cases current <;> simp [add, edit, after, SortedMap.union_insert]
  | stray => rfl
  | scope kind group properties =>
      cases kind <;> simp [add, after, groups, SortedMap.union_assoc]

theorem foldl_add_after (cs : List Clause) :
    cs.foldl (Outline.add name) (o.after p) = (cs.foldl (Outline.add name) o).after p := by
  induction cs generalizing o with
  | nil => rfl
  | cons c cs ih => rw [List.foldl_cons, List.foldl_cons, add_after, ih]

/-- Led back to the policy itself, an outline goes on as an empty one does after its policy. -/
theorem add_leadingBack : o.add name leadingBack = Outline.after (o.policy name) {} := by
  have hwhole : o.whole.properties.union ∅ = o.whole.properties := rfl
  simp [add, after, policy, hwhole]

end Outline

theorem meaning_append_leadingBack (name : String) (as bs : List Clause) :
    meaning name (as ++ leadingBack :: bs) = (meaning name as).merge (meaning name bs) := by
  rw [meaning, List.foldl_append, List.foldl_cons, Outline.add_leadingBack,
    Outline.foldl_add_after]
  exact Outline.policy_after _ _

theorem groupNames_append_leadingBack (as bs : List Clause) :
    groupNames (as ++ leadingBack :: bs) = groupNames as ++ groupNames bs := by
  rw [groupNames, List.filterMap_append]
  rfl

/-- Documents compose: with the bracket that leads back between them, two documents are one that
declares what both declare, provided that they name no group in common. -/
theorem parse_append_bracket_iff (name a b : String) (p : Policy) :
    parse name (a ++ "\n<class>\n" ++ b) = .ok p ↔
      ∃ q r, parse name a = .ok q ∧ parse name b = .ok r ∧
        (∀ g ∈ q.groups, ∀ h ∈ r.groups, g.name ≠ h.name) ∧ q.merge r = p := by
  simp only [parse, ofTokens_eq_ok_iff (regularTokens_lex _)]
  have hwhole : spelling (lexer.lex (a ++ "\n<class>\n" ++ b))
      = spelling (lexer.lex a)
        ++ (bracketLexemes .whole "" ∅ ++ spelling (lexer.lex b)) := lexemes_append_bracket a b
  have hdisjoint (as bs : List Clause) :
      (∀ g ∈ (meaning name as).groups, ∀ h ∈ (meaning name bs).groups, g.name ≠ h.name)
        ↔ ∀ s ∈ groupNames as, ∀ t ∈ groupNames bs, s ≠ t := by
    simp only [← names_meaning name, List.forall_mem_map]
  constructor
  · rintro ⟨cs, hcut, hnodup, rfl⟩
    rw [hwhole] at hcut
    obtain ⟨as, bs, rfl, has, hbs⟩ := cut_append_bracketLexemes_iff.mp hcut
    rw [groupNames_append_leadingBack] at hnodup
    obtain ⟨hnodupA, hnodupB, hne⟩ := List.nodup_append.mp hnodup
    exact ⟨_, _, ⟨as, has, hnodupA, rfl⟩, ⟨bs, hbs, hnodupB, rfl⟩, (hdisjoint as bs).mpr hne,
      (meaning_append_leadingBack name as bs).symm⟩
  · rintro ⟨_, _, ⟨as, has, hnodupA, rfl⟩, ⟨bs, hbs, hnodupB, rfl⟩, hne, rfl⟩
    refine ⟨as ++ leadingBack :: bs, ?_, ?_, meaning_append_leadingBack name as bs⟩
    · rw [hwhole]
      exact cut_append_bracketLexemes_iff.mpr ⟨as, bs, rfl, has, hbs⟩
    · rw [groupNames_append_leadingBack]
      exact List.nodup_append.mpr ⟨hnodupA, hnodupB, (hdisjoint as bs).mp hne⟩

end ChatWarden.Policy
