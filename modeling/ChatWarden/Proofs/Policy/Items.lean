import ChatWarden.Proofs.Policy.Grammar

/-!
# Reading one clause

Each reader of a part of an item is tied to the way that part is written, in both directions: what
it takes is written as the grammar says (`written_of_…`), and what is written so it takes
(`…_of_written`). Put together, `readItem` finds exactly the clauses of the grammar.
-/

namespace ChatWarden.Policy

/-- The lexemes of tokens. -/
def spelling (ts : List PolicyToken) : List PolicyLexeme :=
  ts.map Token.lexeme

/-- Whether all tokens are such as the lexer makes. -/
def RegularTokens (ts : List PolicyToken) : Prop :=
  ∀ t ∈ ts, Regular t.lexeme

variable {endLine : Nat} {t : PolicyToken} {ts taken rest : List PolicyToken}

@[simp] theorem spelling_nil : spelling [] = [] := rfl

@[simp] theorem spelling_cons : spelling (t :: ts) = t.lexeme :: spelling ts := rfl

@[simp] theorem spelling_append : spelling (taken ++ rest) = spelling taken ++ spelling rest :=
  List.map_append

theorem exists_cons_of_spelling {l : PolicyLexeme} {ls : List PolicyLexeme}
    (h : spelling ts = l :: ls) : ∃ t us, ts = t :: us ∧ t.lexeme = l ∧ spelling us = ls :=
  List.map_eq_cons_iff.mp h

theorem spelling_eq_nil_iff : spelling ts = [] ↔ ts = [] :=
  List.map_eq_nil_iff

theorem exists_singleton_of_spelling {l : PolicyLexeme} (h : spelling ts = [l]) :
    ∃ t, ts = [t] ∧ t.lexeme = l := by
  obtain ⟨t, us, rfl, ht, hus⟩ := exists_cons_of_spelling h
  rw [spelling_eq_nil_iff.mp hus]
  exact ⟨t, rfl, ht⟩

theorem exists_append_of_spelling {ls ms : List PolicyLexeme} (h : spelling ts = ls ++ ms) :
    ∃ taken rest, ts = taken ++ rest ∧ spelling taken = ls ∧ spelling rest = ms :=
  List.map_eq_append_iff.mp h

theorem lexeme_of_kind {kind : TokenKind} (hk : t.kind = kind) : t.lexeme = (kind, t.text) := by
  rw [Token.lexeme, hk]

theorem RegularTokens.head {kind : TokenKind} (h : RegularTokens (t :: ts)) (hk : t.kind = kind) :
    Regular (kind, t.text) := by
  rw [← lexeme_of_kind hk]
  exact h t (by simp)

theorem RegularTokens.tail (h : RegularTokens (t :: ts)) : RegularTokens ts :=
  fun u hu => h u (by simp [hu])

theorem RegularTokens.left (h : RegularTokens (taken ++ rest)) : RegularTokens taken :=
  fun u hu => h u (by simp [hu])

theorem RegularTokens.right (h : RegularTokens (taken ++ rest)) : RegularTokens rest :=
  fun u hu => h u (by simp [hu])

theorem startsOperator_iff :
    startsOperator ts = true ↔ firstKind? (spelling ts) = some .operator := by
  cases ts with
  | nil => simp [startsOperator, firstKind?]
  | cons t ts => simp [startsOperator, firstKind?, Token.lexeme]

theorem firstKind?_append {ls : List PolicyLexeme} (h : ls ≠ []) (ms : List PolicyLexeme) :
    firstKind? (ls ++ ms) = firstKind? ls := by
  cases ls with
  | nil => contradiction
  | cons l ls => rfl

theorem bracketEnd_ne_nil (pairs : List (PolicyLexeme × PolicyLexeme)) : bracketEnd pairs ≠ [] := by
  simp [bracketEnd]

theorem bracketBody_ne_nil (colon : Bool) (name? : Option PolicyLexeme)
    (pairs : List (PolicyLexeme × PolicyLexeme)) : bracketBody colon name? pairs ≠ [] := by
  simp [bracketBody, bracketEnd]

/-- What comes after the name of a bracket is a word or what closes the bracket. -/
theorem firstKind?_bracketEnd {pairs : List (PolicyLexeme × PolicyLexeme)}
    (hpairs : AreWords pairs)
    (ms : List PolicyLexeme) :
    firstKind? (bracketEnd pairs ++ ms) ≠ some .operator ∧
      firstKind? (bracketEnd pairs ++ ms) ≠ some .colon := by
  cases pairs with
  | nil => simp [bracketEnd, firstKind?]
  | cons pair pairs =>
      have hword := (hpairs pair (by simp)).1
      have hfirst : firstKind? (bracketEnd (pair :: pairs) ++ ms) = some pair.1.1 := rfl
      rw [hfirst]
      constructor
      · intro h
        rw [Option.some.inj h] at hword
        contradiction
      · intro h
        rw [Option.some.inj h] at hword
        contradiction

theorem exists_of_map_eq_ok {ε α β : Type} {x : Except ε α} {f : α → β} {b : β}
    (h : x.map f = .ok b) : ∃ a, x = .ok a ∧ f a = b := by
  cases x with
  | error e => contradiction
  | ok a => exact ⟨a, rfl, Except.ok.inj h⟩

/-! ## Rules -/

theorem written_of_readIds {ids : List Id} (hreg : RegularTokens ts)
    (h : readIds ts = .ok (ids, rest)) :
    ∃ taken texts, ts = taken ++ rest ∧ spelling taken = numerals texts ∧
      texts.map Text.decimal = ids.map UInt64.toNat ∧
      firstKind? (spelling rest) ≠ some .number := by
  induction ts generalizing ids with
  | nil =>
      cases h
      exact ⟨[], [], rfl, rfl, rfl, by simp [firstKind?]⟩
  | cons t ts ih =>
      rw [readIds] at h
      split at h
      · rename_i hk
        split at h
        · contradiction
        · rename_i id hid
          obtain ⟨⟨tail, left⟩, hr, hp⟩ := exists_of_map_eq_ok h
          obtain ⟨rfl, rfl⟩ := Prod.mk.inj hp
          obtain ⟨taken, texts, rfl, hs, hn, hrest⟩ := ih hreg.tail hr
          have hvalue := (hreg.head hk).uint64?_eq_some_iff.mp hid
          refine ⟨t :: taken, t.text :: texts, rfl, ?_, ?_, hrest⟩
          · rw [spelling_cons, lexeme_of_kind hk, hs]
            rfl
          · rw [List.map_cons, List.map_cons, hvalue, hn]
      · rename_i hk
        cases h
        refine ⟨[], [], rfl, rfl, rfl, ?_⟩
        simpa [firstKind?, Token.lexeme] using hk

theorem readIds_of_written {ids : List Id} {texts : List String} (hreg : RegularTokens taken)
    (hs : spelling taken = numerals texts) (hids : texts.map Text.decimal = ids.map UInt64.toNat)
    (hrest : firstKind? (spelling rest) ≠ some .number) :
    readIds (taken ++ rest) = .ok (ids, rest) := by
  induction taken generalizing texts ids with
  | nil =>
      have hn : texts = [] := List.map_eq_nil_iff.mp hs.symm
      subst hn
      have hi : ids = [] := List.map_eq_nil_iff.mp hids.symm
      subst hi
      cases rest with
      | nil => rfl
      | cons u us =>
          have hk : u.kind ≠ .number := by simpa [firstKind?, Token.lexeme] using hrest
          rw [List.nil_append, readIds, if_neg hk]
  | cons t taken ih =>
      obtain ⟨text, texts, rfl, hl, hs⟩ := List.map_eq_cons_iff.mp hs.symm
      obtain ⟨id, ids, rfl, hid, hids⟩ := List.map_eq_cons_iff.mp hids.symm
      have hk : t.kind = .number := (congrArg Prod.fst hl).symm
      have ht : t.text = text := (congrArg Prod.snd hl).symm
      rw [← ht] at hid
      have hvalue := (hreg.head hk).uint64?_eq_some_iff.mpr hid.symm
      rw [List.cons_append, readIds, if_pos hk, hvalue]
      simp only [ih hreg.tail hs.symm hids.symm, Except.map]

theorem RuleKind.word_of_ofWord? {text : String} {k : RuleKind} (h : ofWord? text = some k) :
    k.word = text := by
  have := List.find?_some h
  exact eq_of_beq this

theorem Target.word_of_ofWord? {text : String} {k : Target} (h : ofWord? text = some k) :
    k.word = text := by
  have := List.find?_some h
  exact eq_of_beq this

theorem written_of_readRule {r : Rule} (hreg : RegularTokens (t :: ts)) (hk : t.kind = .ruleWord)
    (h : readRule endLine t ts = .ok (r, rest)) :
    ∃ taken, t :: ts = taken ++ rest ∧ Written (.rule r) (spelling taken) (spelling rest) := by
  unfold readRule unexpected at h
  split at h <;> try contradiction
  rename_i kind hkind
  split at h <;> try contradiction
  rename_i u us
  split at h <;> try contradiction
  rename_i target htarget
  obtain ⟨⟨ids, left⟩, hids, hp⟩ := exists_of_map_eq_ok h
  obtain ⟨rfl, rfl⟩ := Prod.mk.inj hp
  split at htarget <;> try contradiction
  rename_i hu
  obtain ⟨taken, texts, rfl, hs, hn, hrest⟩ := written_of_readIds hreg.tail.tail hids
  refine ⟨t :: u :: taken, rfl, ?_⟩
  rw [spelling_cons, spelling_cons, lexeme_of_kind hk, lexeme_of_kind hu, hs,
    ← RuleKind.word_of_ofWord? hkind, ← Target.word_of_ofWord? htarget]
  exact .rule hn hrest

theorem readRule_of_written (endLine : Nat) {r : Rule} (hreg : RegularTokens taken)
    (h : Written (.rule r) (spelling taken) (spelling rest)) :
    ∃ t us, taken = t :: us ∧ t.kind = .ruleWord ∧
      readRule endLine t (us ++ rest) = .ok (r, rest) := by
  generalize hl : spelling taken = ls at h
  cases h with
  | rule hids hrest =>
      obtain ⟨t, us, rfl, ht, hl⟩ := exists_cons_of_spelling hl
      obtain ⟨u, us, rfl, hu, hl⟩ := exists_cons_of_spelling hl
      obtain ⟨hkind, htext⟩ := Prod.mk.inj ht
      obtain ⟨hkind', htext'⟩ := Prod.mk.inj hu
      have hread := readIds_of_written hreg.tail.tail hl hids hrest
      refine ⟨t, u :: us, rfl, hkind, ?_⟩
      simp [readRule, htext, htext', hkind', hread, Except.map]

/-! ## Properties -/

theorem written_of_readProperty {pair : String × String} (hreg : RegularTokens ts)
    (hop : startsOperator ts = true) (h : readProperty endLine t ts = .ok (pair, rest)) :
    ∃ op value, ts = op :: value :: rest ∧ pair = (t.text, value.text) ∧
      t.kind.isWord = true ∧ value.kind.isWord = true ∧
      spelling [t, op, value] = assignment (t.lexeme, value.lexeme) := by
  unfold readProperty unexpected at h
  split at h <;> try contradiction
  rename_i hkey
  split at h <;> try contradiction
  rename_i value tail hdrop
  split at h <;> try contradiction
  rename_i hvalue
  cases h
  cases ts with
  | nil => contradiction
  | cons op ts =>
      have htail : ts = value :: rest := hdrop
      have hk : op.kind = .operator := by simpa [startsOperator] using hop
      have htext := (hreg.head hk).text_eq_of_operator
      refine ⟨op, value, by rw [htail], rfl, hkey, hvalue, ?_⟩
      rw [spelling_cons, spelling_cons, lexeme_of_kind hk, htext]
      rfl

theorem readProperty_of_written {op value : PolicyToken} (hkey : t.kind.isWord = true)
    (hvalue : value.kind.isWord = true) :
    readProperty endLine t (op :: value :: rest) = .ok ((t.text, value.text), rest) := by
  simp [readProperty, hkey, hvalue]

/-! ## Brackets -/

theorem written_of_readScopeKind {kind : ScopeKind} (hreg : RegularTokens ts)
    (h : readScopeKind endLine ts = .ok (kind, rest)) :
    ∃ (kind? : Option ScopeKind) (taken : List PolicyToken),
      ts = taken ++ rest ∧
      spelling taken = (kind?.map fun k => (TokenKind.scopeWord, k.word)).toList ∧
      kind = kind?.getD .method ∧
      (kind? = none → firstKind? (spelling rest) ≠ some .scopeWord) := by
  unfold readScopeKind at h
  split at h <;> try contradiction
  rename_i t ts
  split at h
  · rename_i hk
    split at h <;> try contradiction
    cases h
    obtain ⟨k, hw⟩ := (hreg.head hk).exists_scopeKind
    refine ⟨some k, [t], rfl, ?_, ?_, by simp⟩
    · simp [lexeme_of_kind hk, hw]
    · simp [hw]
  · rename_i hk
    cases h
    refine ⟨none, [], rfl, rfl, rfl, fun _ => ?_⟩
    simpa [firstKind?, Token.lexeme] using hk

theorem readScopeKind_of_written {kind? : Option ScopeKind} (hne : rest ≠ [])
    (hs : spelling taken = (kind?.map fun k => (TokenKind.scopeWord, k.word)).toList)
    (hkind : kind? = none → firstKind? (spelling rest) ≠ some .scopeWord) :
    readScopeKind endLine (taken ++ rest) = .ok (kind?.getD .method, rest) := by
  obtain ⟨u, us, rfl⟩ := List.exists_cons_of_ne_nil hne
  cases kind? with
  | none =>
      have ht := spelling_eq_nil_iff.mp hs
      have hk : u.kind ≠ .scopeWord := by simpa [firstKind?, Token.lexeme] using hkind rfl
      simp [ht, readScopeKind, hk]
  | some k =>
      obtain ⟨t, rfl, ht⟩ := exists_singleton_of_spelling hs
      obtain ⟨hk, htext⟩ := Prod.mk.inj ht
      simp [readScopeKind, hk, htext]

theorem written_of_skipColon {u : Unit} (hreg : RegularTokens ts)
    (h : skipColon endLine ts = .ok (u, rest)) :
    ∃ (colon : Bool) (taken : List PolicyToken),
      ts = taken ++ rest ∧ spelling taken = if colon then [(.colon, ":")] else [] := by
  unfold skipColon at h
  split at h
  · cases h
    exact ⟨false, [], rfl, rfl⟩
  · rename_i t ts
    split at h
    · rename_i hk
      split at h <;> try contradiction
      cases h
      have htext := (hreg.head hk).text_eq_of_colon
      refine ⟨true, [t], rfl, ?_⟩
      rw [spelling_cons, lexeme_of_kind hk, htext]
      rfl
    · cases h
      exact ⟨false, [], rfl, rfl⟩

theorem skipColon_of_written {colon : Bool} (hne : rest ≠ [])
    (hs : spelling taken = if colon then [(.colon, ":")] else [])
    (hcolon : colon = false → firstKind? (spelling rest) ≠ some .colon) :
    skipColon endLine (taken ++ rest) = .ok ((), rest) := by
  obtain ⟨u, us, rfl⟩ := List.exists_cons_of_ne_nil hne
  cases colon with
  | false =>
      have ht := spelling_eq_nil_iff.mp hs
      have hk : u.kind ≠ .colon := by simpa [firstKind?, Token.lexeme] using hcolon rfl
      simp [ht, skipColon, hk]
  | true =>
      obtain ⟨t, rfl, ht⟩ := exists_singleton_of_spelling hs
      obtain ⟨hk, _⟩ := Prod.mk.inj ht
      simp [skipColon, hk]

theorem written_of_takeName {name : String} (h : takeName ts = (name, rest)) :
    ∃ (name? : Option PolicyLexeme) (taken : List PolicyToken),
      ts = taken ++ rest ∧ spelling taken = name?.toList ∧
      (∀ l ∈ name?, l.1.isWord = true) ∧ name = (name?.map Prod.snd).getD "" := by
  unfold takeName at h
  split at h
  · cases h
    exact ⟨none, [], rfl, rfl, by simp, rfl⟩
  · rename_i t ts
    split at h
    · rename_i hw
      cases h
      refine ⟨some t.lexeme, [t], rfl, rfl, ?_, rfl⟩
      intro l hl
      cases hl
      simp only [Bool.and_eq_true] at hw
      exact hw.1
    · cases h
      exact ⟨none, [], rfl, rfl, by simp, rfl⟩

theorem written_of_readProperties {soFar properties : Properties} (hreg : RegularTokens ts)
    (h : readProperties endLine soFar ts = .ok (properties, rest)) :
    ∃ (pairs : List (PolicyLexeme × PolicyLexeme)) (taken : List PolicyToken),
      ts = taken ++ rest ∧ spelling taken = bracketEnd pairs ∧ AreWords pairs ∧
      properties = soFar.insertAll (declared pairs) := by
  fun_induction readProperties endLine soFar ts with
  | case1 => contradiction
  | case2 soFar t ts ht =>
      cases h
      refine ⟨[], [t], rfl, ?_, fun _ hp => (List.not_mem_nil hp).elim, rfl⟩
      simp [bracketEnd, Token.lexeme, ht]
  | case3 => contradiction
  | case4 soFar t ts _ hop key value left hp ih =>
      obtain ⟨op, v, rfl, hpair, hkey, hvalue, hs⟩ := written_of_readProperty hreg.tail hop hp
      obtain ⟨pairs, taken, rfl, hs', hpairs, rfl⟩ := ih hreg.tail.tail.tail h
      refine ⟨(t.lexeme, v.lexeme) :: pairs, t :: op :: v :: taken, rfl, ?_, ?_, ?_⟩
      · have := congrArg (· ++ spelling taken) hs
        simpa [bracketEnd, hs'] using this
      · intro pair hmem
        rcases List.mem_cons.mp hmem with rfl | hmem
        · exact ⟨hkey, hvalue⟩
        · exact hpairs pair hmem
      · obtain ⟨rfl, rfl⟩ := Prod.mk.inj hpair
        rfl
  | case5 => cases h

theorem readProperties_of_written {soFar : Properties}
    {pairs : List (PolicyLexeme × PolicyLexeme)} (hs : spelling taken = bracketEnd pairs)
    (hpairs : AreWords pairs) :
    readProperties endLine soFar (taken ++ rest)
      = .ok (soFar.insertAll (declared pairs), rest) := by
  induction pairs generalizing taken soFar with
  | nil =>
      obtain ⟨t, rfl, ht⟩ := exists_singleton_of_spelling hs
      rw [List.singleton_append, readProperties, if_pos (Prod.mk.inj ht)]
      rfl
  | cons pair pairs ih =>
      obtain ⟨t, us, rfl, ht, hs⟩ := exists_cons_of_spelling hs
      obtain ⟨op, us, rfl, hop, hs⟩ := exists_cons_of_spelling hs
      obtain ⟨value, us, rfl, hv, hs⟩ := exists_cons_of_spelling hs
      obtain ⟨hkey, hvalue⟩ := hpairs pair (by simp)
      rw [← ht] at hkey
      rw [← hv] at hvalue
      have htail := fun p hp => hpairs p (List.mem_cons_of_mem pair hp)
      have hread : readProperty endLine t (op :: value :: (us ++ rest))
          = .ok ((t.text, value.text), us ++ rest) := readProperty_of_written hkey hvalue
      have hrest : readProperties endLine (soFar.insert t.text value.text) (us ++ rest)
          = .ok ((soFar.insert t.text value.text).insertAll (declared pairs), rest) := ih hs htail
      have hclose : ¬ (t.kind = .bracket ∧ t.text = ">") := by
        intro h
        have : t.kind.isWord = true := hkey
        rw [h.1] at this
        contradiction
      have hsign : startsOperator (op :: value :: (us ++ rest)) = true := by
        have : op.kind = .operator := congrArg Prod.fst hop
        simp [startsOperator, this]
      rw [List.cons_append, List.cons_append, List.cons_append, readProperties, if_neg hclose,
        if_pos hsign]
      split
      · rename_i e he
        rw [hread] at he
        contradiction
      · rename_i key text left he
        rw [hread] at he
        cases he
        have hpair : declared (pair :: pairs) = (t.text, value.text) :: declared pairs := by
          simp [declared, ← ht, ← hv, Token.lexeme]
        rw [hrest, hpair]
        rfl

theorem takeName_of_written {name? : Option PolicyLexeme} {body : List PolicyToken}
    {pairs : List (PolicyLexeme × PolicyLexeme)} (hs : spelling taken = name?.toList)
    (hbody : spelling body = bracketEnd pairs) (hname : ∀ l ∈ name?, l.1.isWord = true)
    (hpairs : AreWords pairs) :
    takeName (taken ++ (body ++ rest)) = ((name?.map Prod.snd).getD "", body ++ rest) := by
  cases name? with
  | none =>
      have ht := spelling_eq_nil_iff.mp hs
      cases pairs with
      | nil =>
          obtain ⟨u, us, rfl, hu, _⟩ := exists_cons_of_spelling hbody
          have hk : u.kind = .bracket := congrArg Prod.fst hu
          simp [ht, takeName, hk, TokenKind.isWord]
      | cons pair pairs =>
          obtain ⟨u, us, rfl, _, hbody⟩ := exists_cons_of_spelling hbody
          obtain ⟨op, us, rfl, hop, _⟩ := exists_cons_of_spelling hbody
          have hk : op.kind = .operator := congrArg Prod.fst hop
          simp [ht, takeName, startsOperator, hk]
  | some l =>
      obtain ⟨t, rfl, ht⟩ := exists_singleton_of_spelling hs
      have hword : t.kind.isWord = true := by
        have := hname l rfl
        rwa [← ht] at this
      have hop : startsOperator (body ++ rest) = false := by
        cases h : startsOperator (body ++ rest) with
        | false => rfl
        | true =>
            rw [startsOperator_iff, spelling_append, hbody] at h
            exact absurd h (firstKind?_bracketEnd hpairs _).1
      simp [takeName, hword, hop, ← ht, Token.lexeme]

/-- The item that a clause is, where it begins on the given line. -/
def Clause.item (line : Nat) : Clause → Item
  | .rule r => .rule r
  | .scope kind name properties => .scope line kind name properties
  | .property key value => .property key value
  | .stray => .stray

/-- What the parts of a bracket leave to each other. -/
theorem readScope_eq_ok_iff {item : Item} :
    readScope endLine t ts = .ok (item, rest) ↔
      t.text = "<" ∧ ∃ kind ts₁ ts₂ properties,
        readScopeKind endLine ts = .ok (kind, ts₁) ∧ skipColon endLine ts₁ = .ok ((), ts₂) ∧
        readProperties endLine ∅ (takeName ts₂).2 = .ok (properties, rest) ∧
        item = .scope t.line kind (takeName ts₂).1 properties := by
  unfold readScope unexpected
  constructor
  · intro h
    split at h <;> try contradiction
    rename_i hopen
    cases h₁ : readScopeKind endLine ts with
    | error e => rw [h₁] at h; contradiction
    | ok first =>
        cases h₂ : skipColon endLine first.2 with
        | error e => simp only [h₁, bind, Except.bind, h₂] at h; contradiction
        | ok second =>
            cases h₃ : readProperties endLine ∅ (takeName second.2).2 with
            | error e => simp only [h₁, bind, Except.bind, h₂, h₃] at h; contradiction
            | ok third =>
                simp only [h₁, bind, Except.bind, h₂, h₃, pure, Except.pure, Except.ok.injEq,
                  Prod.mk.injEq] at h
                obtain ⟨rfl, rfl⟩ := h
                exact ⟨hopen, first.1, first.2, second.2, third.1, rfl, h₂, h₃, rfl⟩
  · rintro ⟨hopen, kind, ts₁, ts₂, properties, h₁, h₂, h₃, rfl⟩
    simp only [hopen, if_true, h₁, bind, Except.bind, h₂, h₃, pure, Except.pure]

theorem written_of_readScope {item : Item} (hreg : RegularTokens (t :: ts))
    (hk : t.kind = .bracket) (h : readScope endLine t ts = .ok (item, rest)) :
    ∃ c taken, t :: ts = taken ++ rest ∧ Written c (spelling taken) (spelling rest) ∧
      item = c.item t.line := by
  obtain ⟨hopen, kind, ts₁, ts₂, properties, h₁, h₂, h₃, rfl⟩ := readScope_eq_ok_iff.mp h
  obtain ⟨kind?, kinds, rfl, hkinds, rfl, hkind⟩ := written_of_readScopeKind hreg.tail h₁
  obtain ⟨colon, colons, rfl, hcolons⟩ := written_of_skipColon hreg.tail.right h₂
  obtain ⟨name?, names, hts₂, hnames, hname, hn⟩ :=
    written_of_takeName (Prod.eta (takeName ts₂)).symm
  have hreg₂ := hreg.tail.right.right
  rw [hts₂] at hreg₂
  obtain ⟨pairs, ends, hts₃, hends, hpairs, hp⟩ := written_of_readProperties hreg₂.right h₃
  rw [hts₃] at hts₂
  have hbody : spelling (colons ++ (names ++ ends)) = bracketBody colon name? pairs := by
    rw [spelling_append, spelling_append, hcolons, hnames, hends]
    rfl
  refine ⟨.scope _ _ _, t :: (kinds ++ (colons ++ (names ++ ends))), ?_, ?_, rfl⟩
  · rw [hts₂]
    simp
  · rw [spelling_cons, spelling_append, hbody, hkinds, lexeme_of_kind hk, hopen, hn, hp]
    refine .scope (fun hnone => ?_) hname hpairs
    have hfirst := hkind hnone
    have hall : colons ++ ts₂ = (colons ++ (names ++ ends)) ++ rest := by
      rw [hts₂]
      simp
    rwa [hall, spelling_append, hbody, firstKind?_append (bracketBody_ne_nil colon name? pairs)]
      at hfirst

theorem readScope_of_written (endLine : Nat) {kind : ScopeKind} {name : String}
    {properties : Properties}
    (h : Written (.scope kind name properties) (spelling taken) (spelling rest)) :
    ∃ t us, taken = t :: us ∧ t.kind = .bracket ∧
      readScope endLine t (us ++ rest)
        = .ok ((Clause.scope kind name properties).item t.line, rest) := by
  generalize hl : spelling taken = ls at h
  generalize hc : Clause.scope kind name properties = c at h
  cases h with
  | rule | property | stray => cases hc
  | @scope kind? colon name? pairs _ hkind hname hpairs =>
      cases hc
      obtain ⟨t, us, rfl, ht, hl⟩ := exists_cons_of_spelling hl
      obtain ⟨kinds, us, rfl, hkinds, hl⟩ := exists_append_of_spelling hl
      have hbody := hl
      obtain ⟨colons, us, rfl, hcolons, hl⟩ := exists_append_of_spelling hl
      obtain ⟨names, ends, rfl, hnames, hends⟩ := exists_append_of_spelling hl
      obtain ⟨hk, htext⟩ := Prod.mk.inj ht
      have hends_ne : ends ≠ [] := by
        rintro rfl
        exact bracketEnd_ne_nil pairs hends.symm
      have hread : readProperties endLine ∅ (ends ++ rest)
          = .ok (.ofList (declared pairs), rest) := readProperties_of_written hends hpairs
      have htake : takeName (names ++ (ends ++ rest))
          = ((name?.map Prod.snd).getD "", ends ++ rest) :=
        takeName_of_written hnames hends hname hpairs
      have hskip : skipColon endLine (colons ++ (names ++ (ends ++ rest)))
          = .ok ((), names ++ (ends ++ rest)) := by
        apply skipColon_of_written (by simp [hends_ne]) hcolons
        intro _
        rw [spelling_append, spelling_append, hnames, hends]
        cases name? with
        | none => exact (firstKind?_bracketEnd hpairs _).2
        | some l =>
            intro hfirst
            have hword := hname l rfl
            rw [Option.some.inj hfirst] at hword
            contradiction
      have hscope : readScopeKind endLine (kinds ++ (colons ++ (names ++ (ends ++ rest))))
          = .ok (kind?.getD .method, colons ++ (names ++ (ends ++ rest))) := by
        apply readScopeKind_of_written (by simp [hends_ne]) hkinds
        intro hnone
        have hall : colons ++ (names ++ (ends ++ rest)) = (colons ++ (names ++ ends)) ++ rest := by
          simp
        rw [hall, spelling_append, hbody, firstKind?_append (bracketBody_ne_nil colon name? pairs)]
        exact hkind hnone
      refine ⟨t, _, rfl, hk, ?_⟩
      simp only [List.append_assoc]
      rw [readScope_eq_ok_iff]
      refine ⟨htext, _, _, _, .ofList (declared pairs), hscope, hskip, ?_, ?_⟩
      · rw [htake]
        exact hread
      · rw [htake]
        rfl

/-! ## Items -/

theorem written_of_readItem {item : Item} (hreg : RegularTokens (t :: ts))
    (h : readItem endLine t ts = .ok (item, rest)) :
    ∃ c taken, t :: ts = taken ++ rest ∧ Written c (spelling taken) (spelling rest) ∧
      item = c.item t.line := by
  unfold readItem at h
  split at h
  · rename_i hk
    obtain ⟨⟨r, left⟩, hr, hp⟩ := exists_of_map_eq_ok h
    obtain ⟨rfl, rfl⟩ := Prod.mk.inj hp
    obtain ⟨taken, hts, hw⟩ := written_of_readRule hreg hk hr
    exact ⟨.rule r, taken, hts, hw, rfl⟩
  · rename_i hk
    exact written_of_readScope hreg hk h
  · rename_i hrule hbracket
    split at h
    · rename_i hop
      obtain ⟨⟨⟨key, text⟩, left⟩, hr, hp⟩ := exists_of_map_eq_ok h
      obtain ⟨rfl, rfl⟩ := Prod.mk.inj hp
      obtain ⟨op, value, rfl, hpair, hkey, hvalue, hs⟩ :=
        written_of_readProperty hreg.tail hop hr
      obtain ⟨rfl, rfl⟩ := Prod.mk.inj hpair
      refine ⟨.property t.text value.text, [t, op, value], rfl, ?_, rfl⟩
      rw [hs]
      exact @Written.property t.lexeme value.lexeme _ hkey hrule hvalue
    · rename_i hop
      cases h
      refine ⟨.stray, [t], rfl, ?_, rfl⟩
      exact .stray hrule hbracket (mt startsOperator_iff.mpr hop)

theorem readItem_of_written (endLine : Nat) {c : Clause} (hreg : RegularTokens taken)
    (h : Written c (spelling taken) (spelling rest)) :
    ∃ t us, taken = t :: us ∧ readItem endLine t (us ++ rest) = .ok (c.item t.line, rest) := by
  cases c with
  | rule r =>
      obtain ⟨t, us, rfl, hk, hread⟩ := readRule_of_written endLine hreg h
      refine ⟨t, us, rfl, ?_⟩
      simp only [readItem, hk, hread, Except.map]
      rfl
  | scope kind name properties =>
      obtain ⟨t, us, rfl, hk, hread⟩ := readScope_of_written endLine h
      refine ⟨t, us, rfl, ?_⟩
      simp only [readItem, hk, hread]
  | property key value =>
      generalize hl : spelling taken = ls at h
      cases h with
      | @property key value _ hkey hrule hvalue =>
          obtain ⟨t, us, rfl, ht, hl⟩ := exists_cons_of_spelling hl
          obtain ⟨op, us, rfl, hop, hl⟩ := exists_cons_of_spelling hl
          obtain ⟨v, us, rfl, hv, hl⟩ := exists_cons_of_spelling hl
          have hus := spelling_eq_nil_iff.mp hl
          subst hus ht hv
          have hsign : startsOperator ([op, v] ++ rest) = true := by
            have : op.kind = .operator := congrArg Prod.fst hop
            simp [startsOperator, this]
          have hread : readProperty endLine t ([op, v] ++ rest)
              = .ok ((t.text, v.text), rest) := readProperty_of_written hkey hvalue
          have hbracket : t.kind ≠ .bracket := by
            intro hk
            have : t.kind.isWord = true := hkey
            rw [hk] at this
            contradiction
          refine ⟨t, [op, v], rfl, ?_⟩
          unfold readItem
          split
          · contradiction
          · contradiction
          · rw [if_pos hsign, hread]
            rfl
  | stray =>
      generalize hl : spelling taken = ls at h
      cases h with
      | @stray l _ hrule hbracket hrest =>
          obtain ⟨t, rfl, rfl⟩ := exists_singleton_of_spelling hl
          have hsign : startsOperator rest ≠ true := mt startsOperator_iff.mp hrest
          refine ⟨t, [], rfl, ?_⟩
          unfold readItem
          split
          · contradiction
          · contradiction
          · rw [List.nil_append, if_neg hsign]
            rfl

end ChatWarden.Policy
