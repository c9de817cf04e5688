import ChatWarden.Proofs.Policy.Refusals

/-!
# The kind of a token is a matter of its text

`kindOf` says what kind a text has by itself. Every token has the kind of its text, because what is
read is regular and a regular text is read again as the same (`Regular.eq_kindOf`). Some rule
matches wherever a token begins: a delimiter has one of its own, and the last one takes anything
else. So what the lexer falls back on is never seen (`lex_withFallback`). A word that is read as a
keyword can therefore be looked up, and a number fails to be an identifier only for its size.
-/

namespace ChatWarden

variable {κ : Type}

/-! ## Lexers that choose alike -/

namespace Lexer

variable {l l' : Lexer κ}

theorem lexWord_congr
    (h : ∀ c cs, Text.isBlank c = false → l.choose (c :: cs) = l'.choose (c :: cs)) (line : Nat)
    {cs : List Char} (hcs : ∀ c ∈ cs, Text.isBlank c = false) :
    l.lexWord line cs = l'.lexWord line cs := by
  fun_induction lexWord l line cs with
  | case1 => rw [lexWord]
  | case2 c cs kind n hk ih =>
      have hchoose : l'.choose (c :: cs) = (kind, n) := by
        rw [← h c cs (hcs c List.mem_cons_self), hk]
      rw [lexWord, hchoose]
      simp only
      rw [ih fun d hd => hcs d (List.mem_cons_of_mem c (List.mem_of_mem_drop hd))]

/-- Lexers that choose alike wherever a word can begin read alike. -/
theorem lex_congr
    (h : ∀ c cs, Text.isBlank c = false → l.choose (c :: cs) = l'.choose (c :: cs))
    (source : String) : l.lex source = l'.lex source := by
  have hline (line : Nat) (cs : List Char) : l.lexLine line cs = l'.lexLine line cs := by
    rw [lexLine, lexLine, List.flatMap_def, List.flatMap_def]
    exact congrArg List.flatten (List.map_congr_left fun w hw =>
      lexWord_congr h line fun c hc => Text.not_blank_of_mem_words hw hc)
  have hlines (line : Nat) (css : List (List Char)) :
      l.lexLines line css = l'.lexLines line css := by
    induction css generalizing line with
    | nil => rfl
    | cons cs css ih => rw [lexLines, lexLines, hline, ih]
  exact hlines 1 _

end Lexer

namespace Policy

open Lexicon

/-! ## Kinds of texts -/

/-- The kind that a text has by itself. -/
def kindOf (text : String) : TokenKind :=
  if text ∈ ["method", "group", "class"] then .scopeWord
  else if text ∈ ["whitelist", "blacklist"] then .ruleWord
  else if text ∈ ["channel", "user", "guild", "role"] then .targetWord
  else if text ∈ ["<", ">"] then .bracket
  else if text = "=" then .operator
  else if text = ":" then .colon
  else if text ≠ "" ∧ text.toList.all Char.isDigit then .number
  else .text

variable {text : String} {kind kind' : TokenKind}

/-- Every text that has a kind of its own can be read. -/
theorem kindOf_eq_text_or_regular (text : String) :
    kindOf text = .text ∨ Regular (kindOf text, text) := by
  unfold kindOf
  split
  · rename_i hscope
    exact .inr (regular_scopeWord text hscope)
  split
  · rename_i hrule
    exact .inr (regular_ruleWord text hrule)
  split
  · rename_i htarget
    exact .inr (regular_targetWord text htarget)
  split
  · rename_i hbracket
    simp only [List.mem_cons, List.not_mem_nil, or_false] at hbracket
    rcases hbracket with rfl | rfl
    · exact .inr .opening
    · exact .inr .closing
  split
  · rename_i hoperator
    rw [hoperator]
    exact .inr .operator
  split
  · rename_i hcolon
    rw [hcolon]
    exact .inr .colon
  split
  · rename_i hnumber
    obtain ⟨hne, hdigits⟩ := hnumber
    obtain ⟨d, cs, hcs⟩ := List.exists_cons_of_ne_nil (mt String.toList_eq_nil_iff.mp hne)
    rw [hcs] at hdigits
    have hreg : Regular (.number, String.ofList (d :: cs)) := .number (List.all_eq_true.mp hdigits)
    rw [← hcs, String.ofList_toList] at hreg
    exact .inr hreg
  · exact .inl rfl

theorem kindOf_ne_text_of_digits (h : text ≠ "" ∧ text.toList.all Char.isDigit = true) :
    kindOf text ≠ .text := by
  rw [kindOf, if_pos h]
  repeat' split
  all_goals decide

/-- One text is read in one way. -/
theorem Regular.kind_unique (h : Regular (kind, text)) (h' : Regular (kind', text)) :
    kind = kind' := by
  have hread : [(kind, text)] = [(kind', text)] :=
    (lexemesIn_of_regular h).symm.trans (lexemesIn_of_regular h')
  cases hread
  rfl

theorem Regular.eq_kindOf (h : Regular (kind, text)) : kind = kindOf text := by
  rcases kindOf_eq_text_or_regular text with htext | hreg
  · -- Every rule but the last one reads only texts that have a kind of their own.
    rw [htext]
    cases h with
    | scopeWord k => cases k <;> cases htext
    | ruleWord k => cases k <;> cases htext
    | targetWord t => cases t <;> cases htext
    | opening | closing | operator | colon => cases htext
    | @number d cs h =>
        have hdigits : (String.ofList (d :: cs)).toList.all Char.isDigit = true := by
          rw [String.toList_ofList]
          exact List.all_eq_true.mpr h
        exact absurd htext (kindOf_ne_text_of_digits ⟨by simp, hdigits⟩)
    | text => rfl
  · exact h.kind_unique hreg

/-! ## What the lexer falls back on -/

theorem choose_withFallback {c : Char} (hc : Text.isBlank c = false) (fallback : TokenKind)
    (cs : List Char) : { lexer with fallback }.choose (c :: cs) = lexer.choose (c :: cs) := by
  by_cases hdelim : isDelimiter c = true
  · rcases isDelimiter_iff.mp hdelim with rfl | rfl | rfl | rfl <;> rfl
  · unfold Lexer.choose
    cases hfound : lexer.rules.findSome? fun r =>
        (r.beyondFirst? (c :: cs)).map fun n => (r.kind, n) with
    | none =>
        have hlast := List.findSome?_eq_none_iff.mp hfound ⟨.text, text?⟩ (by simp [lexer])
        rw [Option.map_eq_none_iff] at hlast
        exact absurd hlast (beyondFirst?_text hc (by simpa using hdelim))
    | some pair => rfl

theorem lex_withFallback (fallback : TokenKind) (source : String) :
    { lexer with fallback }.lex source = lexer.lex source :=
  Lexer.lex_congr (fun _ cs hc => choose_withFallback hc fallback cs) source

/-! ## What reading can rely on -/

/-- What a document would have to go on with, where that is why it is refused. -/
def ParseError.expected? : ParseError → Option Expected
  | .unexpectedToken _ expected _ => some expected
  | .unexpectedEnd _ expected => some expected
  | .invalidId .. => none
  | .duplicateGroup .. => none

theorem Expected.eq_ruleWord_of_text {expected : Expected}
    (h : expected.text = "whitelist or blacklist") : expected = .ruleWord := by
  revert h
  cases expected <;> decide

/-- A text that is read as a number is a run of digits. -/
theorem Regular.digits (h : Regular (.number, text)) :
    text ≠ "" ∧ ∀ c ∈ text.toList, c.isDigit = true := by
  cases h with
  | number hd =>
      rw [String.toList_ofList]
      exact ⟨by simp, hd⟩

theorem Regular.le_decimal_of_uint64? (h : Regular (.number, text))
    (hid : Text.uint64? text = none) : UInt64.size ≤ Text.decimal text := by
  rcases Nat.lt_or_ge (Text.decimal text) UInt64.size with hlt | hge
  · have hsome : Text.uint64? text = some (UInt64.ofNat (Text.decimal text)) :=
      h.uint64?_eq_some_iff.mpr (UInt64.toNat_ofNat_of_lt hlt).symm
    rw [hid] at hsome
    cases hsome
  · exact hge

variable {endLine : Nat} {t : PolicyToken} {ts rest : List PolicyToken} {e : ParseError}

theorem Fault.expected_ne (h : Fault endLine ts e) {expected : Expected}
    (he : e.expected? = some expected) : expected.text ≠ "whitelist or blacklist" := by
  intro htext
  rw [Expected.eq_ruleWord_of_text htext] at he
  cases h with
  | token _ hne | atEnd hne => exact hne (Option.some.inj he)
  | number => cases he

theorem Fault.le_decimal {line : Nat} {value : String} (hreg : RegularTokens ts)
    (h : Fault endLine ts (.invalidId line value)) :
    (∃ t ∈ ts, t.line = line ∧ t.text = value) ∧ value ≠ "" ∧
      (∀ c ∈ value.toList, c.isDigit = true) ∧ UInt64.size ≤ Text.decimal value := by
  cases h with
  | @number t ht hk hid =>
      have hnumber : Regular (.number, t.text) := lexeme_of_kind hk ▸ hreg t ht
      obtain ⟨hne, hdigits⟩ := hnumber.digits
      exact ⟨⟨t, ht, rfl, rfl⟩, hne, hdigits, hnumber.le_decimal_of_uint64? hid⟩

/-- Words that are read as keywords are keywords. -/
theorem ofWord?_isSome_of_regular (h : Regular t.lexeme) :
    (t.kind = .ruleWord → (RuleKind.ofWord? t.text).isSome) ∧
      (t.kind = .targetWord → (Target.ofWord? t.text).isSome) ∧
      (t.kind = .scopeWord → (ScopeKind.ofWord? t.text).isSome) := by
  refine ⟨fun hk => ?_, fun hk => ?_, fun hk => ?_⟩
  · obtain ⟨kind, hkind⟩ := (lexeme_of_kind hk ▸ h).exists_ruleKind
    simp [hkind]
  · obtain ⟨target, htarget⟩ := (lexeme_of_kind hk ▸ h).exists_target
    simp [htarget]
  · obtain ⟨kind, hkind⟩ := (lexeme_of_kind hk ▸ h).exists_scopeKind
    simp [hkind]

/-- The kind of a bracket is what a word for it says; it is a method only where no such word
stands. -/
theorem scopeKind_of_readScope {line : Nat} {kind : ScopeKind} {name : String}
    {properties : Properties} (hreg : RegularTokens ts)
    (h : readScope endLine t ts = .ok (.scope line kind name properties, rest)) :
    ∃ u us, ts = u :: us ∧ if u.kind = .scopeWord then u.text = kind.word else kind = .method := by
  obtain ⟨-, kind', ts₁, ts₂, properties', hkind, -, -, hitem⟩ := readScope_eq_ok_iff.mp h
  cases hitem
  unfold readScopeKind at hkind
  split at hkind
  · cases hkind
  · rename_i u us
    refine ⟨u, us, rfl, ?_⟩
    split at hkind
    · rename_i hk
      obtain ⟨k, hword⟩ := (hreg.head hk).exists_scopeKind
      split at hkind
      · cases hkind
      · cases hkind
        rw [if_pos hk, hword, ScopeKind.ofWord?_word]
        rfl
    · rename_i hk
      cases hkind
      rw [if_neg hk]

/-- The kind of every token is that of its text, and the lexer has nothing to fall back on. So a
keyword can always be looked up, a bracket is a method by default only without a word for its kind,
no document is refused for want of the word that begins a rule, and a number is no identifier only
if it denotes too large a value. -/
theorem lex_kinds (name source : String) :
    (∀ t ∈ lexer.lex source, t.kind = kindOf t.text) ∧
      (∀ fallback, { lexer with fallback }.lex source = lexer.lex source) ∧
      (∀ t ∈ lexer.lex source,
        (t.kind = .ruleWord → (RuleKind.ofWord? t.text).isSome) ∧
        (t.kind = .targetWord → (Target.ofWord? t.text).isSome) ∧
        (t.kind = .scopeWord → (ScopeKind.ofWord? t.text).isSome)) ∧
      (∀ before t ts endLine line kind group properties rest,
        lexer.lex source = before ++ t :: ts →
        readScope endLine t ts = .ok (.scope line kind group properties, rest) →
        ∃ u us, ts = u :: us ∧
          if u.kind = .scopeWord then u.text = kind.word else kind = .method) ∧
      ∀ e, parse name source = .error e →
        (∀ expected, e.expected? = some expected → expected.text ≠ "whitelist or blacklist") ∧
        ∀ line value, e = .invalidId line value →
          (∃ t ∈ lexer.lex source, t.line = line ∧ t.text = value) ∧ value ≠ "" ∧
            (∀ c ∈ value.toList, c.isDigit = true) ∧ UInt64.size ≤ Text.decimal value := by
  have hreg := regularTokens_lex source
  refine ⟨fun t ht => (hreg t ht).eq_kindOf, fun fallback => lex_withFallback fallback source,
    fun t ht => ofWord?_isSome_of_regular (hreg t ht), ?_, fun e h => ?_⟩
  · intro before t ts endLine line kind group properties rest hsplit h
    rw [hsplit] at hreg
    exact scopeKind_of_readScope hreg.right.tail h
  · obtain ⟨last, -, hfault | ⟨line, group, rfl, -⟩⟩ := exists_fault_or_reopened h
    · refine ⟨fun expected => hfault.expected_ne, ?_⟩
      rintro line value rfl
      exact hfault.le_decimal hreg
    · exact ⟨nofun, nofun⟩

/-- An identifier that is one too large. -/
theorem lex_kinds_tooLarge :
    parse "Files" "whitelist user 18446744073709551616"
        = .error (.invalidId 1 "18446744073709551616") ∧
      UInt64.size ≤ Text.decimal "18446744073709551616" := by
  have hparse : parse "Files" "whitelist user 18446744073709551616"
      = .error (.invalidId 1 "18446744073709551616") := by
    with_unfolding_all rfl
  obtain ⟨-, -, -, -, herror⟩ := lex_kinds "Files" "whitelist user 18446744073709551616"
  obtain ⟨-, -, -, hlarge⟩ := (herror _ hparse).2 _ _ rfl
  exact ⟨hparse, hlarge⟩

/-- Words that only begin like a keyword or a number are plain text. -/
example : (lexer.lexemes "classroom 12ab class-a 007")
    = [(.text, "classroom"), (.text, "12ab"), (.scopeWord, "class"), (.text, "-a"),
      (.number, "007")] := by
  decide +kernel

end Policy

end ChatWarden
