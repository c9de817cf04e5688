import ChatWarden.Proofs.Policy.Lexicon
import ChatWarden.Proofs.Text.Decimal

/-!
# The lexemes of policy documents

`Regular` lists what can be read in a document. Nothing else is (`regular_of_mem_lexemes`), and each
of them is read again where its text stands alone (`lexemesIn_of_regular`). In particular the kind
of a token is determined by its text.
-/

namespace ChatWarden.Policy

open Lexicon

/-- Characters that are neither blank nor a delimiter. -/
def Plain (cs : List Char) : Prop :=
  ∀ c ∈ cs, Text.isBlank c = false ∧ isDelimiter c = false

instance (cs : List Char) : Decidable (Plain cs) :=
  decidable_of_iff (cs.all fun c => !Text.isBlank c && !isDelimiter c) (by simp [Plain])

theorem Plain.not_blank {cs : List Char} (h : Plain cs) : ∀ c ∈ cs, Text.isBlank c = false :=
  fun c hc => (h c hc).1

inductive Regular : Lexeme TokenKind → Prop
  | scopeWord (k : ScopeKind) : Regular (.scopeWord, k.word)
  | ruleWord (k : RuleKind) : Regular (.ruleWord, k.word)
  | targetWord (t : Target) : Regular (.targetWord, t.word)
  | opening : Regular (.bracket, "<")
  | closing : Regular (.bracket, ">")
  | operator : Regular (.operator, "=")
  | colon : Regular (.colon, ":")
  | number {d : Char} {cs : List Char} (h : ∀ c ∈ d :: cs, c.isDigit = true) :
      Regular (.number, String.ofList (d :: cs))
  /-- Plain characters that no rule before the last one claims. -/
  | text {d : Char} {cs : List Char} (h : Plain (d :: cs))
      (hlast : lexer.choose (d :: cs) = (.text, cs.length)) :
      Regular (.text, String.ofList (d :: cs))

theorem regular_mark {c : Char} (hc : isDelimiter c = true) : Regular (mark c) := by
  rcases isDelimiter_iff.mp hc with rfl | rfl | rfl | rfl
  · exact .opening
  · exact .closing
  · exact .operator
  · exact .colon

theorem regular_scopeWord : ∀ w ∈ ["method", "group", "class"], Regular (.scopeWord, w) := by
  simp only [List.forall_mem_cons]
  exact ⟨.scopeWord .method, .scopeWord .group, .scopeWord .whole, by simp⟩

theorem regular_ruleWord : ∀ w ∈ ["whitelist", "blacklist"], Regular (.ruleWord, w) := by
  simp only [List.forall_mem_cons]
  exact ⟨.ruleWord .whitelist, .ruleWord .blacklist, by simp⟩

theorem regular_targetWord :
    ∀ w ∈ ["channel", "user", "guild", "role"], Regular (.targetWord, w) := by
  simp only [List.forall_mem_cons]
  exact ⟨.targetWord .channel, .targetWord .user, .targetWord .guild, .targetWord .role, by simp⟩

variable {d : Char} {cs : List Char} {kind : TokenKind} {n : Nat}

/-! ## What is read is regular -/

theorem regular_of_keyword {words : List String} (hm : keyword? words (d :: cs) = some (n + 1))
    (h : ∀ w ∈ words, Regular (kind, w)) : Regular (kind, String.ofList (d :: cs.take n)) := by
  obtain ⟨w, hw, hp, hn, _⟩ := keyword?_eq_some hm
  have ht : w.toList = (d :: cs).take (n + 1) := by
    rw [hn, ← String.length_toList]
    exact List.prefix_iff_eq_take.mp hp
  have hword : String.ofList (d :: cs.take n) = w := by
    rw [← String.ofList_toList (s := w), ht]
    rfl
  rw [hword]
  exact h w hw

/-- What the last rule takes is what it would take if nothing followed. -/
theorem choose_take_of_text (hb : ∀ c ∈ d :: cs, Text.isBlank c = false)
    (h : lexer.choose (d :: cs) = (.text, n)) (hm : text? (d :: cs) = some (n + 1)) :
    Plain (d :: cs.take n) ∧ lexer.choose (d :: cs.take n) = (.text, (cs.take n).length) := by
  have hlen : (cs.take n).length = n := List.length_take_of_le (choose_le h)
  have hsplit := List.take_append_drop (n + 1) (d :: cs)
  have htake := take_of_run? hm
  rw [List.take_succ_cons] at hsplit htake
  have hplain : Plain (d :: cs.take n) := by
    intro c hc
    rw [htake] at hc
    have := List.all_eq_true.mp List.all_takeWhile c hc
    simpa using this
  refine ⟨hplain, ?_⟩
  rw [hlen, ← h]
  cases hrest : (d :: cs).drop (n + 1) with
  | nil =>
      rw [hrest, List.append_nil] at hsplit
      rw [hsplit]
  | cons e rest =>
      -- The run ends at a character that is not plain. It is not blank, so it is a delimiter.
      rw [hrest] at hsplit
      have hdrop :
          (d :: cs).dropWhile (fun c => !Text.isBlank c && !isDelimiter c) = e :: rest := by
        have hw := List.takeWhile_append_dropWhile
          (p := fun c => !Text.isBlank c && !isDelimiter c) (l := d :: cs)
        rw [← htake] at hw
        exact List.append_cancel_left (hw.trans hsplit.symm)
      have hnot := List.head?_dropWhile_not (fun c => !Text.isBlank c && !isDelimiter c) (d :: cs)
      rw [hdrop] at hnot
      have hmem : e ∈ d :: cs := by
        rw [← hsplit]
        simp
      have he : isDelimiter e = true := by
        simpa [hb e hmem] using hnot
      have := choose_append he (List.cons_ne_nil d (cs.take n)) rest
      rw [← this, hsplit]

/-- The last rule matches every character that is neither blank nor a delimiter. -/
theorem beyondFirst?_text (hb : Text.isBlank d = false) (hd : isDelimiter d = false) :
    LexRule.beyondFirst? ⟨TokenKind.text, text?⟩ (d :: cs) ≠ none := by
  simp [LexRule.beyondFirst?, text?, run?, hb, hd]

theorem regular_of_choose (hb : ∀ c ∈ d :: cs, Text.isBlank c = false)
    (h : lexer.choose (d :: cs) = (kind, n)) : Regular (kind, String.ofList (d :: cs.take n)) := by
  by_cases hd : isDelimiter d
  · rw [choose_delimiter hd] at h
    cases h
    exact regular_mark hd
  have hnot := mt isDelimiter_iff.mpr hd
  simp only [not_or] at hnot
  rcases exists_rule_of_choose h with ⟨r, hr, rfl, hm⟩ | ⟨_, hnone⟩
  · simp only [lexer, List.mem_cons, List.not_mem_nil, or_false] at hr
    rcases hr with rfl | rfl | rfl | rfl | rfl | rfl | rfl | rfl
    · exact regular_of_keyword hm regular_scopeWord
    · exact regular_of_keyword hm regular_ruleWord
    · exact regular_of_keyword hm regular_targetWord
    · simp [single?, hnot] at hm
    · simp [single?, hnot] at hm
    · simp [single?, hnot] at hm
    · have hrun := take_of_run? (number?_eq_some hm).1
      refine .number fun c hc => ?_
      rw [List.take_succ_cons] at hrun
      rw [hrun] at hc
      exact List.all_eq_true.mp List.all_takeWhile c hc
    · obtain ⟨hplain, hlast⟩ := choose_take_of_text hb h hm
      exact .text hplain hlast
  · have hlast := hnone ⟨.text, text?⟩ (by simp [lexer])
    exact absurd hlast (beyondFirst?_text (hb d List.mem_cons_self) (by simpa using hd))

theorem regular_of_mem_lexemesOfWord {l : Lexeme TokenKind}
    (hb : ∀ c ∈ cs, Text.isBlank c = false) (hl : l ∈ lexer.lexemesOfWord cs) : Regular l := by
  fun_induction Lexer.lexWord lexer 1 cs with
  | case1 => simp at hl
  | case2 d cs kind n hk ih =>
      rw [lexer.lexemesOfWord_cons hk] at hl
      rcases List.mem_cons.mp hl with rfl | hl
      · exact regular_of_choose hb hk
      · exact ih (fun c hc => hb c (by simp [List.mem_of_mem_drop hc])) hl

theorem regular_of_mem_lexemes {source : String} {l : Lexeme TokenKind}
    (hl : l ∈ lexer.lexemes source) : Regular l := by
  rw [lexer.lexemes_eq] at hl
  obtain ⟨w, hw, hl⟩ := List.mem_flatMap.mp hl
  exact regular_of_mem_lexemesOfWord (fun c hc => Text.not_blank_of_mem_words hw hc) hl

/-! ## The texts of a kind -/

theorem Regular.text_eq_of_operator {text : String} (h : Regular (.operator, text)) :
    text = "=" := by
  cases h
  rfl

theorem Regular.text_eq_of_colon {text : String} (h : Regular (.colon, text)) : text = ":" := by
  cases h
  rfl

theorem Regular.exists_scopeKind {text : String} (h : Regular (.scopeWord, text)) :
    ∃ k : ScopeKind, text = k.word := by
  cases h with
  | scopeWord k => exact ⟨k, rfl⟩

theorem Regular.exists_ruleKind {text : String} (h : Regular (.ruleWord, text)) :
    ∃ k : RuleKind, text = k.word := by
  cases h with
  | ruleWord k => exact ⟨k, rfl⟩

theorem Regular.exists_target {text : String} (h : Regular (.targetWord, text)) :
    ∃ t : Target, text = t.word := by
  cases h with
  | targetWord t => exact ⟨t, rfl⟩

theorem Regular.uint64?_eq_some_iff {text : String} {id : UInt64} (h : Regular (.number, text)) :
    Text.uint64? text = some id ↔ Text.decimal text = id.toNat := by
  cases h with
  | number hd => exact Text.uint64?_eq_some_iff hd

/-! ## What is regular is read again -/

theorem not_blank_of_isDigit {c : Char} (hc : c.isDigit = true) : Text.isBlank c = false := by
  have hrange : 48 ≤ c.toNat ∧ c.toNat ≤ 57 := Char.isDigit_iff_toNat.mp hc
  have h13 : ¬ c.toNat ≤ 13 := by omega
  have h32 : ¬ c.toNat ≤ 32 := by omega
  have h85 : c.toNat ≤ 0x85 := by omega
  simp [Text.isBlank, Text.blankRanges, Text.CodeRange.covers, h13, h32, h85]
  omega

theorem not_delimiter_of_isDigit {c : Char} (hc : c.isDigit = true) : isDelimiter c = false := by
  cases h : isDelimiter c with
  | false => rfl
  | true =>
      rw [not_digit_of_isDelimiter h] at hc
      contradiction

theorem not_blank_of_all {cs : List Char} (h : cs.all (!Text.isBlank ·) = true) :
    ∀ c ∈ cs, Text.isBlank c = false := by
  intro c hc
  simpa using List.all_eq_true.mp h c hc

theorem not_blank_of_regular {l : Lexeme TokenKind} (h : Regular l) :
    ∀ c ∈ l.2.toList, Text.isBlank c = false := by
  cases h with
  | scopeWord k => exact not_blank_of_all (by cases k <;> rfl)
  | ruleWord k => exact not_blank_of_all (by cases k <;> rfl)
  | targetWord t => exact not_blank_of_all (by cases t <;> rfl)
  | opening | closing | operator | colon => exact not_blank_of_all rfl
  | number h =>
      intro c hc
      rw [String.toList_ofList] at hc
      exact not_blank_of_isDigit (h c hc)
  | text h _ =>
      intro c hc
      rw [String.toList_ofList] at hc
      exact h.not_blank c hc

theorem keyword?_of_digit {words : List String} (hd : d.isDigit = true)
    (hw : words.all (fun w => w.toList.head?.any (!Char.isDigit ·)) = true) :
    keyword? words (d :: cs) = none := by
  cases h : keyword? words (d :: cs) with
  | none => rfl
  | some n =>
      obtain ⟨w, hmem, hp, _⟩ := keyword?_eq_some h
      have hhead := List.all_eq_true.mp hw w hmem
      obtain ⟨e, he, hdigit⟩ := (Option.any_eq_true _ _).mp hhead
      obtain ⟨v, hv⟩ := List.head?_eq_some_iff.mp he
      rw [hv, List.cons_prefix_cons] at hp
      rw [hp.1, hd] at hdigit
      contradiction

theorem choose_of_digits (h : ∀ c ∈ d :: cs, c.isDigit = true) :
    lexer.choose (d :: cs) = (.number, cs.length) := by
  have hd := h d (by simp)
  have hscope : keyword? ["method", "group", "class"] (d :: cs) = none :=
    keyword?_of_digit hd rfl
  have hrule : keyword? ["whitelist", "blacklist"] (d :: cs) = none := keyword?_of_digit hd rfl
  have htarget : keyword? ["channel", "user", "guild", "role"] (d :: cs) = none :=
    keyword?_of_digit hd rfl
  have hdelim := not_delimiter_of_isDigit hd
  have hrun : run? Char.isDigit (d :: cs) = some (cs.length + 1) := run?_of_forall h
  have hnumber : number? (d :: cs) = some (cs.length + 1) := by
    simp [number?, hrun, Text.atWordEnd]
  simp [isDelimiter] at hdelim
  simp [Lexer.choose, lexer, LexRule.beyondFirst?, hscope, hrule, htarget, single?, hdelim, hnumber]

theorem lexemesOfWord_of_choose (h : lexer.choose (d :: cs) = (kind, cs.length)) :
    lexer.lexemesOfWord (d :: cs) = [(kind, String.ofList (d :: cs))] := by
  rw [lexer.lexemesOfWord_cons h, List.take_length, List.drop_length, lexer.lexemesOfWord_nil]

theorem lexemesIn_of_regular {l : Lexeme TokenKind} (h : Regular l) :
    lexer.lexemesIn l.2.toList = [l] := by
  rw [lexer.lexemesIn_word (not_blank_of_regular h)]
  cases h with
  | scopeWord k => cases k <;> exact lexemesOfWord_of_choose rfl
  | ruleWord k => cases k <;> exact lexemesOfWord_of_choose rfl
  | targetWord t => cases t <;> exact lexemesOfWord_of_choose rfl
  | opening | closing | operator | colon => exact lexemesOfWord_of_choose rfl
  | number h =>
      rw [String.toList_ofList]
      exact lexemesOfWord_of_choose (choose_of_digits h)
  | text _ hlast =>
      rw [String.toList_ofList]
      exact lexemesOfWord_of_choose hlast

/-! ## Words -/

/-- What can be a name, a key or a value: where the text stands alone, the whole of it is read as
one token that is no bracket, equals sign or colon. -/
def IsWord (text : String) : Prop :=
  ∃ kind : TokenKind, kind.isWord = true ∧ lexer.lexemes text = [(kind, text)]

theorem isWord_of_regular {l : Lexeme TokenKind} (h : Regular l) (hw : l.1.isWord = true) :
    IsWord l.2 := by
  refine ⟨l.1, hw, ?_⟩
  rw [lexer.lexemes_eq]
  exact lexemesIn_of_regular h

/-- What a word is read as. -/
def asWord (text : String) : Lexeme TokenKind :=
  (((lexer.lexemes text).head?.map Prod.fst).getD .text, text)

theorem isWord_asWord {text : String} (h : IsWord text) : (asWord text).1.isWord = true := by
  obtain ⟨kind, hk, hl⟩ := h
  rw [asWord, hl]
  exact hk

theorem lexemesIn_of_isWord {text : String} (h : IsWord text) :
    lexer.lexemesIn text.toList = [asWord text] := by
  obtain ⟨kind, _, hl⟩ := h
  rw [← lexer.lexemes_eq, asWord, hl]
  rfl

end ChatWarden.Policy
