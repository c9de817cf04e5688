import ChatWarden.Proofs.Policy.Lexeme

/-!
# Words that are read whole

A text without blanks and delimiters is read as one word unless a keyword or a number ends early in
it, at the end of a word, as in `user-ban` (`eq_length_iff_of_choose`). Then it is read as that word
and others after it.
-/

namespace ChatWarden.Policy

open Lexicon

/-- The words that have a kind of their own. -/
def keywords : List String :=
  ["method", "group", "class", "whitelist", "blacklist", "channel", "user", "guild", "role"]

/-- Whether a text begins with a keyword or a number that is the end of a word, and goes on. -/
def BreaksOff (cs : List Char) : Prop :=
  ∃ front back, cs = front ++ back ∧ back ≠ [] ∧ Text.atWordEnd back = true ∧
    ((∃ w ∈ keywords, front = w.toList) ∨ front ≠ [] ∧ ∀ c ∈ front, c.isDigit = true)

variable {c d : Char} {cs : List Char} {kind : TokenKind} {n : Nat}

theorem isWordChar_of_isDigit (h : c.isDigit = true) : Text.isWordChar c = true := by
  have hrange : 48 ≤ c.toNat ∧ c.toNat ≤ 57 := Char.isDigit_iff_toNat.mp h
  have hcovers : ∀ rs, Text.CodeRange.covers (⟨48, 57⟩ :: rs) c.toNat = true := by
    simp [Text.CodeRange.covers, hrange]
  exact hcovers _

theorem isWordChar_of_mem_keywords {w : String} (hw : w ∈ keywords) (hc : c ∈ w.toList) :
    Text.isWordChar c = true := by
  have hall : ∀ w ∈ keywords, w.toList.all Text.isWordChar = true := by decide
  exact List.all_eq_true.mp (hall w hw) c hc

/-- No word ends inside a run of word characters. -/
theorem not_breaksOff_of_wordChars (h : ∀ c ∈ cs, Text.isWordChar c = true) : ¬BreaksOff cs := by
  rintro ⟨front, back, rfl, hback, hend, -⟩
  obtain ⟨e, es, rfl⟩ := List.exists_cons_of_ne_nil hback
  simp [Text.atWordEnd, h e (by simp)] at hend

theorem breaksOff_of_keyword? {words : List String} (hwords : words ⊆ keywords)
    (h : keyword? words cs = some n) (hn : n < cs.length) : BreaksOff cs := by
  obtain ⟨w, hw, ⟨back, rfl⟩, rfl, hend⟩ := keyword?_eq_some h
  rw [← String.length_toList, List.drop_left] at hend
  refine ⟨w.toList, back, rfl, ?_, hend, .inl ⟨w, hwords hw, rfl⟩⟩
  rintro rfl
  rw [List.append_nil, String.length_toList] at hn
  exact absurd hn (Nat.lt_irrefl w.length)

theorem breaksOff_of_number? (h : number? cs = some n) (hn : n < cs.length) : BreaksOff cs := by
  obtain ⟨hrun, hend⟩ := number?_eq_some h
  have htake := take_of_run? hrun
  have hpos := (run?_eq_some_iff.mp hrun).2
  refine ⟨cs.take n, cs.drop n, (List.take_append_drop n cs).symm, ?_, hend, .inr ⟨?_, ?_⟩⟩
  · simp [hn]
  · exact List.ne_nil_of_length_pos (by rw [List.length_take]; omega)
  · intro c hc
    rw [htake] at hc
    exact List.all_eq_true.mp List.all_takeWhile c hc

/-- Where less than the whole of a name is read, it breaks off. -/
theorem breaksOff_of_choose (hplain : Plain (d :: cs)) (h : lexer.choose (d :: cs) = (kind, n))
    (hn : n < cs.length) : BreaksOff (d :: cs) := by
  obtain ⟨hblank, hdelim⟩ := hplain d (by simp)
  have hlt : n + 1 < (d :: cs).length := Nat.succ_lt_succ hn
  have hdelims : ¬d = '<' ∧ ¬d = '>' ∧ ¬d = '=' ∧ ¬d = ':' := by
    simpa [isDelimiter, and_assoc] using hdelim
  have hrun : text? (d :: cs) = some (cs.length + 1) :=
    run?_of_forall fun c hc => by simp [hplain c hc]
  rcases exists_rule_of_choose h with ⟨r, hr, -, hm⟩ | ⟨-, hnone⟩
  · simp only [lexer, List.mem_cons, List.not_mem_nil, or_false] at hr
    rcases hr with rfl | rfl | rfl | rfl | rfl | rfl | rfl | rfl
    case inl | inr.inl | inr.inr.inl => exact breaksOff_of_keyword? (by decide) hm hlt
    case inr.inr.inr.inl | inr.inr.inr.inr.inl | inr.inr.inr.inr.inr.inl =>
      simp [single?, hdelims] at hm
    · exact breaksOff_of_number? hm hlt
    · have heq : n = cs.length := by simpa using hm.symm.trans hrun
      exact absurd hn (by omega)
  · have := hnone ⟨.text, text?⟩ (by simp [lexer])
    simp [LexRule.beyondFirst?, hrun] at this

theorem exists_keyword?_eq_some {words : List String} {w : String} (hw : w ∈ words)
    {back : List Char} (hend : Text.atWordEnd back = true) :
    ∃ v ∈ words, keyword? words (w.toList ++ back) = some v.length := by
  have hfound : (keyword? words (w.toList ++ back)).isSome = true := by
    rw [keyword?, List.findSome?_isSome_iff]
    refine ⟨w, hw, ?_⟩
    rw [← String.length_toList, List.drop_left]
    simp [hend]
  obtain ⟨n, hn⟩ := Option.isSome_iff_exists.mp hfound
  obtain ⟨v, hv, -, rfl, -⟩ := keyword?_eq_some hn
  exact ⟨v, hv, hn⟩

theorem number?_eq_some_of_digits {front back : List Char} (hfront : front ≠ [])
    (hdigits : ∀ c ∈ front, c.isDigit = true) (hend : Text.atWordEnd back = true) :
    number? (front ++ back) = some front.length := by
  have hback : back.takeWhile Char.isDigit = [] := by
    cases back with
    | nil => rfl
    | cons e es =>
        cases he : e.isDigit with
        | false => simp [he]
        | true => simp [Text.atWordEnd, isWordChar_of_isDigit he] at hend
  have hrun : run? Char.isDigit (front ++ back) = some front.length := by
    rw [run?_eq_some_iff, List.takeWhile_append_of_pos hdigits, hback, List.append_nil]
    exact ⟨rfl, by simpa using hfront⟩
  simp [number?, hrun, hend]

/-- The last rule claims no text that another one matches. -/
theorem beyondFirst?_of_choose_text (h : lexer.choose cs = (.text, n)) {r : LexRule TokenKind}
    (hr : r ∈ lexer.rules) (hkind : r.kind ≠ .text) : r.beyondFirst? cs = none := by
  unfold Lexer.choose at h
  cases hf : lexer.rules.findSome? fun r => (r.beyondFirst? cs).map fun n => (r.kind, n) with
  | none => simpa using List.findSome?_eq_none_iff.mp hf r hr
  | some pair =>
      rw [hf] at h
      obtain ⟨before, q, after, hrules, hq, hbefore⟩ := List.findSome?_eq_some_iff.mp hf
      obtain ⟨m, -, rfl⟩ := Option.map_eq_some_iff.mp hq
      have hqkind : q.kind = .text := congrArg Prod.fst h
      have hlast : lexer.rules.Pairwise fun a _ => a.kind ≠ .text := by simp [lexer]
      rw [hrules] at hr hlast
      rcases List.mem_append.mp hr with hr | hr
      · simpa using hbefore r hr
      rcases List.mem_cons.mp hr with rfl | hr
      · exact absurd hqkind hkind
      · have hcons := (List.pairwise_append.mp hlast).2.1
        exact absurd hqkind ((List.pairwise_cons.mp hcons).1 r hr)

/-- What the last rule claims does not break off. -/
theorem not_breaksOff_of_choose_text (h : lexer.choose cs = (.text, n)) : ¬BreaksOff cs := by
  rintro ⟨front, back, rfl, -, hend, hfront⟩
  rcases hfront with ⟨w, hw, rfl⟩ | ⟨hne, hdigits⟩
  · have hclaims (kind : TokenKind) {words : List String}
        (hr : ⟨kind, keyword? words⟩ ∈ lexer.rules) (hkind : kind ≠ .text)
        (hwords : ∀ v ∈ words, v.length ≠ 0) : w ∉ words := by
      intro hw
      obtain ⟨v, hv, hm⟩ := exists_keyword?_eq_some hw hend
      obtain ⟨k, hk⟩ := Nat.exists_eq_succ_of_ne_zero (hwords v hv)
      have hnone := beyondFirst?_of_choose_text h hr hkind
      simp [LexRule.beyondFirst?, hm, hk] at hnone
    have hscope : w ∉ ["method", "group", "class"] :=
      hclaims .scopeWord (by simp [lexer]) (by decide) (by decide)
    have hrule : w ∉ ["whitelist", "blacklist"] :=
      hclaims .ruleWord (by simp [lexer]) (by decide) (by decide)
    have htarget : w ∉ ["channel", "user", "guild", "role"] :=
      hclaims .targetWord (by simp [lexer]) (by decide) (by decide)
    simp only [keywords, List.mem_cons] at hw hscope hrule htarget
    grind
  · have hnumber := number?_eq_some_of_digits hne hdigits hend
    obtain ⟨k, hk⟩ := Nat.exists_eq_succ_of_ne_zero (mt List.length_eq_zero_iff.mp hne)
    have hnone := beyondFirst?_of_choose_text h (r := ⟨.number, number?⟩) (by simp [lexer])
      (by decide)
    simp [LexRule.beyondFirst?, hnumber, hk] at hnone

theorem isWordChar_of_regular {text : String} (h : Regular (kind, text))
    (hword : kind.isWord = true) (htext : kind ≠ .text) :
    ∀ c ∈ text.toList, Text.isWordChar c = true := by
  cases h with
  | scopeWord k => exact fun c => isWordChar_of_mem_keywords (by cases k <;> decide)
  | ruleWord k => exact fun c => isWordChar_of_mem_keywords (by cases k <;> decide)
  | targetWord t => exact fun c => isWordChar_of_mem_keywords (by cases t <;> decide)
  | opening | closing | operator | colon => cases hword
  | number hd =>
      rw [String.toList_ofList]
      exact fun c hc => isWordChar_of_isDigit (hd c hc)
  | text => exact absurd rfl htext

/-- Only a delimiter is read as no word. -/
theorem isWord_of_regular_cons (h : Regular (kind, String.ofList (d :: cs)))
    (hd : isDelimiter d = false) : kind.isWord = true := by
  generalize htext : String.ofList (d :: cs) = text at h
  have hcs : text.toList = d :: cs := by rw [← htext, String.toList_ofList]
  cases h with
  | scopeWord | ruleWord | targetWord | number | text => rfl
  | opening | closing | operator | colon =>
      cases hcs
      cases hd

theorem isWord_of_choose (hplain : Plain (d :: cs)) (h : lexer.choose (d :: cs) = (kind, n)) :
    kind.isWord = true :=
  isWord_of_regular_cons (regular_of_choose hplain.not_blank h) (hplain d (by simp)).2

/-- Plain characters are read whole exactly if they do not break off. -/
theorem eq_length_iff_of_choose (hplain : Plain (d :: cs))
    (h : lexer.choose (d :: cs) = (kind, n)) : n = cs.length ↔ ¬BreaksOff (d :: cs) := by
  constructor
  · intro hn
    by_cases htext : kind = .text
    · exact not_breaksOff_of_choose_text (htext ▸ h)
    · have hreg : Regular (kind, String.ofList (d :: cs.take n)) :=
        regular_of_choose hplain.not_blank h
      rw [hn, List.take_length] at hreg
      have hchars := isWordChar_of_regular hreg (isWord_of_choose hplain h) htext
      rw [String.toList_ofList] at hchars
      exact not_breaksOff_of_wordChars hchars
  · intro hnot
    refine Nat.le_antisymm (choose_le h) (Nat.le_of_not_lt fun hn => ?_)
    exact hnot (breaksOff_of_choose hplain h hn)

theorem isWord_of_mem_lexemesOfWord {l : Lexeme TokenKind} (hplain : Plain cs)
    (hl : l ∈ lexer.lexemesOfWord cs) : l.1.isWord = true := by
  fun_induction Lexer.lexWord lexer 1 cs with
  | case1 => simp at hl
  | case2 d cs kind n hk ih =>
      rw [lexer.lexemesOfWord_cons hk] at hl
      rcases List.mem_cons.mp hl with rfl | hl
      · exact isWord_of_choose hplain hk
      · exact ih (fun c hc => hplain c (by simp [List.mem_of_mem_drop hc])) hl

/-- A text that does not break off is read whole. -/
theorem isWord_of_not_breaksOff {text : String} (hne : text ≠ "") (hplain : Plain text.toList)
    (h : ¬BreaksOff text.toList) : IsWord text := by
  obtain ⟨d, cs, hcs⟩ := List.exists_cons_of_ne_nil (mt String.toList_eq_nil_iff.mp hne)
  rw [hcs] at hplain h
  rcases hchoose : lexer.choose (d :: cs) with ⟨kind, n⟩
  have hn : n = cs.length := (eq_length_iff_of_choose hplain hchoose).mpr h
  have hreg := regular_of_choose hplain.not_blank hchoose
  rw [hn, List.take_length, ← hcs, String.ofList_toList] at hreg
  have hwhole : IsWord (kind, text).2 :=
    isWord_of_regular hreg (isWord_of_choose hplain hchoose)
  exact hwhole

/-- A text that breaks off is read as two words at least. -/
theorem exists_lexemesOfWord_of_breaksOff (hplain : Plain cs) (h : BreaksOff cs) :
    ∃ first second rest, lexer.lexemesOfWord cs = first :: second :: rest := by
  obtain ⟨d, ds, rfl⟩ : ∃ d ds, cs = d :: ds := by
    obtain ⟨front, back, rfl, hback, -⟩ := h
    exact List.exists_cons_of_ne_nil (by simp [hback])
  rcases hchoose : lexer.choose (d :: ds) with ⟨kind, n⟩
  have hn : n ≠ ds.length := fun hn => (eq_length_iff_of_choose hplain hchoose).mp hn h
  have hle : n ≤ ds.length := choose_le hchoose
  have hrest : ds.drop n ≠ [] := by
    rw [Ne, List.drop_eq_nil_iff]
    omega
  obtain ⟨e, es, hes⟩ := List.exists_cons_of_ne_nil hrest
  rw [lexer.lexemesOfWord_cons hchoose, hes, lexer.lexemesOfWord_cons (Prod.eta _).symm]
  exact ⟨_, _, _, rfl⟩

end ChatWarden.Policy
