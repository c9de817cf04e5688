import ChatWarden.Policy.Basic
import ChatWarden.Policy.Lexicon
import ChatWarden.Proofs.Lexer

/-!
# What the lexer of policy documents reads

A rule that looks at a text sees no further than the next delimiter (`matchLength?_append`), so a
delimiter splits the text around it (`lexemesIn_append_delimiter`). What the lexer cuts off is what
one of its rules matches, or a single character that none does (`exists_rule_of_choose`).
-/

namespace ChatWarden.Policy

namespace Lexicon

variable {c : Char} {isMember : Char → Bool}

/-! ## Delimiters -/

theorem isDelimiter_iff : isDelimiter c = true ↔ c = '<' ∨ c = '>' ∨ c = '=' ∨ c = ':' := by
  simp [isDelimiter, or_assoc]

theorem not_blank_of_isDelimiter (hc : isDelimiter c = true) : Text.isBlank c = false := by
  rcases isDelimiter_iff.mp hc with rfl | rfl | rfl | rfl <;> decide

theorem not_wordChar_of_isDelimiter (hc : isDelimiter c = true) : Text.isWordChar c = false := by
  rcases isDelimiter_iff.mp hc with rfl | rfl | rfl | rfl <;> decide

theorem not_digit_of_isDelimiter (hc : isDelimiter c = true) : c.isDigit = false := by
  rcases isDelimiter_iff.mp hc with rfl | rfl | rfl | rfl <;> decide

/-- What a delimiter is read as. -/
def mark (c : Char) : Lexeme TokenKind :=
  (if c = ':' then .colon else if c = '=' then .operator else .bracket, String.ofList [c])

/-! ## No rule looks past a delimiter -/

theorem atWordEnd_append (hc : isDelimiter c = true) (x y : List Char) :
    Text.atWordEnd (x ++ c :: y) = Text.atWordEnd x := by
  cases x with
  | nil => simp [Text.atWordEnd, not_wordChar_of_isDelimiter hc]
  | cons d x => rfl

theorem isPrefixOf_append {w : List Char} (hc : c ∉ w) (x y : List Char) :
    w.isPrefixOf (x ++ c :: y) = w.isPrefixOf x := by
  induction w generalizing x with
  | nil => rfl
  | cons d w ih =>
      have hd : d ≠ c := fun h => hc (by simp [h])
      have hw : c ∉ w := fun h => hc (by simp [h])
      cases x with
      | nil => simp [List.isPrefixOf, hd]
      | cons e x => simp [List.isPrefixOf, ih hw x]

theorem keyword?_append {words : List String} (hc : isDelimiter c = true)
    (hw : ∀ w ∈ words, c ∉ w.toList) (x y : List Char) :
    keyword? words (x ++ c :: y) = keyword? words x := by
  unfold keyword?
  induction words with
  | nil => rfl
  | cons w words ih =>
      have hp := isPrefixOf_append (hw w (by simp)) x y
      have hrest := ih fun v hv => hw v (by simp [hv])
      rw [List.findSome?_cons, List.findSome?_cons, hrest, hp]
      by_cases hx : w.toList.isPrefixOf x
      · have hle : w.length ≤ x.length := by
          rw [← String.length_toList]
          exact (List.isPrefixOf_iff_prefix.mp hx).length_le
        rw [List.drop_append_of_le_length hle, atWordEnd_append hc]
      · simp [hx]

theorem single?_append {x : List Char} (hx : x ≠ []) (y : List Char) :
    single? isMember (x ++ c :: y) = single? isMember x := by
  cases x with
  | nil => contradiction
  | cons d x => rfl

theorem takeWhile_append_cons (hc : isMember c = false) (x y : List Char) :
    (x ++ c :: y).takeWhile isMember = x.takeWhile isMember := by
  induction x with
  | nil => simp [hc]
  | cons d x ih =>
      rw [List.cons_append, List.takeWhile_cons, List.takeWhile_cons, ih]

theorem run?_append (hc : isMember c = false) (x y : List Char) :
    run? isMember (x ++ c :: y) = run? isMember x := by
  rw [run?, takeWhile_append_cons hc]
  rfl

/-! ## What a match is -/

theorem keyword?_eq_some {words : List String} {text : List Char} {n : Nat}
    (h : keyword? words text = some n) :
    ∃ w ∈ words, w.toList <+: text ∧ n = w.length ∧ Text.atWordEnd (text.drop n) = true := by
  obtain ⟨w, hw, hf⟩ := List.exists_of_findSome?_eq_some h
  split at hf
  · rename_i hm
    cases hf
    exact ⟨w, hw, List.isPrefixOf_iff_prefix.mp hm.1, rfl, hm.2⟩
  · contradiction

theorem single?_eq_some {text : List Char} {n : Nat} (h : single? isMember text = some n) :
    ∃ d rest, text = d :: rest ∧ isMember d = true ∧ n = 1 := by
  cases text with
  | nil => contradiction
  | cons d rest =>
      rw [single?] at h
      split at h
      · rename_i hd
        cases h
        exact ⟨d, rest, rfl, hd, rfl⟩
      · contradiction

theorem run?_eq_some_iff {text : List Char} {n : Nat} :
    run? isMember text = some n ↔ (text.takeWhile isMember).length = n ∧ n ≠ 0 := by
  unfold run?
  split
  · rename_i hz
    rw [hz]
    simp only [reduceCtorEq, false_iff]
    omega
  · rename_i m hm
    rw [hm, Option.some.injEq]
    omega

theorem run?_le {text : List Char} {n : Nat} (h : run? isMember text = some n) :
    n ≤ text.length := by
  rw [← (run?_eq_some_iff.mp h).1]
  exact (List.takeWhile_prefix isMember).length_le

theorem run?_of_forall {d : Char} {cs : List Char} (h : ∀ c ∈ d :: cs, isMember c = true) :
    run? isMember (d :: cs) = some (cs.length + 1) := by
  have hall : (d :: cs).takeWhile isMember = d :: cs := by
    rw [← List.append_nil (d :: cs), List.takeWhile_append_of_pos h]
    rfl
  exact run?_eq_some_iff.mpr ⟨by rw [hall, List.length_cons], Nat.succ_ne_zero cs.length⟩

theorem take_of_run? {text : List Char} {n : Nat} (h : run? isMember text = some n) :
    text.take n = text.takeWhile isMember := by
  rw [← (run?_eq_some_iff.mp h).1]
  exact (List.prefix_iff_eq_take.mp (List.takeWhile_prefix isMember)).symm

theorem number?_eq_some {text : List Char} {n : Nat} (h : number? text = some n) :
    run? Char.isDigit text = some n ∧ Text.atWordEnd (text.drop n) = true := by
  obtain ⟨m, hm, hf⟩ := Option.bind_eq_some_iff.mp h
  split at hf
  · rename_i hend
    cases hf
    exact ⟨hm, hend⟩
  · contradiction

theorem number?_append (hc : isDelimiter c = true) (x y : List Char) :
    number? (x ++ c :: y) = number? x := by
  rw [number?, number?, run?_append (not_digit_of_isDelimiter hc)]
  cases hr : run? Char.isDigit x with
  | none => rfl
  | some n =>
      have hle := run?_le hr
      simp only [Option.bind_some]
      rw [List.drop_append_of_le_length hle, atWordEnd_append hc]

end Lexicon

open Lexicon

variable {c : Char} {cs : List Char} {r : LexRule TokenKind}

theorem matchLength?_append (hr : r ∈ lexer.rules) (hc : isDelimiter c = true) {x : List Char}
    (hx : x ≠ []) (y : List Char) : r.matchLength? (x ++ c :: y) = r.matchLength? x := by
  have hd := isDelimiter_iff.mp hc
  simp only [lexer, List.mem_cons, List.not_mem_nil, or_false] at hr
  rcases hr with rfl | rfl | rfl | rfl | rfl | rfl | rfl | rfl
  case inl | inr.inl | inr.inr.inl =>
    apply keyword?_append hc
    rcases hd with rfl | rfl | rfl | rfl <;> decide
  case inr.inr.inr.inl | inr.inr.inr.inr.inl | inr.inr.inr.inr.inr.inl => exact single?_append hx y
  · exact number?_append hc x y
  · exact run?_append (by simp [hc]) x y

theorem matchLength?_le (hr : r ∈ lexer.rules) {n : Nat} (h : r.matchLength? cs = some n) :
    n ≤ cs.length := by
  have hkeyword : ∀ words, keyword? words cs = some n → n ≤ cs.length := by
    intro words hk
    obtain ⟨w, _, hp, rfl, _⟩ := keyword?_eq_some hk
    rw [← String.length_toList]
    exact hp.length_le
  have hsingle : ∀ isMember, single? isMember cs = some n → n ≤ cs.length := by
    intro isMember hs
    obtain ⟨d, rest, rfl, _, rfl⟩ := single?_eq_some hs
    simp
  simp only [lexer, List.mem_cons, List.not_mem_nil, or_false] at hr
  rcases hr with rfl | rfl | rfl | rfl | rfl | rfl | rfl | rfl
  case inl | inr.inl | inr.inr.inl => exact hkeyword _ h
  case inr.inr.inr.inl | inr.inr.inr.inr.inl | inr.inr.inr.inr.inr.inl => exact hsingle _ h
  · exact run?_le (number?_eq_some h).1
  · exact run?_le h

/-! ## The choice of a rule -/

theorem choose_append (hc : isDelimiter c = true) {x : List Char} (hx : x ≠ []) (y : List Char) :
    lexer.choose (x ++ c :: y) = lexer.choose x := by
  have hrules : ∀ rules : List (LexRule TokenKind), (∀ r ∈ rules, r ∈ lexer.rules) →
      (rules.findSome? fun r => (r.beyondFirst? (x ++ c :: y)).map fun n => (r.kind, n))
        = rules.findSome? fun r => (r.beyondFirst? x).map fun n => (r.kind, n) := by
    intro rules hsub
    induction rules with
    | nil => rfl
    | cons r rules ih =>
        have hm := matchLength?_append (hsub r (by simp)) hc hx y
        rw [List.findSome?_cons, List.findSome?_cons, ih fun q hq => hsub q (by simp [hq])]
        simp only [LexRule.beyondFirst?, hm]
  rw [Lexer.choose, hrules lexer.rules fun r hr => hr]
  rfl

theorem choose_delimiter (hc : isDelimiter c = true) (y : List Char) :
    lexer.choose (c :: y) = ((mark c).1, 0) := by
  rcases isDelimiter_iff.mp hc with rfl | rfl | rfl | rfl <;> rfl

/-- A rule that makes the choice, or none that matches. -/
theorem exists_rule_of_choose {kind : TokenKind} {n : Nat} (h : lexer.choose cs = (kind, n)) :
    (∃ r ∈ lexer.rules, r.kind = kind ∧ r.matchLength? cs = some (n + 1)) ∨
      (n = 0 ∧ ∀ r ∈ lexer.rules, r.beyondFirst? cs = none) := by
  unfold Lexer.choose at h
  cases hf : lexer.rules.findSome? fun r => (r.beyondFirst? cs).map fun n => (r.kind, n) with
  | none =>
      rw [hf] at h
      refine .inr ⟨(congrArg Prod.snd h).symm, fun r hr => ?_⟩
      simpa using List.findSome?_eq_none_iff.mp hf r hr
  | some pair =>
      rw [hf] at h
      obtain ⟨r, hr, hm⟩ := List.exists_of_findSome?_eq_some hf
      obtain ⟨m, hb, hp⟩ := Option.map_eq_some_iff.mp hm
      rw [← hp] at h
      cases h
      refine .inl ⟨r, hr, rfl, ?_⟩
      unfold LexRule.beyondFirst? at hb
      split at hb
      · rename_i k hk
        cases hb
        exact hk
      · contradiction

theorem choose_le {d : Char} {kind : TokenKind} {n : Nat} (h : lexer.choose (d :: cs) = (kind, n)) :
    n ≤ cs.length := by
  rcases exists_rule_of_choose h with ⟨r, hr, _, hm⟩ | ⟨rfl, _⟩
  · have := matchLength?_le hr hm
    simp only [List.length_cons] at this
    omega
  · omega

/-! ## Delimiters split a text -/

theorem lexemesOfWord_append (hc : isDelimiter c = true) (x y : List Char) :
    lexer.lexemesOfWord (x ++ c :: y)
      = lexer.lexemesOfWord x ++ mark c :: lexer.lexemesOfWord y := by
  fun_induction Lexer.lexWord lexer 1 x with
  | case1 =>
      rw [List.nil_append, lexer.lexemesOfWord_cons (choose_delimiter hc y),
        lexer.lexemesOfWord_nil]
      rfl
  | case2 d x kind n hk ih =>
      have hle := choose_le hk
      have hk' : lexer.choose (d :: (x ++ c :: y)) = (kind, n) :=
        (choose_append hc (List.cons_ne_nil d x) y).trans hk
      rw [List.cons_append, lexer.lexemesOfWord_cons hk', lexer.lexemesOfWord_cons hk,
        List.take_append_of_le_length hle, List.drop_append_of_le_length hle, ih]
      rfl

theorem lexemesIn_append_delimiter (hc : isDelimiter c = true) (a b : List Char) :
    lexer.lexemesIn (a ++ c :: b) = lexer.lexemesIn a ++ mark c :: lexer.lexemesIn b :=
  lexer.lexemesIn_append_cons (not_blank_of_isDelimiter hc) (lexemesOfWord_append hc) a b

end ChatWarden.Policy
