import ChatWarden.Proofs.Loops
import ChatWarden.Proofs.Policy.Cursor

/-!
# Reading a document comes to an end

A stream of tokens is a list and an index that stops at the end of the list
(`TokenStream.indexed_advance`). The readers of a policy document go round in loops: over the
numbers of a rule, over the properties of a bracket and over the items of a document. Each round
after which a loop goes on moves the position forward (`Cursor.Advances`). So each of the loops
ends with what is read there, the one over the items after no more rounds than there are tokens.
-/

namespace ChatWarden

/-! ## The index of a stream -/

/-- Tokens and an index, which may be any number. -/
structure IndexedStream (κ : Type) where
  tokens : List (Token κ)
  position : Nat

namespace IndexedStream

variable {κ : Type}

def current? (s : IndexedStream κ) : Option (Token κ) :=
  s.tokens[s.position]?

/-- Moves the index by one unless it is at the end. -/
def advance (s : IndexedStream κ) : IndexedStream κ :=
  if s.position < s.tokens.length then { s with position := s.position + 1 } else s

/-- The token so many places away; nothing before the first one or behind the last. -/
def peek? (s : IndexedStream κ) (offset : Int) : Option (Token κ) :=
  let index := (s.position : Int) + offset
  if 0 ≤ index then s.tokens[index.toNat]? else none

end IndexedStream

namespace TokenStream

variable {κ : Type}

def indexed (s : TokenStream κ) : IndexedStream κ :=
  ⟨s.tokens, s.position⟩

theorem position_add_length_ahead (s : TokenStream κ) :
    s.position + s.ahead.length = s.tokens.length := by
  simp [position, tokens]

theorem position_le_length (s : TokenStream κ) : s.position ≤ s.tokens.length := by
  have hlength := s.position_add_length_ahead
  omega

theorem getElem?_tokens (s : TokenStream κ) (n : Nat) :
    s.tokens[s.position + n]? = s.ahead[n]? := by
  have hpassed : s.passed.reverse.length ≤ s.position + n := by simp [position]
  rw [tokens, List.getElem?_append_right hpassed, List.length_reverse, position,
    Nat.add_sub_cancel_left]

theorem indexed_current? (s : TokenStream κ) : s.indexed.current? = s.current? := by
  have hcurrent := s.getElem?_tokens 0
  rw [Nat.add_zero] at hcurrent
  rw [current?, List.head?_eq_getElem?]
  exact hcurrent

theorem indexed_advance (s : TokenStream κ) : s.indexed.advance = s.advance.indexed := by
  have hlength := s.position_add_length_ahead
  cases hahead : s.ahead with
  | nil =>
      have hend : ¬s.position < s.tokens.length := by simp [← hlength, hahead]
      rw [advance, hahead]
      exact if_neg hend
  | cons t ts =>
      have hlt : s.position < s.tokens.length := by simp [← hlength, hahead]
      have hnext : s.advance.position = s.position + 1 :=
        position_advance (by simp [exhausted, hahead])
      rw [indexed, indexed, hnext, s.tokens_advance]
      exact if_pos hlt

theorem indexed_peek? (s : TokenStream κ) (offset : Int) :
    s.indexed.peek? offset = s.peek? offset := by
  change (if 0 ≤ (s.position : Int) + offset then
    s.tokens[((s.position : Int) + offset).toNat]? else none) = s.peek? offset
  cases offset with
  | ofNat n =>
      have hindex : 0 ≤ (s.position : Int) + Int.ofNat n := Int.natCast_nonneg (s.position + n)
      rw [if_pos hindex]
      exact s.getElem?_tokens n
  | negSucc n =>
      have hpeek : s.peek? (Int.negSucc n) = s.passed[n]? := rfl
      have hposition : s.position = s.passed.length := rfl
      by_cases hn : n < s.passed.length
      · have hindex : 0 ≤ (s.position : Int) + Int.negSucc n := by omega
        have hnat : ((s.position : Int) + Int.negSucc n).toNat = s.passed.length - 1 - n := by
          omega
        have hlt : s.passed.length - 1 - n < s.passed.reverse.length := by
          rw [List.length_reverse]
          omega
        have hback : s.passed.length - 1 - (s.passed.length - 1 - n) = n := by omega
        rw [if_pos hindex, hnat, hpeek, tokens, List.getElem?_append_left hlt,
          List.getElem?_reverse (by omega), hback]
      · have hindex : ¬0 ≤ (s.position : Int) + Int.negSucc n := by omega
        rw [if_neg hindex, hpeek, List.getElem?_eq_none (by omega)]

end TokenStream

namespace Policy.Cursor

open Loop (Turn Ends Keeps)

/-- A position in the same tokens that is further on, and not behind their end. -/
structure Advances (c c' : Cursor) : Prop where
  tokens : c'.tokens = c.tokens
  moves : c.position < c'.position
  stays : c'.position ≤ c.tokens.length

variable {c c' : Cursor} {t : PolicyToken} {noLine : Nat}

theorem Advances.of_ahead (htokens : c'.tokens = c.tokens)
    (hahead : c'.ahead.length < c.ahead.length) : Advances c c' where
  tokens := htokens
  moves := by
    have h := c.position_add_length_ahead
    have h' := c'.position_add_length_ahead
    rw [htokens] at h'
    omega
  stays := by
    have h' := c'.position_le_length
    rwa [htokens] at h'

theorem Advances.lowers (h : Advances c c') : c'.ahead.length < c.ahead.length := by
  have hsum := c.position_add_length_ahead
  have hsum' := c'.position_add_length_ahead
  have hmoves := h.moves
  rw [h.tokens] at hsum'
  omega

theorem length_ahead_pos (h : c.current? = some t) : 0 < c.ahead.length := by
  obtain ⟨ts, hts⟩ := List.head?_eq_some_iff.mp h
  rw [hts]
  exact Nat.succ_pos ts.length

theorem advances_advance (h : c.current? = some t) : Advances c c.advance :=
  .of_ahead c.tokens_advance (length_advance h)

theorem Follows.tokens_eq {α : Type} {tokens : List PolicyToken} {x : Scan α} {y : Reading α}
    {a : α} (h : Follows tokens x y) (hx : x = .ok (a, c)) : c.tokens = tokens := by
  cases h with
  | error e => contradiction
  | ok a hc hrest =>
      cases hx
      exact hc

theorem advances_of_readProperty {pair : String × String}
    (h : readProperty noLine c = .ok (pair, c')) : Advances c c' := by
  apply Advances.of_ahead
  · cases hahead : c.ahead with
    | nil =>
        simp only [readProperty, expectCurrent_of_nil hahead, bind, Except.bind] at h
        contradiction
    | cons t ts =>
        have hfollows : Follows c.tokens (readProperty noLine c)
            (Policy.readProperty (lineAtEnd noLine c.tokens) t ts) :=
          follows_readProperty rfl hahead
        exact hfollows.tokens_eq h
  · exact length_of_readProperty h

theorem advances_of_readItem {item : Item} (ht : c.current? = some t)
    (h : readItem noLine t.kind c = .ok (item, c')) : Advances c c' := by
  obtain ⟨ts, hts⟩ := List.head?_eq_some_iff.mp ht
  have hfollows : Follows c.tokens (readItem noLine t.kind c)
      (Policy.readItem (lineAtEnd noLine c.tokens) t ts) := follows_readItem rfl hts
  exact .of_ahead (hfollows.tokens_eq h) (length_of_readItem ht h)

/-! ## The loops -/

/-- A turn of the loop over the numbers of a rule; a token of another kind leaves it. -/
def idTurn : List Id × Cursor → Turn (List Id × Cursor) (Scan (List Id))
  | (ids, c) =>
    match c.current? with
    | none => .ended (.ok (ids, c))
    | some t =>
      if t.kind = .number then
        match Text.uint64? t.text with
        | none => .leave (.error (.invalidId t.line t.text))
        | some id => .again (ids ++ [id], c.advance)
      else .leave (.ok (ids, c))

/-- A turn of the loop over the properties of a bracket, which the closing mark leaves. -/
def propertyTurn (noLine : Nat) :
    Properties × Cursor → Turn (Properties × Cursor) (Scan Properties)
  | (soFar, c) =>
    match expectCurrent noLine c .close with
    | .error e => .leave (.error e)
    | .ok t =>
      if t.kind = .bracket ∧ t.text = ">" then .leave (.ok (soFar, c.advance))
      else if nextIsOperator c then
        match readProperty noLine c with
        | .error e => .leave (.error e)
        | .ok ((key, value), c) => .again (soFar.insert key value, c)
      else .leave (unexpected t .propertyOrClose)

/-- A turn of the loop over the items of a document. -/
def itemTurn (noLine : Nat) : Draft × Cursor → Turn (Draft × Cursor) (Except ParseError Draft)
  | (d, c) =>
    match c.current? with
    | none => .ended (.ok d)
    | some t =>
      match readItem noLine t.kind c with
      | .error e => .leave (.error e)
      | .ok (item, c) =>
        match d.add item with
        | .error e => .leave (.error e)
        | .ok d => .again (d, c)

theorem keeps_idTurn (s : List Id × Cursor) :
    Keeps (fun s => (readIds s.2).map fun (more, c) => (s.1 ++ more, c))
      (fun s => 0 < s.2.ahead.length) (fun s s' => Advances s.2 s'.2) s (idTurn s) := by
  obtain ⟨ids, c⟩ := s
  cases hahead : c.ahead with
  | nil =>
      simp only [idTurn, current?_of_nil hahead]
      apply Keeps.ended
      simp only [readIds_of_nil hahead, Except.map, List.append_nil]
  | cons t ts =>
      have hcurrent := current?_of_cons hahead
      have hpos := length_ahead_pos hcurrent
      simp only [idTurn, hcurrent]
      by_cases hkind : t.kind = .number
      · simp only [if_pos hkind]
        cases hid : Text.uint64? t.text with
        | none =>
            refine Keeps.leave ?_ hpos
            simp only [readIds_of_cons hahead, if_pos hkind, hid, Except.map]
        | some id =>
            refine Keeps.again ?_ (advances_advance hcurrent)
            simp only [readIds_of_cons hahead, if_pos hkind, hid]
            cases readIds c.advance with
            | error e => rfl
            | ok read => simp only [Except.map, List.append_assoc, List.singleton_append]
      · simp only [if_neg hkind]
        refine Keeps.leave ?_ hpos
        simp only [readIds_of_cons hahead, if_neg hkind, Except.map, List.append_nil]

theorem keeps_propertyTurn (noLine : Nat) (s : Properties × Cursor) :
    Keeps (fun s => readProperties noLine s.1 s.2) (fun _ => True)
      (fun s s' => Advances s.2 s'.2) s (propertyTurn noLine s) := by
  obtain ⟨soFar, c⟩ := s
  cases hahead : c.ahead with
  | nil =>
      simp only [propertyTurn, expectCurrent_of_nil hahead]
      refine Keeps.leave ?_ trivial
      simp only [readProperties, expectCurrent_of_nil hahead]
  | cons t ts =>
      simp only [propertyTurn, expectCurrent_of_cons hahead, nextIsOperator_eq hahead]
      by_cases hclose : t.kind = .bracket ∧ t.text = ">"
      · simp only [if_pos hclose]
        refine Keeps.leave ?_ trivial
        simp only [readProperties_of_cons hahead, if_pos hclose]
      · simp only [if_neg hclose]
        by_cases hop : startsOperator ts
        · simp only [if_pos hop]
          cases hp : readProperty noLine c with
          | error e =>
              refine Keeps.leave ?_ trivial
              simp only [readProperties_of_cons hahead, if_neg hclose, if_pos hop, hp, Except.bind]
          | ok read =>
              refine Keeps.again ?_ (advances_of_readProperty hp)
              simp only [readProperties_of_cons hahead, if_neg hclose, if_pos hop, hp, Except.bind]
        · simp only [if_neg hop]
          refine Keeps.leave ?_ trivial
          simp only [readProperties_of_cons hahead, if_neg hclose, if_neg hop]

/-- Only an error leaves the loop over the items before the tokens are used up. -/
theorem keeps_itemTurn (noLine : Nat) (s : Draft × Cursor) :
    Keeps (fun s => readAll noLine s.1 s.2)
      (fun s => 0 < s.2.ahead.length ∧ ∃ e, readAll noLine s.1 s.2 = .error e)
      (fun s s' => Advances s.2 s'.2) s (itemTurn noLine s) := by
  obtain ⟨d, c⟩ := s
  cases hahead : c.ahead with
  | nil =>
      simp only [itemTurn, current?_of_nil hahead]
      exact .ended (readAll_of_nil hahead)
  | cons t ts =>
      have hcurrent := current?_of_cons hahead
      have hpos := length_ahead_pos hcurrent
      simp only [itemTurn, hcurrent]
      cases hitem : readItem noLine t.kind c with
      | error e =>
          have hvalue : readAll noLine d c = .error e := by
            simp only [readAll_of_cons hahead, hitem, Except.bind]
          exact .leave hvalue ⟨hpos, e, hvalue⟩
      | ok read =>
          cases hadd : d.add read.1 with
          | error e =>
              have hvalue : readAll noLine d c = .error e := by
                simp only [readAll_of_cons hahead, hitem, hadd, Except.bind]
              simp only [hadd]
              exact .leave hvalue ⟨hpos, e, hvalue⟩
          | ok added =>
              simp only [hadd]
              refine Keeps.again ?_ (advances_of_readItem hcurrent hitem)
              simp only [readAll_of_cons hahead, hitem, hadd, Except.bind]

theorem ends_idTurn (c : Cursor) : Ends idTurn ([], c) c.ahead.length (readIds c) := by
  have hends := Loop.ends_of_keeps keeps_idTurn (fun _ hpos => hpos)
    (fun _ _ hadvances => hadvances.lowers) ([], c)
  have hvalue : ((readIds c).map fun (more, c) => ([] ++ more, c)) = readIds c := by
    cases readIds c <;> rfl
  rwa [hvalue] at hends

theorem ends_propertyTurn (noLine : Nat) (soFar : Properties) (c : Cursor) :
    Ends (propertyTurn noLine) (soFar, c) (c.ahead.length + 1)
      (readProperties noLine soFar c) := by
  have hmoves : ∀ s s' : Properties × Cursor,
      Advances s.2 s'.2 → s'.2.ahead.length + 1 < s.2.ahead.length + 1 :=
    fun _ _ hadvances => Nat.succ_lt_succ hadvances.lowers
  exact Loop.ends_of_keeps (keeps_propertyTurn noLine) (fun _ _ => Nat.succ_pos _) hmoves (soFar, c)

theorem ends_itemTurn (noLine : Nat) (d : Draft) (c : Cursor) :
    Ends (itemTurn noLine) (d, c) c.ahead.length (readAll noLine d c) :=
  Loop.ends_of_keeps (keeps_itemTurn noLine) (fun _ hleaves => hleaves.1)
    (fun _ _ hadvances => hadvances.lowers) (d, c)

/-- The loop over the items of a document reads what the document declares, and it has no more
rounds than the document has tokens. -/
theorem ends_document (name : String) (tokens : List PolicyToken) :
    ∃ result, ofTokens name tokens = result.map Draft.policy ∧
      Ends (itemTurn 1) (.start name, .ofTokens tokens) tokens.length result := by
  have hread : readAll 1 (.start name) (.ofTokens tokens) =
      Draft.readAll (lineAtEnd 1 tokens) (.start name) tokens := readAll_eq rfl rfl
  refine ⟨readAll 1 (.start name) (.ofTokens tokens), ?_, ends_itemTurn 1 _ _⟩
  rw [hread]
  rfl

/-- Reading ends on every text and on all tokens, however malformed. Each round of a lexer takes at
least one character of the word. Each round after which the loop over the numbers of a rule, the
properties of a bracket or the items of a document goes on moves the position forward, but not
behind the last token; and only an error leaves the loop over the items. So each loop ends with what
is read there, and the loop over the items has no more rounds than there are tokens. The 1 is the
line to report where a document has no tokens. -/
theorem lexing_and_parsing_end :
    (∀ (κ : Type) (lexer : Lexer κ) (line : Nat) (word : List Char),
      (∀ out rest out', lexer.wordTurn line (word, out) = .again (rest, out') →
        ∃ taken ≠ [], word = taken ++ rest) ∧
      Ends (lexer.wordTurn line) (word, []) word.length (lexer.lexWord line word)) ∧
    (∀ c : Cursor, c.position ≤ c.tokens.length ∧ c.indexed.current? = c.current? ∧
      c.indexed.advance = c.advance.indexed ∧
      ∀ offset, c.indexed.peek? offset = c.peek? offset) ∧
    (∀ c c' : Cursor,
      (∀ ids ids', idTurn (ids, c) = .again (ids', c') → Advances c c') ∧
      (∀ soFar soFar', propertyTurn 1 (soFar, c) = .again (soFar', c') → Advances c c') ∧
      (∀ d d', itemTurn 1 (d, c) = .again (d', c') → Advances c c')) ∧
    (∀ d c result, itemTurn 1 (d, c) = .leave result → ∃ e, result = .error e) ∧
    (∀ c : Cursor, Ends idTurn ([], c) c.ahead.length (readIds c) ∧
      Ends (propertyTurn 1) (∅, c) (c.ahead.length + 1) (readProperties 1 ∅ c)) ∧
    ∀ name tokens, ∃ result, ofTokens name tokens = result.map Draft.policy ∧
      Ends (itemTurn 1) (.start name, .ofTokens tokens) tokens.length result := by
  refine ⟨?lexer, ?stream, ?moves, ?errors, ?loops, ends_document⟩
  case lexer =>
    intro κ lexer line word
    refine ⟨?_, lexer.ends_wordTurn line word⟩
    intro out rest out' hturn
    exact (lexer.keeps_wordTurn line (word, out)).moves_of_again hturn
  case stream =>
    intro c
    exact ⟨c.position_le_length, c.indexed_current?, c.indexed_advance, c.indexed_peek?⟩
  case moves =>
    intro c c'
    refine ⟨?_, ?_, ?_⟩
    · intro ids ids' hturn
      exact (keeps_idTurn (ids, c)).moves_of_again hturn
    · intro soFar soFar' hturn
      exact (keeps_propertyTurn 1 (soFar, c)).moves_of_again hturn
    · intro d d' hturn
      exact (keeps_itemTurn 1 (d, c)).moves_of_again hturn
  case errors =>
    intro d c result hturn
    obtain ⟨hvalue, -, e, he⟩ := (keeps_itemTurn 1 (d, c)).leaves_of_leave hturn
    exact ⟨e, hvalue.symm.trans he⟩
  case loops =>
    intro c
    exact ⟨ends_idTurn c, ends_propertyTurn 1 ∅ c⟩

/-- A turn of each loop that goes on, and one that ends in an error. The only rule of the lexer
matches nothing, so that it takes a single character. -/
theorem lexing_and_parsing_end_turns :
    let lexer : Lexer Nat := ⟨[⟨0, fun _ => some 0⟩], 1⟩
    let number : Cursor := .ofTokens [⟨.number, "7", 1⟩]
    let property : Cursor := .ofTokens [⟨.text, "a", 1⟩, ⟨.operator, "=", 1⟩, ⟨.text, "b", 1⟩]
    let mark : Cursor := .ofTokens [⟨.bracket, ">", 1⟩]
    let refused : Except ParseError Draft := .error (.unexpectedToken 1 .openBracket ">")
    (lexer.wordTurn 1 (['a'], []) = .again ([], [⟨1, "a", 1⟩]) ∧
      ∃ taken ≠ [], ['a'] = taken ++ []) ∧
    (idTurn ([], number) = .again ([7], number.advance) ∧ Advances number number.advance) ∧
    (propertyTurn 1 (∅, property) =
        .again (SortedMap.insert ∅ "a" "b", property.advance.advance.advance) ∧
      Advances property property.advance.advance.advance) ∧
    (itemTurn 1 (.start "p", number) = .again (.start "p", number.advance) ∧
      Advances number number.advance) ∧
    itemTurn 1 (.start "p", mark) = .leave refused ∧ ∃ e, refused = .error e := by
  intro lexer number property mark refused
  obtain ⟨hlexer, -, hloops, herrors, -, -⟩ := lexing_and_parsing_end
  have hword : lexer.wordTurn 1 (['a'], []) = .again ([], [⟨1, "a", 1⟩]) := rfl
  have hid : idTurn ([], number) = .again ([7], number.advance) := rfl
  have hproperty : propertyTurn 1 (∅, property) =
      .again (SortedMap.insert ∅ "a" "b", property.advance.advance.advance) := rfl
  have hitem : itemTurn 1 (.start "p", number) = .again (.start "p", number.advance) := rfl
  have hrefused : itemTurn 1 (.start "p", mark) = .leave refused := rfl
  obtain ⟨hids, -, hitems⟩ := hloops number number.advance
  obtain ⟨-, hproperties, -⟩ := hloops property property.advance.advance.advance
  exact ⟨⟨hword, (hlexer Nat lexer 1 ['a']).1 _ _ _ hword⟩, ⟨hid, hids _ _ hid⟩,
    ⟨hproperty, hproperties _ _ hproperty⟩, ⟨hitem, hitems _ _ hitem⟩, hrefused,
    herrors _ _ _ hrefused⟩

end Policy.Cursor

end ChatWarden
