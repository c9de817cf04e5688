import ChatWarden.Proofs.Policy.Renumbering
import ChatWarden.TokenStream

/-!
# Reading a document token by token

Here a document is read with a position in its tokens. The position moves on by one token at a time,
the reader sees the token there and the next one, and where a document ends too soon it reports the
line of the token at the position or else of the one before. This comes to the same as reading lists
of tokens (`Cursor.parse_eq`): a reader that has run out of tokens stands right behind the last one.
Only a document without tokens has no line to report, and it is not refused, so that the line that
stands in for it (`noLine`) is never seen.
-/

namespace ChatWarden.Policy

/-- A position in the tokens of a document. -/
abbrev Cursor := TokenStream TokenKind

namespace Cursor

/-- A part of a document and the position after it. -/
abbrev Scan (α : Type) := Except ParseError (α × Cursor)

variable {c c' : Cursor} {tokens ts : List PolicyToken} {t : PolicyToken} {noLine : Nat}
  {expected : Expected}

/-- The line of the token at the position, or of the one before if there is none. -/
def lastLine (noLine : Nat) (c : Cursor) : Nat :=
  ((c.current?.or (c.peek? (-1))).map Token.line).getD noLine

def expectCurrent (noLine : Nat) (c : Cursor) (expected : Expected) :
    Except ParseError PolicyToken :=
  match c.current? with
  | none => .error (.unexpectedEnd (lastLine noLine c) expected)
  | some t => .ok t

/-- Moves on; there has to be a token then. -/
def advanceExpect (noLine : Nat) (c : Cursor) (expected : Expected) : Scan PolicyToken :=
  (expectCurrent noLine c.advance expected).map fun t => (t, c.advance)

def nextIsOperator (c : Cursor) : Bool :=
  (c.peek? 1).any fun t => t.kind == .operator

/-! ## Positions and what is ahead of them -/

theorem current?_of_cons (h : c.ahead = t :: ts) : c.current? = some t := by
  rw [TokenStream.current?, h]
  rfl

theorem current?_of_nil (h : c.ahead = []) : c.current? = none := by
  rw [TokenStream.current?, h]
  rfl

theorem ahead_advance (h : c.ahead = t :: ts) : c.advance.ahead = ts := by
  rw [TokenStream.advance, h]

theorem advance_of_nil (h : c.ahead = []) : c.advance = c := by
  rw [TokenStream.advance, h]

theorem nextIsOperator_eq (h : c.ahead = t :: ts) : nextIsOperator c = startsOperator ts := by
  have hpeek : c.peek? 1 = ts.head? := by
    have hsecond : c.peek? 1 = c.ahead[1]? := rfl
    rw [hsecond, h, List.getElem?_cons_succ, List.head?_eq_getElem?]
  rw [nextIsOperator, hpeek]
  cases ts <;> rfl

/-- The line of the last token of a document. -/
def lineAtEnd (noLine : Nat) (tokens : List PolicyToken) : Nat :=
  (tokens.getLast?.map Token.line).getD noLine

/-- Behind the last token, the line to report is that of the last token. -/
theorem lastLine_of_nil (h : c.ahead = []) : lastLine noLine c = lineAtEnd noLine c.tokens := by
  have hbefore : c.peek? (-1) = c.passed[0]? := rfl
  have hlast : c.tokens.getLast? = c.passed.head? := by
    rw [TokenStream.tokens, h, List.append_nil, List.getLast?_reverse]
  rw [lastLine, current?_of_nil h, hbefore, lineAtEnd, hlast, List.head?_eq_getElem?]
  rfl

theorem expectCurrent_of_cons (h : c.ahead = t :: ts) :
    expectCurrent noLine c expected = .ok t := by
  rw [expectCurrent, current?_of_cons h]

theorem expectCurrent_of_nil (h : c.ahead = []) :
    expectCurrent noLine c expected
      = .error (.unexpectedEnd (lineAtEnd noLine c.tokens) expected) := by
  rw [expectCurrent, current?_of_nil h, lastLine_of_nil h]

theorem advanceExpect_of_cons (h : c.advance.ahead = t :: ts) :
    advanceExpect noLine c expected = .ok (t, c.advance) := by
  rw [advanceExpect, expectCurrent_of_cons h]
  rfl

theorem advanceExpect_of_nil (h : c.advance.ahead = []) :
    advanceExpect noLine c expected
      = .error (.unexpectedEnd (lineAtEnd noLine c.tokens) expected) := by
  rw [advanceExpect, expectCurrent_of_nil h, TokenStream.tokens_advance]
  rfl

/-! ## Readings at a position -/

/-- `Follows tokens scan reading` says that what is read at a position in the tokens is what is read
in the list of those ahead of it, and that the position after it leaves ahead what is left over. -/
inductive Follows (tokens : List PolicyToken) {α : Type} : Scan α → Reading α → Prop
  | error (e : ParseError) : Follows tokens (.error e) (.error e)
  | ok (a : α) {c : Cursor} {rest : List PolicyToken} (hc : c.tokens = tokens)
      (hrest : c.ahead = rest) : Follows tokens (.ok (a, c)) (.ok (a, rest))

namespace Follows

variable {α β : Type} {x : Scan α} {y : Reading α}

theorem bind {f : α × Cursor → Scan β} {g : α × List PolicyToken → Reading β}
    (h : Follows tokens x y)
    (hfg : ∀ a (c : Cursor) rest, c.tokens = tokens → c.ahead = rest →
      Follows tokens (f (a, c)) (g (a, rest))) :
    Follows tokens (Except.bind x f) (Except.bind y g) := by
  cases h with
  | error e => exact .error e
  | ok a hc hrest => exact hfg a _ _ hc hrest

theorem map (h : Follows tokens x y) (f : α → β) :
    Follows tokens (x.map fun (a, c) => (f a, c)) (y.map fun (a, rest) => (f a, rest)) := by
  cases h with
  | error e => exact .error e
  | ok a hc hrest => exact .ok (f a) hc hrest

theorem eq_ok {a : α} (h : Follows tokens (.ok (a, c)) y) : y = .ok (a, c.ahead) := by
  cases h with
  | ok _ _ hrest => rw [hrest]

theorem eq_error {e : ParseError} (h : Follows tokens x (.error e)) : x = .error e := by
  cases h with
  | error _ => rfl

theorem exists_of_ok {a : α} {rest : List PolicyToken} (h : Follows tokens x (.ok (a, rest))) :
    ∃ c, x = .ok (a, c) ∧ c.tokens = tokens ∧ c.ahead = rest := by
  cases h with
  | ok _ hc hrest => exact ⟨_, rfl, hc, hrest⟩

end Follows

theorem Follows.unexpected {α : Type} (t : PolicyToken) (expected : Expected) :
    Follows tokens (Policy.unexpected t expected : Scan α) (Policy.unexpected t expected) :=
  .error _

theorem length_advance (h : c.current? = some t) : c.advance.ahead.length < c.ahead.length := by
  obtain ⟨ts, hts⟩ := List.head?_eq_some_iff.mp h
  rw [ahead_advance hts, hts]
  exact Nat.lt_succ_self ts.length

/-! ## Rules -/

/-- As many numbers as there are. -/
def readIds (c : Cursor) : Scan (List Id) :=
  match _h : c.current? with
  | none => .ok ([], c)
  | some t =>
    if t.kind = .number then
      match Text.uint64? t.text with
      | none => .error (.invalidId t.line t.text)
      | some id => (readIds c.advance).map fun (ids, c) => (id :: ids, c)
    else .ok ([], c)
termination_by c.ahead.length
decreasing_by exact length_advance _h

def readRule (noLine : Nat) (c : Cursor) : Except ParseError (Rule × Cursor) := do
  let first ← expectCurrent noLine c .ruleWord
  match RuleKind.ofWord? first.text with
  | none => unexpected first .ruleWord
  | some kind =>
    let (second, c) ← advanceExpect noLine c .targetWord
    match if second.kind = .targetWord then Target.ofWord? second.text else none with
    | none => unexpected second .targetWord
    | some target => (readIds c.advance).map fun (ids, c) => (⟨kind, target, ids⟩, c)

theorem readIds_of_nil (h : c.ahead = []) : readIds c = .ok ([], c) := by
  rw [readIds]
  split
  · rfl
  · rename_i t ht
    rw [current?_of_nil h] at ht
    contradiction

theorem readIds_of_cons (h : c.ahead = t :: ts) :
    readIds c =
      if t.kind = .number then
        match Text.uint64? t.text with
        | none => .error (.invalidId t.line t.text)
        | some id => (readIds c.advance).map fun (ids, c) => (id :: ids, c)
      else .ok ([], c) := by
  rw [readIds]
  split
  · rename_i hnone
    rw [current?_of_cons h] at hnone
    contradiction
  · rename_i u hu
    rw [current?_of_cons h] at hu
    cases hu
    rfl

theorem follows_readIds (hc : c.tokens = tokens) (h : c.ahead = ts) :
    Follows tokens (readIds c) (Policy.readIds ts) := by
  induction ts generalizing c with
  | nil =>
      rw [readIds_of_nil h]
      exact .ok [] hc h
  | cons t ts ih =>
      rw [readIds_of_cons h, Policy.readIds]
      by_cases hk : t.kind = .number
      · rw [if_pos hk, if_pos hk]
        cases Text.uint64? t.text with
        | none => exact .error _
        | some id =>
            have hrest : Follows tokens (readIds c.advance) (Policy.readIds ts) :=
              ih (by rw [TokenStream.tokens_advance, hc]) (ahead_advance h)
            exact hrest.map (id :: ·)
      · rw [if_neg hk, if_neg hk]
        exact .ok [] hc h

theorem follows_readRule (hc : c.tokens = tokens) (h : c.ahead = t :: ts) :
    Follows tokens (readRule noLine c) (Policy.readRule (lineAtEnd noLine tokens) t ts) := by
  have hfirst : expectCurrent noLine c .ruleWord = .ok t := expectCurrent_of_cons h
  have hahead : c.advance.ahead = ts := ahead_advance h
  have htokens : c.advance.tokens = tokens := by rw [TokenStream.tokens_advance, hc]
  simp only [readRule, Policy.readRule, hfirst, bind, Except.bind]
  cases RuleKind.ofWord? t.text with
  | none => exact .unexpected t .ruleWord
  | some kind =>
      cases ts with
      | nil =>
          simp only [advanceExpect_of_nil hahead, hc]
          exact .error _
      | cons u us =>
          simp only [advanceExpect_of_cons hahead]
          cases if u.kind = .targetWord then Target.ofWord? u.text else none with
          | none => exact .unexpected u .targetWord
          | some target =>
              have hids : Follows tokens (readIds c.advance.advance) (Policy.readIds us) :=
                follows_readIds (by rw [TokenStream.tokens_advance, htokens]) (ahead_advance hahead)
              exact hids.map (Rule.mk kind target)

/-! ## Properties -/

/-- A property, from its key on. -/
def readProperty (noLine : Nat) (c : Cursor) : Except ParseError ((String × String) × Cursor) := do
  let key ← expectCurrent noLine c .propertyName
  if key.kind.isWord then
    let (value, c) ← advanceExpect noLine c.advance .propertyValue
    if value.kind.isWord then return ((key.text, value.text), c.advance)
    else unexpected value .propertyValue
  else unexpected key .propertyName

theorem follows_readProperty (hc : c.tokens = tokens) (h : c.ahead = t :: ts) :
    Follows tokens (readProperty noLine c)
      (Policy.readProperty (lineAtEnd noLine tokens) t ts) := by
  have hkey : expectCurrent noLine c .propertyName = .ok t := expectCurrent_of_cons h
  have hahead : c.advance.ahead = ts := ahead_advance h
  have htokens : c.advance.tokens = tokens := by rw [TokenStream.tokens_advance, hc]
  have hsecond : c.advance.advance.ahead = ts.drop 1 := by
    cases ts with
    | nil => rw [advance_of_nil hahead, hahead]; rfl
    | cons u us => rw [ahead_advance hahead]; rfl
  simp only [readProperty, Policy.readProperty, hkey, bind, Except.bind]
  by_cases hw : t.kind.isWord
  · simp only [hw, if_true]
    cases hd : ts.drop 1 with
    | nil =>
        rw [hd] at hsecond
        simp only [advanceExpect_of_nil hsecond, htokens]
        exact .error _
    | cons value rest =>
        rw [hd] at hsecond
        simp only [advanceExpect_of_cons hsecond]
        by_cases hv : value.kind.isWord
        · simp only [hv, if_true]
          refine .ok _ ?_ (ahead_advance hsecond)
          simp only [TokenStream.tokens_advance, hc]
        · simp only [hv]
          exact .unexpected value .propertyValue
  · simp only [hw]
    exact .unexpected t .propertyName

theorem length_of_readProperty {pair : String × String}
    (h : readProperty noLine c = .ok (pair, c')) : c'.ahead.length < c.ahead.length := by
  cases hahead : c.ahead with
  | nil =>
      simp only [readProperty, expectCurrent_of_nil hahead, bind, Except.bind] at h
      contradiction
  | cons t ts =>
      have hfollows : Follows c.tokens (readProperty noLine c)
          (Policy.readProperty (lineAtEnd noLine c.tokens) t ts) := follows_readProperty rfl hahead
      rw [h] at hfollows
      exact Nat.lt_succ_of_le (length_le_of_readProperty hfollows.eq_ok)

/-- The properties of a bracket up to its end, added to those already read. -/
def readProperties (noLine : Nat) (soFar : Properties) (c : Cursor) : Scan Properties :=
  match expectCurrent noLine c .close with
  | .error e => .error e
  | .ok t =>
    if t.kind = .bracket ∧ t.text = ">" then .ok (soFar, c.advance)
    else if nextIsOperator c then
      match _h : readProperty noLine c with
      | .error e => .error e
      | .ok ((key, value), c) => readProperties noLine (soFar.insert key value) c
    else unexpected t .propertyOrClose
termination_by c.ahead.length
decreasing_by exact length_of_readProperty _h

theorem readProperties_of_cons {soFar : Properties} (h : c.ahead = t :: ts) :
    readProperties noLine soFar c =
      if t.kind = .bracket ∧ t.text = ">" then .ok (soFar, c.advance)
      else if startsOperator ts then
        (readProperty noLine c).bind fun (pair, c) =>
          readProperties noLine (soFar.insert pair.1 pair.2) c
      else unexpected t .propertyOrClose := by
  rw [readProperties, expectCurrent_of_cons h, nextIsOperator_eq h]
  simp only
  congr 2
  split <;> simp_all [Except.bind]

theorem follows_readProperties {soFar : Properties} (hc : c.tokens = tokens) (h : c.ahead = ts) :
    Follows tokens (readProperties noLine soFar c)
      (Policy.readProperties (lineAtEnd noLine tokens) soFar ts) := by
  fun_induction Policy.readProperties (lineAtEnd noLine tokens) soFar ts generalizing c with
  | case1 =>
      rw [readProperties, expectCurrent_of_nil h, hc]
      exact .error _
  | case2 soFar t ts hclose =>
      rw [readProperties_of_cons h, if_pos hclose]
      exact .ok _ (by rw [TokenStream.tokens_advance, hc]) (ahead_advance h)
  | case3 soFar t ts hclose hop e he =>
      have hproperty : Follows _ (readProperty noLine c) _ := follows_readProperty hc h
      rw [he] at hproperty
      rw [readProperties_of_cons h, if_neg hclose, if_pos hop, hproperty.eq_error]
      exact .error e
  | case4 soFar t ts hclose hop key value left hp ih =>
      have hproperty : Follows _ (readProperty noLine c) _ := follows_readProperty hc h
      rw [hp] at hproperty
      obtain ⟨c', hread, hc', hleft⟩ := hproperty.exists_of_ok
      rw [readProperties_of_cons h, if_neg hclose, if_pos hop, hread]
      exact ih hc' hleft
  | case5 soFar t ts hclose hop =>
      rw [readProperties_of_cons h, if_neg hclose, if_neg hop]
      exact .unexpected t .propertyOrClose

/-! ## Brackets -/

/-- The kind of a bracket; without a word for it, a method. -/
def readScopeKind (noLine : Nat) (c : Cursor) : Except ParseError (ScopeKind × Cursor) := do
  let t ← expectCurrent noLine c .scopeStart
  if t.kind = .scopeWord then
    let (_, c) ← advanceExpect noLine c .nameOrClose
    return ((ScopeKind.ofWord? t.text).getD .method, c)
  else return (.method, c)

/-- Passes a colon; something has to follow it. -/
def skipColon (noLine : Nat) (c : Cursor) : Scan Unit :=
  match c.current? with
  | none => .ok ((), c)
  | some t =>
    if t.kind = .colon then
      (advanceExpect noLine c .nameOrClose).map fun (_, c) => ((), c)
    else .ok ((), c)

/-- The name of a bracket. A word before an equals sign is no name but a key. -/
def takeName (c : Cursor) : String × Cursor :=
  match c.current? with
  | none => ("", c)
  | some t => if t.kind.isWord && !nextIsOperator c then (t.text, c.advance) else ("", c)

def readScope (noLine : Nat) (c : Cursor) : Except ParseError (Item × Cursor) := do
  let opening ← expectCurrent noLine c .openBracket
  if opening.text = "<" then
    let (kind, c) ← readScopeKind noLine c.advance
    let ((), c) ← skipColon noLine c
    let (name, c) := takeName c
    let (properties, c) ← readProperties noLine ∅ c
    return (.scope opening.line kind name properties, c)
  else unexpected opening .openBracket

theorem follows_readScopeKind (hc : c.tokens = tokens) (h : c.ahead = ts) :
    Follows tokens (readScopeKind noLine c)
      (Policy.readScopeKind (lineAtEnd noLine tokens) ts) := by
  cases ts with
  | nil =>
      simp only [readScopeKind, expectCurrent_of_nil h, hc]
      exact .error _
  | cons t ts =>
      have hahead : c.advance.ahead = ts := ahead_advance h
      have hfirst : expectCurrent noLine c .scopeStart = .ok t := expectCurrent_of_cons h
      simp only [readScopeKind, Policy.readScopeKind, hfirst, bind, Except.bind]
      by_cases hk : t.kind = .scopeWord
      · rw [if_pos hk, if_pos hk]
        cases ts with
        | nil =>
            simp only [advanceExpect_of_nil hahead, hc]
            exact .error _
        | cons u us =>
            simp only [advanceExpect_of_cons hahead]
            exact .ok _ (by rw [TokenStream.tokens_advance, hc]) hahead
      · rw [if_neg hk, if_neg hk]
        exact .ok _ hc h

theorem follows_skipColon (hc : c.tokens = tokens) (h : c.ahead = ts) :
    Follows tokens (skipColon noLine c) (Policy.skipColon (lineAtEnd noLine tokens) ts) := by
  cases ts with
  | nil =>
      rw [skipColon, current?_of_nil h]
      exact .ok () hc h
  | cons t ts =>
      have hahead : c.advance.ahead = ts := ahead_advance h
      simp only [skipColon, current?_of_cons h, Policy.skipColon]
      by_cases hk : t.kind = .colon
      · rw [if_pos hk, if_pos hk]
        cases ts with
        | nil =>
            rw [advanceExpect_of_nil hahead, hc]
            exact .error _
        | cons u us =>
            rw [advanceExpect_of_cons hahead]
            exact .ok () (by rw [TokenStream.tokens_advance, hc]) hahead
      · rw [if_neg hk, if_neg hk]
        exact .ok () hc h

theorem takeName_eq (hc : c.tokens = tokens) (h : c.ahead = ts) :
    (takeName c).1 = (Policy.takeName ts).1 ∧ (takeName c).2.tokens = tokens ∧
      (takeName c).2.ahead = (Policy.takeName ts).2 := by
  cases ts with
  | nil =>
      rw [takeName, current?_of_nil h]
      exact ⟨rfl, hc, h⟩
  | cons t ts =>
      simp only [takeName, current?_of_cons h, nextIsOperator_eq h, Policy.takeName]
      split
      · exact ⟨rfl, by rw [TokenStream.tokens_advance, hc], ahead_advance h⟩
      · exact ⟨rfl, hc, h⟩

theorem follows_readScope (hc : c.tokens = tokens) (h : c.ahead = t :: ts) :
    Follows tokens (readScope noLine c) (Policy.readScope (lineAtEnd noLine tokens) t ts) := by
  have hopening : expectCurrent noLine c .openBracket = .ok t := expectCurrent_of_cons h
  have htokens : c.advance.tokens = tokens := by rw [TokenStream.tokens_advance, hc]
  rw [readScope, hopening, Policy.readScope]
  change Follows tokens (if t.text = "<" then _ else _) _
  by_cases ht : t.text = "<"
  · rw [if_pos ht, if_pos ht]
    refine (follows_readScopeKind htokens (ahead_advance h)).bind fun kind c ts hc h => ?_
    refine (follows_skipColon hc h).bind fun _ c ts hc h => ?_
    obtain ⟨hname, hc, h⟩ := takeName_eq hc h
    simp only [hname]
    exact (follows_readProperties hc h).bind fun properties c ts hc h => .ok _ hc h
  · rw [if_neg ht, if_neg ht]
    exact .unexpected t .openBracket

/-! ## Items and documents -/

/-- The item that begins with a token of the given kind. -/
def readItem (noLine : Nat) (kind : TokenKind) (c : Cursor) : Scan Item :=
  match kind with
  | .ruleWord => (readRule noLine c).map fun (r, c) => (.rule r, c)
  | .bracket => readScope noLine c
  | _ =>
    if nextIsOperator c then
      (readProperty noLine c).map fun ((key, value), c) => (.property key value, c)
    else .ok (.stray, c.advance)

theorem follows_readItem (hc : c.tokens = tokens) (h : c.ahead = t :: ts) :
    Follows tokens (readItem noLine t.kind c)
      (Policy.readItem (lineAtEnd noLine tokens) t ts) := by
  unfold readItem Policy.readItem
  rw [nextIsOperator_eq h]
  cases t.kind with
  | ruleWord => exact (follows_readRule hc h).map Item.rule
  | bracket => exact follows_readScope hc h
  | scopeWord | targetWord | operator | colon | number | text =>
      by_cases hop : startsOperator ts = true
      · simp only [if_pos hop]
        exact (follows_readProperty hc h).map fun pair => Item.property pair.1 pair.2
      · simp only [if_neg hop]
        exact .ok _ (by rw [TokenStream.tokens_advance, hc]) (ahead_advance h)

theorem length_of_readItem {item : Item} (ht : c.current? = some t)
    (h : readItem noLine t.kind c = .ok (item, c')) : c'.ahead.length < c.ahead.length := by
  obtain ⟨ts, hts⟩ := List.head?_eq_some_iff.mp ht
  have hfollows : Follows c.tokens (readItem noLine t.kind c)
      (Policy.readItem (lineAtEnd noLine c.tokens) t ts) := follows_readItem rfl hts
  rw [h] at hfollows
  rw [hts]
  exact Nat.lt_succ_of_le (length_le_of_readItem hfollows.eq_ok)

/-- Reads items as long as there are tokens. -/
def readAll (noLine : Nat) (d : Draft) (c : Cursor) : Except ParseError Draft :=
  match _ht : c.current? with
  | none => .ok d
  | some t =>
    match _h : readItem noLine t.kind c with
    | .error e => .error e
    | .ok (item, c) =>
      match d.add item with
      | .error e => .error e
      | .ok d => readAll noLine d c
termination_by c.ahead.length
decreasing_by exact length_of_readItem _ht _h

theorem readAll_of_nil {d : Draft} (h : c.ahead = []) : readAll noLine d c = .ok d := by
  rw [readAll]
  split
  · rfl
  · rename_i t ht
    rw [current?_of_nil h] at ht
    contradiction

theorem readAll_of_cons {d : Draft} (h : c.ahead = t :: ts) :
    readAll noLine d c =
      (readItem noLine t.kind c).bind fun (item, c) =>
        (d.add item).bind fun d => readAll noLine d c := by
  rw [readAll]
  split
  · rename_i hnone
    rw [current?_of_cons h] at hnone
    contradiction
  · rename_i u hu
    rw [current?_of_cons h] at hu
    cases hu
    split
    · simp_all [Except.bind]
    · split <;> simp_all [Except.bind]

theorem readAll_eq {d : Draft} (hc : c.tokens = tokens) (h : c.ahead = ts) :
    readAll noLine d c = Draft.readAll (lineAtEnd noLine tokens) d ts := by
  fun_induction Draft.readAll (lineAtEnd noLine tokens) d ts generalizing c with
  | case1 d => exact readAll_of_nil h
  | case2 d t ts e hitem =>
      have hfollows : Follows _ (readItem noLine t.kind c) _ := follows_readItem hc h
      rw [hitem] at hfollows
      rw [readAll_of_cons h, hfollows.eq_error]
      rfl
  | case3 d t ts item rest hitem e hadd =>
      have hfollows : Follows _ (readItem noLine t.kind c) _ := follows_readItem hc h
      rw [hitem] at hfollows
      obtain ⟨c', hread, -, -⟩ := hfollows.exists_of_ok
      simp only [readAll_of_cons h, hread, Except.bind, hadd]
  | case4 d t ts item rest hitem d' hadd ih =>
      have hfollows : Follows _ (readItem noLine t.kind c) _ := follows_readItem hc h
      rw [hitem] at hfollows
      obtain ⟨c', hread, hc', hrest⟩ := hfollows.exists_of_ok
      simp only [readAll_of_cons h, hread, Except.bind, hadd]
      exact ih hc' hrest

/-- The policy that a document declares, read from its first token on. -/
def parse (noLine : Nat) (name source : String) : Except ParseError Policy :=
  (readAll noLine (.start name) (.ofTokens (lexer.lex source))).map Draft.policy

/-- Both ways of reading a document agree, whatever stands in for the line of a document without
tokens. -/
theorem parse_eq (noLine : Nat) (name source : String) :
    parse noLine name source = Policy.parse name source := by
  have hread : readAll noLine (.start name) (.ofTokens (lexer.lex source))
      = Draft.readAll (lineAtEnd noLine (lexer.lex source)) (.start name) (lexer.lex source) :=
    readAll_eq rfl rfl
  rw [parse, hread, Policy.parse, ofTokens]
  cases hts : lexer.lex source with
  | nil => rw [Draft.readAll, Draft.readAll]
  | cons t ts =>
      have hend : lineAtEnd noLine (t :: ts) = endLine (t :: ts) := by
        rw [lineAtEnd, endLine, List.getLast?_eq_some_getLast (List.cons_ne_nil t ts)]
        rfl
      rw [hend]

end Cursor

end ChatWarden.Policy
