import ChatWarden.Policy.Parser

/-!
# Tokens on other lines

Where a token stands has no part in what is read; its line is only carried along, into the item that
begins there or into the error. Each reader therefore commutes with moving tokens to other lines,
and so does reading a whole document (`ofTokens_move`).
-/

namespace ChatWarden

/-- A token on the line that its own is sent to. -/
def Token.move {κ : Type} (f : Nat → Nat) (t : Token κ) : Token κ :=
  { t with line := f t.line }

namespace Policy

/-- An error on the line that its own is sent to. -/
def ParseError.move (f : Nat → Nat) : ParseError → ParseError
  | .unexpectedToken line expected found => .unexpectedToken (f line) expected found
  | .unexpectedEnd line expected => .unexpectedEnd (f line) expected
  | .invalidId line value => .invalidId (f line) value
  | .duplicateGroup line name => .duplicateGroup (f line) name

def Item.move (f : Nat → Nat) : Item → Item
  | .scope line kind name properties => .scope (f line) kind name properties
  | item => item

/-- A reading of moved tokens: what is left over is moved, or the error is. -/
def moveReading {α : Type} (f : Nat → Nat) (r : Reading α) : Reading α :=
  match r with
  | .error e => .error (e.move f)
  | .ok (a, rest) => .ok (a, rest.map (Token.move f))

variable {α β : Type} (f : Nat → Nat) (endLine : Nat) (t : PolicyToken) (ts : List PolicyToken)

@[simp] theorem kind_move : (t.move f).kind = t.kind := rfl

@[simp] theorem text_move : (t.move f).text = t.text := rfl

@[simp] theorem line_move : (t.move f).line = f t.line := rfl

@[simp] theorem moveReading_ok (a : α) :
    moveReading f (.ok (a, ts)) = .ok (a, ts.map (Token.move f)) := rfl

@[simp] theorem moveReading_error (e : ParseError) :
    moveReading f (.error e : Reading α) = .error (e.move f) := rfl

theorem unexpected_move (expected : Expected) :
    unexpected (t.move f) expected = moveReading f (unexpected t expected : Reading α) := rfl

theorem moveReading_map (r : Reading α) (g : α → β) :
    (moveReading f r).map (fun (a, rest) => (g a, rest))
      = moveReading f (r.map fun (a, rest) => (g a, rest)) := by
  cases r <;> rfl

@[simp] theorem startsOperator_map :
    startsOperator (ts.map (Token.move f)) = startsOperator ts := by
  cases ts <;> rfl

theorem readIds_move :
    readIds (ts.map (Token.move f)) = moveReading f (readIds ts) := by
  induction ts with
  | nil => rfl
  | cons t ts ih =>
      by_cases hk : t.kind = .number
      · simp only [List.map_cons, readIds, kind_move, text_move, line_move, ih, hk, if_true]
        cases Text.uint64? t.text with
        | none => rfl
        | some id => exact moveReading_map f (readIds ts) (id :: ·)
      · simp [readIds, hk]

theorem readRule_move :
    readRule (f endLine) (t.move f) (ts.map (Token.move f))
      = moveReading f (readRule endLine t ts) := by
  unfold readRule
  rw [text_move]
  cases RuleKind.ofWord? t.text with
  | none => rfl
  | some kind =>
      cases ts with
      | nil => rfl
      | cons u us =>
          by_cases hk : u.kind = .targetWord
          · simp only [List.map_cons, kind_move, text_move, readIds_move, hk, if_true]
            cases Target.ofWord? u.text with
            | none => rfl
            | some target => exact moveReading_map f (readIds us) (Rule.mk kind target)
          · simp [hk, unexpected_move]

theorem readProperty_move :
    readProperty (f endLine) (t.move f) (ts.map (Token.move f))
      = moveReading f (readProperty endLine t ts) := by
  unfold readProperty
  rw [kind_move, ← List.map_drop]
  by_cases hk : t.kind.isWord
  · cases ts.drop 1 with
    | nil => simp [hk, ParseError.move]
    | cons value rest =>
        by_cases hv : value.kind.isWord
        · simp [hk, hv]
        · simp [hk, hv, unexpected_move]
  · simp [hk, unexpected_move]

theorem readScopeKind_move :
    readScopeKind (f endLine) (ts.map (Token.move f))
      = moveReading f (readScopeKind endLine ts) := by
  cases ts with
  | nil => rfl
  | cons t ts =>
      by_cases hk : t.kind = .scopeWord
      · cases ts <;> simp [readScopeKind, hk, ParseError.move]
      · simp [readScopeKind, hk]

theorem skipColon_move :
    skipColon (f endLine) (ts.map (Token.move f)) = moveReading f (skipColon endLine ts) := by
  cases ts with
  | nil => rfl
  | cons t ts =>
      by_cases hk : t.kind = .colon
      · cases ts <;> simp [skipColon, hk, ParseError.move]
      · simp [skipColon, hk]

theorem takeName_move :
    takeName (ts.map (Token.move f)) = ((takeName ts).1, (takeName ts).2.map (Token.move f)) := by
  cases ts with
  | nil => rfl
  | cons t ts =>
      simp only [List.map_cons, takeName, kind_move, text_move, startsOperator_map]
      split <;> rfl

theorem readProperties_cons (soFar : Properties) :
    readProperties endLine soFar (t :: ts) =
      if t.kind = .bracket ∧ t.text = ">" then .ok (soFar, ts)
      else if startsOperator ts then
        (readProperty endLine t ts).bind fun (pair, rest) =>
          readProperties endLine (soFar.insert pair.1 pair.2) rest
      else unexpected t .propertyOrClose := by
  rw [readProperties]
  congr 2
  split <;> simp_all [Except.bind]

theorem readProperties_move (soFar : Properties) :
    readProperties (f endLine) soFar (ts.map (Token.move f))
      = moveReading f (readProperties endLine soFar ts) := by
  fun_induction readProperties endLine soFar ts with
  | case1 => simp [readProperties, ParseError.move]
  | case2 soFar t ts ht => simp [readProperties, ht]
  | case3 soFar t ts ht hop e he =>
      rw [List.map_cons, readProperties_cons, readProperty_move, he]
      simp [ht, hop, Except.bind]
  | case4 soFar t ts ht hop key value left hp ih =>
      rw [List.map_cons, readProperties_cons, readProperty_move, hp]
      simp [ht, hop, Except.bind, ih]
  | case5 soFar t ts ht hop =>
      rw [List.map_cons, readProperties_cons]
      simp [ht, hop, unexpected_move]

theorem readScope_move :
    readScope (f endLine) (t.move f) (ts.map (Token.move f))
      = (moveReading f (readScope endLine t ts)).map fun (item, rest) => (item.move f, rest) := by
  unfold readScope
  by_cases ht : t.text = "<"
  · simp only [text_move, line_move, ht, if_true, readScopeKind_move]
    cases readScopeKind endLine ts with
    | error e => rfl
    | ok first =>
        obtain ⟨kind, ts₁⟩ := first
        simp only [moveReading_ok, bind, Except.bind, skipColon_move]
        cases skipColon endLine ts₁ with
        | error e => rfl
        | ok second =>
            obtain ⟨⟨⟩, ts₂⟩ := second
            simp only [moveReading_ok, takeName_move, readProperties_move]
            cases readProperties endLine ∅ (takeName ts₂).2 with
            | error e => rfl
            | ok third => rfl
  · simp only [text_move, ht, if_false]
    rfl

/-- The item that begins with a moved token. -/
theorem readItem_move :
    readItem (f endLine) (t.move f) (ts.map (Token.move f))
      = (moveReading f (readItem endLine t ts)).map fun (item, rest) => (item.move f, rest) := by
  unfold readItem
  rw [kind_move]
  split
  · rw [readRule_move]
    cases readRule endLine t ts <;> rfl
  · exact readScope_move f endLine t ts
  · rw [startsOperator_map]
    split
    · rw [readProperty_move]
      cases readProperty endLine t ts <;> rfl
    · rfl

namespace Draft

theorem add_move (d : Draft) (item : Item) :
    d.add (item.move f) = (d.add item).mapError (·.move f) := by
  cases item with
  | rule | property | stray => rfl
  | scope line kind name properties =>
      cases kind with
      | whole => rfl
      | group | method =>
          simp only [Item.move, add]
          split <;> rfl

theorem readAll_cons (d : Draft) :
    readAll endLine d (t :: ts) =
      (readItem endLine t ts).bind fun (item, rest) =>
        (d.add item).bind fun d => readAll endLine d rest := by
  rw [readAll]
  split
  · simp_all [Except.bind]
  · split <;> simp_all [Except.bind]

theorem readAll_move (d : Draft) :
    readAll (f endLine) d (ts.map (Token.move f))
      = (readAll endLine d ts).mapError (·.move f) := by
  fun_induction readAll endLine d ts with
  | case1 d => rw [List.map_nil, readAll]; rfl
  | case2 d t ts e hitem =>
      rw [List.map_cons, readAll_cons, readItem_move, hitem]
      rfl
  | case3 d t ts item rest hitem e hadd =>
      rw [List.map_cons, readAll_cons, readItem_move, hitem]
      simp only [moveReading_ok, Except.map, Except.bind, add_move, hadd]
      rfl
  | case4 d t ts item rest hitem d' hadd ih =>
      rw [List.map_cons, readAll_cons, readItem_move, hitem]
      simp only [moveReading_ok, Except.map, Except.bind, add_move, hadd, ← ih]
      rfl

end Draft

/-- What tokens declare does not depend on their lines, and an error is moved along with them. -/
theorem ofTokens_move (name : String) :
    ofTokens name (ts.map (Token.move f)) = (ofTokens name ts).mapError (·.move f) := by
  by_cases hts : ts = []
  · have hnone : ofTokens name [] = .ok { name } := by
      rw [ofTokens, Draft.readAll]
      rfl
    rw [hts, List.map_nil, hnone]
    rfl
  · have hend : Policy.endLine (ts.map (Token.move f)) = f (Policy.endLine ts) := by
      rw [Policy.endLine, Policy.endLine, List.getLast?_map, List.getLast?_eq_some_getLast hts]
      rfl
    rw [ofTokens, hend, Draft.readAll_move, ofTokens]
    cases Draft.readAll (Policy.endLine ts) (.start name) ts <;> rfl

end Policy

end ChatWarden
