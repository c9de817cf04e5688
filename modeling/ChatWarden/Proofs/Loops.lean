import ChatWarden.Lexer

/-!
# Loops and their rounds

A loop is given by what it does in one turn. Where each round lowers a bound, the loop ends, and
the bound is no less than the number of its rounds (`Loop.ends_of_keeps`). The loop that reads the
tokens of a word is of this kind, with the number of characters as its bound, for each round takes
some of them (`Lexer.keeps_wordTurn`).
-/

namespace ChatWarden

namespace Loop

variable {σ ρ : Type}

/-- What a turn of a loop comes to. -/
inductive Turn (σ ρ : Type) where
  /-- The condition of the loop fails, and there is no round. -/
  | ended (result : ρ)
  /-- A round that leaves the loop. -/
  | leave (result : ρ)
  /-- A round after which the loop goes on. -/
  | again (s : σ)

variable {turn : σ → Turn σ ρ} {bound : σ → Nat} {value : σ → ρ} {leaves : σ → Prop}
  {moves : σ → σ → Prop} {s s' : σ} {m n : Nat} {q r : ρ}

/-- `Runs turn s n r` says that from this state on, the loop ends after so many rounds, with this
result. -/
inductive Runs (turn : σ → Turn σ ρ) : σ → Nat → ρ → Prop
  | ended {s : σ} {r : ρ} (h : turn s = .ended r) : Runs turn s 0 r
  | leave {s : σ} {r : ρ} (h : turn s = .leave r) : Runs turn s 1 r
  | again {s s' : σ} {n : Nat} {r : ρ} (h : turn s = .again s') (rest : Runs turn s' n r) :
    Runs turn s (n + 1) r

/-- A loop has one number of rounds and one result. -/
theorem Runs.unique (h : Runs turn s m q) (h' : Runs turn s n r) : m = n ∧ q = r := by
  induction h generalizing n with
  | ended h =>
      cases h' with
      | ended h' =>
          rw [h, Turn.ended.injEq] at h'
          exact ⟨rfl, h'⟩
      | leave h' => rw [h] at h'; contradiction
      | again h' _ => rw [h] at h'; contradiction
  | leave h =>
      cases h' with
      | ended h' => rw [h] at h'; contradiction
      | leave h' =>
          rw [h, Turn.leave.injEq] at h'
          exact ⟨rfl, h'⟩
      | again h' _ => rw [h] at h'; contradiction
  | again h _ ih =>
      cases h' with
      | ended h' => rw [h] at h'; contradiction
      | leave h' => rw [h] at h'; contradiction
      | again h' rest =>
          rw [h, Turn.again.injEq] at h'
          obtain ⟨hrounds, hresult⟩ := ih (h' ▸ rest)
          exact ⟨congrArg (· + 1) hrounds, hresult⟩

/-- From this state on there is one run of the loop. It ends with the result, and it has no more
rounds than the limit. -/
def Ends (turn : σ → Turn σ ρ) (s : σ) (limit : Nat) (result : ρ) : Prop :=
  ∃ rounds ≤ limit, ∀ n r, Runs turn s n r ↔ n = rounds ∧ r = result

theorem Runs.ends (h : Runs turn s n r) (hle : n ≤ m) : Ends turn s m r := by
  refine ⟨n, hle, ?_⟩
  intro k q
  constructor
  · intro hruns
    exact hruns.unique h
  · intro heq
    rw [heq.1, heq.2]
    exact h

/-- `Keeps value leaves moves s t` says that the turn `t`, taken from the state `s`, ends with the
value of the state or goes on where the value is the same; it leaves the loop only where `leaves`
holds, and goes on only to states that `moves` relates. -/
inductive Keeps (value : σ → ρ) (leaves : σ → Prop) (moves : σ → σ → Prop) (s : σ) :
    Turn σ ρ → Prop
  | ended {r : ρ} (hvalue : value s = r) : Keeps value leaves moves s (.ended r)
  | leave {r : ρ} (hvalue : value s = r) (h : leaves s) : Keeps value leaves moves s (.leave r)
  | again {s' : σ} (hvalue : value s = value s') (h : moves s s') :
    Keeps value leaves moves s (.again s')

theorem Keeps.moves_of_again (h : Keeps value leaves moves s (turn s))
    (hturn : turn s = .again s') : moves s s' := by
  rw [hturn] at h
  cases h with
  | again _ hmoves => exact hmoves

theorem Keeps.leaves_of_leave (h : Keeps value leaves moves s (turn s))
    (hturn : turn s = .leave r) : value s = r ∧ leaves s := by
  rw [hturn] at h
  cases h with
  | leave hvalue hleaves => exact ⟨hvalue, hleaves⟩

theorem exists_runs (hkeeps : ∀ s, Keeps value leaves moves s (turn s))
    (hleaves : ∀ s, leaves s → 0 < bound s) (hmoves : ∀ s s', moves s s' → bound s' < bound s)
    (s : σ) : ∃ rounds ≤ bound s, Runs turn s rounds (value s) := by
  induction hb : bound s using Nat.strongRecOn generalizing s with
  | ind b ih =>
      have hturn := hkeeps s
      generalize ht : turn s = t at hturn
      cases hturn with
      | ended hvalue =>
          rw [hvalue]
          exact ⟨0, Nat.zero_le b, .ended ht⟩
      | leave hvalue hleave =>
          have hpos := hleaves s hleave
          rw [hvalue]
          exact ⟨1, by omega, .leave ht⟩
      | @again s' hvalue hmove =>
          have hlt := hmoves s s' hmove
          obtain ⟨rounds, hle, hruns⟩ := ih (bound s') (by omega) s' rfl
          rw [hvalue]
          exact ⟨rounds + 1, by omega, .again ht hruns⟩

/-- If each round lowers the bound, the loop ends with the value of the state that it begins in,
after no more rounds than the bound. -/
theorem ends_of_keeps (hkeeps : ∀ s, Keeps value leaves moves s (turn s))
    (hleaves : ∀ s, leaves s → 0 < bound s) (hmoves : ∀ s s', moves s s' → bound s' < bound s)
    (s : σ) : Ends turn s (bound s) (value s) := by
  obtain ⟨rounds, hle, hruns⟩ := exists_runs hkeeps hleaves hmoves s
  exact hruns.ends hle

end Loop

/-! ## The tokens of a word -/

namespace Lexer

variable {κ : Type} (lexer : Lexer κ) (line : Nat)

/-- The kind and the length of the first match that is not empty. -/
def firstMatch? (text : List Char) : Option (κ × Nat) :=
  lexer.rules.findSome? fun r =>
    ((r.matchLength? text).filter (· ≠ 0)).map fun n => (r.kind, n)

/-- A turn of the loop over a word, of which a rest is left; the tokens before it have been put
out. -/
def wordTurn : List Char × List (Token κ) → Loop.Turn (List Char × List (Token κ)) (List (Token κ))
  | ([], out) => .ended out
  | (c :: cs, out) =>
    let (kind, n) := (lexer.firstMatch? (c :: cs)).getD (lexer.fallback, 1)
    .again ((c :: cs).drop n, out ++ [⟨kind, String.ofList ((c :: cs).take n), line⟩])

theorem firstMatch?_eq (text : List Char) :
    (lexer.firstMatch? text).getD (lexer.fallback, 1) =
      ((lexer.choose text).1, (lexer.choose text).2 + 1) := by
  let found := lexer.rules.findSome? fun r => (r.beyondFirst? text).map fun n => (r.kind, n)
  have hfirst : lexer.firstMatch? text = found.map fun (kind, n) => (kind, n + 1) := by
    rw [List.map_findSome?, firstMatch?]
    congr 1
    funext r
    cases hm : r.matchLength? text with
    | none => simp [LexRule.beyondFirst?, hm]
    | some m => cases m <;> simp [LexRule.beyondFirst?, hm]
  have hchoose : lexer.choose text = found.getD (lexer.fallback, 0) := rfl
  rw [hfirst, hchoose]
  cases found <;> rfl

theorem wordTurn_cons (c : Char) (cs : List Char) (out : List (Token κ)) :
    lexer.wordTurn line (c :: cs, out) =
      let (kind, n) := lexer.choose (c :: cs)
      .again (cs.drop n, out ++ [⟨kind, String.ofList (c :: cs.take n), line⟩]) := by
  simp only [wordTurn, firstMatch?_eq]
  rfl

/-- Each round takes at least one character, also where a rule matches nothing. -/
theorem keeps_wordTurn (s : List Char × List (Token κ)) :
    Loop.Keeps (fun s => s.2 ++ lexer.lexWord line s.1) (fun _ => False)
      (fun s s' => ∃ taken ≠ [], s.1 = taken ++ s'.1) s (lexer.wordTurn line s) := by
  obtain ⟨cs, out⟩ := s
  cases cs with
  | nil =>
      apply Loop.Keeps.ended
      change out ++ lexer.lexWord line [] = out
      rw [lexWord, List.append_nil]
  | cons c cs =>
      rw [wordTurn_cons]
      cases hchoose : lexer.choose (c :: cs) with
      | mk kind n =>
          have hword : lexer.lexWord line (c :: cs) =
              ⟨kind, String.ofList (c :: cs.take n), line⟩ :: lexer.lexWord line (cs.drop n) := by
            rw [lexWord, hchoose]
          apply Loop.Keeps.again
          · change out ++ lexer.lexWord line (c :: cs) = out ++ _ ++ lexer.lexWord line (cs.drop n)
            rw [hword, List.append_assoc]
            rfl
          · refine ⟨c :: cs.take n, List.cons_ne_nil _ _, ?_⟩
            rw [List.cons_append, List.take_append_drop]

/-- The loop over a word reads the tokens of the word, and it has no more rounds than the word has
characters. -/
theorem ends_wordTurn (word : List Char) :
    Loop.Ends (lexer.wordTurn line) (word, []) word.length (lexer.lexWord line word) := by
  have hmoves : ∀ s s' : List Char × List (Token κ),
      (∃ taken ≠ [], s.1 = taken ++ s'.1) → s'.1.length < s.1.length := by
    intro s s' htaken
    obtain ⟨taken, hne, hcs⟩ := htaken
    have hpos := List.length_pos_iff.mpr hne
    rw [hcs, List.length_append]
    omega
  exact Loop.ends_of_keeps (lexer.keeps_wordTurn line) (fun _ => False.elim) hmoves (word, [])

end Lexer

end ChatWarden
