import ChatWarden.Proofs.Lexer

/-!
# Where tokens stand

A text is the texts of its tokens in order with nothing but blanks around them, and each token is on
the line that it begins on (`Spells`), whatever the rules of the lexer are: a rule only decides how
far the next token goes. So the tokens without the blanks are the text without its blanks, and they
stand in it one after the other (`lex_lossless`).
-/

namespace ChatWarden

variable {κ : Type} {line : Nat} {a b cs : List Char} {ts us : List (Token κ)}

/-- `Spells line cs ts` says that the text `cs`, which begins on the given line, is the texts of the
tokens in order with blanks before, between and after them, and that each has the number of the line
it begins on. -/
inductive Spells : Nat → List Char → List (Token κ) → Prop
  | nil {line : Nat} : Spells line [] []
  | blank {line : Nat} {c : Char} {cs : List Char} {ts : List (Token κ)}
      (hc : Text.isBlank c = true) (h : Spells (line + [c].count '\n') cs ts) :
      Spells line (c :: cs) ts
  | token {line : Nat} {kind : κ} {w cs : List Char} {ts : List (Token κ)} (hne : w ≠ [])
      (hw : ∀ c ∈ w, Text.isBlank c = false) (h : Spells line cs ts) :
      Spells line (w ++ cs) (⟨kind, String.ofList w, line⟩ :: ts)

/-- Whether the token stands so many characters from the front of a text, on its own line. -/
structure Token.StandsAt (t : Token κ) (source : List Char) (start : Nat) : Prop where
  text : (source.drop start).take t.text.length = t.text.toList
  line : t.line = 1 + (source.take start).count '\n'

theorem count_feed_of_not_blank (h : ∀ c ∈ cs, Text.isBlank c = false) : cs.count '\n' = 0 := by
  rw [List.count_eq_zero]
  intro hmem
  have hfeed : Text.isBlank '\n' = true := by decide
  rw [h '\n' hmem] at hfeed
  contradiction

namespace Spells

/-- One text after the other is spelled by the tokens of both. -/
theorem append (ha : Spells line a ts) (hb : Spells (line + a.count '\n') b us) :
    Spells line (a ++ b) (ts ++ us) := by
  induction ha with
  | nil => exact hb
  | blank hc _ ih =>
      refine .blank hc (ih ?_)
      rwa [Nat.add_assoc, ← List.count_append]
  | token hne hw _ ih =>
      rw [List.append_assoc]
      refine .token hne hw (ih ?_)
      rwa [List.count_append, count_feed_of_not_blank hw, Nat.zero_add] at hb

/-! ## What is spelled -/

theorem flatMap_text (h : Spells line cs ts) :
    ts.flatMap (fun t => t.text.toList) = cs.filter fun c => !Text.isBlank c := by
  induction h with
  | nil => rfl
  | blank hc _ ih => simp [hc, ih]
  | @token line kind w cs ts _ hw _ ih =>
      have hkept : w.filter (fun c => !Text.isBlank c) = w := by
        rw [List.filter_eq_self]
        intro c hc
        simp [hw c hc]
      rw [List.flatMap_cons, List.filter_append, hkept, ih, String.toList_ofList]

theorem text_of_mem (h : Spells line cs ts) {t : Token κ} (ht : t ∈ ts) :
    t.text ≠ "" ∧ ∀ c ∈ t.text.toList, Text.isBlank c = false := by
  induction h with
  | nil => cases ht
  | blank _ _ ih => exact ih ht
  | token hne hw _ ih =>
      rcases List.mem_cons.mp ht with rfl | ht
      · rw [Ne, ← String.toList_eq_nil_iff, String.toList_ofList]
        exact ⟨hne, hw⟩
      · exact ih ht

/-- The places of the tokens, in a text of which `a` stands before what they spell. -/
theorem exists_places (h : Spells line cs ts) (hline : line = 1 + a.count '\n') :
    ∃ placed : List (Token κ × Nat), placed.map Prod.fst = ts ∧
      (∀ p ∈ placed, a.length ≤ p.2 ∧ p.1.StandsAt (a ++ cs) p.2) ∧
      placed.Pairwise fun p q => p.2 + p.1.text.length ≤ q.2 := by
  induction h generalizing a with
  | nil => exact ⟨[], rfl, by simp, .nil⟩
  | @blank line c cs ts hc _ ih =>
      obtain ⟨placed, htokens, hplaces, hsucc⟩ := ih (a := a ++ [c]) (by
        rw [List.count_append, hline, Nat.add_assoc])
      refine ⟨placed, htokens, fun p hp => ?_, hsucc⟩
      obtain ⟨hle, hstands⟩ := hplaces p hp
      rw [List.length_append] at hle
      rw [List.append_assoc, List.singleton_append] at hstands
      exact ⟨by omega, hstands⟩
  | @token line kind w cs ts _ hw _ ih =>
      obtain ⟨placed, htokens, hplaces, hsucc⟩ := ih (a := a ++ w) (by
        rw [List.count_append, count_feed_of_not_blank hw, hline, Nat.add_zero])
      have hwhole : a ++ w ++ cs = a ++ (w ++ cs) := List.append_assoc a w cs
      have hfirst : Token.StandsAt ⟨kind, String.ofList w, line⟩ (a ++ (w ++ cs)) a.length := by
        constructor
        · simp
        · simpa using hline
      refine ⟨(_, a.length) :: placed, congrArg _ htokens, ?_, List.pairwise_cons.mpr ⟨?_, hsucc⟩⟩
      · intro p hp
        rcases List.mem_cons.mp hp with rfl | hp
        · exact ⟨Nat.le_refl _, hfirst⟩
        · obtain ⟨hle, hstands⟩ := hplaces p hp
          rw [List.length_append] at hle
          exact ⟨by omega, hwhole ▸ hstands⟩
      · intro p hp
        simpa using (hplaces p hp).1

end Spells

namespace Lexer

variable (lexer : Lexer κ)

/-! ## What a lexer makes of a text -/

theorem spells_lexWord (line : Nat) {cs : List Char} (h : ∀ c ∈ cs, Text.isBlank c = false) :
    Spells line cs (lexer.lexWord line cs) := by
  fun_induction lexWord lexer line cs with
  | case1 => exact .nil
  | case2 c cs kind n _ ih =>
      have hfirst : ∀ d ∈ c :: cs.take n, Text.isBlank d = false := by
        intro d hd
        rcases List.mem_cons.mp hd with rfl | hd
        · exact h d (by simp)
        · exact h d (by simp [List.mem_of_mem_take hd])
      have hrest := ih fun d hd => h d (by simp [List.mem_of_mem_drop hd])
      have hspells : Spells line (c :: cs.take n ++ cs.drop n) (⟨kind, _, line⟩ :: _) :=
        .token (List.cons_ne_nil c (cs.take n)) hfirst hrest
      rwa [List.cons_append, List.take_append_drop] at hspells

theorem lexLine_of_not_blank (line : Nat) {cs : List Char} (h : ∀ c ∈ cs, Text.isBlank c = false) :
    lexer.lexLine line cs = lexer.lexWord line cs := by
  by_cases hcs : cs = []
  · rw [hcs, lexLine, lexWord]
    rfl
  · rw [lexLine, Text.words_of_forall_not_blank hcs h, List.flatMap_singleton]

/-- A line is spelled by the tokens of its words. -/
theorem spells_lexLine (line : Nat) {cs : List Char} (h : ∀ c ∈ cs, c ≠ '\n') :
    Spells line cs (lexer.lexLine line cs) := by
  induction cs using Text.cut_induction Text.isBlank with
  | last a ha =>
      rw [lexLine_of_not_blank lexer line ha]
      exact lexer.spells_lexWord line ha
  | step a c b ha hc ih =>
      have hsplit : lexer.lexLine line (a ++ c :: b)
          = lexer.lexWord line a ++ lexer.lexLine line b := by
        rw [lexLine, Text.words_append_blank hc, List.flatMap_append,
          ← lexLine_of_not_blank lexer line ha]
        rfl
      have hcfeed : [c].count '\n' = 0 := List.count_eq_zero.mpr (by simpa [eq_comm] using h c)
      have hb : Spells line b (lexer.lexLine line b) := ih fun d hd => h d (by simp [hd])
      rw [hsplit]
      refine (lexer.spells_lexWord line ha).append (.blank hc ?_)
      rwa [count_feed_of_not_blank ha, hcfeed]

/-- A document is spelled by the tokens of its lines. -/
theorem spells_lexLines (line : Nat) (cs : List Char) :
    Spells line cs (lexer.lexLines line (Text.lines cs)) := by
  induction cs using Text.cut_induction (· == '\n') generalizing line with
  | last a ha =>
      have hfeed : ∀ c ∈ a, c ≠ '\n' := fun c hc => by simpa using ha c hc
      rw [Text.lines_of_no_feed ha]
      split
      · rename_i hnil
        rw [hnil]
        exact .nil
      · rw [lexLines, lexLines, List.append_nil]
        exact lexer.spells_lexLine line hfeed
  | step a c b ha hc ih =>
      obtain rfl : c = '\n' := eq_of_beq hc
      have hfeed : ∀ c ∈ a, c ≠ '\n' := fun c hc => by simpa using ha c hc
      have hcount : a.count '\n' = 0 := List.count_eq_zero.mpr fun hmem => hfeed '\n' hmem rfl
      have hreturn : lexer.lexLine line (Text.dropReturn a) = lexer.lexLine line a := by
        rw [lexLine, Text.words_dropReturn]
        rfl
      rw [Text.lines_append_line ha, lexLines, hreturn]
      refine (lexer.spells_lexLine line hfeed).append (.blank (by decide) ?_)
      rw [hcount]
      exact ih (line + 1)

/-- The tokens of a text are the text without its blanks; none is empty or has a blank in it, and
they stand in the text one after the other, each on the line it is said to be on. -/
theorem lex_lossless (source : String) :
    (lexer.lex source).flatMap (fun t => t.text.toList)
        = source.toList.filter (fun c => !Text.isBlank c) ∧
      (∀ t ∈ lexer.lex source, t.text ≠ "" ∧ ∀ c ∈ t.text.toList, Text.isBlank c = false) ∧
      ∃ placed : List (Token κ × Nat), placed.map Prod.fst = lexer.lex source ∧
        (∀ p ∈ placed, p.1.StandsAt source.toList p.2) ∧
        placed.Pairwise fun p q => p.2 + p.1.text.length ≤ q.2 := by
  have hspells : Spells 1 source.toList (lexer.lex source) :=
    lexer.spells_lexLines 1 source.toList
  obtain ⟨placed, htokens, hplaces, hsucc⟩ := hspells.exists_places (a := []) rfl
  exact ⟨hspells.flatMap_text, fun t ht => hspells.text_of_mem ht,
    placed, htokens, fun p hp => (hplaces p hp).2, hsucc⟩

end Lexer

end ChatWarden
