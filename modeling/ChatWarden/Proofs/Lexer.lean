import ChatWarden.Lexer
import ChatWarden.Proofs.Text.Words

/-!
# What a lexer reads, line numbers aside

The kind and the text of a token depend on its word alone, so what a lexer reads in a text is what
it reads in the words of that text one after the other (`lexemes_eq`).
-/

namespace ChatWarden

/-- The kind of a token and its text. -/
abbrev Lexeme (κ : Type) := κ × String

namespace Token

variable {κ : Type}

/-- A token without its line. -/
def lexeme (t : Token κ) : Lexeme κ :=
  (t.kind, t.text)

end Token

namespace Lexer

variable {κ : Type} (lexer : Lexer κ)

/-- What the lexer reads in a text without blanks. -/
def lexemesOfWord (cs : List Char) : List (Lexeme κ) :=
  (lexer.lexWord 1 cs).map Token.lexeme

/-- What the lexer reads in the words of a text. -/
def lexemesIn (cs : List Char) : List (Lexeme κ) :=
  (Text.words cs).flatMap lexer.lexemesOfWord

/-- What the lexer reads in a document. -/
def lexemes (source : String) : List (Lexeme κ) :=
  (lexer.lex source).map Token.lexeme

@[simp] theorem lexemesOfWord_nil : lexer.lexemesOfWord [] = [] := by
  simp [lexemesOfWord, lexWord]

theorem map_lexeme_lexWord (line : Nat) (cs : List Char) :
    (lexer.lexWord line cs).map Token.lexeme = lexer.lexemesOfWord cs := by
  unfold lexemesOfWord
  fun_induction lexWord lexer 1 cs with
  | case1 => rw [lexWord]
  | case2 c cs kind n hk ih =>
      rw [lexWord, hk]
      simp only [List.map_cons, ih]
      rfl

theorem lexemesOfWord_cons {c : Char} {cs : List Char} {kind : κ} {n : Nat}
    (h : lexer.choose (c :: cs) = (kind, n)) :
    lexer.lexemesOfWord (c :: cs)
      = (kind, String.ofList (c :: cs.take n)) :: lexer.lexemesOfWord (cs.drop n) := by
  rw [lexemesOfWord, lexWord, h]
  rfl

theorem map_lexeme_lexLine (line : Nat) (cs : List Char) :
    (lexer.lexLine line cs).map Token.lexeme = lexer.lexemesIn cs := by
  rw [lexLine, lexemesIn, List.map_flatMap]
  exact congrArg (Text.words cs).flatMap (funext (lexer.map_lexeme_lexWord line))

/-- Every token of a line has its number. -/
theorem line_of_mem_lexLine {line : Nat} {cs : List Char} {t : Token κ}
    (h : t ∈ lexer.lexLine line cs) : t.line = line := by
  obtain ⟨w, -, ht⟩ := List.mem_flatMap.mp h
  clear h
  fun_induction lexWord lexer line w with
  | case1 => cases ht
  | case2 c cs kind n hk ih =>
      rcases List.mem_cons.mp ht with rfl | ht
      · rfl
      · exact ih ht

theorem map_lexeme_lexLines (line : Nat) (css : List (List Char)) :
    (lexer.lexLines line css).map Token.lexeme = css.flatMap lexer.lexemesIn := by
  induction css generalizing line with
  | nil => rfl
  | cons cs css ih => rw [lexLines, List.map_append, map_lexeme_lexLine, ih, List.flatMap_cons]

/-- The first line of a document is read on its own. -/
theorem lex_eq_append {source : String} {a b : List Char} (h : source.toList = a ++ '\n' :: b)
    (ha : ∀ c ∈ a, (c == '\n') = false) (hlast : a.getLast? ≠ some '\r') :
    lexer.lex source = lexer.lexLine 1 a ++ lexer.lexLines 2 (Text.lines b) := by
  rw [lex, h, Text.lines_append_line ha, Text.dropReturn, if_neg hlast, lexLines]

theorem lexemes_eq (source : String) : lexer.lexemes source = lexer.lexemesIn source.toList := by
  rw [lexemes, lex, map_lexeme_lexLines]
  unfold lexemesIn
  rw [← List.flatMap_assoc, Text.flatMap_words_lines]

/-! ## Texts next to each other -/

@[simp] theorem lexemesIn_nil : lexer.lexemesIn [] = [] := rfl

theorem lexemesIn_append_blank {c : Char} (hc : Text.isBlank c = true) (a b : List Char) :
    lexer.lexemesIn (a ++ c :: b) = lexer.lexemesIn a ++ lexer.lexemesIn b := by
  rw [lexemesIn, Text.words_append_blank hc, List.flatMap_append]
  rfl

theorem lexemesIn_cons_blank {c : Char} (hc : Text.isBlank c = true) (b : List Char) :
    lexer.lexemesIn (c :: b) = lexer.lexemesIn b :=
  lexer.lexemesIn_append_blank hc [] b

/-- Texts with a blank between them are read one after the other. -/
theorem lexemesIn_intercalate (texts : List String) :
    lexer.lexemesIn (" ".intercalate texts).toList
      = texts.flatMap fun text => lexer.lexemesIn text.toList := by
  induction texts with
  | nil => simp
  | cons text texts ih =>
      cases texts with
      | nil => simp
      | cons next texts =>
          have hs : " ".toList = [' '] := rfl
          have hc : Text.isBlank ' ' = true := by decide
          rw [String.intercalate_cons_cons, String.toList_append, String.toList_append, hs,
            List.append_assoc, List.singleton_append, lexer.lexemesIn_append_blank hc, ih]
          rfl

theorem lexemesIn_word {w : List Char} (h : ∀ c ∈ w, Text.isBlank c = false) :
    lexer.lexemesIn w = lexer.lexemesOfWord w := by
  by_cases hw : w = []
  · subst hw
    rw [lexemesOfWord_nil]
    rfl
  · rw [lexemesIn, Text.words_of_forall_not_blank hw h]
    simp

theorem lexemesIn_eq_flatMap_pieces (cs : List Char) :
    lexer.lexemesIn cs = (Text.pieces Text.isBlank cs).flatMap lexer.lexemesOfWord := by
  unfold lexemesIn Text.words
  induction Text.pieces Text.isBlank cs with
  | nil => rfl
  | cons p ps ih =>
      -- An empty piece is no word, and nothing is read in it either.
      cases p with
      | nil => simpa using ih
      | cons c p => simpa using ih

/-- Where words split around a character of their own, so do texts. -/
theorem lexemesIn_append_cons {c : Char} {mark : Lexeme κ} (hc : Text.isBlank c = false)
    (h : ∀ x y, lexer.lexemesOfWord (x ++ c :: y)
      = lexer.lexemesOfWord x ++ mark :: lexer.lexemesOfWord y) (a b : List Char) :
    lexer.lexemesIn (a ++ c :: b) = lexer.lexemesIn a ++ mark :: lexer.lexemesIn b := by
  obtain ⟨init, last, ha⟩ := Text.exists_pieces_eq_append Text.isBlank a
  obtain ⟨first, tail, hb⟩ := Text.exists_pieces_eq_cons Text.isBlank b
  have hcb := Text.pieces_cons_of_not_sep hc hb
  simp only [lexemesIn_eq_flatMap_pieces]
  rw [Text.pieces_append ha hcb, ha, hb]
  simp [h]

theorem lexemes_trimEnd (source : String) :
    lexer.lexemes (Text.trimEnd source) = lexer.lexemes source := by
  rw [lexemes_eq, lexemes_eq, lexemesIn, Text.trimEnd, String.toList_ofList, Text.words_trimRight]
  rfl

end Lexer

end ChatWarden
