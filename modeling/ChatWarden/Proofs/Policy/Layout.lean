import ChatWarden.Proofs.Policy.Lexeme
import ChatWarden.Proofs.Policy.Renumbering

/-!
# Layout does not matter

Where the texts of the tokens of a document are written in order with blanks between them, the same
tokens are read again, if on other lines (`lexemes_of_laidOut`): what can be read at all is read
where it stands alone, and a blank is all it takes to stand alone. Lines have no part in what tokens
declare, so both documents declare the same policy or are refused for the same reason
(`parse_of_laidOut`).
-/

namespace ChatWarden

/-- `LaidOut texts cs` says that `cs` is the given texts in order, with blanks between any two of
them and blanks or none around. -/
inductive Text.LaidOut : List String → List Char → Prop
  | nil : LaidOut [] []
  | blank {texts : List String} {c : Char} {cs : List Char} (hc : Text.isBlank c = true)
      (h : LaidOut texts cs) : LaidOut texts (c :: cs)
  | last (text : String) : LaidOut [text] text.toList
  | next (text : String) {texts : List String} {c : Char} {cs : List Char}
      (hc : Text.isBlank c = true) (h : LaidOut texts cs) :
      LaidOut (text :: texts) (text.toList ++ c :: cs)

theorem Lexer.lexemesIn_of_laidOut {κ : Type} (lexer : Lexer κ) {ls : List (Lexeme κ)}
    {cs : List Char} (hls : ∀ l ∈ ls, lexer.lexemesIn l.2.toList = [l])
    (h : Text.LaidOut (ls.map Prod.snd) cs) : lexer.lexemesIn cs = ls := by
  generalize hts : ls.map Prod.snd = texts at h
  induction h generalizing ls with
  | nil =>
      rw [List.map_eq_nil_iff.mp hts]
      rfl
  | blank hc _ ih => rw [lexer.lexemesIn_cons_blank hc, ih hls hts]
  | last text =>
      obtain ⟨l, rest, rfl, rfl, hrest⟩ := List.map_eq_cons_iff.mp hts
      rw [List.map_eq_nil_iff.mp hrest]
      exact hls l (by simp)
  | next text hc _ ih =>
      obtain ⟨l, rest, rfl, rfl, hrest⟩ := List.map_eq_cons_iff.mp hts
      have hks : ∀ k ∈ rest, lexer.lexemesIn k.2.toList = [k] := fun k hk => hls k (by simp [hk])
      rw [lexer.lexemesIn_append_blank hc, hls l (by simp), ih hks hrest]
      rfl

namespace Policy

/-- An error without the line it is on. -/
def ParseError.unplaced (e : ParseError) : ParseError :=
  e.move fun _ => 0

variable {source relaid : String}

theorem lexemes_of_laidOut
    (h : Text.LaidOut ((lexer.lex source).map Token.text) relaid.toList) :
    lexer.lexemes relaid = lexer.lexemes source := by
  have halone : ∀ l ∈ lexer.lexemes source, lexer.lexemesIn l.2.toList = [l] := fun l hl =>
    lexemesIn_of_regular (regular_of_mem_lexemes hl)
  have htexts : (lexer.lexemes source).map Prod.snd = (lexer.lex source).map Token.text :=
    List.map_map
  rw [lexer.lexemes_eq relaid]
  exact lexer.lexemesIn_of_laidOut halone (htexts ▸ h)

/-- Tokens that differ in their lines only declare the same. -/
theorem ofTokens_congr {ts us : List PolicyToken}
    (h : ts.map Token.lexeme = us.map Token.lexeme) (name : String) :
    (ofTokens name ts).mapError ParseError.unplaced
      = (ofTokens name us).mapError ParseError.unplaced := by
  have hmove (vs : List PolicyToken) : vs.map (Token.move fun _ => 0)
      = (vs.map Token.lexeme).map fun l => ⟨l.1, l.2, 0⟩ := by
    rw [List.map_map]
    rfl
  have hts := ofTokens_move (fun _ => 0) ts name
  have hus := ofTokens_move (fun _ => 0) us name
  rw [hmove, h, ← hmove, hus] at hts
  exact hts.symm

/-- A document with other blanks between its tokens is read as the same tokens, and either both
declare the same policy or both are refused with the same error, its line apart. -/
theorem parse_of_laidOut
    (h : Text.LaidOut ((lexer.lex source).map Token.text) relaid.toList) :
    lexer.lexemes relaid = lexer.lexemes source ∧
      ∀ name, (parse name relaid).mapError ParseError.unplaced
        = (parse name source).mapError ParseError.unplaced :=
  ⟨lexemes_of_laidOut h, ofTokens_congr (lexemes_of_laidOut h)⟩

/-- A bracket that is never closed, first on one line and then over three. -/
theorem parse_of_laidOut_unclosed :
    let source := "<add k=v"
    let relaid := "\n< add\tk\r\n=\u00a0v "
    Text.LaidOut ((lexer.lex source).map Token.text) relaid.toList ∧
      lexer.lexemes relaid = lexer.lexemes source ∧
        (parse "Files" relaid).mapError ParseError.unplaced
          = (parse "Files" source).mapError ParseError.unplaced := by
  intro source relaid
  have htexts : (lexer.lex source).map Token.text = ["<", "add", "k", "=", "v"] := by
    decide +kernel
  have hrelaid : relaid.toList = '\n' :: ("<".toList ++ ' ' :: ("add".toList ++ '\t' ::
      ("k".toList ++ '\r' :: '\n' :: ("=".toList ++ '\u00a0' :: ("v".toList ++ [' ']))))) := by
    decide
  have h : Text.LaidOut ((lexer.lex source).map Token.text) relaid.toList := by
    rw [htexts, hrelaid]
    exact .blank rfl (.next "<" rfl (.next "add" rfl (.next "k" rfl (.blank rfl
      (.next "=" rfl (.next "v" rfl .nil))))))
  obtain ⟨hlexemes, hparse⟩ := parse_of_laidOut h
  exact ⟨h, hlexemes, hparse "Files"⟩

end Policy

end ChatWarden
