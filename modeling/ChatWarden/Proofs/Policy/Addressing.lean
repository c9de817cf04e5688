import ChatWarden.Proofs.Consultation
import ChatWarden.Proofs.Policy.Renumbering
import ChatWarden.Proofs.Policy.RoundTrip
import ChatWarden.Proofs.Policy.WholeWords

/-!
# Ruling a method by its name

The plainest document about a method is a bracket with its name and a rule below. Where the name is
read whole, the document declares one group of that name, and its rule is consulted for the method.
Where the name breaks off, the rest of it is a word too many in the bracket, and the document is
refused on its first line (`parse_methodDocument`).
-/

namespace ChatWarden.Policy

variable {method : String}

/-- A bracket with the name of a method, and a rule below it. -/
def methodDocument (method : String) (r : Rule) : String :=
  "<method: " ++ method ++ ">\n" ++ r.render

/-- A policy with a rule for one method. -/
def methodPolicy (owner method : String) (r : Rule) : Policy :=
  { name := owner, groups := [{ rules := [r], owner, name := method, kind := .method }] }

/-- The first line of the document. -/
def openingLine (method : String) : List Char :=
  '<' :: ("method".toList ++ ':' :: ' ' :: (method.toList ++ ['>']))

theorem toList_methodDocument (method : String) (r : Rule) :
    (methodDocument method r).toList = openingLine method ++ '\n' :: r.render.toList := by
  simp [methodDocument, openingLine]

theorem lexemesIn_openingLine (hplain : Plain method.toList) :
    lexer.lexemesIn (openingLine method)
      = (.bracket, "<") :: (.scopeWord, "method") :: (.colon, ":")
        :: (lexer.lexemesOfWord method.toList ++ [(.bracket, ">")]) := by
  have hopen := lexemesIn_append_delimiter (c := '<') (by decide) []
    ("method".toList ++ ':' :: ' ' :: (method.toList ++ ['>']))
  have hmethod : lexer.lexemesIn "method".toList = [(.scopeWord, "method")] :=
    lexemesIn_of_regular (.scopeWord .method)
  have hname : lexer.lexemesIn method.toList = lexer.lexemesOfWord method.toList :=
    lexer.lexemesIn_word hplain.not_blank
  rw [List.nil_append] at hopen
  rw [openingLine, hopen, lexemesIn_append_delimiter (by decide), hmethod,
    lexer.lexemesIn_cons_blank (by decide), lexemesIn_append_delimiter (by decide), hname]
  rfl

theorem lexemes_methodDocument (hplain : Plain method.toList) (r : Rule) :
    lexer.lexemes (methodDocument method r)
      = (.bracket, "<") :: (.scopeWord, "method") :: (.colon, ":")
        :: (lexer.lexemesOfWord method.toList ++ (.bracket, ">") :: ruleLexemes r) := by
  rw [lexer.lexemes_eq, toList_methodDocument, lexemesIn_line, lexemesIn_openingLine hplain,
    lexemesIn_rule]
  simp

/-- A name that is read whole is the name of the group. -/
theorem parse_methodDocument_of_isWord (hne : method ≠ "") (hplain : Plain method.toList)
    (h : IsWord method) (owner : String) (r : Rule) :
    parse owner (methodDocument method r) = .ok (methodPolicy owner method r) := by
  have hwritable : ∀ g ∈ (methodPolicy owner method r).groups, g.Writable := by
    intro g hg
    rw [List.mem_singleton.mp hg]
    exact ⟨.inr h, words_empty⟩
  have hwell : (methodPolicy owner method r).WellFormed := by
    refine ⟨fun g hg => ?_, by simp [methodPolicy], words_empty⟩
    have hg' := hwritable g hg
    rw [List.mem_singleton.mp hg] at hg' ⊢
    exact ⟨rfl, .inl rfl, hg'⟩
  have hname : lexer.lexemesOfWord method.toList = [asWord method] := by
    rw [← lexemesIn_of_isWord h]
    exact (lexer.lexemesIn_word hplain.not_blank).symm
  have hempty : (∅ : Properties).isEmpty = true := rfl
  refine parse_of_lexemes hwell ?_
  rw [lexemesIn_render hwritable words_empty, lexemes_methodDocument hplain, hname]
  simp [policyLexemes, methodPolicy, groupLexemes, bracketLexemes, bracketBody, bracketEnd, hne,
    wordPairs, ScopeKind.word, hempty]

/-- After the name of a bracket, a word that is no key is a word too many. -/
theorem readScope_of_second_word {endLine : Nat} {opening kind colon first second : PolicyToken}
    {ts : List PolicyToken} (hopening : opening.text = "<") (hkind : kind.kind = .scopeWord)
    (hcolon : colon.kind = .colon) (hfirst : first.kind.isWord = true)
    (hsecond : second.kind.isWord = true) (hnext : startsOperator ts = false) :
    readScope endLine opening (kind :: colon :: first :: second :: ts)
      = unexpected second .propertyOrClose := by
  have hoperator : startsOperator (second :: ts) = false := by
    cases hk : second.kind <;> simp_all [startsOperator, TokenKind.isWord]
  have hname : takeName (first :: second :: ts) = (first.text, second :: ts) := by
    simp [takeName, hfirst, hoperator]
  have hclose : ¬(second.kind = .bracket ∧ second.text = ">") := by
    rintro ⟨hk, -⟩
    rw [hk] at hsecond
    cases hsecond
  have hproperties : readProperties endLine ∅ (second :: ts)
      = unexpected second .propertyOrClose := by
    rw [readProperties_cons, if_neg hclose, hnext]
    rfl
  simp only [readScope, hopening, readScopeKind, hkind, skipColon, hcolon, if_true, bind,
    Except.bind, hname, hproperties]
  rfl

/-- The tokens of a document about one method, the bracket on the first line before all others. -/
theorem lex_methodDocument (hplain : Plain method.toList) (r : Rule) :
    ∃ line below, lexer.lex (methodDocument method r) = line ++ below ∧
      spelling line = (.bracket, "<") :: (.scopeWord, "method") :: (.colon, ":")
        :: (lexer.lexemesOfWord method.toList ++ [(.bracket, ">")]) ∧
      ∀ t ∈ line, t.line = 1 := by
  have hfeed : ∀ c ∈ openingLine method, (c == '\n') = false := by
    intro c hc
    rw [beq_eq_false_iff_ne]
    rintro rfl
    have hmem : '\n' ∈ method.toList := by simpa [openingLine] using hc
    cases (hplain '\n' hmem).1
  have hlast : (openingLine method).getLast? ≠ some '\r' := by
    have hend : openingLine method
        = ('<' :: ("method".toList ++ ':' :: ' ' :: method.toList)) ++ ['>'] := by
      simp [openingLine]
    rw [hend, List.getLast?_concat]
    decide
  refine ⟨_, _, lexer.lex_eq_append (toList_methodDocument method r) hfeed hlast, ?_, ?_⟩
  · rw [spelling, lexer.map_lexeme_lexLine, lexemesIn_openingLine hplain]
  · exact fun t ht => lexer.line_of_mem_lexLine ht

/-- The rest of a name that breaks off is a word too many. -/
theorem parse_methodDocument_of_breaksOff (hplain : Plain method.toList)
    (h : BreaksOff method.toList) (owner : String) (r : Rule) :
    ∃ first second rest, lexer.lexemes method = first :: second :: rest ∧
      parse owner (methodDocument method r)
        = .error (.unexpectedToken 1 .propertyOrClose second.2) := by
  obtain ⟨first, second, rest, hlexemes⟩ := exists_lexemesOfWord_of_breaksOff hplain h
  have hwords : ∀ l ∈ first :: second :: rest, l.1.isWord = true := fun l hl =>
    isWord_of_mem_lexemesOfWord hplain (hlexemes ▸ hl)
  have halone : lexer.lexemes method = first :: second :: rest := by
    rw [lexer.lexemes_eq, lexer.lexemesIn_word hplain.not_blank, hlexemes]
  refine ⟨first, second, rest, halone, ?_⟩
  obtain ⟨line, below, hlex, hline, hnumber⟩ := lex_methodDocument hplain r
  rw [hlexemes] at hline
  obtain ⟨opening, us, rfl, hopening, hline⟩ := exists_cons_of_spelling hline
  obtain ⟨kind, us, rfl, hkind, hline⟩ := exists_cons_of_spelling hline
  obtain ⟨colon, us, rfl, hcolon, hline⟩ := exists_cons_of_spelling hline
  obtain ⟨t, us, rfl, ht, hline⟩ := exists_cons_of_spelling hline
  obtain ⟨u, us, rfl, hu, hline⟩ := exists_cons_of_spelling hline
  have hnext : startsOperator (us ++ below) = false := by
    cases hs : startsOperator (us ++ below) with
    | false => rfl
    | true =>
        rw [startsOperator_iff, spelling_append, hline] at hs
        cases rest with
        | nil => cases hs
        | cons l rest =>
            have hword := hwords l (by simp)
            rw [Option.some.inj hs] at hword
            cases hword
  have hread : ∀ endLine, readScope endLine opening (kind :: colon :: t :: u :: (us ++ below))
      = unexpected u .propertyOrClose := fun endLine =>
    readScope_of_second_word (congrArg Prod.snd hopening) (congrArg Prod.fst hkind)
      (congrArg Prod.fst hcolon) (hwords t.lexeme (by simp [ht])) (hwords u.lexeme (by simp [hu]))
      hnext
  have hbracket : opening.kind = .bracket := congrArg Prod.fst hopening
  have hone : u.line = 1 := hnumber u (by simp)
  simp only [parse, hlex, ofTokens, List.cons_append, Draft.readAll_cons, readItem, hbracket, hread]
  rw [unexpected, hone, ← hu]
  rfl

/-- Where the policy with the rule is in force, that rule is all there is to consult. -/
theorem consult_add_methodPolicy (policies : PolicySet) {command : Command} {owner : String}
    (howner : command.owner = owner) (hmethod : command.method = method) (r : Rule)
    (actor : Actor) :
    (policies.add (methodPolicy owner method r)).consult command actor = ruling [r] actor := by
  have hget : (policies.add (methodPolicy owner method r)).get? command.owner
      = some (methodPolicy owner method r) := by
    simp [PolicySet.add, SortedMap.get?_insert, howner, methodPolicy]
  have hgroup : (methodPolicy owner method r).group? command.method
      = some { rules := [r], owner, name := method, kind := .method } := by
    simp [group?, methodPolicy, hmethod]
  rw [PolicySet.consult, hget]
  simp only [consult, hgroup]
  cases ruling [r] actor <;> rfl

/-- A name of plain characters that does not break off addresses its method: the document is read
as one group of that name with the one rule, and under the policy it declares that rule decides
after the refusals that no policy lifts. A name that breaks off has the document refused. -/
theorem parse_methodDocument (hne : method ≠ "") (hplain : Plain method.toList) (owner : String)
    (r : Rule) :
    (¬BreaksOff method.toList →
      parse owner (methodDocument method r) = .ok (methodPolicy owner method r) ∧
      ∀ (policies : PolicySet) (command : Command) (actor : Actor),
        command.owner = owner → command.method = method →
        (policies.add (methodPolicy owner method r)).canRun command actor =
          if actor.isMaintainer then .approved
          else if ruling command.filters actor = .denied then .denied
          else if command.dmOnly && !actor.isDirect then .denied
          else (ruling [r] actor).orDefault command.container.allowsByDefault) ∧
    (BreaksOff method.toList →
      ∃ first second rest, lexer.lexemes method = first :: second :: rest ∧
        parse owner (methodDocument method r)
          = .error (.unexpectedToken 1 .propertyOrClose second.2)) := by
  refine ⟨fun hwhole => ?_, fun hbroken =>
    parse_methodDocument_of_breaksOff hplain hbroken owner r⟩
  have hword : IsWord method := isWord_of_not_breaksOff hne hplain hwhole
  refine ⟨parse_methodDocument_of_isWord hne hplain hword owner r,
    fun policies command actor howner hmethod => ?_⟩
  rw [PolicySet.canRun_eq, consult_add_methodPolicy policies howner hmethod]

/-- A keyword with a letter after it is an ordinary name. -/
theorem parse_methodDocument_users :
    let r : Rule := ⟨.whitelist, .user, [1]⟩
    let command : Command :=
      { Command.ofSegments ["users"] with owner := "Admin", container := .internal }
    let actor : Actor := { user := 1, channel := 5 }
    "users" ≠ "" ∧ Plain "users".toList ∧ ¬BreaksOff "users".toList ∧
      parse "Admin" "<method: users>\nwhitelist user 1" = .ok (methodPolicy "Admin" "users" r) ∧
      (PolicySet.add ∅ (methodPolicy "Admin" "users" r)).canRun command actor = .approved := by
  intro r command actor
  have hplain : Plain "users".toList := by decide
  have hwhole : ¬BreaksOff "users".toList :=
    (eq_length_iff_of_choose hplain (rfl : lexer.choose "users".toList = (.text, 4))).mp rfl
  obtain ⟨hparse, hrun⟩ := (parse_methodDocument (by decide) hplain "Admin" r).1 hwhole
  refine ⟨by decide, hplain, hwhole, hparse, ?_⟩
  rw [hrun ∅ command actor rfl rfl]
  decide

/-- A keyword with a hyphen after it is not. -/
theorem parse_methodDocument_userBan :
    "user-ban" ≠ "" ∧ Plain "user-ban".toList ∧
      parse "Admin" "<method: user-ban>\nwhitelist user 1"
        = .error (.unexpectedToken 1 .propertyOrClose "-ban") := by
  have hplain : Plain "user-ban".toList := by decide
  have hbroken : BreaksOff "user-ban".toList :=
    ⟨"user".toList, "-ban".toList, rfl, by decide, by decide, .inl ⟨"user", by decide, rfl⟩⟩
  have hlexemes : lexer.lexemes "user-ban" = [(.targetWord, "user"), (.text, "-ban")] := by
    decide +kernel
  obtain ⟨first, second, rest, hsplit, hparse⟩ :=
    parse_methodDocument_of_breaksOff hplain hbroken "Admin" ⟨.whitelist, .user, [1]⟩
  cases hlexemes.symm.trans hsplit
  exact ⟨by decide, hplain, hparse⟩

end ChatWarden.Policy
