import ChatWarden.Policy.Printer
import ChatWarden.Proofs.Policy.Grammar
import ChatWarden.Proofs.SortedMap

/-!
# How written policies are read

Every line that is written ends with a line feed, so what is read in it does not depend on the lines
around it. Each line is one clause of the grammar, as long as its names, keys and values are words.
-/

namespace ChatWarden.Policy

open Lexicon

variable {name : String} {properties : Properties}

/-! ## Lines of rules -/

/-- What a written rule is read as. -/
def ruleLexemes (r : Rule) : List PolicyLexeme :=
  (.ruleWord, r.kind.word) :: (.targetWord, r.target.word) :: numerals (r.ids.map toString)

theorem regular_toString (id : Id) : Regular (.number, toString id) := by
  obtain ⟨d, cs, hs, hd⟩ := Text.exists_digits_of_toString id
  rw [hs]
  exact .number hd

theorem lexemesIn_ids (ids : List Id) :
    ((ids.map toString).flatMap fun text => lexer.lexemesIn text.toList)
      = numerals (ids.map toString) := by
  induction ids with
  | nil => rfl
  | cons id ids ih =>
      have hid := lexemesIn_of_regular (regular_toString id)
      rw [List.map_cons, List.flatMap_cons, ih]
      exact congrArg (· ++ numerals (ids.map toString)) hid

theorem lexemesIn_rule (r : Rule) : lexer.lexemesIn r.render.toList = ruleLexemes r := by
  have hkind := lexemesIn_of_regular (.ruleWord r.kind)
  have htarget := lexemesIn_of_regular (.targetWord r.target)
  rw [Rule.render, lexer.lexemesIn_intercalate, List.flatMap_cons, List.flatMap_cons,
    lexemesIn_ids, hkind, htarget]
  rfl

theorem written_rule (r : Rule) {rest : List PolicyLexeme} (h : firstKind? rest ≠ some .number) :
    Written (.rule r) (ruleLexemes r) rest := by
  have hids : (r.ids.map toString).map Text.decimal = r.ids.map UInt64.toNat := by
    rw [List.map_map]
    exact congrArg r.ids.map (funext Text.decimal_toString)
  exact .rule hids h

theorem lexemesIn_append_of_allBlank {pad : List Char} (h : Text.allBlank pad = true)
    (b : List Char) : lexer.lexemesIn (pad ++ b) = lexer.lexemesIn b := by
  induction pad with
  | nil => rfl
  | cons c pad ih =>
      simp only [Text.allBlank, List.all_cons, Bool.and_eq_true] at h
      rw [List.cons_append, lexer.lexemesIn_cons_blank h.1, ih h.2]

theorem lexemesIn_line (a b : List Char) :
    lexer.lexemesIn (a ++ '\n' :: b) = lexer.lexemesIn a ++ lexer.lexemesIn b :=
  lexer.lexemesIn_append_blank (by decide) a b

/-- Rules one below the other, each as far in as the padding. -/
theorem lexemesIn_rules {pad : String} (hpad : Text.allBlank pad.toList = true)
    (rs : List Rule) (b : List Char) :
    lexer.lexemesIn ((String.join (rs.map fun r => pad ++ r.render ++ "\n")).toList ++ b)
      = rs.flatMap ruleLexemes ++ lexer.lexemesIn b := by
  have hn : "\n".toList = ['\n'] := rfl
  rw [String.toList_join]
  induction rs with
  | nil => rfl
  | cons r rs ih =>
      rw [List.map_cons, List.flatMap_cons, String.toList_append, String.toList_append, hn,
        List.append_assoc, List.append_assoc, List.append_assoc, List.singleton_append,
        lexemesIn_append_of_allBlank hpad, lexemesIn_line, ih, lexemesIn_rule, List.flatMap_cons,
        List.append_assoc]

/-! ## Brackets -/

/-- Properties whose keys and values are words. -/
def Words (properties : Properties) : Prop :=
  ∀ e ∈ properties.entries, IsWord e.1 ∧ IsWord e.2

/-- What written properties are read as. -/
def wordPairs (es : List (String × String)) : List (PolicyLexeme × PolicyLexeme) :=
  es.map fun e => (asWord e.1, asWord e.2)

/-- What a written bracket is read as. -/
def bracketLexemes (kind : ScopeKind) (name : String) (properties : Properties) :
    List PolicyLexeme :=
  (.bracket, "<") :: (.scopeWord, kind.word)
    :: bracketBody (name ≠ "") (if name = "" then none else some (asWord name))
      (wordPairs properties.entries)

theorem lexemesIn_entries {es : List (String × String)}
    (h : ∀ e ∈ es, IsWord e.1 ∧ IsWord e.2) (a : List Char) :
    lexer.lexemesIn (a ++ es.flatMap fun e => ' ' :: (e.1.toList ++ '=' :: e.2.toList))
      = lexer.lexemesIn a ++ (wordPairs es).flatMap assignment := by
  induction es generalizing a with
  | nil => simp [wordPairs]
  | cons e es ih =>
      obtain ⟨hkey, hvalue⟩ := h e (by simp)
      have hes : ∀ e ∈ es, IsWord e.1 ∧ IsWord e.2 := fun e he => h e (by simp [he])
      have hrest := ih hes e.2.toList
      rw [List.flatMap_cons, List.cons_append, List.append_assoc, List.cons_append,
        lexer.lexemesIn_append_blank (by decide), lexemesIn_append_delimiter (by decide), hrest,
        lexemesIn_of_isWord hkey, lexemesIn_of_isWord hvalue]
      rfl

/-- The kind of a bracket and, after a colon, its name. -/
theorem lexemesIn_heading (kind : ScopeKind) (hname : name = "" ∨ IsWord name) :
    lexer.lexemesIn (kind.word.toList ++ (if name = "" then "" else ": " ++ name).toList)
      = (.scopeWord, kind.word) :: ((if name = "" then [] else [(.colon, ":")])
        ++ (if name = "" then none else some (asWord name)).toList) := by
  have hkind := lexemesIn_of_regular (.scopeWord kind)
  by_cases hn : name = ""
  · simp only [hn, if_true, String.toList_empty, List.append_nil]
    exact hkind
  · have hword := lexemesIn_of_isWord (hname.resolve_left hn)
    have hcolon : ": ".toList = [':', ' '] := rfl
    rw [if_neg hn, if_neg hn, if_neg hn, String.toList_append, hcolon, List.cons_append,
      List.singleton_append, lexemesIn_append_delimiter (by decide),
      lexer.lexemesIn_cons_blank (by decide), hword]
    exact congrArg (· ++ [mark ':', asWord name]) hkind

theorem toList_renderBracket (kind : ScopeKind) (name : String) (properties : Properties) :
    (renderBracket kind name properties).toList
      = '<' :: (kind.word.toList ++ (if name = "" then "" else ": " ++ name).toList
        ++ properties.entries.flatMap fun e => ' ' :: (e.1.toList ++ '=' :: e.2.toList))
        ++ ['>', '\n'] := by
  simp [renderBracket, String.toList_join, List.flatMap_map]

theorem lexemesIn_bracket (kind : ScopeKind) (hname : name = "" ∨ IsWord name)
    (hwords : Words properties) (b : List Char) :
    lexer.lexemesIn ((renderBracket kind name properties).toList ++ b)
      = bracketLexemes kind name properties ++ lexer.lexemesIn b := by
  have hopen : ∀ x, lexer.lexemesIn ('<' :: x) = (.bracket, "<") :: lexer.lexemesIn x :=
    fun x => lexemesIn_append_delimiter (by decide) [] x
  have hclose : ∀ x, lexer.lexemesIn (x ++ (['>', '\n'] ++ b))
      = lexer.lexemesIn x ++ (.bracket, ">") :: lexer.lexemesIn b := by
    intro x
    have hn := lexer.lexemesIn_cons_blank (c := '\n') (by decide) b
    rw [← hn]
    exact lexemesIn_append_delimiter (by decide) x ('\n' :: b)
  rw [toList_renderBracket, List.append_assoc, List.cons_append, hopen, hclose,
    lexemesIn_entries hwords, lexemesIn_heading kind hname]
  by_cases hn : name = ""
  · simp [bracketLexemes, bracketBody, bracketEnd, hn]
  · simp [bracketLexemes, bracketBody, bracketEnd, hn]

theorem written_bracket (kind : ScopeKind) (hname : name = "" ∨ IsWord name)
    (hwords : Words properties) (rest : List PolicyLexeme) :
    Written (.scope kind name properties) (bracketLexemes kind name properties) rest := by
  have hpairs : AreWords (wordPairs properties.entries) := by
    intro pair hpair
    obtain ⟨e, he, rfl⟩ := List.mem_map.mp hpair
    exact ⟨isWord_asWord (hwords e he).1, isWord_asWord (hwords e he).2⟩
  have hdeclared : SortedMap.ofList (declared (wordPairs properties.entries)) = properties := by
    have hid : declared (wordPairs properties.entries) = properties.entries := by
      rw [declared, wordPairs, List.map_map]
      exact List.map_id properties.entries
    rw [hid, SortedMap.ofList_entries]
  have hkind : some kind = none →
      firstKind? (bracketBody (name ≠ "") (if name = "" then none else some (asWord name))
        (wordPairs properties.entries)) ≠ some .scopeWord := by
    intro h
    contradiction
  have hnamed : ∀ l ∈ if name = "" then none else some (asWord name), l.1.isWord = true := by
    intro l hl
    split at hl
    · contradiction
    · rename_i hn
      cases hl
      exact isWord_asWord (hname.resolve_left hn)
  have hwritten := @Written.scope _ _ _ _ rest hkind hnamed hpairs
  rw [hdeclared] at hwritten
  by_cases hn : name = ""
  · subst hn
    exact hwritten
  · rw [bracketLexemes, if_neg hn]
    rw [if_neg hn] at hwritten
    exact hwritten

/-! ## Policies -/

def groupLexemes (g : Group) : List PolicyLexeme :=
  bracketLexemes g.kind g.name g.properties ++ g.rules.flatMap ruleLexemes

/-- What a written policy is read as. -/
def policyLexemes (p : Policy) : List PolicyLexeme :=
  p.rules.flatMap ruleLexemes ++ (p.groups.flatMap groupLexemes
    ++ if p.properties.isEmpty then [] else bracketLexemes .whole "" p.properties)

/-- A group that can be written: its name, if any, is a word, and so are its properties. -/
structure Group.Writable (g : Group) : Prop where
  name : g.name = "" ∨ IsWord g.name
  properties : Words g.properties

theorem lexemesIn_group {g : Group} (h : g.Writable) (b : List Char) :
    lexer.lexemesIn ((renderGroup g).toList ++ b) = groupLexemes g ++ lexer.lexemesIn b := by
  have hpad : Text.allBlank "  ".toList = true := rfl
  rw [renderGroup, String.toList_append, List.append_assoc,
    lexemesIn_bracket g.kind h.name h.properties, lexemesIn_rules hpad, groupLexemes,
    List.append_assoc]

theorem lexemesIn_groups {gs : List Group} (h : ∀ g ∈ gs, g.Writable) (b : List Char) :
    lexer.lexemesIn ((String.join (gs.map renderGroup)).toList ++ b)
      = gs.flatMap groupLexemes ++ lexer.lexemesIn b := by
  rw [String.toList_join]
  induction gs with
  | nil => rfl
  | cons g gs ih =>
      have hgs : ∀ g' ∈ gs, g'.Writable := fun g' hg => h g' (by simp [hg])
      rw [List.map_cons, List.flatMap_cons, List.append_assoc, lexemesIn_group (h g (by simp)),
        ih hgs, List.flatMap_cons, List.append_assoc]

theorem lexemesIn_render {p : Policy} (hgroups : ∀ g ∈ p.groups, g.Writable)
    (hwords : Words p.properties) : lexer.lexemesIn p.render.toList = policyLexemes p := by
  have hpad : Text.allBlank "".toList = true := rfl
  have hrules := lexemesIn_rules hpad p.rules
  simp only [String.empty_append] at hrules
  rw [render, String.toList_append, String.toList_append, List.append_assoc, hrules,
    lexemesIn_groups hgroups, policyLexemes]
  by_cases he : p.properties.isEmpty
  · rw [if_pos he, if_pos he]
    rfl
  · have hlast := lexemesIn_bracket .whole (.inl rfl) hwords []
    rw [List.append_nil, lexer.lexemesIn_nil, List.append_nil] at hlast
    rw [if_neg he, if_neg he, hlast]

/-! ## The clauses of a written policy -/

def groupClauses (g : Group) : List Clause :=
  .scope g.kind g.name g.properties :: g.rules.map .rule

/-- Its rules, its groups with their rules, and in the end its own properties. -/
def policyClauses (p : Policy) : List Clause :=
  p.rules.map .rule ++ (p.groups.flatMap groupClauses
    ++ if p.properties.isEmpty then [] else [.scope .whole "" p.properties])

variable {cs : List Clause} {ls : List PolicyLexeme}

theorem cut_rules (rs : List Rule) (hcut : Cut cs ls) (hfirst : firstKind? ls ≠ some .number) :
    Cut (rs.map .rule ++ cs) (rs.flatMap ruleLexemes ++ ls) ∧
      firstKind? (rs.flatMap ruleLexemes ++ ls) ≠ some .number := by
  induction rs with
  | nil => exact ⟨hcut, hfirst⟩
  | cons r rs ih =>
      rw [List.flatMap_cons, List.append_assoc]
      refine ⟨.cons (written_rule r ih.2) ih.1, ?_⟩
      simp [ruleLexemes, firstKind?]

theorem cut_group {g : Group} (h : g.Writable) (hcut : Cut cs ls)
    (hfirst : firstKind? ls ≠ some .number) :
    Cut (groupClauses g ++ cs) (groupLexemes g ++ ls) ∧
      firstKind? (groupLexemes g ++ ls) ≠ some .number := by
  have hrules := cut_rules g.rules hcut hfirst
  rw [groupLexemes, List.append_assoc]
  refine ⟨.cons (written_bracket g.kind h.name h.properties _) hrules.1, ?_⟩
  simp [bracketLexemes, firstKind?]

theorem cut_groups {gs : List Group} (h : ∀ g ∈ gs, g.Writable) (hcut : Cut cs ls)
    (hfirst : firstKind? ls ≠ some .number) :
    Cut (gs.flatMap groupClauses ++ cs) (gs.flatMap groupLexemes ++ ls) ∧
      firstKind? (gs.flatMap groupLexemes ++ ls) ≠ some .number := by
  induction gs with
  | nil => exact ⟨hcut, hfirst⟩
  | cons g gs ih =>
      have hgs := ih fun g' hg => h g' (by simp [hg])
      rw [List.flatMap_cons, List.flatMap_cons, List.append_assoc, List.append_assoc]
      exact cut_group (h g (by simp)) hgs.1 hgs.2

theorem cut_policy {p : Policy} (hgroups : ∀ g ∈ p.groups, g.Writable)
    (hwords : Words p.properties) : Cut (policyClauses p) (policyLexemes p) := by
  have hlast : Cut (if p.properties.isEmpty then [] else [.scope .whole "" p.properties])
        (if p.properties.isEmpty then [] else bracketLexemes .whole "" p.properties) ∧
      firstKind? (if p.properties.isEmpty then [] else bracketLexemes .whole "" p.properties)
        ≠ some .number := by
    by_cases he : p.properties.isEmpty
    · rw [if_pos he, if_pos he]
      exact ⟨.nil, by simp [firstKind?]⟩
    · rw [if_neg he, if_neg he]
      have hcut := Cut.cons (written_bracket .whole (.inl rfl) hwords []) .nil
      rw [List.append_nil] at hcut
      exact ⟨hcut, by simp [bracketLexemes, firstKind?]⟩
  have hgs := cut_groups hgroups hlast.1 hlast.2
  exact (cut_rules p.rules hgs.1 hgs.2).1

end ChatWarden.Policy
