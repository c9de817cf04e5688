import ChatWarden.Proofs.Policy.Composition
import ChatWarden.Proofs.Policy.Cursor

/-!
# Where a document is refused

A part of an item is refused for a token that stands in it or at the end of the document (`Fault`),
and a document besides for a bracket whose group is there already (`Reopened`). Each reader sees a
part of the tokens that the one before left over, so a fault in any of them is a fault of the
document. An item is read before it is added, so what a bracket repeats has been opened by the
clauses before it, and these can be cut without it (`written_append_opening_iff`).
-/

namespace ChatWarden.Policy

variable {endLine : Nat} {t : PolicyToken} {ts us taken rest : List PolicyToken} {e : ParseError}
  {name : String}

/-! ## Failures of composed readers -/

theorem eq_error_of_map {ε α β : Type} {x : Except ε α} {f : α → β} {e : ε}
    (h : x.map f = .error e) : x = .error e := by
  cases x with
  | error e' => exact congrArg _ (Except.error.inj h)
  | ok a => contradiction

theorem eq_error_or_of_bind {ε α β : Type} {x : Except ε α} {f : α → Except ε β} {e : ε}
    (h : x.bind f = .error e) : x = .error e ∨ ∃ a, x = .ok a ∧ f a = .error e := by
  cases x with
  | error e' => exact .inl (congrArg _ (Except.error.inj h))
  | ok a => exact .inr ⟨a, rfl, h⟩

/-! ## Faults in an item -/

/-- `Fault endLine ts e` says that the error is about one of the tokens, under its own text and
line, or about the end of the document. No part of an item is refused for want of the word that
begins a rule. -/
inductive Fault (endLine : Nat) (ts : List PolicyToken) : ParseError → Prop
  | token {t : PolicyToken} {expected : Expected} (ht : t ∈ ts) (he : expected ≠ .ruleWord) :
      Fault endLine ts (.unexpectedToken t.line expected t.text)
  | atEnd {expected : Expected} (he : expected ≠ .ruleWord) :
      Fault endLine ts (.unexpectedEnd endLine expected)
  | number {t : PolicyToken} (ht : t ∈ ts) (hk : t.kind = .number)
      (hid : Text.uint64? t.text = none) : Fault endLine ts (.invalidId t.line t.text)

theorem Fault.mono (h : Fault endLine ts e) (hsub : ts ⊆ us) : Fault endLine us e := by
  cases h with
  | token ht he => exact .token (hsub ht) he
  | atEnd he => exact .atEnd he
  | number ht hk hid => exact .number (hsub ht) hk hid

theorem Fault.cons (h : Fault endLine ts e) (t : PolicyToken) : Fault endLine (t :: ts) e :=
  h.mono (List.subset_cons_self t ts)

theorem Fault.append (h : Fault endLine rest e) (taken : List PolicyToken) :
    Fault endLine (taken ++ rest) e :=
  h.mono (List.subset_append_right taken rest)

theorem fault_of_readIds (h : readIds ts = .error e) : Fault endLine ts e := by
  induction ts with
  | nil => cases h
  | cons t ts ih =>
      rw [readIds] at h
      split at h
      · rename_i hk
        split at h
        · rename_i hid
          cases h
          exact .number List.mem_cons_self hk hid
        · exact (ih (eq_error_of_map h)).cons t
      · cases h

theorem fault_of_readRule (hreg : Regular (.ruleWord, t.text))
    (h : readRule endLine t ts = .error e) : Fault endLine ts e := by
  obtain ⟨kind, hkind⟩ := hreg.exists_ruleKind
  rw [readRule, hkind, RuleKind.ofWord?_word] at h
  cases ts with
  | nil =>
      cases h
      exact .atEnd (by decide)
  | cons u us =>
      simp only at h
      split at h
      · cases h
        exact .token List.mem_cons_self (by decide)
      · exact (fault_of_readIds (eq_error_of_map h)).cons u

theorem fault_of_readProperty (h : readProperty endLine t ts = .error e) :
    Fault endLine (t :: ts) e := by
  unfold readProperty at h
  split at h
  · split at h
    · cases h
      exact .atEnd (by decide)
    · rename_i value rest hdrop
      have hvalue : value ∈ ts := List.mem_of_mem_drop (hdrop ▸ List.mem_cons_self)
      split at h
      · cases h
      · cases h
        exact .token (List.mem_cons_of_mem t hvalue) (by decide)
  · cases h
    exact .token List.mem_cons_self (by decide)

theorem fault_of_readScopeKind (h : readScopeKind endLine ts = .error e) : Fault endLine ts e := by
  unfold readScopeKind at h
  split at h
  · cases h
    exact .atEnd (by decide)
  · split at h
    · split at h
      · cases h
        exact .atEnd (by decide)
      · cases h
    · cases h

theorem fault_of_skipColon (h : skipColon endLine ts = .error e) : Fault endLine ts e := by
  unfold skipColon at h
  split at h
  · cases h
  · split at h
    · split at h
      · cases h
        exact .atEnd (by decide)
      · cases h
    · cases h

theorem fault_of_readProperties {soFar : Properties} (hreg : RegularTokens ts)
    (h : readProperties endLine soFar ts = .error e) : Fault endLine ts e := by
  fun_induction readProperties endLine soFar ts with
  | case1 =>
      cases h
      exact .atEnd (by decide)
  | case2 => cases h
  | case3 soFar t ts _ _ e' hproperty =>
      cases h
      exact fault_of_readProperty hproperty
  | case4 soFar t ts _ hop key value left hproperty ih =>
      obtain ⟨op, v, rfl, -⟩ := written_of_readProperty hreg.tail hop hproperty
      exact (((ih hreg.tail.tail.tail h).cons v).cons op).cons t
  | case5 =>
      cases h
      exact .token List.mem_cons_self (by decide)

theorem fault_of_readScope (hreg : RegularTokens ts) (h : readScope endLine t ts = .error e) :
    Fault endLine (t :: ts) e := by
  unfold readScope at h
  split at h
  · rcases eq_error_or_of_bind h with hkind | ⟨⟨kind, ts₁⟩, hkind, hleft⟩
    · exact (fault_of_readScopeKind hkind).cons t
    obtain ⟨-, kinds, hts, -⟩ := written_of_readScopeKind hreg hkind
    rw [hts] at hreg ⊢
    rcases eq_error_or_of_bind hleft with hcolon | ⟨⟨_, ts₂⟩, hcolon, hleft⟩
    · exact ((fault_of_skipColon hcolon).append kinds).cons t
    obtain ⟨-, colons, hts₁, -⟩ := written_of_skipColon hreg.right hcolon
    obtain ⟨-, names, hts₂, -⟩ := written_of_takeName (Prod.eta (takeName ts₂)).symm
    rw [hts₁, hts₂] at hreg ⊢
    rcases eq_error_or_of_bind hleft with hproperties | ⟨_, _, hleft⟩
    · have hfault := fault_of_readProperties hreg.right.right.right hproperties
      exact (((hfault.append names).append colons).append kinds).cons t
    · cases hleft
  · cases h
    exact .token List.mem_cons_self (by decide)

theorem fault_of_readItem (hreg : RegularTokens (t :: ts)) (h : readItem endLine t ts = .error e) :
    Fault endLine (t :: ts) e := by
  unfold readItem at h
  split at h
  · rename_i hk
    exact (fault_of_readRule (hreg.head hk) (eq_error_of_map h)).cons t
  · exact fault_of_readScope hreg.tail h
  · split at h
    · exact fault_of_readProperty (eq_error_of_map h)
    · cases h

/-! ## Groups that are opened once more -/

/-- `Reopened names line group ts` says that a bracket among the tokens, on the given line, opens a
group whose name is one of `names` or that of a group that the clauses before it have opened. -/
inductive Reopened (names : List String) (line : Nat) (group : String) : List PolicyToken → Prop
  | mk {t : PolicyToken} {before within after : List PolicyToken} {cs : List Clause} {c : Clause}
      (ht : t.lexeme = opening) (hline : t.line = line) (hcut : Cut cs (spelling before))
      (hknown : group ∈ names ++ groupNames cs)
      (hc : Written c (spelling (t :: within)) (spelling after))
      (hgroup : c.groupName? = some group) :
      Reopened names line group (before ++ (t :: within ++ after))

/-- A clause before the bracket adds the group it opens to those that are known. -/
theorem Reopened.append {names : List String} {line : Nat} {group : String} {c : Clause}
    (hc : Written c (spelling taken) (spelling rest))
    (h : Reopened (names ++ c.groupName?.toList) line group rest) :
    Reopened names line group (taken ++ rest) := by
  cases h with
  | @mk t before within after cs _ ht hline hcut hknown hwritten hgroup =>
      rw [spelling_append, List.cons_append, spelling_cons, ht] at hc
      have hcut' := Cut.cons (written_append_opening_iff.mp hc) hcut
      rw [← spelling_append] at hcut'
      rw [List.append_assoc, ← groupNames_cons] at hknown
      rw [← List.append_assoc]
      exact .mk ht hline hcut' hknown hwritten hgroup

theorem Written.exists_opening {c : Clause} {group : String} {ls ms : List PolicyLexeme}
    (h : Written c ls ms) (hgroup : c.groupName? = some group) : ∃ ls', ls = opening :: ls' := by
  cases h with
  | scope => exact ⟨_, rfl⟩
  | rule | property | stray => cases hgroup

/-- An item is refused only if it opens a group whose name is taken. -/
theorem Draft.exists_group_of_add {o : Outline} {c : Clause} {line : Nat}
    (h : (o.draft name).add (c.item line) = .error e) :
    ∃ group ∈ o.names, c.groupName? = some group ∧ e = .duplicateGroup line group := by
  cases c with
  | rule | property | stray => cases h
  | scope kind group properties =>
      have hnames : (o.draft name).policy.groups.map Group.name = o.names := rfl
      cases kind with
      | whole => cases h
      | group | method =>
          by_cases hg : group ∈ o.names
          · simp only [Clause.item, Draft.add, addGroup?_eq, hnames, if_pos hg] at h
            cases h
            exact ⟨group, hg, rfl, rfl⟩
          · simp only [Clause.item, Draft.add, addGroup?_eq, hnames, if_neg hg] at h
            cases h

/-! ## Whole documents -/

theorem fault_or_reopened_of_readAll {o : Outline} (ho : o.Proper) (hreg : RegularTokens ts)
    (h : Draft.readAll endLine (o.draft name) ts = .error e) :
    Fault endLine ts e ∨
      ∃ line group, e = .duplicateGroup line group ∧ Reopened o.names line group ts := by
  generalize hd : o.draft name = d at h
  fun_induction Draft.readAll endLine d ts generalizing o with
  | case1 => cases h
  | case2 d t ts e' hitem =>
      cases h
      exact .inl (fault_of_readItem hreg hitem)
  | case3 d t ts item rest hitem e' hadd =>
      cases h
      obtain ⟨c, taken, hts, hc, rfl⟩ := written_of_readItem hreg hitem
      subst hd
      obtain ⟨group, hmem, hgroup, rfl⟩ := Draft.exists_group_of_add hadd
      obtain ⟨ls, hls⟩ := hc.exists_opening hgroup
      obtain ⟨u, within, rfl, hu, -⟩ := exists_cons_of_spelling hls
      obtain ⟨rfl, -⟩ := List.cons.inj hts
      have hopened : Reopened o.names t.line group ([] ++ (t :: within ++ rest)) :=
        .mk hu rfl .nil (by simpa using hmem) hc hgroup
      rw [hts]
      exact .inr ⟨t.line, group, rfl, hopened⟩
  | case4 d t ts item rest hitem d' hadd ih =>
      obtain ⟨c, taken, hts, hc, rfl⟩ := written_of_readItem hreg hitem
      subst hd
      obtain ⟨-, hadded⟩ := (Draft.add_eq_ok_iff ho).mp hadd
      rw [hts] at hreg ⊢
      rcases ih (o.add_proper ho c) hreg.right hadded h with hfault | ⟨line, group, he, hopened⟩
      · exact .inl (hfault.append taken)
      · rw [Outline.add_names] at hopened
        exact .inr ⟨line, group, he, hopened.append hc⟩

theorem exists_fault_or_reopened {source : String} (h : parse name source = .error e) :
    ∃ last, (lexer.lex source).getLast? = some last ∧
      (Fault last.line (lexer.lex source) e ∨
        ∃ line group, e = .duplicateGroup line group ∧
          Reopened [] line group (lexer.lex source)) := by
  have hread : Draft.readAll (Policy.endLine (lexer.lex source)) (Outline.draft name {})
      (lexer.lex source) = .error e := eq_error_of_map h
  cases hlast : (lexer.lex source).getLast? with
  | none =>
      rw [List.getLast?_eq_none_iff.mp hlast, Draft.readAll] at hread
      cases hread
  | some last =>
      have hend : Policy.endLine (lexer.lex source) = last.line := by
        rw [Policy.endLine, hlast]
        rfl
      rw [hend] at hread
      exact ⟨last, rfl,
        fault_or_reopened_of_readAll Outline.proper_empty (regularTokens_lex source) hread⟩

/-- Why a document is refused can be seen in it: at a token that the error names by its text and
line, at its last token, or at a bracket that opens a group once more. And nothing is ever reported
with a line that stands in for one the document lacks. -/
theorem parse_error_in_document (name source : String) :
    (∀ noLine, Cursor.parse noLine name source = parse name source) ∧
      ∀ e, parse name source = .error e →
        ∃ last, (lexer.lex source).getLast? = some last ∧
          (Fault last.line (lexer.lex source) e ∨
            ∃ line group, e = .duplicateGroup line group ∧
              Reopened [] line group (lexer.lex source)) :=
  ⟨fun noLine => Cursor.parse_eq noLine name source, fun _ => exists_fault_or_reopened⟩

/-- A group that is opened on two lines, and a bracket that is still open at the end. -/
theorem parse_error_in_document_addTwice :
    (parse "Files" "<add>\n<method: add>" = .error (.duplicateGroup 2 "add") ∧
        Reopened [] 2 "add" (lexer.lex "<add>\n<method: add>")) ∧
      parse "Files" "\n<method: add" = .error (.unexpectedEnd 2 .close) ∧
        ∃ last, (lexer.lex "\n<method: add").getLast? = some last ∧ last.line = 2 := by
  have htwice : parse "Files" "<add>\n<method: add>" = .error (.duplicateGroup 2 "add") := by
    with_unfolding_all rfl
  have hunclosed : parse "Files" "\n<method: add" = .error (.unexpectedEnd 2 .close) := by
    with_unfolding_all rfl
  refine ⟨⟨htwice, ?_⟩, hunclosed, ?_⟩
  · obtain ⟨last, -, hfault | ⟨line, group, he, hopened⟩⟩ :=
      (parse_error_in_document "Files" "<add>\n<method: add>").2 _ htwice
    · cases hfault
    · cases he
      exact hopened
  · obtain ⟨last, hlast, hfault | ⟨line, group, he, -⟩⟩ :=
      (parse_error_in_document "Files" "\n<method: add").2 _ hunclosed
    · generalize hline : last.line = line at hfault
      cases hfault
      exact ⟨last, hlast, hline⟩
    · cases he

end ChatWarden.Policy
