import ChatWarden.Proofs.Disclosure
import ChatWarden.Proofs.HelpTexts
import ChatWarden.Proofs.Text.Decimal

/-!
# Choices

A question that means several commands is answered with their numbered list, and the same words with
one of the numbers at their end with that command (`Builtin.help_choices`). Both answers come from
one search: the number is taken off before it, so the words found by are the same. What the list and
the view of one command show is said by `Help.IsNumbered` and `Help.IsDetail`.
-/

namespace ChatWarden

variable {η : Type}

/-- The commands that words may mean: those found by them that the actor may see, in the order of
registration. -/
def Snapshot.found (snapshot : Snapshot η) (actor : Actor) (words : List String) : List Command :=
  ((snapshot.catalog.agreeing words false).map Entry.command).filter fun c =>
    !c.isHidden && snapshot.policies.canRun c actor = .approved

namespace Builtin

variable {query words : List String} {selector : Option Nat}

/-! ## Questions -/

/-- Whether words ask for commands: there are some, no number stands at their end, and they are not
the number of a page. -/
structure IsQuestion (query : List String) : Prop where
  ne_nil : query ≠ []
  unnumbered : ∀ last, query.getLast? = some last → Text.uint64? last = none
  no_page : ∀ word, query = [word] → Text.int64? word = none

/-- Whether a query asks for what words mean, with a number behind them or without. -/
structure Asks (query words : List String) (selector : Option Nat) : Prop where
  ne_nil : query ≠ []
  no_page : ∀ word, query = [word] → Text.int64? word = none
  split_eq : splitSelector query = (words, selector)

theorem asks_of_question (h : IsQuestion query) : Asks query query none where
  ne_nil := h.ne_nil
  no_page := h.no_page
  split_eq := by
    have hnone : query.getLast?.bind Text.uint64? = none :=
      Option.bind_eq_none_iff.mpr h.unnumbered
    rw [splitSelector, hnone]

-- With a number behind them the words are two at least, so they are never taken for a page.
theorem asks_append (hne : words ≠ []) (index : UInt64) :
    Asks (words ++ [toString index]) words (some index.toNat) where
  ne_nil := by simp
  no_page := by
    intro word hword
    have hlength := congrArg List.length hword
    have hpos := List.length_pos_iff.mpr hne
    simp only [List.length_append, List.length_singleton] at hlength
    omega
  split_eq := by simp [splitSelector, Text.uint64?_toString]

/-! ## What is said about the commands found -/

section Found

variable {perPage : Nat} {snapshot : Snapshot η} {actor : Actor} {sign : Char}

theorem Asks.askHelp_eq_detail (h : Asks query words selector) :
    askHelp perPage snapshot actor sign query =
      answer (helpDetail (helpCall snapshot actor sign query) query) := by
  rw [askHelp_eq]
  unfold helpText
  split
  · exact absurd rfl h.ne_nil
  · rename_i word
    rw [h.no_page word rfl]
  · rfl

theorem visible_helpCall (query words : List String) :
    visible (helpCall snapshot actor sign query)
        ((helpCall snapshot actor sign query).snapshot.catalog.agreeing words false) =
      snapshot.found actor words := rfl

theorem Asks.askHelp_of_none (h : Asks query words selector)
    (hnone : snapshot.found actor words = []) :
    askHelp perPage snapshot actor sign query = answer "Unknown command." := by
  rw [h.askHelp_eq_detail, helpDetail, h.split_eq]
  simp only [visible_helpCall, hnone]

theorem Asks.askHelp_of_one (h : Asks query words selector) {c : Command}
    (hone : snapshot.found actor words = [c]) :
    askHelp perPage snapshot actor sign query = answer (Help.detail c sign) := by
  rw [h.askHelp_eq_detail, helpDetail, h.split_eq]
  simp only [visible_helpCall, hone]
  rfl

theorem exists_cons_cons_of_two_le {found : List Command} (hmany : 2 ≤ found.length) :
    ∃ first second rest, found = first :: second :: rest := by
  cases found with
  | nil => simp at hmany
  | cons first tail =>
      cases tail with
      | nil => simp at hmany
      | cons second rest => exact ⟨first, second, rest, rfl⟩

theorem Asks.askHelp_of_picked {index : Nat} (h : Asks query words (some (index + 1)))
    (hmany : 2 ≤ (snapshot.found actor words).length) {c : Command}
    (hc : (snapshot.found actor words)[index]? = some c) :
    askHelp perPage snapshot actor sign query = answer (Help.detail c sign) := by
  obtain ⟨first, second, rest, hfound⟩ := exists_cons_cons_of_two_le hmany
  rw [hfound] at hc
  rw [h.askHelp_eq_detail, helpDetail, h.split_eq]
  simp only [visible_helpCall, hfound, Nat.succ_le_succ_iff, Nat.zero_le, ↓reduceIte,
    Nat.add_sub_cancel, hc]
  rfl

theorem Asks.askHelp_of_not_picked (h : Asks query words selector)
    (hmany : 2 ≤ (snapshot.found actor words).length)
    (hindex : ∀ index, selector = some (index + 1) →
      (snapshot.found actor words).length ≤ index) :
    askHelp perPage snapshot actor sign query =
      answer (Help.choices (snapshot.found actor words) sign) := by
  obtain ⟨first, second, rest, hfound⟩ := exists_cons_cons_of_two_le hmany
  rw [hfound] at hindex ⊢
  rw [h.askHelp_eq_detail, helpDetail, h.split_eq]
  simp only [visible_helpCall, hfound]
  cases selector with
  | none => rfl
  | some number =>
      cases number with
      | zero => rfl
      | succ index =>
          have hnone : (first :: second :: rest)[index]? = none :=
            List.getElem?_eq_none (hindex index rfl)
          simp only [Nat.succ_le_succ_iff, Nat.zero_le, ↓reduceIte, Nat.add_sub_cancel, hnone]
          rfl

end Found

/-! ## Answers -/

section Answers

variable (perPage : Nat) (snapshot : Snapshot η) (actor : Actor) (sign : Char)

/-- What help says to a question, alone and with a number behind it, by the commands that it may
mean. -/
structure Answers (query : List String) (found : List Command) : Prop where
  unknown : found = [] →
    askHelp perPage snapshot actor sign query = answer "Unknown command." ∧
    ∀ index : UInt64, askHelp perPage snapshot actor sign (query ++ [toString index]) =
      answer "Unknown command."
  only : ∀ c, found = [c] →
    askHelp perPage snapshot actor sign query = answer (Help.detail c sign) ∧
    ∀ index : UInt64, askHelp perPage snapshot actor sign (query ++ [toString index]) =
      answer (Help.detail c sign)
  choices : 2 ≤ found.length →
    askHelp perPage snapshot actor sign query = answer (Help.choices found sign) ∧
    Help.IsNumbered (Help.choices found sign) found sign
  picked : 2 ≤ found.length → ∀ (index : UInt64) c, 1 ≤ index.toNat →
    found[index.toNat - 1]? = some c →
    askHelp perPage snapshot actor sign (query ++ [toString index]) = answer (Help.detail c sign)
  not_picked : 2 ≤ found.length → ∀ index : UInt64,
    index.toNat = 0 ∨ found.length < index.toNat →
    askHelp perPage snapshot actor sign (query ++ [toString index]) =
      answer (Help.choices found sign)

theorem answers_found (h : IsQuestion query) :
    Answers perPage snapshot actor sign query (snapshot.found actor query) where
  unknown := by
    intro hnone
    refine ⟨(asks_of_question h).askHelp_of_none hnone, ?_⟩
    intro index
    exact (asks_append h.ne_nil index).askHelp_of_none hnone
  only := by
    intro c hone
    refine ⟨(asks_of_question h).askHelp_of_one hone, ?_⟩
    intro index
    exact (asks_append h.ne_nil index).askHelp_of_one hone
  choices := by
    intro hmany
    have hunnumbered : ∀ index, none = some (index + 1) →
        (snapshot.found actor query).length ≤ index := nofun
    exact ⟨(asks_of_question h).askHelp_of_not_picked hmany hunnumbered,
      Help.isNumbered_choices (snapshot.found actor query) sign⟩
  picked := by
    intro hmany index c hfirst hc
    have hasks := asks_append h.ne_nil index
    have hindex : index.toNat = index.toNat - 1 + 1 := by omega
    rw [hindex] at hasks
    exact hasks.askHelp_of_picked hmany hc
  not_picked := by
    intro hmany index hout
    apply (asks_append h.ne_nil index).askHelp_of_not_picked hmany
    intro i hi
    have heq : index.toNat = i + 1 := Option.some.inj hi
    omega

theorem found_eq_filter (words : List String) :
    snapshot.found actor words = (snapshot.visibleTo actor).filter (·.agrees words) :=
  visible_agreeing (helpCall snapshot actor ' ' []) words

theorem length_found_le (words : List String) :
    (snapshot.found actor words).length ≤ snapshot.catalog.entries.length := by
  calc
    (snapshot.found actor words).length ≤ (snapshot.visibleTo actor).length := by
      rw [found_eq_filter]
      exact List.length_filter_le _ _
    _ ≤ (snapshot.catalog.entries.map Entry.command).length := List.length_filter_le _ _
    _ = snapshot.catalog.entries.length := List.length_map _

/-- A visible command is found by its own segments. -/
theorem mem_found_segments {c : Command} (h : c ∈ snapshot.visibleTo actor) :
    c ∈ snapshot.found actor c.segments := by
  rw [found_eq_filter, List.mem_filter]
  exact ⟨h, by simp [Command.agrees]⟩

end Answers

/-- The number that stands beside a command in the answer to a question is the number that asks for
it. So every visible command whose segments are a question is shown by them, with some number behind
them or without. -/
theorem help_choices (perPage : Nat) (snapshot : Snapshot η) (actor : Actor) (sign : Char) :
    (∀ query, IsQuestion query →
      Answers perPage snapshot actor sign query (snapshot.found actor query)) ∧
    (snapshot.catalog.entries.length < UInt64.size →
      ∀ c ∈ snapshot.visibleTo actor, IsQuestion c.segments →
        askHelp perPage snapshot actor sign c.segments = answer (Help.detail c sign) ∨
        ∃ index : UInt64,
          askHelp perPage snapshot actor sign (c.segments ++ [toString index]) =
            answer (Help.detail c sign)) ∧
    ∀ c, Help.IsDetail (Help.detail c sign) c sign := by
  refine ⟨fun query h => answers_found perPage snapshot actor sign h, ?_,
    fun c => Help.isDetail_detail c sign⟩
  intro hsize c hc hquestion
  have hanswers := answers_found perPage snapshot actor sign hquestion
  have hmem : c ∈ snapshot.found actor c.segments := mem_found_segments snapshot actor hc
  have hlength := length_found_le snapshot actor c.segments
  obtain ⟨i, hi⟩ := List.mem_iff_getElem?.mp hmem
  have hlt := (List.getElem?_eq_some_iff.mp hi).1
  by_cases hmany : 2 ≤ (snapshot.found actor c.segments).length
  · have hindex : (UInt64.ofNat (i + 1)).toNat = i + 1 :=
      UInt64.toNat_ofNat_of_lt (by omega)
    right
    refine ⟨UInt64.ofNat (i + 1), hanswers.picked hmany _ c ?_ ?_⟩
    · omega
    · rw [hindex]
      exact hi
  · have hone : (snapshot.found actor c.segments).length = 1 := by omega
    obtain ⟨only, honly⟩ := List.length_eq_one_iff.mp hone
    have hsame : c = only := by
      rw [honly] at hmem
      exact List.mem_singleton.mp hmem
    rw [← hsame] at honly
    left
    exact (hanswers.only c honly).1

/-- Where `file` may mean two commands, `file 2` is the second of them and `file 3` neither. -/
theorem help_choices_files :
    let list := fileCommand "list" "Files"
    let read := fileCommand "read" "Files"
    let actor : Actor := { user := 1, channel := 2 }
    IsQuestion ["file"] ∧ filesSnapshot.found actor ["file"] = [list, read] ∧
      askHelp 20 filesSnapshot actor '!' ["file", "2"] = answer (Help.detail read '!') ∧
      askHelp 20 filesSnapshot actor '!' ["file", "3"] =
        answer (Help.choices [list, read] '!') := by
  intro list read actor
  have hquestion : IsQuestion ["file"] := by
    refine ⟨List.cons_ne_nil _ _, ?_, ?_⟩
    · intro last hlast
      cases hlast
      rfl
    · intro word hword
      cases hword
      rfl
  have hfound : filesSnapshot.found actor ["file"] = [list, read] := rfl
  have hanswers := (help_choices 20 filesSnapshot actor '!').1 ["file"] hquestion
  rw [hfound] at hanswers
  have hmany : 2 ≤ [list, read].length := Nat.le_refl 2
  exact ⟨hquestion, hfound, hanswers.picked hmany 2 read (by decide) rfl,
    hanswers.not_picked hmany 3 (.inr (by decide))⟩

end Builtin

end ChatWarden
