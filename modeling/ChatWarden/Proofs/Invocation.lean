import Mathlib.Data.String.Basic
import ChatWarden.Invocation
import ChatWarden.Proofs.Text.Words

/-!
# Where the command in a message stands

A message is a command behind the sign it begins with, or else between the first opening brace and
the next closing one (`Invocation.Braces`), which leaves one way to cut it
(`Invocation.Braces.unique`). The search for the braces counts bytes, of which a character takes up
to four. No offset that it cuts at is beyond the end or inside a character
(`Invocation.findInBytes?_eq`).
-/

namespace ChatWarden.Invocation

variable {sign c : Char} {a b cs text : List Char}

/-! ## Braces -/

/-- Whether a text is cut at its first opening brace and at the next closing one. -/
structure Braces (cs before inner after : List Char) : Prop where
  eq_append : cs = before ++ openBrace :: (inner ++ closeBrace :: after)
  not_open : openBrace ∉ before
  not_closed : closeBrace ∉ inner

namespace Braces

variable {before inner after before' inner' after' : List Char}

theorem behind_eq (h : Braces cs before inner after) :
    cs.dropWhile (· != openBrace) = openBrace :: (inner ++ closeBrace :: after) := by
  rw [h.eq_append, Text.dropWhile_ne_append_cons h.not_open]

theorem unique (h : Braces cs before inner after) (h' : Braces cs before' inner' after') :
    before = before' ∧ inner = inner' ∧ after = after' := by
  have hbefore : before = before' := by
    rw [← Text.takeWhile_ne_append_cons h.not_open, ← h.eq_append, h'.eq_append,
      Text.takeWhile_ne_append_cons h'.not_open]
  have hbehind : inner ++ closeBrace :: after = inner' ++ closeBrace :: after' := by
    have heq := h.behind_eq.symm.trans h'.behind_eq
    exact List.tail_eq_of_cons_eq heq
  have hinner : inner = inner' := by
    rw [← Text.takeWhile_ne_append_cons h.not_closed, hbehind,
      Text.takeWhile_ne_append_cons h'.not_closed]
  rw [hinner] at hbehind
  exact ⟨hbefore, hinner, List.tail_eq_of_cons_eq (List.append_cancel_left hbehind)⟩

end Braces

/-- A text without an opening brace; one that is left open; or one with braces. -/
theorem not_open_or_left_open_or_braces (cs : List Char) :
    openBrace ∉ cs ∨
      (∃ before behind, cs = before ++ openBrace :: behind ∧ openBrace ∉ before ∧
        closeBrace ∉ behind) ∨
      ∃ before inner after, Braces cs before inner after := by
  by_cases hopen : openBrace ∈ cs
  · right
    obtain ⟨before, behind, hcs, hbefore⟩ := List.eq_append_cons_of_mem hopen
    by_cases hclose : closeBrace ∈ behind
    · right
      obtain ⟨inner, after, hbehind, hinner⟩ := List.eq_append_cons_of_mem hclose
      rw [hbehind] at hcs
      exact ⟨before, inner, after, hcs, hbefore, hinner⟩
    · left
      exact ⟨before, behind, hcs, hbefore, hclose⟩
  · left
    exact hopen

theorem inBraces?_of_braces {before inner after : List Char} (h : Braces cs before inner after) :
    inBraces? cs = some inner := by
  have hclosed : (inner ++ closeBrace :: after).contains closeBrace = true := by simp
  rw [inBraces?, h.behind_eq]
  simp only [hclosed, if_true, Text.takeWhile_ne_append_cons h.not_closed]

theorem inBraces?_of_not_open (h : openBrace ∉ cs) : inBraces? cs = none := by
  rw [inBraces?, Text.dropWhile_ne_of_not_mem h]

theorem inBraces?_of_left_open {before behind : List Char}
    (hcs : cs = before ++ openBrace :: behind) (hbefore : openBrace ∉ before)
    (hbehind : closeBrace ∉ behind) : inBraces? cs = none := by
  rw [inBraces?, hcs, Text.dropWhile_ne_append_cons hbefore]
  simp only [List.contains_iff_mem, hbehind, if_false]

theorem inBraces?_eq_some_iff {inner : List Char} :
    inBraces? cs = some inner ↔ ∃ before after, Braces cs before inner after := by
  constructor
  · intro hsome
    obtain hopen | ⟨before, behind, hcs, hbefore, hbehind⟩ | ⟨before, found, after, hbraces⟩ :=
      not_open_or_left_open_or_braces cs
    · rw [inBraces?_of_not_open hopen] at hsome
      contradiction
    · rw [inBraces?_of_left_open hcs hbefore hbehind] at hsome
      contradiction
    · rw [inBraces?_of_braces hbraces] at hsome
      cases hsome
      exact ⟨before, after, hbraces⟩
  · intro h
    obtain ⟨before, after, hbraces⟩ := h
    exact inBraces?_of_braces hbraces

theorem inBraces?_eq_none_iff :
    inBraces? cs = none ↔ ∀ before inner after, ¬Braces cs before inner after := by
  rw [Option.eq_none_iff_forall_ne_some]
  constructor
  · intro h before inner after hbraces
    exact h inner (inBraces?_of_braces hbraces)
  · intro h inner hsome
    obtain ⟨before, after, hbraces⟩ := inBraces?_eq_some_iff.mp hsome
    exact h before inner after hbraces

/-! ## Signs -/

/-- Whether a text is another one without the sign in front, or the same if there is no sign. -/
def IsUnsigned (sign : Char) (inner text : List Char) : Prop :=
  inner = sign :: text ∨ (∀ t, inner ≠ sign :: t) ∧ text = inner

theorem isUnsigned_iff : IsUnsigned sign cs text ↔ text = dropSign sign cs := by
  cases cs with
  | nil => simp [IsUnsigned, dropSign]
  | cons d ds =>
      by_cases hd : d = sign
      · simp [IsUnsigned, dropSign, hd, eq_comm]
      · simp [IsUnsigned, dropSign, hd]

/-! ## Counting bytes -/

/-- The text between two offsets in bytes; nothing where they are in the wrong order, beyond the end
or inside a character. -/
def slice? (text : String) (first last : Nat) : Option String :=
  if first ≤ last ∧ String.Pos.Raw.isValid text ⟨first⟩ ∧ String.Pos.Raw.isValid text ⟨last⟩ then
    some (String.Pos.Raw.extract text ⟨first⟩ ⟨last⟩)
  else none

/-- The number of bytes before the first such character. -/
def offset? (c : Char) (text : String) : Option Nat :=
  if c ∈ text.toList then some (String.utf8Len (text.toList.takeWhile (· != c))) else none

/-- The search for a command in bytes; nothing where a cut is beyond the end, inside a character or
before the one it goes with. -/
def findInBytes? (sign : Char) (message : String) : Option (Option Invocation) :=
  if message.toList.head? = some sign then some (some ⟨message.toList.tail, false⟩)
  else
    match offset? openBrace message with
    | none => some none
    | some start => do
      let behind ← slice? message start message.utf8ByteSize
      match offset? closeBrace behind with
      | none => return none
      | some count =>
        let inner ← slice? message (start + 1) (start + count)
        return some ⟨dropSign sign inner.toList, true⟩

section Offsets

variable {message : String} {before inner after : List Char}

theorem offset?_of_not_mem (h : c ∉ message.toList) : offset? c message = none :=
  if_neg h

theorem offset?_of_first (hmessage : message.toList = a ++ c :: b) (h : c ∉ a) :
    offset? c message = some (String.utf8Len a) := by
  have hmem : c ∈ message.toList := by simp [hmessage]
  rw [offset?, if_pos hmem, hmessage, Text.takeWhile_ne_append_cons h]

theorem isValid_utf8Len (hmessage : message.toList = a ++ b) :
    String.Pos.Raw.isValid message ⟨String.utf8Len a⟩ = true := by
  rw [String.Pos.Raw.isValid_eq_true_iff, String.Pos.Raw.isValid_iff_exists_take_toList]
  refine ⟨a.length, ?_⟩
  rw [hmessage, List.take_left, String.utf8ByteSize_ofList]

/-- Before and after a part of a text are places to cut at. -/
theorem slice?_of_append (hmessage : message.toList = a ++ (b ++ cs)) :
    slice? message (String.utf8Len a) (String.utf8Len a + String.utf8Len b) =
      some (String.ofList b) := by
  have hwhole : message.toList = a ++ b ++ cs := by rw [hmessage, List.append_assoc]
  have hfirst : String.Pos.Raw.isValid message ⟨String.utf8Len a⟩ = true :=
    isValid_utf8Len hmessage
  have hlast : String.Pos.Raw.isValid message ⟨String.utf8Len a + String.utf8Len b⟩ = true := by
    rw [← String.utf8Len_append]
    exact isValid_utf8Len hwhole
  have hle : String.utf8Len a ≤ String.utf8Len a + String.utf8Len b := Nat.le_add_right _ _
  rw [slice?, if_pos ⟨hle, hfirst, hlast⟩, ← String.ofList_toList (s := message), hwhole,
    String.extract_of_valid]

theorem slice?_behind (hmessage : message.toList = a ++ b) :
    slice? message (String.utf8Len a) message.utf8ByteSize = some (String.ofList b) := by
  have hsize : message.utf8ByteSize = String.utf8Len a + String.utf8Len b := by
    rw [← String.utf8Len_toList, hmessage, String.utf8Len_append]
  have hend : message.toList = a ++ (b ++ []) := by rw [hmessage, List.append_nil]
  rw [hsize]
  exact slice?_of_append hend

-- The opening brace takes one byte, so that the offset after its own is a place to cut at.
theorem slice?_inner (h : Braces message.toList before inner after) :
    slice? message (String.utf8Len before + 1)
      (String.utf8Len before + String.utf8Len (openBrace :: inner)) =
        some (String.ofList inner) := by
  have hbrace : openBrace.utf8Size = 1 := by decide
  have hfirst : String.utf8Len before + 1 = String.utf8Len (before ++ [openBrace]) := by
    rw [String.utf8Len_append, String.utf8Len_cons, String.utf8Len_nil, hbrace]
  have hlast : String.utf8Len before + String.utf8Len (openBrace :: inner) =
      String.utf8Len (before ++ [openBrace]) + String.utf8Len inner := by
    rw [← hfirst, String.utf8Len_cons, hbrace]
    omega
  have hcut : message.toList = before ++ [openBrace] ++ (inner ++ closeBrace :: after) := by
    rw [h.eq_append, List.append_assoc]
    rfl
  rw [hfirst, hlast]
  exact slice?_of_append hcut

end Offsets

/-- Cutting the message by bytes never fails, and finds what is found by characters. -/
theorem findInBytes?_eq (sign : Char) (message : String) :
    findInBytes? sign message = some (find? sign message.toList) := by
  rw [findInBytes?, find?]
  by_cases hsign : message.toList.head? = some sign
  · rw [if_pos hsign, if_pos hsign]
  · rw [if_neg hsign, if_neg hsign]
    obtain hopen | ⟨before, behind, hcut, hbefore, hbehind⟩ | ⟨before, inner, after, hbraces⟩ :=
      not_open_or_left_open_or_braces message.toList
    · rw [offset?_of_not_mem hopen, inBraces?_of_not_open hopen]
      rfl
    · have hnone : closeBrace ∉ (String.ofList (openBrace :: behind)).toList := by
        rw [String.toList_ofList, List.mem_cons, not_or]
        exact ⟨by decide, hbehind⟩
      rw [offset?_of_first hcut hbefore, inBraces?_of_left_open hcut hbefore hbehind]
      simp only [slice?_behind hcut, offset?_of_not_mem hnone, bind, Option.bind, pure,
        Option.map_none]
    · have hbehind : (String.ofList (openBrace :: (inner ++ closeBrace :: after))).toList =
          (openBrace :: inner) ++ closeBrace :: after := String.toList_ofList
      have hinner : closeBrace ∉ openBrace :: inner := by
        rw [List.mem_cons, not_or]
        exact ⟨by decide, hbraces.not_closed⟩
      rw [offset?_of_first hbraces.eq_append hbraces.not_open, inBraces?_of_braces hbraces]
      simp only [slice?_behind hbraces.eq_append, offset?_of_first hbehind hinner,
        slice?_inner hbraces, bind, Option.bind, pure, String.toList_ofList, Option.map_some]

/-! ## What is found -/

theorem find?_of_sign (sign : Char) (text : List Char) :
    find? sign (sign :: text) = some ⟨text, false⟩ := by
  simp [find?]

theorem find?_of_no_sign (h : ∀ t, cs ≠ sign :: t) :
    find? sign cs = (inBraces? cs).map fun inner => ⟨dropSign sign inner, true⟩ := by
  have hhead : cs.head? ≠ some sign := by
    intro heq
    obtain ⟨t, ht⟩ := List.head?_eq_some_iff.mp heq
    exact h t ht
  rw [find?, if_neg hhead]

theorem find?_of_no_sign_eq_some_iff {found : Invocation} (h : ∀ t, cs ≠ sign :: t) :
    find? sign cs = some found ↔ found.isSilent = true ∧
      ∃ before inner after, Braces cs before inner after ∧ IsUnsigned sign inner found.text := by
  rw [find?_of_no_sign h, Option.map_eq_some_iff]
  constructor
  · intro hfound
    obtain ⟨inner, hinner, hfound⟩ := hfound
    obtain ⟨before, after, hbraces⟩ := inBraces?_eq_some_iff.mp hinner
    rw [← hfound]
    exact ⟨rfl, before, inner, after, hbraces, isUnsigned_iff.mpr rfl⟩
  · intro hfound
    obtain ⟨hsilent, before, inner, after, hbraces, htext⟩ := hfound
    refine ⟨inner, inBraces?_of_braces hbraces, ?_⟩
    rw [← isUnsigned_iff.mp htext, ← hsilent]

theorem find?_eq_loud_iff :
    find? sign cs = some ⟨text, false⟩ ↔ cs = sign :: text := by
  by_cases hsign : ∃ t, cs = sign :: t
  · obtain ⟨t, ht⟩ := hsign
    rw [ht, find?_of_sign]
    simp
  · rw [not_exists] at hsign
    rw [find?_of_no_sign_eq_some_iff hsign]
    simp [hsign]

theorem find?_eq_silent_iff :
    find? sign cs = some ⟨text, true⟩ ↔ (∀ t, cs ≠ sign :: t) ∧
      ∃ before inner after, Braces cs before inner after ∧ IsUnsigned sign inner text := by
  by_cases hsign : ∃ t, cs = sign :: t
  · obtain ⟨t, ht⟩ := hsign
    rw [ht, find?_of_sign]
    simp
  · rw [not_exists] at hsign
    rw [find?_of_no_sign_eq_some_iff hsign]
    simp [hsign]

theorem find?_eq_none_iff :
    find? sign cs = none ↔
      (∀ t, cs ≠ sign :: t) ∧ ∀ before inner after, ¬Braces cs before inner after := by
  by_cases hsign : ∃ t, cs = sign :: t
  · obtain ⟨t, ht⟩ := hsign
    rw [ht, find?_of_sign]
    simp
  · rw [not_exists] at hsign
    rw [find?_of_no_sign hsign, Option.map_eq_none_iff, inBraces?_eq_none_iff]
    exact (and_iff_right hsign).symm

/-- A message that begins with the sign is a command behind it. Any other is a silent command if it
has braces: what stands in them, without a sign in front. There is one way to cut it there, and all
else is no command. Cut by bytes the message yields the same. -/
theorem find?_sign_or_braces (sign : Char) (message : String) :
    let cs := message.toList
    (∀ text, find? sign cs = some ⟨text, false⟩ ↔ cs = sign :: text) ∧
    (∀ text, find? sign cs = some ⟨text, true⟩ ↔ (∀ t, cs ≠ sign :: t) ∧
      ∃ before inner after, Braces cs before inner after ∧ IsUnsigned sign inner text) ∧
    (find? sign cs = none ↔
      (∀ t, cs ≠ sign :: t) ∧ ∀ before inner after, ¬Braces cs before inner after) ∧
    (∀ before inner after before' inner' after', Braces cs before inner after →
      Braces cs before' inner' after' → before = before' ∧ inner = inner' ∧ after = after') ∧
    findInBytes? sign message = some (find? sign cs) := by
  intro cs
  refine ⟨fun _ => find?_eq_loud_iff, fun _ => find?_eq_silent_iff, find?_eq_none_iff, ?_,
    findInBytes?_eq sign message⟩
  intro before inner after before' inner' after' h h'
  exact h.unique h'

/-- Behind a character of two bytes and before a second closing brace the command is found, without
its sign. -/
theorem find?_sign_or_braces_ping :
    let message := "é\x7b!ping\x7d\x7d"
    (∀ t, message.toList ≠ '!' :: t) ∧
      Braces message.toList ['é'] "!ping".toList [closeBrace] ∧
      find? '!' message.toList = some ⟨"ping".toList, true⟩ ∧
      findInBytes? '!' message = some (some ⟨"ping".toList, true⟩) := by
  intro message
  have hcs : message.toList = 'é' :: openBrace :: ("!ping".toList ++ [closeBrace, closeBrace]) := by
    decide +revert
  have hsign : ∀ t, message.toList ≠ '!' :: t := by
    intro t ht
    rw [hcs, List.cons.injEq] at ht
    exact absurd ht.1 (by decide)
  have hbraces : Braces message.toList ['é'] "!ping".toList [closeBrace] :=
    ⟨hcs, by decide, by decide⟩
  obtain ⟨-, hsilent, -, -, hbytes⟩ := find?_sign_or_braces '!' message
  have hfound : find? '!' message.toList = some ⟨"ping".toList, true⟩ :=
    (hsilent "ping".toList).mpr ⟨hsign, ['é'], "!ping".toList, [closeBrace], hbraces, .inl rfl⟩
  rw [hfound] at hbytes
  exact ⟨hsign, hbraces, hfound, hbytes⟩

end ChatWarden.Invocation
