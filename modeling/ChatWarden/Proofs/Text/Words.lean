import ChatWarden.Text.Lines

/-!
# How cuts of a text compose

The last piece of one text and the first piece of the next become one piece of both together
(`pieces_append`). The words of a text therefore split at every blank, and neither the cut into
lines nor blanks at the end change them.
-/

namespace ChatWarden.Text

variable {isSep : Char → Bool} {a b cs : List Char} {c : Char}

/-! ## Pieces -/

theorem exists_pieces_eq_cons (isSep : Char → Bool) (cs : List Char) :
    ∃ first tail, pieces isSep cs = first :: tail :=
  List.exists_cons_of_ne_nil (pieces_ne_nil isSep cs)

theorem exists_pieces_eq_append (isSep : Char → Bool) (cs : List Char) :
    ∃ init last, pieces isSep cs = init ++ [last] :=
  ⟨_, _, (List.dropLast_concat_getLast (pieces_ne_nil isSep cs)).symm⟩

theorem pieces_cons_of_sep (hc : isSep c = true) :
    pieces isSep (c :: cs) = [] :: pieces isSep cs := by
  simp [pieces, hc]

theorem pieces_cons_of_not_sep {first : List Char} {tail : List (List Char)}
    (hc : isSep c = false) (hp : pieces isSep cs = first :: tail) :
    pieces isSep (c :: cs) = (c :: first) :: tail := by
  simp [pieces, hc, hp]

theorem pieces_append {init tail : List (List Char)} {last first : List Char}
    (ha : pieces isSep a = init ++ [last]) (hb : pieces isSep b = first :: tail) :
    pieces isSep (a ++ b) = init ++ (last ++ first) :: tail := by
  induction a generalizing init last with
  | nil =>
      -- The empty text is one empty piece.
      have hn : init ++ [last] = [] ++ [[]] := ha.symm
      obtain ⟨rfl, hl⟩ := List.append_inj' hn rfl
      cases hl
      simpa using hb
  | cons c a ih =>
      obtain ⟨p, ps, hp⟩ := exists_pieces_eq_cons isSep a
      by_cases hc : isSep c
      · rw [pieces_cons_of_sep hc] at ha
        cases init with
        | nil =>
            have := (List.cons.inj ha).2
            exact absurd this (pieces_ne_nil isSep a)
        | cons i init =>
            obtain ⟨rfl, hi⟩ := List.cons.inj ha
            rw [List.cons_append, pieces_cons_of_sep hc, ih hi]
            rfl
      · have hc : isSep c = false := by simpa using hc
        rw [pieces_cons_of_not_sep hc hp] at ha
        cases init with
        | nil =>
            obtain ⟨rfl, rfl⟩ := List.cons.inj ha
            have hp : pieces isSep a = [] ++ [p] := hp
            exact pieces_cons_of_not_sep hc (ih hp)
        | cons i init =>
            obtain ⟨rfl, rfl⟩ := List.cons.inj ha
            have hp : pieces isSep a = p :: init ++ [last] := hp
            exact pieces_cons_of_not_sep hc (ih hp)

theorem pieces_append_sep (hc : isSep c = true) :
    pieces isSep (a ++ c :: b) = pieces isSep a ++ pieces isSep b := by
  obtain ⟨init, last, ha⟩ := exists_pieces_eq_append isSep a
  rw [pieces_append ha (pieces_cons_of_sep hc), ha]
  simp

theorem pieces_of_forall_not_sep (h : ∀ c ∈ cs, isSep c = false) : pieces isSep cs = [cs] := by
  induction cs with
  | nil => rfl
  | cons c cs ih =>
      have hc := h c (by simp)
      have := ih fun d hd => h d (by simp [hd])
      exact pieces_cons_of_not_sep hc this

theorem not_sep_of_mem_pieces {p : List Char} (hp : p ∈ pieces isSep cs) (hc : c ∈ p) :
    isSep c = false := by
  have hm : c ∈ (pieces isSep cs).flatten := List.mem_flatten.mpr ⟨p, hp, hc⟩
  rw [flatten_pieces] at hm
  simpa using (List.mem_filter.mp hm).2

/-- Pieces of pieces: a coarser cut before a finer one changes nothing. -/
theorem flatMap_pieces_pieces {isFine : Char → Bool} (h : ∀ c, isSep c = true → isFine c = true)
    (cs : List Char) : (pieces isSep cs).flatMap (pieces isFine) = pieces isFine cs := by
  induction cs with
  | nil => rfl
  | cons c cs ih =>
      by_cases hc : isSep c
      · rw [pieces_cons_of_sep hc, pieces_cons_of_sep (h c hc), List.flatMap_cons, ih]
        rfl
      · have hc : isSep c = false := by simpa using hc
        obtain ⟨p, ps, hp⟩ := exists_pieces_eq_cons isSep cs
        obtain ⟨q, qs, hq⟩ := exists_pieces_eq_cons isFine p
        rw [pieces_cons_of_not_sep hc hp, List.flatMap_cons]
        rw [hp, List.flatMap_cons, hq] at ih
        by_cases hf : isFine c
        · rw [pieces_cons_of_sep hf, pieces_cons_of_sep hf, hq, ← ih]
          rfl
        · have hf : isFine c = false := by simpa using hf
          rw [pieces_cons_of_not_sep hf hq, pieces_cons_of_not_sep hf ih.symm]
          rfl

/-- A text has no separator, or it has a first one and a text after that. -/
@[elab_as_elim]
theorem cut_induction (isSep : Char → Bool) {motive : List Char → Prop}
    (last : ∀ a, (∀ c ∈ a, isSep c = false) → motive a)
    (step : ∀ a c b, (∀ d ∈ a, isSep d = false) → isSep c = true → motive b → motive (a ++ c :: b))
    (cs : List Char) : motive cs := by
  -- What has been passed without a separator stands before the text.
  suffices h : ∀ a, (∀ c ∈ a, isSep c = false) → motive (a ++ cs) from h [] (by simp)
  induction cs with
  | nil => exact fun a ha => last (a ++ []) (by simpa using ha)
  | cons c cs ih =>
      intro a ha
      cases hc : isSep c with
      | true => exact step a c cs ha hc (ih [] (by simp))
      | false =>
          have hpassed : ∀ d ∈ a ++ [c], isSep d = false := by
            intro d hd
            rcases List.mem_append.mp hd with hd | hd
            · exact ha d hd
            · rwa [List.mem_singleton.mp hd]
          simpa using ih (a ++ [c]) hpassed

/-! ## Up to a character -/

theorem differs_of_not_mem (h : c ∉ a) : ∀ d ∈ a, (d != c) = true := by
  intro d hd
  rw [bne_iff_ne]
  intro heq
  exact h (heq ▸ hd)

theorem takeWhile_ne_append_cons (h : c ∉ a) : (a ++ c :: b).takeWhile (· != c) = a := by
  rw [List.takeWhile_append_of_pos (differs_of_not_mem h), List.takeWhile_cons_of_neg (by simp),
    List.append_nil]

theorem dropWhile_ne_append_cons (h : c ∉ a) :
    (a ++ c :: b).dropWhile (· != c) = c :: b := by
  rw [List.dropWhile_append_of_pos (differs_of_not_mem h), List.dropWhile_cons_of_neg (by simp)]

theorem dropWhile_ne_of_not_mem (h : c ∉ a) : a.dropWhile (· != c) = [] := by
  have hall : (a ++ []).dropWhile (· != c) = [].dropWhile (· != c) :=
    List.dropWhile_append_of_pos (differs_of_not_mem h)
  rwa [List.append_nil] at hall

/-! ## Words -/

@[simp] theorem words_nil : words [] = [] := rfl

theorem words_append_blank (hc : isBlank c = true) :
    words (a ++ c :: b) = words a ++ words b := by
  rw [words, pieces_append_sep hc, List.filter_append]
  rfl

theorem words_of_forall_not_blank (hne : cs ≠ []) (h : ∀ c ∈ cs, isBlank c = false) :
    words cs = [cs] := by
  rw [words, pieces_of_forall_not_sep h]
  simpa using hne

theorem not_blank_of_mem_words {w : List Char} (hw : w ∈ words cs) (hc : c ∈ w) :
    isBlank c = false :=
  not_sep_of_mem_pieces (List.mem_filter.mp hw).1 hc

theorem words_append_blanks (hb : ∀ c ∈ b, isBlank c = true) : words (a ++ b) = words a := by
  induction b generalizing a with
  | nil => rw [List.append_nil]
  | cons c b ih =>
      have hc := hb c (by simp)
      have ht : ∀ d ∈ b, isBlank d = true := fun d hd => hb d (by simp [hd])
      have := ih (a := []) ht
      rw [words_append_blank hc]
      simpa using this

theorem exists_blanks_trimRight (cs : List Char) :
    ∃ blanks, (∀ c ∈ blanks, isBlank c = true) ∧ trimRight cs ++ blanks = cs := by
  refine ⟨(cs.reverse.takeWhile isBlank).reverse, fun c hc => ?_, ?_⟩
  · have hall := List.all_takeWhile (p := isBlank) (l := cs.reverse)
    exact List.all_eq_true.mp hall c (List.mem_reverse.mp hc)
  · rw [trimRight, ← List.reverse_append, List.takeWhile_append_dropWhile, List.reverse_reverse]

theorem words_trimRight (cs : List Char) : words (trimRight cs) = words cs := by
  obtain ⟨blanks, hb, hcs⟩ := exists_blanks_trimRight cs
  have := words_append_blanks (a := trimRight cs) hb
  rw [← this, hcs]

theorem words_dropReturn (cs : List Char) : words (dropReturn cs) = words cs := by
  unfold dropReturn
  split
  · rename_i h
    obtain ⟨init, rfl⟩ := List.getLast?_eq_some_iff.mp h
    have hr : isBlank '\r' = true := by decide
    rw [List.dropLast_concat, words_append_blank hr]
    simp
  · rfl

/-- No word goes over the end of a line. -/
theorem flatMap_words_lines (cs : List Char) : (lines cs).flatMap words = words cs := by
  have hn : ∀ c, (c == '\n') = true → isBlank c = true := by
    intro c hc
    rw [eq_of_beq hc]
    decide
  have hw : (pieces (· == '\n') cs).flatMap words = words cs := by
    rw [words, ← flatMap_pieces_pieces hn, List.filter_flatMap]
    rfl
  obtain ⟨init, last, hp⟩ := exists_pieces_eq_append (· == '\n') cs
  have hi : (init.map dropReturn).flatMap words = init.flatMap words := by
    rw [List.flatMap_map]
    exact congrArg init.flatMap (funext words_dropReturn)
  rw [hp, List.flatMap_append] at hw
  rw [← hw, ← hi]
  cases last with
  | nil => simp [lines, hp]
  | cons c last => simp [lines, hp]

/-- A text without a line feed is one line, or none if it is empty. -/
theorem lines_of_no_feed (h : ∀ c ∈ cs, (c == '\n') = false) :
    lines cs = if cs = [] then [] else [cs] := by
  rw [lines, pieces_of_forall_not_sep h]
  cases cs <;> rfl

/-- The first line of a text goes up to the first line feed. -/
theorem lines_append_line (ha : ∀ c ∈ a, (c == '\n') = false) :
    lines (a ++ '\n' :: b) = dropReturn a :: lines b := by
  have hp : pieces (· == '\n') (a ++ '\n' :: b) = a :: pieces (· == '\n') b := by
    rw [pieces_append_sep rfl, pieces_of_forall_not_sep ha]
    rfl
  obtain ⟨init, last, hb⟩ := exists_pieces_eq_append (· == '\n') b
  rw [lines, lines, hp, hb, ← List.cons_append, List.dropLast_concat, List.dropLast_concat,
    List.getLast?_concat, List.getLast?_concat]
  cases last <;> rfl

end ChatWarden.Text
