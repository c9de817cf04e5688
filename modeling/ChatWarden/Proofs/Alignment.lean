import ChatWarden.Proofs.Formatting
import ChatWarden.Proofs.Text.Words

/-!
# Aligned tables

A line of cells that fit their widths is aligned (`Output.Table.Fits.aligned`): each cell begins
where its column does, and all else is spaces. The rule under the headers is such a line of dashes
(`Output.Table.rule_eq`). So every table that can be formatted has all its lines aligned
(`Output.Table.format?_aligned`).
-/

namespace ChatWarden.Output.Table

variable {ws : List Nat} {cells : List String} {starts : Nat → Nat}

/-! ## Where the cells stand -/

/-- Where a column begins: behind the columns before it, each of which two spaces follow. -/
def startOf (width : Nat → Nat) : Nat → Nat
  | 0 => 0
  | j + 1 => startOf width j + (width j + 2)

theorem startOf_succ (width : Nat → Nat) (j : Nat) :
    startOf width (j + 1) = width 0 + 2 + startOf (fun k => width (k + 1)) j := by
  induction j with
  | zero => simp [startOf]
  | succ j ih =>
      have hlast : startOf (fun k => width (k + 1)) (j + 1) =
          startOf (fun k => width (k + 1)) j + (width (j + 1) + 2) := rfl
      rw [startOf, ih]
      omega

/-- Whether each cell stands in the text where its column begins, and all else is spaces. -/
structure Aligned (starts : Nat → Nat) (cells : List String) (text : List Char) : Prop where
  cell : ∀ j c, cells[j]? = some c → (text.drop (starts j)).take c.length = c.toList
  space : ∀ i x, text[i]? = some x →
    x = ' ' ∨ ∃ j c, cells[j]? = some c ∧ starts j ≤ i ∧ i < starts j + c.length

theorem aligned_nil (starts : Nat → Nat) : Aligned starts [] [] where
  cell := by
    intro j c hc
    simp at hc
  space := by
    intro i x hx
    simp at hx

/-- A cell and spaces may be put in front; the columns behind move by as much. -/
theorem Aligned.cons {starts' : Nat → Nat} {text : List Char} {c : String} {gap : Nat}
    (h : Aligned starts cells text) (hzero : starts' 0 = 0)
    (hsucc : ∀ j < cells.length, starts' (j + 1) = c.length + gap + starts j) :
    Aligned starts' (c :: cells) (c.toList ++ (List.replicate gap ' ' ++ text)) where
  cell := by
    intro j d hd
    cases j with
    | zero =>
        rw [List.getElem?_cons_zero, Option.some.injEq] at hd
        rw [hzero, List.drop_zero, ← hd, ← String.length_toList, List.take_left]
    | succ j =>
        rw [List.getElem?_cons_succ] at hd
        have hj : j < cells.length := (List.getElem?_eq_some_iff.mp hd).1
        have hfront : (c.toList ++ List.replicate gap ' ').length = c.length + gap := by
          rw [List.length_append, String.length_toList, List.length_replicate]
        rw [hsucc j hj, ← List.append_assoc, ← List.drop_drop, ← hfront, List.drop_left]
        exact h.cell j d hd
  space := by
    intro i x hx
    by_cases hcell : i < c.length
    · right
      exact ⟨0, c, rfl, by omega, by omega⟩
    · have hlength := String.length_toList (s := c)
      rw [List.getElem?_append_right (by omega), hlength] at hx
      by_cases hgap : i < c.length + gap
      · left
        rw [List.getElem?_append_left (by rw [List.length_replicate]; omega)] at hx
        exact List.eq_of_mem_replicate (List.mem_of_getElem? hx)
      · rw [List.getElem?_append_right (by rw [List.length_replicate]; omega),
          List.length_replicate] at hx
        cases h.space _ x hx with
        | inl hspace => exact .inl hspace
        | inr hin =>
            obtain ⟨j, d, hd, hle, hlt⟩ := hin
            have hj : j < cells.length := (List.getElem?_eq_some_iff.mp hd).1
            have hstart := hsucc j hj
            exact .inr ⟨j + 1, d, hd, by omega, by omega⟩

theorem toList_pushn (text : String) (c : Char) (n : Nat) :
    (text.pushn c n).toList = text.toList ++ List.replicate n c := by
  induction n with
  | zero => simp [String.pushn, Nat.repeat]
  | succ n ih =>
      have hpush : text.pushn c (n + 1) = (text.pushn c n).push c := rfl
      rw [hpush, String.toList_push, ih, List.replicate_succ', List.append_assoc]

theorem length_pushn (text : String) (c : Char) (n : Nat) :
    (text.pushn c n).length = text.length + n := by
  rw [← String.length_toList, toList_pushn, List.length_append, List.length_replicate,
    String.length_toList]

theorem toList_pad (w : Nat) (c : String) :
    (pad w c).toList = c.toList ++ List.replicate (w - c.length) ' ' :=
  toList_pushn c ' ' (w - c.length)

theorem Fits.aligned (h : Fits ws cells) :
    Aligned (startOf fun k => ws.getD k 0) cells
      ("  ".intercalate (List.zipWith pad ws cells)).toList := by
  induction h with
  | nil => simpa using aligned_nil _
  | @cons w ws c cs hc hcs ih =>
      cases hcs with
      | nil =>
          have hlast : Aligned (startOf fun k => (w :: ws).getD k 0) [c]
              (c.toList ++ (List.replicate (w - c.length) ' ' ++ [])) :=
            (aligned_nil (startOf fun k => ws.getD k 0)).cons rfl (by simp)
          rw [List.append_nil, ← toList_pad] at hlast
          simpa using hlast
      | @cons v ws d ds hd hds =>
          have hstart : ∀ j < (d :: ds).length,
              startOf (fun k => (w :: v :: ws).getD k 0) (j + 1) =
                c.length + (w - c.length + 2) + startOf (fun k => (v :: ws).getD k 0) j := by
            intro j _
            rw [startOf_succ]
            simp only [List.getD_cons_zero, List.getD_cons_succ]
            omega
          have hmore := ih.cons rfl hstart
          rw [← List.replicate_append_replicate, List.append_assoc, ← List.append_assoc,
            ← toList_pad] at hmore
          have htext : ("  ".intercalate (List.zipWith pad (w :: v :: ws) (c :: d :: ds))).toList =
              (pad w c).toList ++ (List.replicate 2 ' ' ++
                ("  ".intercalate (List.zipWith pad (v :: ws) (d :: ds))).toList) := by
            simp
          rw [htext]
          exact hmore

/-! ## The lines of a table -/

/-- As many dashes as the column is wide. -/
def dashes (width : Nat) : String :=
  "".pushn '-' width

theorem length_dashes (width : Nat) : (dashes width).length = width := by
  rw [dashes, length_pushn]
  exact Nat.zero_add width

theorem fits_dashes (ws : List Nat) : Fits ws (ws.map dashes) := by
  induction ws with
  | nil => exact .nil
  | cons w ws ih => exact .cons (Nat.le_of_eq (length_dashes w)) ih

/-- The rule is a line of dashes, all of which fill their columns. -/
theorem rule_eq (ws : List Nat) :
    rule ws = "  ".intercalate (List.zipWith pad ws (ws.map dashes)) := by
  have hfull : ∀ w, pad w (dashes w) = dashes w := by
    intro w
    rw [pad, length_dashes, Nat.sub_self]
    rfl
  rw [rule, List.zipWith_map_right, List.zipWith_self]
  simp only [hfull]
  rfl

/-- The cells of every line stand where their columns begin; only blanks at its end are missing. -/
theorem aligned_line {headers : List String} {rows : List (List String)}
    (h : cells ∈ headers :: rows) :
    ∃ blanks, (∀ c ∈ blanks, Text.isBlank c = true) ∧
      Aligned (startOf (columnWidth (headers :: rows))) cells
        ((line (widths headers rows) cells).toList ++ blanks) := by
  have hpadded := (fits_widths h).aligned
  rw [funext (getD_widths headers rows)] at hpadded
  obtain ⟨blanks, hblanks, htrim⟩ := Text.exists_blanks_trimRight
    ("  ".intercalate (List.zipWith pad (widths headers rows) cells)).toList
  refine ⟨blanks, hblanks, ?_⟩
  rw [line, Text.trimEnd, String.toList_ofList, htrim]
  exact hpadded

theorem aligned_rule (headers : List String) (rows : List (List String)) :
    let lines := headers :: rows
    Aligned (startOf (columnWidth lines))
      ((List.range (columnCount lines)).map fun k => dashes (columnWidth lines k))
      (rule (widths headers rows)).toList := by
  intro lines
  have hdashes : (List.range (columnCount lines)).map (fun k => dashes (columnWidth lines k)) =
      (widths headers rows).map dashes := by
    rw [widths_eq, List.map_map]
    rfl
  have haligned := (fits_dashes (widths headers rows)).aligned
  rw [funext (getD_widths headers rows)] at haligned
  rw [hdashes, rule_eq]
  exact haligned

/-- A table is drawn without looking up a width that there is not, and it is drawn exactly if no
cell is longer than formatting can fill up. All lines of a table that is drawn are aligned: the
cells of each column begin at one offset, and so do the dashes of the rule, of which there are as
many as the longest cell has characters. Only blanks at the end of a line are missing. -/
theorem format?_aligned (headers : List String) (rows : List (List String)) :
    let lines := headers :: rows
    let ws := widths headers rows
    let start := startOf (columnWidth lines)
    drawByNumber headers rows ≠ .error .noWidth ∧
    drawByNumber headers rows = orTooWide (format? headers rows) ∧
    (Output.table headers rows).format? = (format? headers rows).map some ∧
    (format? headers rows = .none ↔ ∃ cells ∈ lines, ∃ c ∈ cells, widthLimit < c.length) ∧
    ∀ text, format? headers rows = some text →
      (Output.table headers rows).render? = some text ∧
      text = "\n".intercalate (line ws headers :: rule ws :: rows.map (line ws)) ∧
      (∀ cells ∈ lines, ∃ blanks, (∀ c ∈ blanks, Text.isBlank c = true) ∧
        Aligned start cells ((line ws cells).toList ++ blanks)) ∧
      Aligned start ((List.range (columnCount lines)).map fun k => dashes (columnWidth lines k))
        (rule ws).toList := by
  intro lines ws start
  have hdraw := drawByNumber_eq headers rows
  refine ⟨?inRange, hdraw, rfl, format?_eq_none_iff headers rows, ?drawn⟩
  case inRange =>
    rw [hdraw]
    cases format? headers rows with
    | none => nofun
    | some text => nofun
  case drawn =>
    intro text htext
    have hrender := eq_render_of_format? htext
    refine ⟨congrArg some hrender.symm, hrender, ?_, aligned_rule headers rows⟩
    intro cells hcells
    exact aligned_line hcells

/-- In a row that is longer than the headers, the second cell stands behind the first header. -/
theorem format?_aligned_longerRow :
    let lines := [["Class"], ["Mus", "3"]]
    format? ["Class"] [["Mus", "3"]] = some "Class\n-----  -\nMus    3" ∧
      ["Mus", "3"] ∈ lines ∧ ∃ blanks : List Char,
        (((line (widths ["Class"] [["Mus", "3"]]) ["Mus", "3"]).toList ++ blanks).drop 7).take 1 =
          ['3'] := by
  intro lines
  have hformat : format? ["Class"] [["Mus", "3"]] = some "Class\n-----  -\nMus    3" := by
    decide
  have hmem : ["Mus", "3"] ∈ lines := by simp [lines]
  obtain ⟨-, -, -, -, hdrawn⟩ := format?_aligned ["Class"] [["Mus", "3"]]
  obtain ⟨-, -, hcells, -⟩ := hdrawn _ hformat
  obtain ⟨blanks, -, haligned⟩ := hcells ["Mus", "3"] hmem
  have hstart : startOf (columnWidth lines) 1 = 7 := by decide
  have hcell := haligned.cell 1 "3" rfl
  rw [hstart] at hcell
  exact ⟨hformat, hmem, blanks, hcell⟩

/-- A header of one character more than formatting can fill up leaves nothing of the table. -/
theorem format?_wideHeader :
    let header := "".pushn 'a' 65536
    (Output.table [header] []).format? = .none ∧
      drawByNumber [header] [] = .error .tooWide := by
  intro header
  have hlong : widthLimit < header.length := by
    rw [length_pushn]
    decide
  have hnone : format? [header] [] = .none :=
    format?_of_lt List.mem_cons_self List.mem_cons_self hlong
  refine ⟨?_, ?_⟩
  · change (format? [header] []).map some = .none
    rw [hnone]
    rfl
  · rw [drawByNumber_eq, hnone]
    rfl

/-- A row may be longer than the headers, or empty. -/
example : format? ["Class"] [["Mus", "3"], []] = some "Class\n-----  -\nMus    3\n" := by
  decide

end ChatWarden.Output.Table
