import Mathlib.Data.List.GetD
import ChatWarden.Output

/-!
# Formatting tables

The widths of a table grow line by line and stay wide enough for the lines before
(`Output.Table.Fits`), so that in the end there is a width for each column of the longest line, and
it is the length of the longest cell of the column (`Output.Table.widths_eq`). So no width is
missing where the widths are looked up by number (`Output.Table.drawByNumber_eq`), and formatting
breaks off exactly where a cell is longer than it can fill up (`Output.Table.format?_eq_none_iff`).
-/

namespace ChatWarden.Output

namespace Table

variable {α β : Type} {ws : List Nat} {cells : List String}

/-! ## Columns -/

/-- The cells of a column from top to bottom. A line that is too short has none. -/
def column (lines : List (List String)) (k : Nat) : List String :=
  lines.filterMap (·[k]?)

/-- The length of the longest cell of a column. -/
def columnWidth (lines : List (List String)) (k : Nat) : Nat :=
  ((column lines k).map String.length).foldr max 0

/-- The number of columns: the length of the longest line. -/
def columnCount (lines : List (List String)) : Nat :=
  (lines.map List.length).foldr max 0

theorem columnWidth_cons (cells : List String) (lines : List (List String)) (k : Nat) :
    columnWidth (cells :: lines) k =
      max ((cells.map String.length).getD k 0) (columnWidth lines k) := by
  unfold columnWidth column
  cases hcell : cells[k]? with
  | none => simp [hcell]
  | some c => simp [hcell]

/-! ## Widths -/

theorem length_widen (ws : List Nat) (cells : List String) :
    (widen ws cells).length = max ws.length cells.length := by
  induction cells generalizing ws with
  | nil => simp [widen]
  | cons c cs ih =>
      cases ws with
      | nil =>
          have hrest := ih []
          simp [widen, hrest]
      | cons w ws =>
          have hrest := ih ws
          simp [widen, hrest]

theorem getD_widen (ws : List Nat) (cells : List String) (k : Nat) :
    (widen ws cells).getD k 0 = max (ws.getD k 0) ((cells.map String.length).getD k 0) := by
  induction cells generalizing ws k with
  | nil => simp [widen]
  | cons c cs ih =>
      cases k with
      | zero => cases ws <;> simp [widen]
      | succ k =>
          cases ws with
          | nil => simpa [widen] using ih [] k
          | cons w ws => simpa [widen] using ih ws k

theorem length_foldl_widen (ws : List Nat) (lines : List (List String)) :
    (lines.foldl widen ws).length = max ws.length (columnCount lines) := by
  induction lines generalizing ws with
  | nil => exact (Nat.max_zero _).symm
  | cons cells lines ih =>
      change (lines.foldl widen (widen ws cells)).length =
        max ws.length (max cells.length (columnCount lines))
      rw [ih, length_widen, Nat.max_assoc]

theorem getD_foldl_widen (ws : List Nat) (lines : List (List String)) (k : Nat) :
    (lines.foldl widen ws).getD k 0 = max (ws.getD k 0) (columnWidth lines k) := by
  induction lines generalizing ws with
  | nil => exact (Nat.max_zero _).symm
  | cons cells lines ih =>
      rw [List.foldl_cons, ih, getD_widen, columnWidth_cons, Nat.max_assoc]

theorem getD_widths (headers : List String) (rows : List (List String)) (k : Nat) :
    (widths headers rows).getD k 0 = columnWidth (headers :: rows) k := by
  have hfold : (widths headers rows).getD k 0 = max 0 (columnWidth (headers :: rows) k) :=
    getD_foldl_widen [] (headers :: rows) k
  rwa [Nat.zero_max] at hfold

/-- There is one width for each column, which is the length of its longest cell. -/
theorem widths_eq (headers : List String) (rows : List (List String)) :
    widths headers rows =
      (List.range (columnCount (headers :: rows))).map (columnWidth (headers :: rows)) := by
  have hlength : (widths headers rows).length = columnCount (headers :: rows) := by
    have hfold := length_foldl_widen [] (headers :: rows)
    rwa [List.length_nil, Nat.zero_max] at hfold
  apply List.ext_getElem
  · rw [hlength, List.length_map, List.length_range]
  · intro k hk _
    rw [← List.getD_eq_getElem _ 0 hk, getD_widths, List.getElem_map, List.getElem_range]

/-- Whether there is a width for each cell and no cell is longer than its width. -/
inductive Fits : List Nat → List String → Prop
  | nil {ws : List Nat} : Fits ws []
  | cons {w : Nat} {ws : List Nat} {c : String} {cs : List String} :
    c.length ≤ w → Fits ws cs → Fits (w :: ws) (c :: cs)

theorem fits_widen (ws : List Nat) (cells : List String) : Fits (widen ws cells) cells := by
  induction cells generalizing ws with
  | nil => exact .nil
  | cons c cs ih =>
      cases ws with
      | nil => exact .cons (Nat.le_refl _) (ih [])
      | cons w ws => exact .cons (Nat.le_max_right _ _) (ih ws)

theorem Fits.widen (h : Fits ws cells) (others : List String) :
    Fits (widen ws others) cells := by
  induction h generalizing others with
  | nil => exact .nil
  | cons hc hcs ih =>
      cases others with
      | nil => exact .cons hc hcs
      | cons o others => exact .cons (Nat.le_trans hc (Nat.le_max_left _ _)) (ih others)

theorem Fits.foldl_widen (h : Fits ws cells) (lines : List (List String)) :
    Fits (lines.foldl Table.widen ws) cells := by
  induction lines generalizing ws with
  | nil => exact h
  | cons others lines ih => exact ih (h.widen others)

theorem fits_foldl_widen {lines : List (List String)} (ws : List Nat) (h : cells ∈ lines) :
    Fits (lines.foldl widen ws) cells := by
  induction lines generalizing ws with
  | nil => contradiction
  | cons others lines ih =>
      cases h with
      | head => exact (fits_widen ws cells).foldl_widen lines
      | tail _ h => exact ih (widen ws others) h

theorem fits_widths {headers : List String} {rows : List (List String)}
    (h : cells ∈ headers :: rows) : Fits (widths headers rows) cells :=
  fits_foldl_widen [] h

/-! ## Widths by number -/

/-- The widths after the cell with this number. A column that is new comes to the end. -/
def widenAt (ws : List Nat) (numbered : String × Nat) : List Nat :=
  let (cell, k) := numbered
  match ws[k]? with
  | some w => ws.set k (max w cell.length)
  | .none => ws ++ [cell.length]

/-- The widths after a line whose cells are counted off. -/
def widenByNumber (ws : List Nat) (cells : List String) : List Nat :=
  cells.zipIdx.foldl widenAt ws

/-- Why a table is not drawn. -/
inductive Hitch where
  /-- There is no width with the number of a cell. -/
  | noWidth
  /-- A width is beyond what formatting can fill up. -/
  | tooWide
deriving DecidableEq

/-- A cell filled up to the width with its number. -/
def padAt (ws : List Nat) (numbered : String × Nat) : Except Hitch String := do
  let (cell, k) := numbered
  match ws[k]? with
  | some w => if w ≤ widthLimit then return pad w cell else throw .tooWide
  | .none => throw .noWidth

def lineByNumber (ws : List Nat) (cells : List String) : Except Hitch String := do
  let padded ← cells.zipIdx.mapM (padAt ws)
  return Text.trimEnd ("  ".intercalate padded)

/-- The table with each width found by its number. -/
def drawByNumber (headers : List String) (rows : List (List String)) : Except Hitch String := do
  let ws := rows.foldl widenByNumber (headers.map String.length)
  let top ← lineByNumber ws headers
  let body ← rows.mapM (lineByNumber ws)
  return "\n".intercalate (top :: rule ws :: body)

/-- What formatting leaves out is too wide. -/
def orTooWide : Option α → Except Hitch α
  | some a => .ok a
  | .none => .error .tooWide

theorem orTooWide_bind (o : Option α) (f : α → Option β) :
    orTooWide (o >>= f) = orTooWide o >>= fun a => orTooWide (f a) := by
  cases o with
  | none => rfl
  | some a => rfl

theorem mapM_orTooWide {f : α → Option β} {g : α → Except Hitch β} {l : List α}
    (h : ∀ a ∈ l, g a = orTooWide (f a)) : l.mapM g = orTooWide (l.mapM f) := by
  induction l with
  | nil => rfl
  | cons a l ih =>
      have hfirst := h a List.mem_cons_self
      have hrest := ih fun b hb => h b (List.mem_cons_of_mem a hb)
      rw [List.mapM_cons, List.mapM_cons, hfirst, hrest]
      simp only [orTooWide_bind]
      rfl

-- The widths of the cells that have been passed stand before those that the others may change.
theorem foldl_widenAt (passed ws : List Nat) (cells : List String) :
    (cells.zipIdx passed.length).foldl widenAt (passed ++ ws) = passed ++ widen ws cells := by
  induction cells generalizing passed ws with
  | nil => simp [widen]
  | cons c cs ih =>
      rw [List.zipIdx_cons, List.foldl_cons]
      cases ws with
      | nil =>
          have hnew : widenAt (passed ++ []) (c, passed.length) =
              (passed ++ [c.length]) ++ [] := by
            simp [widenAt]
          have hrest := ih (passed ++ [c.length]) []
          rw [List.length_append, List.length_singleton, ← hnew] at hrest
          rw [hrest, List.append_assoc]
          rfl
      | cons w ws =>
          have hset : widenAt (passed ++ w :: ws) (c, passed.length) =
              (passed ++ [max w c.length]) ++ ws := by
            simp [widenAt]
          have hrest := ih (passed ++ [max w c.length]) ws
          rw [List.length_append, List.length_singleton, ← hset] at hrest
          rw [hrest, List.append_assoc]
          rfl

theorem widenByNumber_eq (ws : List Nat) (cells : List String) :
    widenByNumber ws cells = widen ws cells :=
  foldl_widenAt [] ws cells

theorem widen_nil_eq_map (cells : List String) : widen [] cells = cells.map String.length := by
  induction cells with
  | nil => rfl
  | cons c cs ih => rw [widen, ih, List.map_cons]

theorem padAt_append (passed ws : List Nat) (w : Nat) (c : String) :
    padAt (passed ++ w :: ws) (c, passed.length) = orTooWide (pad? w c) := by
  have hw : (passed ++ w :: ws)[passed.length]? = some w := by simp
  unfold padAt pad?
  simp only [hw]
  split
  · rfl
  · rfl

theorem Fits.mapM_padAt (h : Fits ws cells) (passed : List Nat) :
    (cells.zipIdx passed.length).mapM (padAt (passed ++ ws)) =
      orTooWide ((ws.zip cells).mapM fun (width, cell) => pad? width cell) := by
  induction h generalizing passed with
  | nil =>
      rw [List.zip_nil_right]
      rfl
  | @cons w ws c cs _ _ ih =>
      have hrest := ih (passed ++ [w])
      rw [List.length_append, List.length_singleton, ← List.append_cons] at hrest
      rw [List.zipIdx_cons, List.mapM_cons, List.zip_cons_cons, List.mapM_cons, padAt_append,
        hrest]
      simp only [orTooWide_bind]
      rfl

theorem Fits.lineByNumber_eq (h : Fits ws cells) :
    lineByNumber ws cells = orTooWide (line? ws cells) := by
  have hpadded : cells.zipIdx.mapM (padAt ws) =
      orTooWide ((ws.zip cells).mapM fun (width, cell) => pad? width cell) := h.mapM_padAt []
  rw [lineByNumber, hpadded, line?, orTooWide_bind]
  rfl

/-- No number of a column is out of range of the widths; all that can be in the way is the limit of
formatting. -/
theorem drawByNumber_eq (headers : List String) (rows : List (List String)) :
    drawByNumber headers rows = orTooWide (format? headers rows) := by
  let ws := widths headers rows
  have hws : rows.foldl widenByNumber (headers.map String.length) = ws := by
    rw [← widen_nil_eq_map, funext₂ widenByNumber_eq]
    rfl
  have htop : lineByNumber ws headers = orTooWide (line? ws headers) :=
    (fits_widths List.mem_cons_self).lineByNumber_eq
  have hbody : rows.mapM (lineByNumber ws) = orTooWide (rows.mapM (line? ws)) := by
    apply mapM_orTooWide
    intro row hrow
    exact (fits_widths (List.mem_cons_of_mem headers hrow)).lineByNumber_eq
  simp only [drawByNumber, hws, htop, hbody, format?, orTooWide_bind]
  rfl

/-! ## The limit of formatting -/

theorem mapM_pad?_of_le (h : ∀ w ∈ ws, w ≤ widthLimit) (cells : List String) :
    ((ws.zip cells).mapM fun (width, cell) => pad? width cell) =
      some (List.zipWith pad ws cells) := by
  induction ws generalizing cells with
  | nil => rfl
  | cons w ws ih =>
      cases cells with
      | nil => rfl
      | cons c cs =>
          have hfirst : pad? w c = some (pad w c) := if_pos (h w List.mem_cons_self)
          have hrest := ih (fun v hv => h v (List.mem_cons_of_mem w hv)) cs
          rw [List.zip_cons_cons, List.mapM_cons, hrest]
          simp only [hfirst]
          rfl

theorem line?_of_le (h : ∀ w ∈ ws, w ≤ widthLimit) (cells : List String) :
    line? ws cells = some (line ws cells) := by
  rw [line?, mapM_pad?_of_le h]
  rfl

theorem mapM_line?_of_le (h : ∀ w ∈ ws, w ≤ widthLimit) (lines : List (List String)) :
    lines.mapM (line? ws) = some (lines.map (line ws)) := by
  rw [funext (line?_of_le h)]
  exact List.mapM_pure

theorem mapM_eq_none_of_mem {f : α → Option β} {l : List α} {a : α} (ha : a ∈ l)
    (h : f a = .none) : l.mapM f = .none := by
  induction l with
  | nil => contradiction
  | cons b l ih =>
      rw [List.mapM_cons]
      cases ha with
      | head =>
          rw [h]
          rfl
      | tail _ ha =>
          rw [ih ha]
          cases f b with
          | none => rfl
          | some _ => rfl

/-- A column is at least as wide as each of its cells. -/
theorem Fits.exists_width (h : Fits ws cells) {c : String} (hc : c ∈ cells) :
    ∃ w, (w, c) ∈ ws.zip cells ∧ c.length ≤ w := by
  induction h with
  | nil => contradiction
  | @cons w ws d ds hd _ ih =>
      rw [List.zip_cons_cons]
      cases hc with
      | head => exact ⟨w, List.mem_cons_self, hd⟩
      | tail _ hc =>
          obtain ⟨v, hv, hle⟩ := ih hc
          exact ⟨v, List.mem_cons_of_mem (w, d) hv, hle⟩

theorem Fits.line?_of_lt (h : Fits ws cells) {c : String} (hc : c ∈ cells)
    (hlong : widthLimit < c.length) : line? ws cells = .none := by
  obtain ⟨w, hmem, hle⟩ := h.exists_width hc
  have hpad : pad? w c = .none := if_neg (by omega)
  rw [line?, mapM_eq_none_of_mem hmem hpad]
  rfl

theorem columnWidth_le {lines : List (List String)} {limit : Nat}
    (h : ∀ cells ∈ lines, ∀ c ∈ cells, c.length ≤ limit) (k : Nat) :
    columnWidth lines k ≤ limit := by
  induction lines with
  | nil => exact Nat.zero_le limit
  | cons cells lines ih =>
      have hrest := ih fun others hothers => h others (List.mem_cons_of_mem cells hothers)
      have hfirst : (cells.map String.length).getD k 0 ≤ limit := by
        cases hc : cells[k]? with
        | none => simp [hc]
        | some c =>
            have hlength := h cells List.mem_cons_self c (List.mem_of_getElem? hc)
            simpa [hc] using hlength
      rw [columnWidth_cons]
      exact Nat.max_le.mpr ⟨hfirst, hrest⟩

theorem widths_le {headers : List String} {rows : List (List String)} {limit : Nat}
    (h : ∀ cells ∈ headers :: rows, ∀ c ∈ cells, c.length ≤ limit) :
    ∀ w ∈ widths headers rows, w ≤ limit := by
  intro w hw
  rw [widths_eq, List.mem_map] at hw
  obtain ⟨k, -, hk⟩ := hw
  rw [← hk]
  exact columnWidth_le h k

/-- Where no cell is too long for formatting, the whole table is drawn. -/
theorem format?_of_le {headers : List String} {rows : List (List String)}
    (h : ∀ cells ∈ headers :: rows, ∀ c ∈ cells, c.length ≤ widthLimit) :
    format? headers rows = some (render headers rows) := by
  have hws := widths_le h
  rw [format?, line?_of_le hws, mapM_line?_of_le hws]
  rfl

/-- One cell that is too long for formatting is enough to leave nothing of the table. -/
theorem format?_of_lt {headers : List String} {rows : List (List String)} {c : String}
    (hcells : cells ∈ headers :: rows) (hc : c ∈ cells) (hlong : widthLimit < c.length) :
    format? headers rows = .none := by
  have hline := (fits_widths hcells).line?_of_lt hc hlong
  cases hcells with
  | head =>
      simp only [format?, hline]
      rfl
  | tail _ hrow =>
      simp only [format?, mapM_eq_none_of_mem hrow hline]
      cases line? (widths headers rows) headers with
      | none => rfl
      | some _ => rfl

theorem format?_eq_none_iff (headers : List String) (rows : List (List String)) :
    format? headers rows = .none ↔
      ∃ cells ∈ headers :: rows, ∃ c ∈ cells, widthLimit < c.length := by
  constructor
  · intro hnone
    apply Classical.byContradiction
    intro hshort
    simp only [not_exists, not_and, Nat.not_lt] at hshort
    rw [format?_of_le hshort] at hnone
    contradiction
  · intro hlong
    obtain ⟨cells, hcells, c, hc, hlt⟩ := hlong
    exact format?_of_lt hcells hc hlt

theorem eq_render_of_format? {headers : List String} {rows : List (List String)} {text : String}
    (h : format? headers rows = some text) : text = render headers rows := by
  have hshort : ∀ cells ∈ headers :: rows, ∀ c ∈ cells, c.length ≤ widthLimit := by
    intro cells hcells c hc
    apply Nat.le_of_not_lt
    intro hlong
    rw [format?_of_lt hcells hc hlong] at h
    contradiction
  rw [format?_of_le hshort] at h
  exact (Option.some.inj h).symm

end Table

/-- Only tables break off in formatting, and only those with a cell that is too long for it. -/
theorem format?_eq_none_iff {said : Output} :
    said.format? = Option.none ↔
      ∃ headers rows, said = .table headers rows ∧
        ∃ cells ∈ headers :: rows, ∃ c ∈ cells, Table.widthLimit < c.length := by
  cases said with
  | table headers rows =>
      rw [format?, Option.map_eq_none_iff, Table.format?_eq_none_iff]
      constructor
      · intro hlong
        exact ⟨headers, rows, rfl, hlong⟩
      · intro hlong
        obtain ⟨_, _, heq, hlong⟩ := hlong
        cases heq
        exact hlong
  | info text => simp [format?]
  | error text => simp [format?]
  | none => simp [format?]

end ChatWarden.Output
