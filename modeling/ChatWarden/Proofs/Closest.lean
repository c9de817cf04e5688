import ChatWarden.Proofs.BestMatch

/-!
# The closest entry

`Catalog.closest?` walks over the candidates, bucket by bucket, and of two entries with as many
segments it keeps the one registered first, wherever that stands in the walk. `Entry.IsClosest` says
the same without a walk. In a catalog that was built command by command both agree, no comparison
reads beyond the tokens, and a match is never longer than the closest entry
(`Catalog.closest?_longest_then_first`).
-/

namespace ChatWarden

variable {η : Type}

namespace Entry

/-- Whether an entry has segments and they begin the tokens. -/
def Begins (e : Entry η) (tokens : List String) : Prop :=
  e.command.segments ≠ [] ∧ e.command.segments <+: tokens

/-- Whether an entry is the closest of a list: it begins the tokens, no entry that does has more
segments, and none with as many was registered earlier. -/
structure IsClosest (e : Entry η) (among : List (Entry η)) (tokens : List String) : Prop where
  mem : e ∈ among
  begins : e.Begins tokens
  unsurpassed : ∀ d ∈ among, d.Begins tokens →
    d.depth < e.depth ∨ d.depth = e.depth ∧ e.seq ≤ d.seq

variable {e d : Entry η} {tokens : List String}

theorem leads_iff : e.leads tokens = true ↔ e.Begins tokens := by
  have hprefix : tokens.take e.depth = e.command.segments ↔ e.command.segments <+: tokens := by
    rw [List.prefix_iff_eq_take, depth]
    exact eq_comm
  rw [leads, Begins, Bool.and_eq_true, decide_eq_true_eq, beq_iff_eq, hprefix, depth,
    List.length_pos_iff]

theorem depth_le_of_begins (h : e.Begins tokens) : e.depth ≤ tokens.length :=
  h.2.length_le

namespace IsClosest

variable {among : List (Entry η)}

/-- Where entries are known by their numbers, there is at most one closest entry. -/
theorem unique (he : e.IsClosest among tokens) (hd : d.IsClosest among tokens)
    (hseq : ∀ a ∈ among, ∀ b ∈ among, a.seq = b.seq → a = b) : e = d := by
  have hde := he.unsurpassed d hd.mem hd.begins
  have hed := hd.unsurpassed e he.mem he.begins
  apply hseq e he.mem d hd.mem
  omega

end IsClosest

/-! ## The walk over candidates -/

/-- A step of the walk: the deeper of the entry kept so far and the next one. -/
def keepDeeper (best : Option (Entry η)) (e : Entry η) : Option (Entry η) :=
  some ((best.map fun b => b.deeper e).getD e)

/-- Whether an entry is one of a list and none of them surpasses it. -/
def IsDeepest (e : Entry η) (among : List (Entry η)) : Prop :=
  e ∈ among ∧ ∀ d ∈ among, d.depth < e.depth ∨ d.depth = e.depth ∧ e.seq ≤ d.seq

/-- What is kept of the entries seen so far: the deepest, if there are any. -/
def Kept (seen : List (Entry η)) : Option (Entry η) → Prop
  | none => seen = []
  | some e => e.IsDeepest seen

variable {seen : List (Entry η)} {best : Option (Entry η)}

-- Of two entries with as many segments the one with the smaller number stays, so the order in which
-- the walk meets them has no part in it.
theorem IsDeepest.deeper {b : Entry η} (h : b.IsDeepest seen) (e : Entry η) :
    (b.deeper e).IsDeepest (seen ++ [e]) := by
  obtain ⟨hb, hbest⟩ := h
  by_cases hdeeper : e.depth < b.depth ∨ (b.depth = e.depth ∧ b.seq < e.seq)
  · have hold : b.deeper e = b := if_pos hdeeper
    rw [hold]
    refine ⟨List.mem_append_left _ hb, List.forall_mem_append.mpr ⟨hbest, ?_⟩⟩
    intro d hd
    obtain rfl := List.mem_singleton.mp hd
    omega
  · have hnew : b.deeper e = e := if_neg hdeeper
    rw [hnew]
    refine ⟨by simp, List.forall_mem_append.mpr ⟨?_, ?_⟩⟩
    · intro d hd
      have hdb := hbest d hd
      omega
    · intro d hd
      obtain rfl := List.mem_singleton.mp hd
      omega

theorem kept_keepDeeper (h : Kept seen best) (e : Entry η) :
    Kept (seen ++ [e]) (keepDeeper best e) := by
  cases best with
  | none =>
      have hseen : seen = [] := h
      simp [hseen, keepDeeper, Kept, IsDeepest]
  | some b =>
      have hb : b.IsDeepest seen := h
      exact hb.deeper e

theorem kept_foldl_keepDeeper (h : Kept seen best) (es : List (Entry η)) :
    Kept (seen ++ es) (es.foldl keepDeeper best) :=
  foldl_seen Kept (fun _ _ e hkept => kept_keepDeeper hkept e) h es

/-! ## The walk with bounds -/

/-- The first so many tokens; nothing where there are fewer. -/
def firstTokens? (tokens : List String) (count : Nat) : Option (List String) :=
  if count ≤ tokens.length then some (tokens.take count) else none

/-- Whether an entry leads the tokens; nothing where the comparison reads beyond them. -/
def leads? (e : Entry η) (tokens : List String) : Option Bool :=
  if 0 < e.depth then (firstTokens? tokens e.depth).map (· == e.command.segments)
  else some false

theorem leads?_of_depth_le (h : e.depth ≤ tokens.length) :
    e.leads? tokens = some (e.leads tokens) := by
  unfold leads? leads firstTokens?
  by_cases hdepth : 0 < e.depth
  · simp [hdepth, h]
  · simp [hdepth]

end Entry

namespace Catalog

open Entry

variable {c : Catalog η} {tokens : List String} {e : Entry η}

/-- The search for the closest entry; nothing where a comparison reads beyond the tokens. -/
def closestInBounds? (c : Catalog η) (tokens : List String) : Option (Option (Entry η)) :=
  (c.candidates tokens.length).foldlM
    (fun best e => (e.leads? tokens).map fun leads => if leads then keepDeeper best e else best)
    none

theorem kept_closest? (c : Catalog η) (tokens : List String) :
    Kept ((c.candidates tokens.length).filter (·.leads tokens)) (c.closest? tokens) := by
  have hnone : Kept [] (none : Option (Entry η)) := rfl
  exact kept_foldl_keepDeeper hnone ((c.candidates tokens.length).filter (·.leads tokens))

theorem foldlM_leads? {es : List (Entry η)} (h : ∀ e ∈ es, e.depth ≤ tokens.length)
    (best : Option (Entry η)) :
    es.foldlM (fun best e =>
        (e.leads? tokens).map fun leads => if leads then keepDeeper best e else best) best =
      some ((es.filter (·.leads tokens)).foldl keepDeeper best) := by
  induction es generalizing best with
  | nil => rfl
  | cons e es ih =>
      rw [List.forall_mem_cons] at h
      rw [List.foldlM_cons, leads?_of_depth_le h.1, Option.map_some]
      cases hleads : e.leads tokens with
      | true => simpa [hleads] using ih h.2 (keepDeeper best e)
      | false => simpa [hleads] using ih h.2 best

namespace Indexed

/-- Candidates for the closest entry are all the entries that begin the tokens. -/
theorem mem_leading_iff (h : c.Indexed) :
    e ∈ (c.candidates tokens.length).filter (·.leads tokens) ↔
      e ∈ c.entries ∧ e.Begins tokens := by
  rw [List.mem_filter, h.mem_candidates_iff, leads_iff]
  constructor
  · intro he
    exact ⟨he.1.1, he.2⟩
  · intro he
    exact ⟨⟨he.1, depth_le_of_begins he.2⟩, he.2⟩

theorem isClosest_of_closest? (h : c.Indexed) (hc : c.closest? tokens = some e) :
    e.IsClosest c.entries tokens := by
  have hkept := kept_closest? c tokens
  rw [hc] at hkept
  obtain ⟨hmem, hunsurpassed⟩ := hkept
  have he := h.mem_leading_iff.mp hmem
  refine ⟨he.1, he.2, ?_⟩
  intro d hd hbegins
  exact hunsurpassed d (h.mem_leading_iff.mpr ⟨hd, hbegins⟩)

theorem closest?_eq_none_iff (h : c.Indexed) :
    c.closest? tokens = none ↔ ∀ e ∈ c.entries, ¬e.Begins tokens := by
  have hkept := kept_closest? c tokens
  cases hc : c.closest? tokens with
  | none =>
      rw [hc] at hkept
      have hempty : (c.candidates tokens.length).filter (·.leads tokens) = [] := hkept
      refine ⟨fun _ e he hbegins => ?_, fun _ => rfl⟩
      have hmem := h.mem_leading_iff.mpr ⟨he, hbegins⟩
      rw [hempty] at hmem
      cases hmem
  | some e =>
      have he := h.isClosest_of_closest? hc
      constructor
      · intro hnone
        cases hnone
      · intro hnone
        exact (hnone e he.mem he.begins).elim

theorem closest?_eq_some_iff (h : c.Indexed) :
    c.closest? tokens = some e ↔ e.IsClosest c.entries tokens := by
  constructor
  · exact h.isClosest_of_closest?
  · intro he
    cases hc : c.closest? tokens with
    | none => exact (h.closest?_eq_none_iff.mp hc e he.mem he.begins).elim
    | some found =>
        have hfound := h.isClosest_of_closest? hc
        exact congrArg some (hfound.unique he fun a ha b hb => h.eq_of_seq_eq ha hb)

/-- No comparison of the search reads beyond the tokens. -/
theorem closestInBounds?_eq (h : c.Indexed) :
    c.closestInBounds? tokens = some (c.closest? tokens) := by
  apply foldlM_leads?
  intro e he
  exact (h.mem_candidates_iff.mp he).2

/-- A match that has segments begins the tokens, so the closest entry has as many. -/
theorem exists_closest?_of_find? (h : c.Indexed) {m : Match η} (hm : c.find? tokens = some m)
    (hsegments : m.entry.command.segments ≠ []) :
    ∃ e, c.closest? tokens = some e ∧ m.entry.depth ≤ e.depth := by
  have hbest := h.find?_eq_some_iff.mp hm
  have hmem : m.entry ∈ c.entries := (List.mem_filter.mp hbest.mem).1
  have htake : tokens.take m.entry.depth = m.entry.command.segments :=
    take_of_score? hbest.score_eq
  have hbegins : m.entry.Begins tokens := ⟨hsegments, htake ▸ List.take_prefix _ _⟩
  cases hc : c.closest? tokens with
  | none => exact (h.closest?_eq_none_iff.mp hc m.entry hmem hbegins).elim
  | some e =>
      have hle := (h.isClosest_of_closest? hc).unsurpassed m.entry hmem hbegins
      exact ⟨e, rfl, by omega⟩

end Indexed

/-- In a catalog that was built command by command, the search finds the closest entry if any begins
the tokens, reads no further than they go, and finds no fewer segments than a match has. -/
theorem closest?_longest_then_first (offers : List (Command × η)) (tokens : List String) :
    let c := (CatalogBuilder.empty.registerAll offers).1.catalog
    (∀ e, c.closest? tokens = some e ↔ e.IsClosest c.entries tokens) ∧
      (c.closest? tokens = none ↔ ∀ e ∈ c.entries, ¬e.Begins tokens) ∧
      c.closestInBounds? tokens = some (c.closest? tokens) ∧
      ∀ m, c.find? tokens = some m → m.entry.command.segments ≠ [] →
        ∃ e, c.closest? tokens = some e ∧ m.entry.depth ≤ e.depth := by
  have h := CatalogBuilder.indexed_registerAll offers
  refine ⟨?_, h.closest?_eq_none_iff, h.closestInBounds?_eq, ?_⟩
  · intro e
    exact h.closest?_eq_some_iff
  · intro m hm hsegments
    exact h.exists_closest?_of_find? hm hsegments

/-- A command with the given words that takes a number. -/
def countedCommand (segments : List String) : Command :=
  { Command.ofSegments segments with params := [{ name := "n", type := .int }] }

/-- The tokens `file list` lack the number of either command, and the longer one is the closest;
with the number it is found. -/
theorem closest?_longest_then_first_files :
    let list : Entry Unit := ⟨countedCommand ["file", "list"], (), 0⟩
    let c := (CatalogBuilder.empty.registerAll
      [(countedCommand ["file", "list"], ()), (countedCommand ["file"], ())]).1.catalog
    c.closest? ["file", "list"] = some list ∧ list.IsClosest c.entries ["file", "list"] ∧
      ∃ e, c.closest? ["file", "list", "3"] = some e ∧ 2 ≤ e.depth := by
  intro list c
  have hclosest : c.closest? ["file", "list"] = some list := rfl
  have hfound : c.find? ["file", "list", "3"] = some ⟨list, 5⟩ := rfl
  have hagrees := closest?_longest_then_first
    [(countedCommand ["file", "list"], ()), (countedCommand ["file"], ())]
  have hsegments : list.command.segments ≠ [] := List.cons_ne_nil _ _
  exact ⟨hclosest, ((hagrees ["file", "list"]).1 list).mp hclosest,
    (hagrees ["file", "list", "3"]).2.2.2 ⟨list, 5⟩ hfound hsegments⟩

end Catalog

end ChatWarden
