import ChatWarden.Match
import ChatWarden.Proofs.Catalog

/-!
# The best match

`Catalog.find?` walks over the candidates, bucket by bucket, and keeps the best match so far.
`Match.IsBest` says what the best match of a list of entries is without a walk over it, so the order
of the list has no part in it. What the walk keeps is that of the entries seen (`kept_foldl`). In a
catalog that was built command by command, the walk over the buckets and a scan of all entries find
the same (`find?_agrees_with_scan`).
-/

namespace ChatWarden

variable {η : Type}

/-- What every step of a walk keeps true of the elements seen so far is true of all at its end. -/
theorem foldl_seen {α β : Type} {step : β → α → β} (Holds : List α → β → Prop)
    (hstep : ∀ seen b a, Holds seen b → Holds (seen ++ [a]) (step b a)) {seen : List α} {b : β}
    (h : Holds seen b) (as : List α) : Holds (seen ++ as) (as.foldl step b) := by
  induction as generalizing seen b with
  | nil => simpa using h
  | cons a as ih =>
      rw [List.foldl_cons, List.append_cons]
      exact ih (hstep seen b a h)

namespace Match

/-- Whether a match is the best that a list of entries has for tokens: no entry has a greater score,
and none with the same score was registered earlier. -/
structure IsBest (m : Match η) (among : List (Entry η)) (tokens : List String) : Prop where
  mem : m.entry ∈ among
  score_eq : m.entry.command.score? tokens = some m.score
  unbeaten : ∀ e ∈ among, ∀ score, e.command.score? tokens = some score →
    score < m.score ∨ score = m.score ∧ m.entry.seq ≤ e.seq

theorem beats_iff {e : Entry η} {score : Nat} {best : Match η} :
    beats ⟨e, score⟩ best = true ↔
      best.score < score ∨ score = best.score ∧ e.seq < best.entry.seq := by
  simp [beats]

namespace IsBest

variable {among among' : List (Entry η)} {tokens : List String} {m m' : Match η}

/-- Entries that do not match make no difference. -/
theorem of_same_matching (h : m.IsBest among tokens)
    (same : ∀ e score, e.command.score? tokens = some score → (e ∈ among ↔ e ∈ among')) :
    m.IsBest among' tokens where
  mem := (same m.entry m.score h.score_eq).mp h.mem
  score_eq := h.score_eq
  unbeaten e he score hs := h.unbeaten e ((same e score hs).mpr he) score hs

/-- Where entries are known by their numbers, there is at most one best match. -/
theorem unique (h : m.IsBest among tokens) (h' : m'.IsBest among tokens)
    (hseq : ∀ a ∈ among, ∀ b ∈ among, a.seq = b.seq → a = b) : m = m' := by
  have hle := h.unbeaten m'.entry h'.mem m'.score h'.score_eq
  have hge := h'.unbeaten m.entry h.mem m.score h.score_eq
  have hscore : m.score = m'.score := by omega
  have hnumber : m.entry.seq = m'.entry.seq := by omega
  have hentry : m.entry = m'.entry := hseq m.entry h.mem m'.entry h'.mem hnumber
  cases m
  cases m'
  simp_all

end IsBest

/-! ## The walk over candidates -/

/-- What is kept of the entries seen so far: their best match, if any of them matches. -/
def Kept (seen : List (Entry η)) (tokens : List String) : Option (Match η) → Prop
  | none => ∀ e ∈ seen, e.command.score? tokens = none
  | some m => m.IsBest seen tokens

variable {seen : List (Entry η)} {tokens : List String} {best : Option (Match η)}

theorem kept_of_score?_eq_none (h : Kept seen tokens best) {e : Entry η}
    (he : e.command.score? tokens = none) : Kept (seen ++ [e]) tokens best := by
  cases best with
  | none =>
      have hseen : ∀ d ∈ seen, d.command.score? tokens = none := h
      simpa [Kept, or_imp, forall_and, he] using hseen
  | some best =>
      have hbest : best.IsBest seen tokens := h
      refine hbest.of_same_matching fun d score hd => ?_
      have hne : d ≠ e := by
        rintro rfl
        simp [he] at hd
      simp [hne]

theorem unbeaten_self {e : Entry η} {score : Nat} (he : e.command.score? tokens = some score) :
    ∀ d ∈ [e], ∀ s, d.command.score? tokens = some s → s < score ∨ s = score ∧ e.seq ≤ d.seq := by
  intro d hd s hs
  obtain rfl := List.mem_singleton.mp hd
  rw [he] at hs
  exact .inr ⟨(Option.some.inj hs).symm, Nat.le_refl _⟩

theorem isBest_append_of_first (h : ∀ d ∈ seen, d.command.score? tokens = none) {e : Entry η}
    {score : Nat} (he : e.command.score? tokens = some score) :
    IsBest ⟨e, score⟩ (seen ++ [e]) tokens where
  mem := by simp
  score_eq := he
  unbeaten := by
    refine List.forall_mem_append.mpr ⟨fun d hd s hs => ?_, unbeaten_self he⟩
    rw [h d hd] at hs
    cases hs

/-- A match that goes before the best of the entries seen takes its place. -/
theorem isBest_append_of_beats {old : Match η} (h : old.IsBest seen tokens) {e : Entry η}
    {score : Nat} (he : e.command.score? tokens = some score)
    (hb : beats ⟨e, score⟩ old = true) : IsBest ⟨e, score⟩ (seen ++ [e]) tokens where
  mem := by simp
  score_eq := he
  unbeaten := by
    refine List.forall_mem_append.mpr ⟨fun d hd s hs => ?_, unbeaten_self he⟩
    have hold := h.unbeaten d hd s hs
    rw [beats_iff] at hb
    dsimp only
    omega

theorem isBest_append_of_not_beats {old : Match η} (h : old.IsBest seen tokens) {e : Entry η}
    {score : Nat} (he : e.command.score? tokens = some score)
    (hb : ¬beats ⟨e, score⟩ old = true) : old.IsBest (seen ++ [e]) tokens where
  mem := List.mem_append_left _ h.mem
  score_eq := h.score_eq
  unbeaten := by
    refine List.forall_mem_append.mpr ⟨h.unbeaten, fun d hd s hs => ?_⟩
    have hnew := unbeaten_self he d hd s hs
    obtain rfl := List.mem_singleton.mp hd
    rw [beats_iff] at hb
    omega

theorem kept_keepBest (h : Kept seen tokens best) (e : Entry η) :
    Kept (seen ++ [e]) tokens (keepBest tokens best e) := by
  unfold keepBest
  cases he : e.command.score? tokens with
  | none => exact kept_of_score?_eq_none h he
  | some score =>
      cases best with
      | none => exact isBest_append_of_first h he
      | some old =>
          dsimp only
          split
          · exact isBest_append_of_beats h he ‹_›
          · exact isBest_append_of_not_beats h he ‹_›

theorem kept_foldl (h : Kept seen tokens best) (es : List (Entry η)) :
    Kept (seen ++ es) tokens (es.foldl (keepBest tokens) best) :=
  foldl_seen (Kept · tokens ·) (fun _ _ e hkept => kept_keepBest hkept e) h es

end Match

namespace Entry

variable {e : Entry η} {tokens : List String} {score : Nat}

/-- A command that matches begins the tokens with its segments. -/
theorem take_of_score? (h : e.command.score? tokens = some score) :
    tokens.take e.depth = e.command.segments := by
  simp only [Command.score?, Option.ite_none_right_eq_some] at h
  exact h.1.1

theorem depth_le_of_score? (h : e.command.score? tokens = some score) :
    e.depth ≤ tokens.length := by
  have hlen := congrArg List.length (take_of_score? h)
  rw [List.length_take] at hlen
  unfold depth at hlen ⊢
  omega

theorem agrees_of_score? (h : e.command.score? tokens = some score) : e.agrees tokens = true := by
  have htake : tokens.take e.command.segments.length = e.command.segments := take_of_score? h
  have hle : e.command.segments.length ≤ tokens.length := depth_le_of_score? h
  simp [agrees, Command.agrees, Nat.min_eq_left hle, htake]

end Entry

namespace Catalog

variable {c : Catalog η} {tokens : List String}

theorem kept_find? (c : Catalog η) (tokens : List String) :
    Match.Kept (c.candidates tokens.length) tokens (c.find? tokens) := by
  have hnone : Match.Kept [] tokens (none : Option (Match η)) := fun e he => by cases he
  exact Match.kept_foldl hnone (c.candidates tokens.length)

theorem find?_eq_none_iff :
    c.find? tokens = none ↔
      ∀ e ∈ c.candidates tokens.length, e.command.score? tokens = none := by
  have hkept := kept_find? c tokens
  cases hf : c.find? tokens with
  | none =>
      rw [hf] at hkept
      exact ⟨fun _ => hkept, fun _ => rfl⟩
  | some m =>
      rw [hf] at hkept
      have hm : m.IsBest (c.candidates tokens.length) tokens := hkept
      refine ⟨fun h => (by cases h), fun h => ?_⟩
      have hscore := h m.entry hm.mem
      rw [hm.score_eq] at hscore
      cases hscore

/-- A scan that validates keeps exactly the entries that match. -/
theorem agreeing_true (c : Catalog η) (tokens : List String) :
    c.agreeing tokens true = c.entries.filter fun e => (e.command.score? tokens).isSome := by
  refine List.filter_congr fun e _ => ?_
  cases hs : e.command.score? tokens with
  | none => simp
  | some score => simp [Entry.agrees_of_score? hs]

theorem Indexed.mem_candidates_iff_agreeing (h : c.Indexed) {e : Entry η} {score : Nat}
    (hs : e.command.score? tokens = some score) :
    e ∈ c.candidates tokens.length ↔ e ∈ c.agreeing tokens true := by
  rw [h.mem_candidates_iff, agreeing_true, List.mem_filter]
  simp [hs, Entry.depth_le_of_score? hs]

/-- No command matches exactly if no registered one does: the walk misses none. -/
theorem Indexed.find?_eq_none_iff (h : c.Indexed) :
    c.find? tokens = none ↔ ∀ e ∈ c.entries, e.command.score? tokens = none := by
  rw [Catalog.find?_eq_none_iff]
  constructor
  · intro hnone e he
    cases hs : e.command.score? tokens with
    | none => rfl
    | some score =>
        rw [← hs]
        exact hnone e (h.mem_candidates_iff.mpr ⟨he, Entry.depth_le_of_score? hs⟩)
  · exact fun hnone e he => hnone e (h.mem_candidates_iff.mp he).1

theorem Indexed.find?_eq_some_iff (h : c.Indexed) {m : Match η} :
    c.find? tokens = some m ↔ m.IsBest (c.agreeing tokens true) tokens := by
  have hsame : ∀ e score, e.command.score? tokens = some score →
      (e ∈ c.candidates tokens.length ↔ e ∈ c.agreeing tokens true) :=
    fun e score hs => h.mem_candidates_iff_agreeing hs
  have hkept := kept_find? c tokens
  cases hf : c.find? tokens with
  | none =>
      rw [hf] at hkept
      refine ⟨fun hm => (by cases hm), fun hm => ?_⟩
      have hscore := hkept m.entry ((hsame m.entry m.score hm.score_eq).mpr hm.mem)
      rw [hm.score_eq] at hscore
      cases hscore
  | some found =>
      rw [hf] at hkept
      have hfound : found.IsBest (c.agreeing tokens true) tokens :=
        Match.IsBest.of_same_matching hkept hsame
      constructor
      · rintro ⟨⟩
        exact hfound
      · intro hm
        refine congrArg some (hfound.unique hm fun a ha b hb => ?_)
        exact h.eq_of_seq_eq (List.mem_filter.mp ha).1 (List.mem_filter.mp hb).1

/-- Searching the index of a catalog that was built command by command agrees with a scan of all its
entries. -/
theorem find?_agrees_with_scan (offers : List (Command × η)) (tokens : List String) :
    let c := (CatalogBuilder.empty.registerAll offers).1.catalog
    (c.find? tokens = none ↔ c.agreeing tokens true = []) ∧
      (∀ m, c.find? tokens = some m ↔ m.IsBest (c.agreeing tokens true) tokens) ∧
      c.agreeing tokens true = c.entries.filter (fun e => (e.command.score? tokens).isSome) ∧
      (c.agreeing tokens true).Pairwise fun a b => a.seq < b.seq := by
  have h := CatalogBuilder.indexed_registerAll offers
  refine ⟨?_, fun m => h.find?_eq_some_iff, agreeing_true _ _, h.pairwise_seq.filter _⟩
  rw [h.find?_eq_none_iff, agreeing_true, List.filter_eq_nil_iff]
  simp

end Catalog

end ChatWarden
