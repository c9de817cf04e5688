import ChatWarden.Catalog
import ChatWarden.Proofs.SortedMap

/-!
# The two views of a catalog

A catalog keeps its entries twice: as a list in the order of registration and in buckets, an index
by the number of segments and of parameters. `Catalog.Indexed` says that every bucket is the list of
the entries that belong there. Registration keeps this up (`indexed_push`), so it holds of every
catalog that was built command by command, whether or not some of the commands were refused
(`coherent_registerAll`). What candidates there are, and in which order, follows from it.
-/

namespace ChatWarden

variable {η : Type}

namespace Entry

/-- The bucket an entry belongs to: its numbers of segments and of parameters. -/
def place (e : Entry η) : Nat × Nat :=
  (e.depth, e.paramCount)

@[simp] theorem place_eq_iff {e : Entry η} {depth count : Nat} :
    e.place = (depth, count) ↔ e.depth = depth ∧ e.paramCount = count := by
  simp [place]

/-- The order of candidates: by segments, then by parameters, then by registration. -/
def Precedes (a b : Entry η) : Prop :=
  a.depth < b.depth ∨ a.depth = b.depth ∧
    (a.paramCount < b.paramCount ∨ a.paramCount = b.paramCount ∧ a.seq < b.seq)

theorem Precedes.ne {a b : Entry η} (h : a.Precedes b) : a ≠ b := by
  rintro rfl
  unfold Precedes at h
  omega

end Entry

/-! ## Buckets -/

namespace Buckets

/-- The entries in one bucket, none if it was never opened. -/
def bucket (buckets : Buckets η) (place : Nat × Nat) : List (Entry η) :=
  ((buckets.get? place.1).bind (·.get? place.2)).getD []

@[simp] theorem bucket_empty (place : Nat × Nat) : (∅ : Buckets η).bucket place = [] := rfl

/-- An entry goes to the end of its own bucket, and no other bucket changes. -/
theorem bucket_add (buckets : Buckets η) (e : Entry η) (place : Nat × Nat) :
    (buckets.add e).bucket place =
      if place = e.place then buckets.bucket place ++ [e] else buckets.bucket place := by
  obtain ⟨depth, count⟩ := place
  simp only [bucket, add, Entry.place, SortedMap.get?_insert, Prod.mk.injEq,
    Std.LawfulEqCmp.compare_eq_iff_eq]
  by_cases hd : depth = e.depth
  · subst hd
    by_cases hc : count = e.paramCount
    · subst hc
      cases buckets.get? e.depth <;> simp [SortedMap.get?_insert]
    · cases buckets.get? e.depth <;> simp [SortedMap.get?_insert, hc]
  · simp [hd]

/-- The rows and cells of the index are its buckets. -/
theorem bucket_eq_of_mem {buckets : Buckets η} {depth count : Nat}
    {row : SortedMap Nat (List (Entry η))} {cell : List (Entry η)}
    (hr : (depth, row) ∈ buckets.entries) (hc : (count, cell) ∈ row.entries) :
    buckets.bucket (depth, count) = cell := by
  simp [bucket, SortedMap.mem_entries_iff.mp hr, SortedMap.mem_entries_iff.mp hc]

theorem exists_mem_of_mem_bucket {buckets : Buckets η} {place : Nat × Nat} {e : Entry η}
    (h : e ∈ buckets.bucket place) :
    ∃ row cell, (place.1, row) ∈ buckets.entries ∧ (place.2, cell) ∈ row.entries ∧ e ∈ cell := by
  unfold bucket at h
  cases hr : buckets.get? place.1 with
  | none => simp [hr] at h
  | some row =>
      cases hc : row.get? place.2 with
      | none => simp [hr, hc] at h
      | some cell =>
          exact ⟨row, cell, SortedMap.mem_entries_iff.mpr hr, SortedMap.mem_entries_iff.mpr hc,
            by simpa [hr, hc] using h⟩

end Buckets

namespace Catalog

theorem mem_candidates_iff_bucket {c : Catalog η} {tokenCount : Nat} {e : Entry η} :
    e ∈ c.candidates tokenCount ↔ ∃ place, place.1 ≤ tokenCount ∧ e ∈ c.buckets.bucket place := by
  simp only [candidates, List.mem_flatMap, List.mem_filter, decide_eq_true_eq]
  constructor
  · rintro ⟨⟨depth, row⟩, ⟨hr, hle⟩, ⟨count, cell⟩, hc, he⟩
    exact ⟨(depth, count), hle, by rwa [Buckets.bucket_eq_of_mem hr hc]⟩
  · rintro ⟨place, hle, he⟩
    obtain ⟨row, cell, hr, hc, hm⟩ := Buckets.exists_mem_of_mem_bucket he
    exact ⟨(place.1, row), ⟨hr, hle⟩, (place.2, cell), hc, hm⟩

/-! ## An indexed catalog -/

/-- Entries are numbered in the order of registration, and each bucket lists, in that order, the
entries that belong there. -/
structure Indexed (c : Catalog η) : Prop where
  seq_eq : ∀ (i : Nat) (e : Entry η), c.entries[i]? = some e → e.seq = i
  bucket_eq : ∀ place, c.buckets.bucket place = c.entries.filter fun e => e.place = place

/-- The catalog with one more entry at the end of both views. -/
def push (c : Catalog η) (command : Command) (handler : η) : Catalog η :=
  let entry : Entry η := ⟨command, handler, c.entries.length⟩
  { entries := c.entries ++ [entry], buckets := c.buckets.add entry }

theorem indexed_empty : ({} : Catalog η).Indexed where
  seq_eq i e h := by simp at h
  bucket_eq place := by simp

theorem indexed_push {c : Catalog η} (h : c.Indexed) (command : Command) (handler : η) :
    (c.push command handler).Indexed where
  seq_eq i e he := by
    rcases Nat.lt_or_ge i c.entries.length with hi | hi
    · exact h.seq_eq i e (by rwa [push, List.getElem?_append_left hi] at he)
    · rw [push, List.getElem?_append_right hi] at he
      obtain ⟨hlen, rfl⟩ := List.getElem?_eq_some_iff.mp he
      simp only [List.length_singleton] at hlen
      simp only [List.getElem_singleton]
      omega
  bucket_eq place := by
    rw [push, Buckets.bucket_add, List.filter_append, h.bucket_eq place]
    by_cases hp : place = Entry.place (⟨command, handler, c.entries.length⟩ : Entry η)
    · simp [hp]
    · simp [hp, Ne.symm hp]

namespace Indexed

variable {c : Catalog η}

theorem pairwise_seq (h : c.Indexed) : c.entries.Pairwise fun a b => a.seq < b.seq := by
  rw [List.pairwise_iff_getElem]
  intro i j hi hj hij
  rw [h.seq_eq i _ (List.getElem?_eq_getElem hi), h.seq_eq j _ (List.getElem?_eq_getElem hj)]
  exact hij

/-- An entry is known by its number. -/
theorem eq_of_seq_eq (h : c.Indexed) {a b : Entry η} (ha : a ∈ c.entries) (hb : b ∈ c.entries)
    (hab : a.seq = b.seq) : a = b := by
  obtain ⟨i, hi⟩ := List.mem_iff_getElem?.mp ha
  obtain ⟨j, hj⟩ := List.mem_iff_getElem?.mp hb
  have hij : i = j := by rw [← h.seq_eq i a hi, ← h.seq_eq j b hj, hab]
  rw [← hij, hi] at hj
  exact Option.some.inj hj

theorem mem_bucket_iff (h : c.Indexed) {place : Nat × Nat} {e : Entry η} :
    e ∈ c.buckets.bucket place ↔ e ∈ c.entries ∧ e.place = place := by
  rw [h.bucket_eq, List.mem_filter, decide_eq_true_eq]

theorem pairwise_bucket (h : c.Indexed) (place : Nat × Nat) :
    (c.buckets.bucket place).Pairwise fun a b => a.seq < b.seq := by
  rw [h.bucket_eq]
  exact h.pairwise_seq.filter _

theorem mem_candidates_iff (h : c.Indexed) {tokenCount : Nat} {e : Entry η} :
    e ∈ c.candidates tokenCount ↔ e ∈ c.entries ∧ e.depth ≤ tokenCount := by
  simp only [mem_candidates_iff_bucket, h.mem_bucket_iff]
  constructor
  · rintro ⟨_, hle, he, rfl⟩
    exact ⟨he, hle⟩
  · rintro ⟨he, hle⟩
    exact ⟨e.place, hle, he, rfl⟩

section Cells

variable {depth count : Nat} {row : SortedMap Nat (List (Entry η))} {cell : List (Entry η)}

theorem place_eq_of_mem_cell (h : c.Indexed) (hr : (depth, row) ∈ c.buckets.entries)
    (hc : (count, cell) ∈ row.entries) {e : Entry η} (he : e ∈ cell) :
    e.depth = depth ∧ e.paramCount = count := by
  have hm : e ∈ c.buckets.bucket (depth, count) := by rwa [Buckets.bucket_eq_of_mem hr hc]
  exact Entry.place_eq_iff.mp (h.mem_bucket_iff.mp hm).2

/-- Within a bucket, the order of registration is the order of candidates. -/
theorem pairwise_cell (h : c.Indexed) (hr : (depth, row) ∈ c.buckets.entries)
    (hc : (count, cell) ∈ row.entries) : cell.Pairwise Entry.Precedes := by
  have hseq := h.pairwise_bucket (depth, count)
  rw [Buckets.bucket_eq_of_mem hr hc] at hseq
  refine hseq.imp_of_mem fun {a b} ha hb hab => ?_
  obtain ⟨hda, hpa⟩ := h.place_eq_of_mem_cell hr hc ha
  obtain ⟨hdb, hpb⟩ := h.place_eq_of_mem_cell hr hc hb
  exact .inr ⟨by rw [hda, hdb], .inr ⟨by rw [hpa, hpb], hab⟩⟩

/-- Within a row, buckets with fewer parameters come first. -/
theorem pairwise_row (h : c.Indexed) (hr : (depth, row) ∈ c.buckets.entries) :
    (row.entries.flatMap (·.2)).Pairwise Entry.Precedes := by
  rw [List.pairwise_flatMap]
  refine ⟨fun cell hc => h.pairwise_cell hr hc, ?_⟩
  refine row.ascending.imp_of_mem fun {p q} hp hq hpq a ha b hb => ?_
  have hlt : p.1 < q.1 := Nat.compare_eq_lt.mp hpq
  obtain ⟨hda, hpa⟩ := h.place_eq_of_mem_cell hr hp ha
  obtain ⟨hdb, hpb⟩ := h.place_eq_of_mem_cell hr hq hb
  exact .inr ⟨by rw [hda, hdb], .inl (by rwa [hpa, hpb])⟩

end Cells

-- The three keys of `Precedes` are put in order one after the other: by the rows of the index, by
-- the buckets of a row, and by the entries of a bucket.
theorem pairwise_candidates (h : c.Indexed) (tokenCount : Nat) :
    (c.candidates tokenCount).Pairwise Entry.Precedes := by
  have hdepth : ∀ row ∈ c.buckets.entries, ∀ e ∈ row.2.entries.flatMap (·.2), e.depth = row.1 := by
    intro row hr e he
    obtain ⟨cell, hc, he⟩ := List.mem_flatMap.mp he
    exact (h.place_eq_of_mem_cell hr hc he).1
  rw [candidates, List.pairwise_flatMap]
  refine ⟨fun row hr => h.pairwise_row (List.mem_filter.mp hr).1, ?_⟩
  refine (c.buckets.ascending.filter _).imp_of_mem fun {p q} hp hq hpq a ha b hb => .inl ?_
  have hlt : p.1 < q.1 := Nat.compare_eq_lt.mp hpq
  rw [hdepth p (List.mem_filter.mp hp).1 a ha, hdepth q (List.mem_filter.mp hq).1 b hb]
  exact hlt

end Indexed

end Catalog

/-! ## Building -/

namespace CatalogBuilder

variable {b b' : CatalogBuilder η}

/-- Accepting a command uses up its key, which was free, and adds an entry to the catalog. -/
theorem register_eq_ok {command : Command} {handler : η}
    (h : b.register command handler = .ok b') :
    command.key ∉ b.keys ∧ b' = ⟨b.catalog.push command handler, command.key :: b.keys⟩ := by
  unfold register at h
  split at h
  · cases h
  · split at h
    · cases h
    · rename_i hfree
      exact ⟨by simpa using hfree, (Except.ok.inj h).symm⟩

/-- The catalog is indexed, and the keys used up are those of its entries, the last one first. -/
structure Coherent (b : CatalogBuilder η) : Prop where
  indexed : b.catalog.Indexed
  keys_eq : b.keys = (b.catalog.entries.map (·.command.key)).reverse
  nodup_keys : b.keys.Nodup

theorem coherent_empty : (empty : CatalogBuilder η).Coherent where
  indexed := Catalog.indexed_empty
  keys_eq := rfl
  nodup_keys := .nil

theorem coherent_register (h : b.Coherent) {command : Command} {handler : η}
    (hr : b.register command handler = .ok b') : b'.Coherent := by
  obtain ⟨hfree, rfl⟩ := register_eq_ok hr
  exact {
    indexed := Catalog.indexed_push h.indexed command handler
    keys_eq := by simp [Catalog.push, h.keys_eq]
    nodup_keys := List.nodup_cons.mpr ⟨hfree, h.nodup_keys⟩ }

theorem coherent_registerAll (h : b.Coherent) (offers : List (Command × η)) :
    (b.registerAll offers).1.Coherent := by
  induction offers generalizing b with
  | nil => exact h
  | cons offer rest ih =>
      obtain ⟨command, handler⟩ := offer
      rw [registerAll]
      cases hr : b.register command handler with
      | ok b' => exact ih (coherent_register h hr)
      | error e => exact ih h

theorem indexed_registerAll (offers : List (Command × η)) :
    (empty.registerAll offers).1.catalog.Indexed :=
  (coherent_registerAll coherent_empty offers).indexed

/-- The list of entries, the buckets and the keys of a builder say the same, and the candidates for
any number of tokens are cut from it in the order of precedence. -/
structure ViewsAgree (b : CatalogBuilder η) : Prop where
  seq_eq : ∀ i (h : i < b.catalog.entries.length), b.catalog.entries[i].seq = i
  mem_bucket_iff : ∀ place e,
    e ∈ b.catalog.buckets.bucket place ↔ e ∈ b.catalog.entries ∧ e.place = place
  nodup_bucket : ∀ place, (b.catalog.buckets.bucket place).Nodup
  nodup_entry_keys : (b.catalog.entries.map (·.command.key)).Nodup
  mem_keys_iff : ∀ key, key ∈ b.keys ↔ ∃ e ∈ b.catalog.entries, e.command.key = key
  mem_candidates_iff : ∀ tokenCount e,
    e ∈ b.catalog.candidates tokenCount ↔ e ∈ b.catalog.entries ∧ e.depth ≤ tokenCount
  nodup_candidates : ∀ tokenCount, (b.catalog.candidates tokenCount).Nodup
  pairwise_candidates : ∀ tokenCount,
    (b.catalog.candidates tokenCount).Pairwise Entry.Precedes

theorem registerAll_viewsAgree (offers : List (Command × η)) :
    (empty.registerAll offers).1.ViewsAgree := by
  have h := coherent_registerAll coherent_empty offers
  exact {
    seq_eq := fun i hi => h.indexed.seq_eq i _ (List.getElem?_eq_getElem hi)
    mem_bucket_iff := fun _ _ => h.indexed.mem_bucket_iff
    nodup_bucket := fun place => (h.indexed.pairwise_bucket place).imp fun hab => by
      rintro rfl
      exact Nat.lt_irrefl _ hab
    nodup_entry_keys := (List.reverse_perm _).nodup_iff.mp (h.keys_eq ▸ h.nodup_keys)
    mem_keys_iff := fun key => by simp [h.keys_eq]
    mem_candidates_iff := fun _ _ => h.indexed.mem_candidates_iff
    nodup_candidates := fun tokenCount =>
      (h.indexed.pairwise_candidates tokenCount).imp Entry.Precedes.ne
    pairwise_candidates := h.indexed.pairwise_candidates }

end CatalogBuilder

end ChatWarden
