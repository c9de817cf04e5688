import ChatWarden.SortedMap

/-!
# Maps from their entries

The entries of a map are what its keys are bound to, so maps in which every key has the same value
are equal (`ext_get?`). Entries put in one after the other in ascending order end up in that order,
so a map is restored from its entries. In a union the second map is asked first (`get?_union`).
-/

namespace ChatWarden.SortedMap

variable {κ β : Type} [Ord κ]

theorem nodup_entries [Std.ReflOrd κ] (m : SortedMap κ β) : m.entries.Nodup := by
  refine m.ascending.imp ?_
  rintro a _ hlt rfl
  simp at hlt

section Lookup

variable [Std.LawfulEqOrd κ]

theorem search_eq_some_iff {k : κ} {v : β} {es : List (κ × β)}
    (h : es.Pairwise fun a b => compare a.1 b.1 = .lt) : search k es = some v ↔ (k, v) ∈ es := by
  induction es with
  | nil => simp [search]
  | cons d ds ih =>
      have hd := (List.pairwise_cons.mp h).1
      have hds := (List.pairwise_cons.mp h).2
      rw [search]
      split
      · rename_i heq
        have hk : k = d.1 := Std.LawfulEqCmp.eq_of_compare heq
        have hnot : (d.1, v) ∉ ds := by
          intro hm
          have hlt := hd _ hm
          simp at hlt
        simp [hnot, hk, Prod.ext_iff, eq_comm]
      · rename_i hne
        have hk : (k, v) ≠ d := by
          rintro rfl
          exact hne Std.ReflCmp.compare_self
        simp [ih hds, hk]

/-- The entries of a map are what its keys are bound to. -/
theorem mem_entries_iff {m : SortedMap κ β} {k : κ} {v : β} :
    (k, v) ∈ m.entries ↔ m.get? k = some v :=
  (search_eq_some_iff m.ascending).symm

end Lookup

variable [Std.TransOrd κ]

theorem place_eq_append {k : κ} {v : β} {es : List (κ × β)}
    (h : ∀ e ∈ es, compare e.1 k = .lt) : place k v es = es ++ [(k, v)] := by
  induction es with
  | nil => rfl
  | cons d ds ih =>
      have hd : compare k d.1 = .gt := Std.OrientedCmp.gt_of_lt (h d (by simp))
      have hds : ∀ e ∈ ds, compare e.1 k = .lt := fun e he => h e (by simp [he])
      rw [place, hd]
      exact congrArg (d :: ·) (ih hds)

variable [Std.LawfulEqOrd κ]

theorem entries_insertAll {m : SortedMap κ β} {es : List (κ × β)}
    (h : (m.entries ++ es).Pairwise fun a b => compare a.1 b.1 = .lt) :
    (m.insertAll es).entries = m.entries ++ es := by
  induction es generalizing m with
  | nil => exact (List.append_nil m.entries).symm
  | cons e es ih =>
      have hlast : ∀ d ∈ m.entries, compare d.1 e.1 = .lt := fun d hd =>
        (List.pairwise_append.mp h).2.2 d hd e (by simp)
      have hinsert : (m.insert e.1 e.2).entries = m.entries ++ [e] := place_eq_append hlast
      have hrest : ((m.insert e.1 e.2).entries ++ es).Pairwise
          fun a b => compare a.1 b.1 = .lt := by
        rw [hinsert, List.append_assoc]
        exact h
      have := ih hrest
      rw [hinsert, List.append_assoc] at this
      exact this

@[simp] theorem ofList_entries (m : SortedMap κ β) : ofList m.entries = m :=
  ext_entries (entries_insertAll m.ascending)

@[simp] theorem union_empty (m : SortedMap κ β) : (∅ : SortedMap κ β).union m = m :=
  ofList_entries m

theorem mem_of_mem_insertAll {m : SortedMap κ β} {es : List (κ × β)} {e : κ × β}
    (h : e ∈ (m.insertAll es).entries) : e ∈ m.entries ∨ e ∈ es := by
  induction es generalizing m with
  | nil => exact .inl h
  | cons d es ih =>
      rcases ih h with h | h
      · rcases mem_place h with rfl | h
        · exact .inr (by simp)
        · exact .inl h
      · exact .inr (by simp [h])

/-! ## Look-up decides -/

theorem ext_get? {m n : SortedMap κ β} (h : ∀ k, m.get? k = n.get? k) : m = n := by
  have hmem : ∀ e, e ∈ m.entries ↔ e ∈ n.entries := fun e => by
    rw [mem_entries_iff, mem_entries_iff, h]
  have hperm := (List.perm_ext_iff_of_nodup m.nodup_entries n.nodup_entries).mpr hmem
  refine ext_entries (hperm.eq_of_pairwise (fun a b _ _ hab hba => ?_) m.ascending n.ascending)
  rw [Std.OrientedCmp.gt_of_lt hba] at hab
  contradiction

theorem get?_insertAll {m : SortedMap κ β} {es : List (κ × β)}
    (h : es.Pairwise fun a b => compare a.1 b.1 = .lt) (k : κ) :
    (m.insertAll es).get? k = (search k es).or (m.get? k) := by
  induction es generalizing m with
  | nil => rfl
  | cons e es ih =>
      have hes := (List.pairwise_cons.mp h).2
      have hstep : (m.insertAll (e :: es)).get? k
          = (search k es).or ((m.insert e.1 e.2).get? k) := ih hes
      rw [hstep, get?_insert, search]
      split
      · rename_i heq
        -- The key is the first one, and no later entry has it.
        have hk : k = e.1 := Std.LawfulEqCmp.eq_of_compare heq
        have hnone : search k es = none := by
          rw [Option.eq_none_iff_forall_ne_some]
          intro v hv
          have hlt := (List.pairwise_cons.mp h).1 _ ((search_eq_some_iff hes).mp hv)
          simp [hk] at hlt
        rw [hnone]
        rfl
      · rfl

theorem get?_union (m n : SortedMap κ β) (k : κ) :
    (m.union n).get? k = (n.get? k).or (m.get? k) :=
  get?_insertAll n.ascending k

theorem union_insert (m n : SortedMap κ β) (k : κ) (v : β) :
    m.union (n.insert k v) = (m.union n).insert k v := by
  apply ext_get?
  intro l
  rw [get?_union, get?_insert, get?_insert, get?_union]
  split <;> rfl

theorem union_assoc (m n o : SortedMap κ β) : m.union (n.union o) = (m.union n).union o := by
  apply ext_get?
  intro k
  rw [get?_union, get?_union, get?_union, get?_union, Option.or_assoc]

end ChatWarden.SortedMap
