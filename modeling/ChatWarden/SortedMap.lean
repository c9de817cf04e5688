/-!
# Maps in key order

A map is the list of its entries in strictly ascending order of the keys, so two maps with the same
entries are equal and their keys come out sorted.
-/

namespace ChatWarden

/-- Entries in strictly ascending order of their keys. -/
structure SortedMap (κ β : Type) [Ord κ] where
  entries : List (κ × β)
  ascending : entries.Pairwise fun a b => compare a.1 b.1 = .lt

namespace SortedMap

variable {κ β : Type} [Ord κ]

theorem ext_entries {m n : SortedMap κ β} (h : m.entries = n.entries) : m = n := by
  cases m
  cases n
  simp_all

instance [DecidableEq κ] [DecidableEq β] : DecidableEq (SortedMap κ β) := fun m n =>
  if h : m.entries = n.entries then isTrue (ext_entries h)
  else isFalse fun e => h (e ▸ rfl)

def empty : SortedMap κ β := ⟨[], .nil⟩

instance : EmptyCollection (SortedMap κ β) := ⟨empty⟩

instance : Inhabited (SortedMap κ β) := ⟨empty⟩

@[simp] theorem entries_empty : (∅ : SortedMap κ β).entries = [] := rfl

/-- Puts a value under a key at the key's place; a value already there is replaced. -/
def place (k : κ) (v : β) : List (κ × β) → List (κ × β)
  | [] => [(k, v)]
  | e :: es =>
    match compare k e.1 with
    | .lt => (k, v) :: e :: es
    | .eq => (k, v) :: es
    | .gt => e :: place k v es

/-- The value under a key in a list of entries. -/
def search (k : κ) : List (κ × β) → Option β
  | [] => none
  | e :: es => if compare k e.1 = .eq then some e.2 else search k es

theorem mem_place {k : κ} {v : β} {es : List (κ × β)} {e : κ × β} (h : e ∈ place k v es) :
    e = (k, v) ∨ e ∈ es := by
  induction es with
  | nil => simpa [place] using h
  | cons d ds ih =>
    unfold place at h
    split at h
    · simpa using h
    · rcases List.mem_cons.mp h with h | h
      · exact .inl h
      · exact .inr (List.mem_cons_of_mem _ h)
    · rcases List.mem_cons.mp h with h | h
      · exact .inr (by simp [h])
      · rcases ih h with h | h
        · exact .inl h
        · exact .inr (List.mem_cons_of_mem _ h)

section Order

variable [Std.TransOrd κ] [Std.LawfulEqOrd κ]

theorem pairwise_place (k : κ) (v : β) {es : List (κ × β)}
    (h : es.Pairwise fun a b => compare a.1 b.1 = .lt) :
    (place k v es).Pairwise fun a b => compare a.1 b.1 = .lt := by
  induction es with
  | nil => simp [place]
  | cons d ds ih =>
    have hd := (List.pairwise_cons.mp h).1
    have hds := (List.pairwise_cons.mp h).2
    unfold place
    split
    · rename_i hlt
      refine List.pairwise_cons.mpr ⟨fun e he => ?_, h⟩
      rcases List.mem_cons.mp he with rfl | he
      · exact hlt
      · exact Std.TransCmp.lt_trans hlt (hd e he)
    · rename_i heq
      have hk : k = d.1 := Std.LawfulEqCmp.eq_of_compare heq
      exact List.pairwise_cons.mpr ⟨fun e he => hk ▸ hd e he, hds⟩
    · rename_i hgt
      refine List.pairwise_cons.mpr ⟨fun e he => ?_, ih hds⟩
      rcases mem_place he with rfl | he
      · exact Std.OrientedCmp.lt_of_gt hgt
      · exact hd e he

def insert (m : SortedMap κ β) (k : κ) (v : β) : SortedMap κ β :=
  ⟨place k v m.entries, pairwise_place k v m.ascending⟩

/-- Adds every entry of the list in turn; of two entries with one key the later stays. -/
def insertAll (m : SortedMap κ β) (es : List (κ × β)) : SortedMap κ β :=
  es.foldl (fun m e => m.insert e.1 e.2) m

def ofList (es : List (κ × β)) : SortedMap κ β :=
  insertAll ∅ es

/-- Both maps together; where both have a key, the second one's value stays. -/
def union (m n : SortedMap κ β) : SortedMap κ β :=
  m.insertAll n.entries

end Order

def get? (m : SortedMap κ β) (k : κ) : Option β :=
  search k m.entries

def keys (m : SortedMap κ β) : List κ :=
  m.entries.map (·.1)

def values (m : SortedMap κ β) : List β :=
  m.entries.map (·.2)

def size (m : SortedMap κ β) : Nat :=
  m.entries.length

def isEmpty (m : SortedMap κ β) : Bool :=
  m.entries.isEmpty

@[simp] theorem get?_empty (k : κ) : (∅ : SortedMap κ β).get? k = none := rfl

section Lookup

variable [Std.LawfulEqOrd κ]

theorem search_place (k l : κ) (v : β) (es : List (κ × β)) :
    search l (place k v es) = if compare l k = .eq then some v else search l es := by
  induction es with
  | nil => simp [place, search]
  | cons d ds ih =>
    unfold place
    split
    · simp [search]
    · rename_i heq
      have hk : k = d.1 := Std.LawfulEqCmp.eq_of_compare heq
      subst hk
      by_cases hl : compare l d.1 = .eq <;> simp [search, hl]
    · rename_i hgt
      by_cases hl : compare l d.1 = .eq
      · have hld : l = d.1 := Std.LawfulEqCmp.eq_of_compare hl
        have hlk : compare l k ≠ .eq := by
          intro h
          have hlk : l = k := Std.LawfulEqCmp.eq_of_compare h
          rw [← hlk, hl] at hgt
          simp at hgt
        simp [search, hl, hlk]
      · simp [search, hl, ih]

/-- After an insertion the key has the new value and every other key the one it had. -/
theorem get?_insert [Std.TransOrd κ] (m : SortedMap κ β) (k l : κ) (v : β) :
    (m.insert k v).get? l = if compare l k = .eq then some v else m.get? l :=
  search_place k l v m.entries

end Lookup

end SortedMap

end ChatWarden
