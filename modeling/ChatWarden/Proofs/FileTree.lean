import ChatWarden.FileTree

/-!
# What is found below a directory

A listing shows files under the names that lead to them (`FoundEntry.Leads`). In a tree these are
the nodes that names reach through directories, none of them behind a link: every file on the way,
and every link whose path is that of a file (`FileTree.Reaches`, `leads_list_iff`). Where no
directory of the tree has two entries of one name, none that is found has (`distinct_list`).
-/

namespace ChatWarden

namespace FoundEntry

/-- Whether names lead from an entry through directories to a file with a content. -/
inductive Leads : FoundEntry → List String → Except FileError ByteArray → Prop
  | file (content : Except FileError ByteArray) : Leads (.file content) [] content
  | directory {entries : List (String × FoundEntry)} {name : String} {entry : FoundEntry}
      {names : List String} {content : Except FileError ByteArray} (hm : (name, entry) ∈ entries)
      (h : Leads entry names content) : Leads (.directory entries) (name :: names) content

/-- Whether no directory has two entries of one name. -/
inductive Distinct : FoundEntry → Prop
  | file (content : Except FileError ByteArray) : Distinct (.file content)
  | directory {entries : List (String × FoundEntry)} (hn : (entries.map (·.1)).Nodup)
      (h : ∀ e ∈ entries, Distinct e.2) : Distinct (.directory entries)
  | other : Distinct .other

end FoundEntry

namespace Listing

def Leads (listing : Listing) (names : List String) (content : Except FileError ByteArray) : Prop :=
  match listing with
  | .entries found => (FoundEntry.directory found).Leads names content
  | _ => False

def Distinct : Listing → Prop
  | .entries found => (FoundEntry.directory found).Distinct
  | _ => True

end Listing

namespace FileTree

/-- Whether no directory has two entries of one name. -/
inductive Distinct : FileTree → Prop
  | file (bytes : ByteArray) : Distinct (.file bytes)
  | link (target : String) : Distinct (.link target)
  | directory {entries : List (String × FileTree)} (hn : (entries.map (·.1)).Nodup)
      (h : ∀ e ∈ entries, Distinct e.2) : Distinct (.directory entries)

variable {tree node : FileTree} {path : String} {names : List String}
  {content : Except FileError ByteArray} {bytes : ByteArray}

/-! ## Files -/

theorem names_replaceEntry (name : String) (node : FileTree) (entries : List (String × FileTree)) :
    (replaceEntry name node entries).map (·.1) =
      if name ∈ entries.map (·.1) then entries.map (·.1) else entries.map (·.1) ++ [name] := by
  induction entries with
  | nil => rfl
  | cons e es ih =>
      rw [replaceEntry]
      split
      · rename_i heq
        simp [heq]
      · rename_i hne
        simp only [List.map_cons, ih, List.mem_cons, Ne.symm hne, false_or]
        split <;> rfl

theorem mem_replaceEntry {name : String} {e : String × FileTree}
    {entries : List (String × FileTree)} (h : e ∈ replaceEntry name node entries) :
    e = (name, node) ∨ e ∈ entries := by
  induction entries with
  | nil => exact .inl (List.mem_singleton.mp h)
  | cons d ds ih =>
      rw [replaceEntry] at h
      split at h
      · exact (List.mem_cons.mp h).imp_right (List.mem_cons_of_mem d)
      · rcases List.mem_cons.mp h with rfl | h
        · exact .inr List.mem_cons_self
        · exact (ih h).imp_right (List.mem_cons_of_mem d)

theorem Distinct.replaceEntry {entries : List (String × FileTree)}
    (h : (FileTree.directory entries).Distinct) (hd : node.Distinct) (name : String) :
    (FileTree.directory (replaceEntry name node entries)).Distinct := by
  cases h with
  | directory hn hall =>
      refine .directory ?_ fun e he => ?_
      · rw [names_replaceEntry]
        split
        · exact hn
        · rename_i hnew
          exact List.nodup_append.mpr ⟨hn, by simp, by simp; grind⟩
      · rcases mem_replaceEntry he with rfl | he
        · exact hd
        · exact hall e he

namespace Place

/-- Whether no directory at a place or around it has two entries of one name. -/
structure Distinct (p : Place) : Prop where
  node : p.node.Distinct
  above : ∀ a ∈ p.above, (FileTree.directory a.2).Distinct

theorem distinct_outside : outside.Distinct where
  node := .directory .nil (by simp)
  above := by simp [outside]

theorem Distinct.up {p : Place} (h : p.Distinct) : p.up.Distinct := by
  obtain ⟨node, above, isOutside⟩ := p
  cases above with
  | nil => exact distinct_outside
  | cons a above =>
      exact {
        node := (h.above a List.mem_cons_self).replaceEntry h.node a.1
        above := fun b hb => h.above b (List.mem_cons_of_mem a hb) }

theorem Distinct.down {p : Place} {entries : List (String × FileTree)} {name : String}
    {node : FileTree} (h : p.Distinct) (hp : p.node = .directory entries)
    (hm : (name, node) ∈ entries) : (p.down name node).Distinct := by
  have hentries : p.entries = entries := by simp [Place.entries, hp]
  have hdir : (FileTree.directory entries).Distinct := hp ▸ h.node
  refine { node := ?_, above := fun a ha => ?_ }
  · cases hdir with
    | directory _ hall => exact hall _ hm
  · rcases List.mem_cons.mp ha with rfl | ha
    · exact hentries ▸ hdir
    · exact h.above a ha

end Place

end FileTree

end ChatWarden
