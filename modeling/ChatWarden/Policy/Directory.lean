import ChatWarden.Failure
import ChatWarden.Policy.Parser

/-!
# Policies from a directory

Every file below a directory with the right extension is a document for the policy it is named
after. Documents load in the order of their paths, so of two with one name the later stays. A
document that cannot be read is reported and the others load all the same.
-/

namespace ChatWarden

structure LoadReport where
  policies : PolicySet := ∅
  /-- The documents left out, with their paths. -/
  failures : List (String × Failure) := []
  total : Nat := 0

namespace LoadReport

def loaded (r : LoadReport) : Nat :=
  r.total - r.failures.length

def isClean (r : LoadReport) : Bool :=
  r.failures.isEmpty

def summary (r : LoadReport) : String :=
  s!"Parsed {r.loaded}/{r.total} permission files"

end LoadReport

namespace Policy

/-- A document: the names that lead to it from the directory, and what reading it gives. -/
structure Document where
  names : List String
  content : Except FileError ByteArray

namespace Document

/-- A file name cut at its last dot. A dot at the front does not count. -/
def splitName (name : String) : String × Option String :=
  let cs := name.toList.reverse
  let after := cs.takeWhile (· != '.')
  match cs.drop after.length with
  | [] => (name, none)
  | _ :: before =>
    if before.isEmpty || name == ".." then (name, none)
    else (String.ofList before.reverse, some (String.ofList after.reverse))

def stem (name : String) : String :=
  (splitName name).1

def hasExtension (wanted name : String) : Bool :=
  match (splitName name).2 with
  | none => false
  | some found => Text.sameIgnoringCase found wanted

def path (directory : String) (d : Document) : String :=
  d.names.foldl FileTree.join directory

/-- The name of the policy that a document holds. -/
def policyName (d : Document) : String :=
  stem (d.names.getLast?.getD "")

mutual

/-- The documents in an entry, given the names that lead to it. -/
def inEntry (extension : String) (names : List String) : FoundEntry → List Document
  | .file content =>
    if hasExtension extension (names.getLast?.getD "") then [⟨names, content⟩] else []
  | .directory entries => inEntries extension names entries
  | .other => []

def inEntries (extension : String) (above : List String) :
    List (String × FoundEntry) → List Document
  | [] => []
  | (name, entry) :: rest =>
    inEntry extension (above ++ [name]) entry ++ inEntries extension above rest

end

/-- Documents in the order of their paths, name by name. -/
def inOrder (documents : List Document) : List Document :=
  documents.mergeSort fun a b => (compare a.names b.names).isLE

def load (directory : String) (d : Document) : Except Failure Policy :=
  match d.content.bind decodeText with
  | .error e => .error (.file (d.path directory) e)
  | .ok source =>
    match parse d.policyName source with
    | .error e => .error (.policy d.policyName e)
    | .ok policy => .ok policy

end Document

end Policy

namespace LoadReport

def addDocument (directory : String) (r : LoadReport) (d : Policy.Document) : LoadReport :=
  match d.load directory with
  | .ok policy => { r with policies := PolicySet.add r.policies policy }
  | .error e => { r with failures := r.failures ++ [(d.path directory, e)] }

def ofDocuments (directory : String) (documents : List Policy.Document) : LoadReport :=
  documents.foldl (addDocument directory) { total := documents.length }

/-- Loads the documents below a directory. A directory that is not there holds none; one that
cannot be listed is a failure. -/
def ofListing (directory extension : String) : Listing → Except Failure LoadReport
  | .missing => .ok {}
  | .unreadable e => .error (.file directory e)
  | .entries entries =>
    .ok (ofDocuments directory
      (Policy.Document.inOrder (Policy.Document.inEntries extension [] entries)))

end LoadReport

end ChatWarden
