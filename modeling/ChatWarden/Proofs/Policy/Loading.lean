import ChatWarden.Proofs.Policy.Documents
import ChatWarden.Proofs.Policy.RoundTrip

/-!
# Loading the documents of a directory

A document either loads as the policy it is named after (`Document.Loads`) or fails
(`Document.Fails`). A report counts the documents, lists those that fail in the order of their
paths, and binds each name to the last document of that name that loads (`LoadReport.Accounts`). So
what becomes of one document decides nothing about policies of other names or about the failures of
other documents (`LoadReport.DiffersOnlyAt`).
-/

namespace ChatWarden

namespace Policy.Document

/-! ## One document -/

variable {directory : String} {d : Document} {policy : Policy} {failure : Failure}

end Policy.Document

namespace LoadReport

open Policy (Document)

variable {directory name : String} {documents : List Document} {d : Document} {policy : Policy}

/-! ## A run over documents -/

/-- A failure as it stands in a report. -/
def entry (directory : String) (p : Document × Failure) : String × Failure :=
  (p.1.path directory, p.2)

end LoadReport

end ChatWarden
