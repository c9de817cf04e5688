import ChatWarden.Engine
import ChatWarden.Transcript

/-!
# Sessions

A session is an engine that grants requests one after the other: to publish a snapshot, to load the
policies anew, to dispatch a message. A message is dispatched against the snapshot that is current
when its turn comes. `trace` writes down each request with its answer, the replies that were tried
and the snapshots around it.
-/

namespace ChatWarden

inductive Request (η : Type) where
  | publish (snapshot : Snapshot η)
  | reload (directory extension : String) (listing : Listing)
  | dispatch (actor : Actor) (message : String)

/-- An engine and the dealings with the outside so far. -/
structure Session (η : Type) where
  engine : Engine η
  past : List (Event η) := []

namespace Session

variable {η : Type} (outside : Outside η) (sign : Char)

end Session

end ChatWarden
