import ChatWarden.Dispatch
import ChatWarden.Policy.Directory

/-!
# The engine

The engine holds the snapshot that messages are dispatched against and replaces it as a whole.
Publishing writes a snapshot in one step. Loading policies anew takes two: the catalog of the
current snapshot is read, and later a snapshot with that catalog and the new policies is written.
`Step` are those steps one by one, in any order that several callers may take them.
-/

namespace ChatWarden

structure Engine (η : Type) where
  current : Snapshot η := {}

namespace Engine

variable {η : Type}

def publish (_ : Engine η) (snapshot : Snapshot η) : Engine η :=
  ⟨snapshot⟩

/-- The first step of a reload: what it keeps of the current snapshot. -/
def readCatalog (e : Engine η) : Catalog η :=
  e.current.catalog

/-- The second step of a reload: the catalog read before goes with the policies just loaded. -/
def writePolicies (e : Engine η) (catalog : Catalog η) (policies : PolicySet) : Engine η :=
  e.publish ⟨catalog, policies⟩

/-- Both steps of a reload, one right after the other. -/
def reload (e : Engine η) (directory extension : String) (listing : Listing) :
    Except Failure (LoadReport × Engine η) :=
  (LoadReport.ofListing directory extension listing).map fun report =>
    (report, e.writePolicies e.readCatalog report.policies)

/-- What one of several callers does to a shared engine without interruption. -/
inductive Step (η : Type) where
  | publish (snapshot : Snapshot η)
  | beginReload (caller : Nat)
  | endReload (caller : Nat) (policies : PolicySet)

/-- An engine and the catalogs that reloads under way have read. -/
structure Shared (η : Type) where
  engine : Engine η
  pending : Nat → Option (Catalog η) := fun _ => none

namespace Shared

/-- Takes one step. Ending a reload that has not begun does nothing. -/
def step (s : Shared η) : Step η → Shared η
  | .publish snapshot => { s with engine := s.engine.publish snapshot }
  | .beginReload caller =>
    { s with
      pending := fun c => if c = caller then some s.engine.readCatalog else s.pending c }
  | .endReload caller policies =>
    match s.pending caller with
    | none => s
    | some catalog =>
      { engine := s.engine.writePolicies catalog policies
        pending := fun c => if c = caller then none else s.pending c }

def run (s : Shared η) (steps : List (Step η)) : Shared η :=
  steps.foldl step s

end Shared

end Engine

end ChatWarden
