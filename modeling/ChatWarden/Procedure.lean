import ChatWarden.Failure

/-!
# Procedures

A procedure says what a program asks of its surroundings, one question after the other, and what it
does with each answer. It can be carried out on a file tree as well as on real files.
-/

namespace ChatWarden

inductive Procedure (α : Type) where
  | done (result : α)
  /-- Asks whether anything is at a path. -/
  | isThere (path : String) (next : Bool → Procedure α)
  /-- Asks for the bytes of a file. -/
  | read (path : String) (next : Except FileError ByteArray → Procedure α)
  /-- Asks for everything below a directory. -/
  | list (path : String) (next : Listing → Procedure α)
  /-- Asks for the whole of the standard input. -/
  | input (next : ByteArray → Procedure α)

namespace Procedure

variable {α β : Type}

/-- Carries on with the result of a procedure. -/
def andThen (p : Procedure α) (f : α → Procedure β) : Procedure β :=
  match p with
  | .done a => f a
  | .isThere path next => .isThere path fun b => (next b).andThen f
  | .read path next => .read path fun content => (next content).andThen f
  | .list path next => .list path fun listing => (next listing).andThen f
  | .input next => .input fun bytes => (next bytes).andThen f

instance : Monad Procedure where
  pure := .done
  bind := andThen

/-- Carries a procedure out on a file tree. -/
def carryOut (tree : FileTree) (stdin : ByteArray) : Procedure α → α
  | .done a => a
  | .isThere path next => (next (tree.isThere path)).carryOut tree stdin
  | .read path next => (next (tree.read path)).carryOut tree stdin
  | .list path next => (next (tree.list path)).carryOut tree stdin
  | .input next => (next stdin).carryOut tree stdin

theorem carryOut_andThen (tree : FileTree) (stdin : ByteArray) (p : Procedure α)
    (f : α → Procedure β) :
    (p.andThen f).carryOut tree stdin = (f (p.carryOut tree stdin)).carryOut tree stdin := by
  induction p with
  | done a => rfl
  | isThere path next ih => exact ih _
  | read path next ih => exact ih _
  | list path next ih => exact ih _
  | input next ih => exact ih _

/-- Carries on unless something has failed. -/
def followedBy (p : Procedure (Except Failure α)) (f : α → Procedure (Except Failure β)) :
    Procedure (Except Failure β) :=
  p.andThen fun result =>
    match result with
    | .error e => .done (.error e)
    | .ok a => f a

end Procedure

/-- A procedure that may fail. -/
abbrev Attempt (α : Type) := Procedure (Except Failure α)

end ChatWarden
