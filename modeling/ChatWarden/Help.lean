import ChatWarden.Command.Basic
import ChatWarden.Text.Blank

/-!
# Help texts

The listing shows commands page by page, the detail view shows one command, and the choices number
the commands that a question may have meant. Every command is shown with the sign that calls it.
-/

namespace ChatWarden.Help

/-- What stands in for a missing summary. -/
def noDescription : String := "No description."

/-- The pages that so many commands take, at least one. A page holds at least one command. -/
def pageCount (count perPage : Nat) : Nat :=
  let perPage := max perPage 1
  max ((count + perPage - 1) / perPage) 1

/-- The commands on a page; pages are counted from one. -/
def onPage (commands : List Command) (page perPage : Nat) : List Command :=
  let perPage := max perPage 1
  (commands.drop ((page - 1) * perPage)).take perPage

def listing (commands : List Command) (page perPage : Nat) (sign : Char) : String :=
  let row (c : Command) : String := s!"  {sign}{c.path} -- {c.summary.getD noDescription}\n"
  Text.trimEnd (
    s!"{sign}help <page> -- To change page.\n"
      ++ s!"{sign}help <command> -- To view a command in more detail.\n\n"
      ++ s!"Page {page}/{pageCount commands.length perPage}:\n"
      ++ String.join ((onPage commands page perPage).map row))

def detail (c : Command) (sign : Char) : String :=
  let row (p : Command.Param) (i : Nat) : String :=
    s!"   {i}: {p.name} -- {p.summary.getD noDescription}\n"
  let examples :=
    if c.examples.isEmpty then ""
    else "\nExample:" ++ String.join (c.examples.map ("\n" ++ ·))
  Text.trimEnd (
    s!"{c.name} command:\n"
      ++ s!"{c.summary.getD noDescription}\n"
      ++ s!"  {sign}{c.usage}\n"
      ++ String.join ((c.params.zipIdx 1).map fun (p, i) => row p i)
      ++ examples)

def choices (commands : List Command) (sign : Char) : String :=
  let row (c : Command) (i : Nat) : String := s!"  {i} {sign}{c.path}\n"
  Text.trimEnd (
    s!"{commands.length} commands found, please be more specific or add an index to the end "
      ++ "of the help command\n"
      ++ String.join ((commands.zipIdx 1).map fun (c, i) => row c i))

end ChatWarden.Help
