import ChatWarden.Help

/-!
# What help texts show

A help text is a heading and rows below it, one for each thing that is shown, in order
(`Help.AreRows`). On a page of the listing these are the commands of the page
(`Help.isListing_listing`), in the choices the commands with their numbers
(`Help.isNumbered_choices`), and in the detail view the parameters of one command with theirs and
then its examples (`Help.isDetail_detail`).
-/

namespace ChatWarden.Help

variable {α : Type}

/-- Whether there is one row for each item, in order. What a row has to be may go by the place of
its item. -/
structure AreRows (rows : List String) (items : List α) (row : Nat → α → String) : Prop where
  length_eq : rows.length = items.length
  at_place : ∀ i a, items[i]? = some a → rows[i]? = some (row i a)

theorem areRows_map (items : List α) (row : α → String) :
    AreRows (items.map row) items fun _ => row where
  length_eq := List.length_map row
  at_place := by
    intro i a ha
    rw [List.getElem?_map, ha, Option.map_some]

theorem areRows_zipIdx (items : List α) (row : α → Nat → String) :
    AreRows ((items.zipIdx 1).map fun (a, number) => row a number) items
      fun i a => row a (i + 1) where
  length_eq := by rw [List.length_map, List.length_zipIdx]
  at_place := by
    intro i a ha
    rw [List.getElem?_map, List.getElem?_zipIdx, ha, Option.map_some, Option.map_some,
      Nat.add_comm 1 i]

/-- Whether a text is a page of the listing and shows these commands, each in a line of its own with
what it is for. -/
def IsListing (text : String) (shown : List Command) (page pages : Nat) (sign : Char) : Prop :=
  ∃ rows : List String,
    text = Text.trimEnd (
      s!"{sign}help <page> -- To change page.\n"
        ++ s!"{sign}help <command> -- To view a command in more detail.\n\n"
        ++ s!"Page {page}/{pages}:\n" ++ String.join rows) ∧
    AreRows rows shown fun _ c =>
      s!"  {sign}{c.path} -- " ++ c.summary.getD "No description." ++ "\n"

theorem isListing_listing (commands : List Command) (page perPage : Nat) (sign : Char) :
    IsListing (listing commands page perPage sign) (onPage commands page perPage) page
      (pageCount commands.length perPage) sign :=
  ⟨_, rfl, areRows_map (onPage commands page perPage) _⟩

/-- Whether a text is the list of commands, each in a line of its own behind its number, counted
from one. -/
def IsNumbered (text : String) (commands : List Command) (sign : Char) : Prop :=
  ∃ rows : List String,
    text = Text.trimEnd (
      s!"{commands.length} commands found, please be more specific or add an index to the end "
        ++ "of the help command\n" ++ String.join rows) ∧
    AreRows rows commands fun i c => s!"  {i + 1} {sign}{c.path}\n"

theorem isNumbered_choices (commands : List Command) (sign : Char) :
    IsNumbered (choices commands sign) commands sign :=
  ⟨_, rfl, areRows_zipIdx commands fun c i => s!"  {i} {sign}{c.path}\n"⟩

/-- Whether a text is the detail view of a command: what it is for, how it is called, each of its
parameters in a line of its own behind its number, counted from one, and below that its examples, if
it has any. -/
def IsDetail (text : String) (c : Command) (sign : Char) : Prop :=
  ∃ params examples : List String,
    text = Text.trimEnd (
      s!"{c.name} command:\n" ++ (c.summary.getD "No description." ++ "\n")
        ++ s!"  {sign}{c.usage}\n" ++ String.join params ++ String.join examples) ∧
    (AreRows params c.params fun i p =>
      s!"   {i + 1}: {p.name} -- " ++ p.summary.getD "No description." ++ "\n") ∧
    (c.examples = [] → examples = []) ∧
    (c.examples ≠ [] → ∃ rows, examples = "\nExample:" :: rows ∧
      AreRows rows c.examples fun _ text => "\n" ++ text)

theorem isDetail_detail (c : Command) (sign : Char) : IsDetail (detail c sign) c sign := by
  have hparams := areRows_zipIdx c.params fun p i =>
    s!"   {i}: {p.name} -- " ++ p.summary.getD "No description." ++ "\n"
  cases hexamples : c.examples with
  | nil =>
      refine ⟨_, [], ?_, hparams, fun _ => rfl, fun hne => absurd hexamples hne⟩
      simp only [detail, hexamples]
      rfl
  | cons first rest =>
      have hrows := areRows_map c.examples fun text => "\n" ++ text
      refine ⟨_, _, ?_, hparams, fun hnil => ?_, fun _ => ⟨_, rfl, hrows⟩⟩
      · simp only [detail, hexamples, String.join_cons]
        rfl
      · rw [hexamples] at hnil
        contradiction

end ChatWarden.Help
