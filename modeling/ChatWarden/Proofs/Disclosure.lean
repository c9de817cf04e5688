import ChatWarden.Builtin

/-!
# What help discloses

Help shows commands in two ways: the listing cuts the visible commands into pages, and a question
about a command searches the whole catalog and drops what is not visible from the finds. Both come
to the same as a search among the visible commands alone (`visible_agreeing`). So the answer is the
same wherever the visible commands are, whatever else is registered (`help_discloses_only_visible`).
-/

namespace ChatWarden

variable {η θ : Type}

/-- The commands that help may show to an actor: those that are not hidden and that the actor may
run, in the order of registration. -/
def Snapshot.visibleTo (snapshot : Snapshot η) (actor : Actor) : List Command :=
  (snapshot.catalog.entries.map Entry.command).filter fun c =>
    !c.isHidden && snapshot.policies.canRun c actor = .approved

theorem Catalog.map_command_agreeing (c : Catalog η) (tokens : List String) :
    (c.agreeing tokens false).map Entry.command =
      (c.entries.map Entry.command).filter (·.agrees tokens) := by
  have hagrees :
      (fun e : Entry η => e.agrees tokens && (!false || (e.command.score? tokens).isSome))
        = (fun c : Command => c.agrees tokens) ∘ Entry.command := by
    funext e
    simp only [Bool.not_false, Bool.true_or, Bool.and_true]
    rfl
  rw [agreeing, hagrees, List.filter_map]

namespace Builtin

variable {call : Call η} {other : Call θ}

theorem visible_entries (call : Call η) :
    visible call call.snapshot.catalog.entries = call.snapshot.visibleTo call.actor := rfl

/-- To search first and then to drop what is not visible is to search what is visible. -/
theorem visible_agreeing (call : Call η) (words : List String) :
    visible call (call.snapshot.catalog.agreeing words false) =
      (call.snapshot.visibleTo call.actor).filter (·.agrees words) := by
  simp only [visible, Catalog.map_command_agreeing, Snapshot.visibleTo, List.filter_filter,
    Bool.and_comm]

/-! ## Two calls in which the same commands are visible -/

/-- Two calls with the same sign and arguments, in which the same commands are visible. -/
structure Alike (call : Call η) (other : Call θ) : Prop where
  visible : call.snapshot.visibleTo call.actor = other.snapshot.visibleTo other.actor
  sign : call.sign = other.sign
  arguments : call.arguments = other.arguments

theorem helpListing_congr (h : Alike call other) (perPage : Nat) (requested : Int) :
    helpListing perPage call requested = helpListing perPage other requested := by
  simp only [helpListing, visible_entries, h.visible, h.sign]

theorem helpDetail_congr (h : Alike call other) (query : List String) :
    helpDetail call query = helpDetail other query := by
  simp only [helpDetail, visible_agreeing, h.visible, h.sign]

theorem helpText_congr (h : Alike call other) (perPage : Nat) (query : List String) :
    helpText perPage call query = helpText perPage other query := by
  unfold helpText
  split
  · exact helpListing_congr h perPage 1
  · split
    · exact helpListing_congr h perPage _
    · exact helpDetail_congr h _
  · exact helpDetail_congr h _

theorem behave_help_congr (h : Alike call other) (perPage : Nat) :
    behave (.help perPage) call = behave (.help perPage) other := by
  simp only [behave, helpQuery, h.arguments, helpText_congr h]

/-! ## The words of a query -/

theorem coerceTail_of_text {p : Command.Param} (h : p.type = .text) (position : Nat)
    (tokens : List String) :
    Command.coerceTail p position tokens = .ok (tokens.map .text) := by
  induction tokens generalizing position with
  | nil => rfl
  | cons token rest ih =>
      have htoken : Command.coerceToken p position token = .ok (.text token) := by
        simp [Command.coerceToken, Command.ParamType.convert, h]
      simp only [Command.coerceTail, htoken, ih, bind, Except.bind, pure, Except.pure,
        List.map_cons]

/-- Any words are the arguments of a call of help. -/
theorem coerce_helpCommand (query : List String) :
    Command.coerce helpCommand.params query = .ok ⟨[("query", .list (query.map .text))]⟩ := by
  have htail (p : Command.Param) (h : p.type = .text) := coerceTail_of_text h 0 query
  simp [Command.coerce, helpCommand, Command.coerceFrom, Command.coerceParam, htail, bind,
    Except.bind, pure, Except.pure, Except.map]

/-- What help does when it is called with words. It is set up with at least one command a page. -/
def askHelp (perPage : Nat) (snapshot : Snapshot η) (actor : Actor) (sign : Char)
    (query : List String) : Except Command.CoercionError Reaction :=
  (Command.coerce helpCommand.params query).map fun arguments =>
    behave (.help (max perPage 1)) { actor, command := helpCommand, arguments, snapshot, sign }

/-- A text as the answer of help. -/
def answer (text : String) : Except Command.CoercionError Reaction :=
  .ok (.output (.info text))

/-- The call that the words of a query become. -/
def helpCall (snapshot : Snapshot η) (actor : Actor) (sign : Char) (query : List String) :
    Call η :=
  { actor, command := helpCommand, snapshot, sign
    arguments := ⟨[("query", .list (query.map .text))]⟩ }

theorem helpQuery_helpCall (snapshot : Snapshot η) (actor : Actor) (sign : Char)
    (query : List String) : helpQuery (helpCall snapshot actor sign query) = query := by
  have hlist : (helpCall snapshot actor sign query).arguments.list? "query" =
      some (query.map .text) := by
    simp [helpCall, Command.Arguments.list?, Command.Arguments.get?, Command.Value.asList?]
  have hrender : Command.Value.render ∘ Command.Value.text = id := by
    funext word
    simp [Command.Value.render]
  rw [helpQuery, hlist, Option.getD_some, List.map_map, hrender, List.map_id]

/-- Help answers any words with a text, which depends on nothing but them and the call. -/
theorem askHelp_eq (perPage : Nat) (snapshot : Snapshot η) (actor : Actor) (sign : Char)
    (query : List String) :
    askHelp perPage snapshot actor sign query =
      answer (helpText (max perPage 1) (helpCall snapshot actor sign query) query) := by
  have hbehave : behave (.help (max perPage 1)) (helpCall snapshot actor sign query) =
      .output (.info (helpText (max perPage 1) (helpCall snapshot actor sign query) query)) := by
    rw [behave, helpQuery_helpCall]
  rw [askHelp, coerce_helpCommand]
  exact congrArg Except.ok hbehave

/-- Help gives the same answer to any words wherever the same commands are visible, one after the
other in the order of registration. What else is registered makes no difference, nor why it is not
visible. -/
theorem help_discloses_only_visible {snapshot : Snapshot η} {others : Snapshot θ}
    {actor actor' : Actor} (h : snapshot.visibleTo actor = others.visibleTo actor')
    (perPage : Nat) (sign : Char) (query : List String) :
    ∃ arguments, Command.coerce helpCommand.params query = .ok arguments ∧
      behave (.help perPage) { actor, command := helpCommand, arguments, snapshot, sign } =
        behave (.help perPage)
          { actor := actor', command := helpCommand, arguments, snapshot := others, sign } := by
  refine ⟨_, coerce_helpCommand query, behave_help_congr ?_ perPage⟩
  exact ⟨h, rfl, rfl⟩

/-- A command `file` with a second word. -/
def fileCommand (verb owner : String) : Command :=
  { Command.ofSegments ["file", verb] with owner }

/-- Two commands that all may run. -/
def filesSnapshot : Snapshot Unit :=
  let commands := [(fileCommand "list" "Files", ()), (fileCommand "read" "Files", ())]
  ⟨(CatalogBuilder.empty.registerAll commands).1.catalog, ∅⟩

/-- A hidden command and a denied one, registered between two that are visible, take no number in
the answer to `help file`. -/
theorem help_discloses_only_visible_files :
    let list := fileCommand "list" "Files"
    let read := fileCommand "read" "Files"
    let wipe := { fileCommand "wipe" "Files" with isHidden := true }
    let lock := fileCommand "lock" "Locks"
    let locks : Policy := { name := "Locks", rules := [⟨.blacklist, .user, [1]⟩] }
    let catalog (commands : List (Command × Unit)) : Catalog Unit :=
      (CatalogBuilder.empty.registerAll commands).1.catalog
    let snapshot : Snapshot Unit :=
      ⟨catalog [(list, ()), (wipe, ()), (lock, ()), (read, ())], .add ∅ locks⟩
    let others : Snapshot Unit := ⟨catalog [(list, ()), (read, ())], ∅⟩
    let actor : Actor := { user := 1, channel := 2 }
    let actor' : Actor := { user := 3, channel := 4, isMaintainer := true }
    snapshot.visibleTo actor = [list, read] ∧ others.visibleTo actor' = [list, read] ∧
      ∃ arguments, Command.coerce helpCommand.params ["file"] = .ok arguments ∧
        behave (.help 20) ⟨actor, helpCommand, arguments, snapshot, '!'⟩ =
          behave (.help 20) ⟨actor', helpCommand, arguments, others, '!'⟩ := by
  refine ⟨?_, ?_, help_discloses_only_visible ?_ 20 '!' ["file"]⟩
  all_goals rfl

end Builtin

end ChatWarden
