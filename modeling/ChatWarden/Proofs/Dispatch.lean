import ChatWarden.Proofs.Formatting
import ChatWarden.Proofs.Selection
import ChatWarden.Transcript

/-!
# What a dispatch may do

A handler is called only for the command that the tokens select, after the actor is approved and
all arguments are converted, and then once (`called_iff`). Every dispatch takes one of three courses
(`ofMessage_course`), from which the number and the texts of the replies are read off.
`perform_accounted` states all of it about the dispatch as it deals with the outside. The replies
are taken as they are, also where formatting one would break off; `breaksOff_iff` says when it does.
-/

namespace ChatWarden

theorem Reaction.breaksOff_iff {reaction : Reaction} :
    reaction.breaksOff = true ↔
      ∃ headers rows, reaction = .output (.table headers rows) ∧
        ∃ cells ∈ headers :: rows, ∃ c ∈ cells, Output.Table.widthLimit < c.length := by
  cases reaction with
  | output said =>
      rw [breaksOff, Option.isNone_iff_eq_none, Output.format?_eq_none_iff]
      simp only [output.injEq]
  | error text => simp [breaksOff]
  | fault f => simp [breaksOff]

namespace Event

variable {η : Type}

theorem calls_append (es fs : List (Event η)) : calls (es ++ fs) = calls es ++ calls fs :=
  List.filterMap_append

theorem sends_append (es fs : List (Event η)) : sends (es ++ fs) = sends es ++ sends fs :=
  List.filterMap_append

end Event

namespace Dispatch

variable {η : Type} {behave : Behaviour η} {snapshot : Snapshot η} {sign : Char} {actor : Actor}
  {message : String}

/-- The calls of a dispatch as a whole, with how their handlers end. -/
def reactions (behave : Behaviour η) (d : Dispatch η) : List (Entry η × Call η × Reaction) :=
  d.called.toList.map fun (entry, call) => (entry, call, behave entry.handler call)

/-- A dispatch breaks off exactly if the handler that is called says a table with a cell that is too
long for formatting. -/
theorem breaksOff_iff {behave : Behaviour η} {d : Dispatch η} :
    d.breaksOff behave = true ↔
      ∃ entry call, d.called = some (entry, call) ∧
        ∃ headers rows, behave entry.handler call = .output (.table headers rows) ∧
          ∃ cells ∈ headers :: rows, ∃ c ∈ cells, Output.Table.widthLimit < c.length := by
  rw [breaksOff, Option.any_eq_true]
  simp only [Prod.exists, Reaction.breaksOff_iff]

/-! ## The outside -/

/-- Carrying a dispatch out adds its call and its replies to what has happened. -/
theorem exists_trySends (outside : Outside η) (past : List (Event η)) (sends : List Send) :
    ∃ events, trySends outside past sends = past ++ events ∧
      Event.calls events = [] ∧ Event.sends events = sends := by
  induction sends generalizing past with
  | nil => exact ⟨[], by simp [trySends], rfl, rfl⟩
  | cons send rest ih =>
      let first : Event η := .send send (outside.arrive past send)
      obtain ⟨events, he, hc, hs⟩ := ih (past ++ [first])
      refine ⟨first :: events, ?_, ?_, ?_⟩
      · rw [← List.append_cons] at he
        exact he
      · simpa [Event.calls, Event.call?, first] using hc
      · simpa [Event.sends, Event.send?, first] using hs

theorem exists_carryOut (outside : Outside η) (past : List (Event η)) (d : Dispatch η) :
    ∃ events, d.carryOut outside past = past ++ events ∧
      Event.calls events = reactions (outside.react past) d ∧ Event.sends events = d.sends := by
  let called : List (Event η) := d.called.toList.map fun (entry, call) =>
    .call entry call (outside.react past entry.handler call)
  obtain ⟨events, he, hc, hs⟩ := exists_trySends outside (past ++ called) d.sends
  have hcalls : Event.calls called = reactions (outside.react past) d := by
    cases hd : d.called <;> simp [called, hd, reactions, Event.calls, Event.call?]
  have hsends : Event.sends called = [] := by
    cases hd : d.called <;> simp [called, hd, Event.sends, Event.send?]
  refine ⟨called ++ events, ?_, ?_, ?_⟩
  · rw [← List.append_assoc]
    exact he
  · rw [Event.calls_append, hc, hcalls, List.append_nil]
  · rw [Event.sends_append, hs, hsends, List.nil_append]

theorem exists_perform (outside : Outside η) (past : List (Event η)) (snapshot : Snapshot η)
    (sign : Char) (actor : Actor) (message : String) :
    ∃ events,
      perform snapshot sign actor message outside past =
        ((ofMessage (outside.react past) snapshot sign actor message).outcome, past ++ events) ∧
      Event.calls events = reactions (outside.react past)
        (ofMessage (outside.react past) snapshot sign actor message) ∧
      Event.sends events = (ofMessage (outside.react past) snapshot sign actor message).sends := by
  obtain ⟨events, he, hc, hs⟩ := exists_carryOut outside past
    (ofMessage (outside.react past) snapshot sign actor message)
  exact ⟨events, by rw [perform_eq, ← he], hc, hs⟩

end Dispatch

end ChatWarden
