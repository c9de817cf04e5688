import ChatWarden.Proofs.Dispatch

/-!
# Near misses

Tokens that match no command may still begin with the segments of one. Such a near miss selects an
entry that the search for a match has passed over, so nothing in the selection itself keeps its
handler from being called: it is the conversion of the arguments that always fails
(`Catalog.exists_error_of_near_miss`). Here follows what this means for messages.
-/

namespace ChatWarden

variable {η : Type}

namespace Catalog

/-- Whether tokens match no command and come closest to the one of an entry. -/
structure IsNearMiss (c : Catalog η) (tokens : List String) (e : Entry η) : Prop where
  unmatched : c.find? tokens = none
  closest : c.closest? tokens = some e

end Catalog

namespace Dispatch

/-- The outcomes of a near miss: it is refused to an actor who may not run the command, and for its
arguments to one who may. -/
inductive NearMissOutcome (policies : PolicySet) (actor : Actor) (tokens : List String)
    (entry : Entry η) : Outcome → Prop
  | denied (h : policies.canRun entry.command actor = .denied) :
    NearMissOutcome policies actor tokens entry (.denied entry.command.path)
  | invalidArguments {error : Command.CoercionError}
    (h : policies.canRun entry.command actor = .approved)
    (he : Command.coerce entry.command.params (tokens.drop entry.depth) = .error error) :
    NearMissOutcome policies actor tokens entry (.invalidArguments entry.command.path error)

variable {snapshot : Snapshot η} {sign : Char} {message : String} {invocation : Invocation}
  {entry : Entry η}

theorem ofMessage_near_miss (behave : Behaviour η) (actor : Actor)
    (hi : Invocation.find? sign message.toList = some invocation)
    (hs : invocation.isSilent = false)
    (hm : snapshot.catalog.IsNearMiss invocation.tokens entry) :
    NearMissOutcome snapshot.policies actor invocation.tokens entry
        (ofMessage behave snapshot sign actor message).outcome ∧
      (ofMessage behave snapshot sign actor message).called = none := by
  have hselect : select? snapshot.catalog invocation.tokens invocation.isSilent = some entry := by
    simp [select?, hm.unmatched, hm.closest, hs]
  obtain ⟨error, he⟩ := Catalog.exists_error_of_near_miss hm.unmatched hm.closest
  simp only [ofMessage, hi, ofTokens, hselect, he]
  cases hp : snapshot.policies.canRun entry.command actor with
  | denied => exact ⟨.denied hp, rfl⟩
  | approved => exact ⟨.invalidArguments hp he, rfl⟩

theorem perform_near_miss (outside : Outside η) (past : List (Event η)) (actor : Actor)
    (hi : Invocation.find? sign message.toList = some invocation)
    (hs : invocation.isSilent = false)
    (hm : snapshot.catalog.IsNearMiss invocation.tokens entry) :
    ∃ outcome events,
      perform snapshot sign actor message outside past = (outcome, past ++ events) ∧
      NearMissOutcome snapshot.policies actor invocation.tokens entry outcome ∧
      Event.calls events = [] := by
  obtain ⟨events, hp, hc, _⟩ := exists_perform outside past snapshot sign actor message
  obtain ⟨ho, hn⟩ := ofMessage_near_miss (outside.react past) actor hi hs hm
  exact ⟨_, events, hp, ho, by rw [hc, reactions, hn]; rfl⟩

/-- A silent message gets no near miss: where no command matches, nothing at all is done. -/
theorem perform_of_silent_unmatched (outside : Outside η) (past : List (Event η)) (actor : Actor)
    (hi : Invocation.find? sign message.toList = some invocation)
    (hs : invocation.isSilent = true) (hf : snapshot.catalog.find? invocation.tokens = none) :
    perform snapshot sign actor message outside past = (.notFound true, past) := by
  have hd : ofMessage (outside.react past) snapshot sign actor message =
      { outcome := .notFound true } := by
    simp [ofMessage, hi, ofTokens, select?, hf, hs]
  rw [perform_eq, hd]
  simp [carryOut, trySends]

/-- In a catalog that was built command by command the arguments of a near miss are never converted,
so a message that falls back to one is refused without a call. A silent message whose tokens match
no command is passed over. -/
theorem near_miss_is_refused (offers : List (Command × η)) :
    let catalog := (CatalogBuilder.empty.registerAll offers).1.catalog
    (∀ tokens entry, catalog.IsNearMiss tokens entry →
      ∃ error, Command.coerce entry.command.params (tokens.drop entry.depth) = .error error) ∧
    ∀ policies sign actor message invocation outside past,
      Invocation.find? sign message.toList = some invocation →
      (∀ entry, invocation.isSilent = false → catalog.IsNearMiss invocation.tokens entry →
        ∃ outcome events,
          perform ⟨catalog, policies⟩ sign actor message outside past = (outcome, past ++ events) ∧
          NearMissOutcome policies actor invocation.tokens entry outcome ∧
          Event.calls events = []) ∧
      (invocation.isSilent = true →
        (∀ entry ∈ catalog.entries, entry.command.score? invocation.tokens = none) →
        perform ⟨catalog, policies⟩ sign actor message outside past = (.notFound true, past)) := by
  intro catalog
  have hindexed : catalog.Indexed := CatalogBuilder.indexed_registerAll offers
  refine ⟨fun tokens entry hm => Catalog.exists_error_of_near_miss hm.unmatched hm.closest, ?_⟩
  intro policies sign actor message invocation outside past hi
  refine ⟨fun entry hs hm => ?_, fun hs hnone => ?_⟩
  · exact perform_near_miss outside past actor hi hs hm
  · have hunmatched := hindexed.find?_eq_none_iff.mpr hnone
    exact perform_of_silent_unmatched outside past actor hi hs hunmatched

/-- The command `roll` of one number. -/
def rollCommand : Command :=
  { Command.ofSegments ["roll"] with params := [{ name := "sides", type := .int }] }

/-- A word is no number of sides: `roll dice` is a near miss, refused when it is spoken aloud and
passed over in braces. -/
theorem near_miss_is_refused_roll_dice :
    let catalog := (CatalogBuilder.empty.registerAll [(rollCommand, ())]).1.catalog
    let entry : Entry Unit := ⟨rollCommand, (), 0⟩
    let actor : Actor := { user := 1, channel := 2 }
    let outside : Outside Unit :=
      { react := fun _ _ _ => .output .none, arrive := fun _ _ => .ok () }
    catalog.IsNearMiss ["roll", "dice"] entry ∧
      (∃ error, Command.coerce entry.command.params ["dice"] = .error error) ∧
      (∃ outcome events,
        perform ⟨catalog, ∅⟩ '!' actor "!roll dice" outside [] = (outcome, events) ∧
        NearMissOutcome ∅ actor ["roll", "dice"] entry outcome ∧ Event.calls events = []) ∧
      perform ⟨catalog, ∅⟩ '!' actor "\x7b!roll dice\x7d" outside [] = (.notFound true, []) := by
  intro catalog entry actor outside
  have hm : catalog.IsNearMiss ["roll", "dice"] entry := ⟨rfl, rfl⟩
  have hloud : Invocation.find? '!' "!roll dice".toList = some ⟨"roll dice".toList, false⟩ := by
    decide
  have hsilent : Invocation.find? '!' "\x7b!roll dice\x7d".toList =
      some ⟨"roll dice".toList, true⟩ := by
    decide
  have hnone : ∀ e ∈ catalog.entries, e.command.score? ["roll", "dice"] = none := by
    intro e he
    obtain rfl := List.mem_singleton.mp he
    decide
  have hrefused := near_miss_is_refused [(rollCommand, ())]
  exact ⟨hm, hrefused.1 _ entry hm,
    (hrefused.2 ∅ '!' actor _ _ outside [] hloud).1 entry rfl hm,
    (hrefused.2 ∅ '!' actor _ _ outside [] hsilent).2 rfl hnone⟩

end Dispatch

end ChatWarden
