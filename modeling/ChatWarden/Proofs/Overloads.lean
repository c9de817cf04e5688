import ChatWarden.Proofs.Registration

/-!
# Choosing between overloads

Commands may share their segments and differ in their parameters. Where tokens satisfy one of them,
some command is selected, and without custom types it is called unless a token of its variadic tail
is of the wrong shape (`find?_of_satisfied`). The quick test does not look into that tail, so a
command of numbers can stand in the way of one of words (`find?_passes_over_satisfied`).
-/

namespace ChatWarden

variable {η : Type}

namespace Entry

/-- Whether tokens call a command: they begin with its segments, and what follows becomes its
arguments. -/
def Satisfied (e : Entry η) (tokens : List String) : Prop :=
  tokens.take e.depth = e.command.segments ∧
    ∃ arguments, Command.coerce e.command.params (tokens.drop e.depth) = .ok arguments

variable {e : Entry η} {tokens : List String} {score : Nat}

theorem exists_score?_iff :
    (∃ score, e.command.score? tokens = some score) ↔
      tokens.take e.depth = e.command.segments ∧
        Command.shapeFits e.command.params (tokens.drop e.depth) = true := by
  simp [Command.score?, depth]

/-- The quick test stops no command that could be called. -/
theorem Satisfied.exists_score? (h : e.Satisfied tokens) :
    ∃ score, e.command.score? tokens = some score := by
  obtain ⟨hlead, arguments, hok⟩ := h
  exact exists_score?_iff.mpr ⟨hlead, Command.shapeFits_of_coerce hok⟩

/-- A command that matches is called exactly if its variadic tail is of the right shape. -/
theorem satisfied_iff_tailFits (hlast : Command.VariadicLast e.command.params)
    (hplain : ∀ p ∈ e.command.params, p.type.isCustom = false)
    (hs : e.command.score? tokens = some score) :
    e.Satisfied tokens ↔ Command.TailFits e.command.params (tokens.drop e.depth) := by
  obtain ⟨hlead, hfits⟩ := exists_score?_iff.mp ⟨score, hs⟩
  rw [Satisfied, Command.exists_coerce_eq_ok_iff_fits hlast hplain]
  simp [hlead, hfits]

end Entry

namespace Catalog

/-- Without custom types, tokens that satisfy some registered command select one, and the selected
command is satisfied as well unless a token of its variadic tail is of the wrong shape. -/
theorem find?_of_satisfied (offers : List (Command × η)) (tokens : List String) :
    let c := (CatalogBuilder.empty.registerAll offers).1.catalog
    (∀ e ∈ c.entries, ∀ p ∈ e.command.params, p.type.isCustom = false) →
    (∃ e ∈ c.entries, e.Satisfied tokens) →
    ∃ m, c.find? tokens = some m ∧ m.entry ∈ c.entries ∧
      (m.entry.Satisfied tokens ↔
        Command.TailFits m.entry.command.params (m.arguments tokens)) := by
  intro c hplain ⟨e, he, hsat⟩
  have hindexed : c.Indexed := CatalogBuilder.indexed_registerAll offers
  cases hf : c.find? tokens with
  | none =>
      obtain ⟨score, hs⟩ := hsat.exists_score?
      rw [hindexed.find?_eq_none_iff.mp hf e he] at hs
      cases hs
  | some m =>
      have hbest : m.IsBest (c.agreeing tokens true) tokens := hindexed.find?_eq_some_iff.mp hf
      have hm : m.entry ∈ c.entries := (List.mem_filter.mp hbest.mem).1
      have hlast := CatalogBuilder.variadicLast_of_mem hm
      exact ⟨m, rfl, hm, Entry.satisfied_iff_tailFits hlast (hplain m.entry hm) hbest.score_eq⟩

/-- The command `sum` of any numbers. -/
def sumOfNumbers : Command :=
  { Command.ofSegments ["sum"] with
    params := [{ name := "numbers", type := .int, isVariadic := true }] }

/-- The command `sum` of a word. -/
def sumOfSeries : Command :=
  { Command.ofSegments ["sum"] with
    method := "sum_of"
    params := [{ name := "series", type := .text }] }

/-- Registered after the command of a word, that of numbers is not in its way. -/
theorem find?_of_satisfied_series :
    let c := (CatalogBuilder.empty.registerAll [(sumOfSeries, ()), (sumOfNumbers, ())]).1.catalog
    (∀ e ∈ c.entries, ∀ p ∈ e.command.params, p.type.isCustom = false) ∧
      (∃ e ∈ c.entries, e.Satisfied ["sum", "primes"]) ∧
      ∃ m, c.find? ["sum", "primes"] = some m ∧ m.entry ∈ c.entries ∧
        (m.entry.Satisfied ["sum", "primes"] ↔
          Command.TailFits m.entry.command.params (m.arguments ["sum", "primes"])) := by
  intro c
  have hplain : ∀ e ∈ c.entries, ∀ p ∈ e.command.params, p.type.isCustom = false := by decide
  have hsat : ∃ e ∈ c.entries, e.Satisfied ["sum", "primes"] :=
    ⟨⟨sumOfSeries, (), 0⟩, List.mem_cons_self, rfl, _, rfl⟩
  exact ⟨hplain, hsat, find?_of_satisfied _ _ hplain hsat⟩

/-- Registered first, the command of numbers is selected for a word, which it refuses, although the
command of a word would take it. -/
theorem find?_passes_over_satisfied :
    let c := (CatalogBuilder.empty.registerAll [(sumOfNumbers, ()), (sumOfSeries, ())]).1.catalog
    (∀ e ∈ c.entries, ∀ p ∈ e.command.params, p.type.isCustom = false) ∧
      (∃ e ∈ c.entries, e.Satisfied ["sum", "primes"]) ∧
      ∃ m error, c.find? ["sum", "primes"] = some m ∧
        Command.coerce m.entry.command.params (m.arguments ["sum", "primes"]) = .error error := by
  intro c
  refine ⟨by decide, ⟨⟨sumOfSeries, (), 1⟩, ?_, rfl, _, rfl⟩, ?_⟩
  · exact List.mem_cons_of_mem _ List.mem_cons_self
  · exact ⟨⟨⟨sumOfNumbers, (), 0⟩, 3⟩, ⟨0, "numbers", .token "primes" .notInt⟩, rfl, rfl⟩

end Catalog

end ChatWarden
