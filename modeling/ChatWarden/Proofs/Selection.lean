import ChatWarden.Proofs.Closest

/-!
# Selection and conversion agree

The quick test that selects a command never refuses tokens that the exact conversion takes
(`exists_error_of_not_shapeFits`). So where no command matches, the one that comes closest has an
argument error to report (`exists_error_of_near_miss`).
-/

namespace ChatWarden

namespace Command

theorem coerceFrom_cons_of_error {p : Param} {position : Nat} {tokens : List String}
    {e : CoercionError} (h : coerceParam p position tokens = .error e) (ps : List Param) :
    coerceFrom position (p :: ps) tokens = .error e := by
  simp only [coerceFrom, h, bind, Except.bind]

theorem coerceFrom_cons_of_rest_error {p : Param} {ps : List Param} {position : Nat}
    {tokens : List String} {v : Value} {e : CoercionError}
    (hp : coerceParam p position tokens = .ok v)
    (hps : coerceFrom (position + 1) ps tokens.tail = .error e) :
    coerceFrom position (p :: ps) tokens = .error e := by
  simp only [coerceFrom, hp, hps, bind, Except.bind]

/-- A parameter that is not variadic and can be given its value has passed the quick test. -/
theorem shapeFits_cons_of_coerceParam {p : Param} {ps : List Param} {position : Nat}
    {tokens : List String} {v : Value} (hv : p.isVariadic = false)
    (h : coerceParam p position tokens = .ok v) :
    shapeFits (p :: ps) tokens = shapeFits ps tokens.tail := by
  cases tokens with
  | nil =>
      cases hm : p.acceptsMissing with
      | true => simp [shapeFits, hv, hm]
      | false => simp [coerceParam, hv, hm] at h
  | cons token rest =>
      cases ha : p.type.accepts token with
      | true => simp [shapeFits, hv, ha]
      | false =>
          obtain ⟨cause, hc⟩ := ParamType.exists_error_of_accepts_eq_false ha
          simp [coerceParam, hv, coerceToken, hc] at h

/-- The first parameter that fails the quick test is reached by the conversion, unless an earlier
one has failed already. -/
theorem coerceFrom_error_of_not_shapeFits {params : List Param} {tokens : List String}
    (h : shapeFits params tokens = false) (position : Nat) :
    ∃ e, coerceFrom position params tokens = .error e := by
  induction params generalizing tokens position with
  | nil => simp [shapeFits] at h
  | cons p ps ih =>
      have hv : p.isVariadic = false := by
        simp only [shapeFits, Bool.or_eq_false_iff] at h
        exact h.1
      cases hp : coerceParam p position tokens with
      | error e => exact ⟨e, coerceFrom_cons_of_error hp ps⟩
      | ok v =>
          rw [shapeFits_cons_of_coerceParam hv hp] at h
          obtain ⟨e, he⟩ := ih h (position + 1)
          exact ⟨e, coerceFrom_cons_of_rest_error hp he⟩

theorem exists_error_of_not_shapeFits {params : List Param} {tokens : List String}
    (h : shapeFits params tokens = false) : ∃ e, coerce params tokens = .error e := by
  obtain ⟨e, he⟩ := coerceFrom_error_of_not_shapeFits h 0
  exact ⟨e, by rw [coerce, he]; rfl⟩

end Command

namespace Catalog

variable {η : Type} {c : Catalog η} {tokens : List String} {e : Entry η}

theorem mem_candidates_of_closest? (h : c.closest? tokens = some e) :
    e ∈ c.candidates tokens.length ∧ e.leads tokens = true := by
  have hkept := kept_closest? c tokens
  rw [h] at hkept
  exact List.mem_filter.mp hkept.1

/-- An entry whose segments lead the tokens can only miss its score through its parameters. -/
theorem not_shapeFits_of_score?_eq_none (hl : e.leads tokens = true)
    (hs : e.command.score? tokens = none) :
    Command.shapeFits e.command.params (tokens.drop e.depth) = false := by
  simp only [Entry.leads, Bool.and_eq_true, beq_iff_eq] at hl
  have hseg : tokens.take e.command.segments.length = e.command.segments := hl.2
  simpa [Command.score?, hseg, Entry.depth] using hs

/-- A near miss is never a command that could run. -/
theorem exists_error_of_near_miss (hf : c.find? tokens = none) (hc : c.closest? tokens = some e) :
    ∃ error, Command.coerce e.command.params (tokens.drop e.depth) = .error error := by
  obtain ⟨hm, hl⟩ := mem_candidates_of_closest? hc
  have hs := find?_eq_none_iff.mp hf e hm
  exact Command.exists_error_of_not_shapeFits (not_shapeFits_of_score?_eq_none hl hs)

end Catalog

end ChatWarden
