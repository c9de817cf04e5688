import ChatWarden.Command.Arguments

/-!
# The values of a call

A conversion that succeeds gives one value for each parameter, under its name and in the order of
the parameters (`names_of_coerce`). What stands at a position is what the parameter there makes of
the tokens from that position on, and it is found by name where names differ (`get?_of_coerce`).
-/

namespace ChatWarden.Command

variable {p : Param} {ps params : List Param} {tokens : List String} {start i : Nat} {v : Value}
  {values : List (String × Value)} {arguments : Arguments}

namespace Arguments

/-- Where names differ, a value is found under its name. -/
theorem get?_of_mem {name : String} (hnodup : (arguments.values.map Prod.fst).Nodup)
    (h : (name, v) ∈ arguments.values) : arguments.get? name = some v := by
  obtain ⟨values⟩ := arguments
  simp only [get?] at hnodup h ⊢
  induction values with
  | nil => cases h
  | cons entry rest ih =>
      obtain ⟨hhead, htail⟩ := List.nodup_cons.mp (List.map_cons ▸ hnodup)
      rcases List.mem_cons.mp h with rfl | h
      · simp
      · have hne : (entry.1 == name) = false :=
          beq_eq_false_iff_ne.mpr fun heq => hhead (heq ▸ List.mem_map_of_mem h)
        rw [List.find?_cons, hne]
        exact ih htail h

end Arguments

/-! ## One parameter -/

theorem coerceToken_eq_ok_iff {token : String} :
    coerceToken p start token = .ok v ↔ p.type.convert token = .ok v := by
  rw [coerceToken]
  cases p.type.convert token <;> simp

/-- What a parameter that is not variadic makes of its token, or of there being none. -/
theorem coerceParam_drop_eq_ok_iff (hv : p.isVariadic = false) :
    coerceParam p start (tokens.drop i) = .ok v ↔
      (∃ token, tokens[i]? = some token ∧ p.type.convert token = .ok v) ∨
        tokens[i]? = none ∧ p.acceptsMissing = true ∧ v = p.fallback.getD .unset := by
  rw [← List.head?_drop]
  cases tokens.drop i with
  | nil =>
      cases hm : p.acceptsMissing
      · simp [coerceParam, hv, hm]
      · simp [coerceParam, hv, hm, eq_comm]
  | cons token rest => simp [coerceParam, hv, coerceToken_eq_ok_iff]

/-! ## All parameters -/

theorem coerceFrom_cons_eq_ok_iff :
    coerceFrom start (p :: ps) tokens = .ok values ↔
      ∃ v rest, coerceParam p start tokens = .ok v ∧
        coerceFrom (start + 1) ps tokens.tail = .ok rest ∧ values = (p.name, v) :: rest := by
  rw [coerceFrom]
  cases coerceParam p start tokens with
  | error e => simp [bind, Except.bind]
  | ok v =>
      cases coerceFrom (start + 1) ps tokens.tail with
      | error e => simp [bind, Except.bind]
      | ok rest => simp [bind, Except.bind, pure, Except.pure, eq_comm]

theorem names_of_coerceFrom (h : coerceFrom start params tokens = .ok values) :
    values.map Prod.fst = params.map Param.name := by
  induction params generalizing start tokens values with
  | nil =>
      cases h
      rfl
  | cons p ps ih =>
      obtain ⟨v, rest, -, hrest, rfl⟩ := coerceFrom_cons_eq_ok_iff.mp h
      simp [ih hrest]

theorem exists_getElem?_of_coerceFrom (h : coerceFrom start params tokens = .ok values)
    (hp : params[i]? = some p) :
    ∃ v, values[i]? = some (p.name, v) ∧ coerceParam p (start + i) (tokens.drop i) = .ok v := by
  induction params generalizing start tokens values i with
  | nil => cases hp
  | cons q qs ih =>
      obtain ⟨v, rest, hv, hrest, rfl⟩ := coerceFrom_cons_eq_ok_iff.mp h
      cases i with
      | zero =>
          cases hp
          exact ⟨v, rfl, hv⟩
      | succ i =>
          obtain ⟨w, hw, hcoerce⟩ := ih hrest hp
          rw [List.drop_tail, Nat.add_right_comm, Nat.add_assoc] at hcoerce
          exact ⟨w, hw, hcoerce⟩

theorem coerceFrom_of_coerce (h : coerce params tokens = .ok arguments) :
    coerceFrom 0 params tokens = .ok arguments.values := by
  rw [coerce] at h
  cases hc : coerceFrom 0 params tokens with
  | error e => cases hc ▸ h
  | ok values =>
      cases hc ▸ h
      rfl

/-- One value for each parameter, in the same order. -/
theorem names_of_coerce (h : coerce params tokens = .ok arguments) :
    arguments.values.map Prod.fst = params.map Param.name :=
  names_of_coerceFrom (coerceFrom_of_coerce h)

/-- Under the name of a parameter stands what it makes of the tokens from its position on. -/
theorem get?_of_coerce (hnodup : (params.map Param.name).Nodup)
    (h : coerce params tokens = .ok arguments) (hp : params[i]? = some p) :
    ∃ v, arguments.get? p.name = some v ∧ coerceParam p i (tokens.drop i) = .ok v := by
  obtain ⟨v, hget, hv⟩ := exists_getElem?_of_coerceFrom (coerceFrom_of_coerce h) hp
  rw [Nat.zero_add] at hv
  have hmem : (p.name, v) ∈ arguments.values := List.mem_of_getElem? hget
  exact ⟨v, Arguments.get?_of_mem (names_of_coerce h ▸ hnodup) hmem, hv⟩

end ChatWarden.Command
