import ChatWarden.Proofs.Arguments
import ChatWarden.Proofs.Conversion

/-!
# Where a conversion fails and what it gives

A position fails if its token is not of the type of the parameter it falls to, or if it has none
although its parameter needs one (`FailsAt`). The conversion succeeds if no position fails, and else
it reports the first that does. What it gives is for each parameter the value that the tokens from
its position on stand for (`Param.Takes`), and each value is found under its parameter's name
(`coerce_by_position`).
-/

namespace ChatWarden.Command

variable {p : Param} {params : List Param} {tokens : List String} {start i : Nat} {v : Value}
  {cause : CoercionCause} {e : CoercionError}

/-- `FailsAt params tokens i p cause` says that position `i`, which falls to the parameter `p`,
fails for the given cause. -/
inductive FailsAt (params : List Param) (tokens : List String) (i : Nat) :
    Param → CoercionCause → Prop
  | token {p : Param} {token : String} {error : ConversionError} (hp : governor? params i = some p)
      (ht : tokens[i]? = some token) (herror : p.type.convert token = .error error) :
      FailsAt params tokens i p (.token token error)
  | missing {p : Param} (hp : governor? params i = some p) (ht : tokens[i]? = none)
      (hv : p.isVariadic = false) (hm : p.acceptsMissing = false) :
      FailsAt params tokens i p .missing

/-- `p.Takes tokens v` says that `v` is the value of the parameter `p` if the tokens from its
position on are the given ones. -/
inductive Param.Takes (p : Param) : List String → Value → Prop
  /-- A variadic parameter takes them all. -/
  | tail {tokens : List String} {items : List Value} (hv : p.isVariadic = true)
      (h : tokens.map p.type.convert = items.map Except.ok) : Takes p tokens (.list items)
  /-- Any other takes the first. -/
  | token {token : String} {rest : List String} {v : Value} (hv : p.isVariadic = false)
      (h : p.type.convert token = .ok v) : Takes p (token :: rest) v
  /-- Without a token it has its default or none. -/
  | fallback (hv : p.isVariadic = false) : Takes p [] (p.fallback.getD .unset)

/-! ## Positions that fail -/

theorem FailsAt.governor?_eq (h : FailsAt params tokens i p cause) :
    governor? params i = some p := by
  cases h with
  | token hp | missing hp => exact hp

theorem objection?_eq_some_iff (hp : governor? params i = some p) :
    p.objection? tokens[i]? = some cause ↔ FailsAt params tokens i p cause := by
  constructor
  · intro h
    cases ht : tokens[i]? with
    | none =>
        rw [ht, Param.objection?] at h
        split at h
        · cases h
        · rename_i hneed
          cases h
          have hneeds : p.isVariadic = false ∧ p.acceptsMissing = false := by simpa using hneed
          exact .missing hp ht hneeds.1 hneeds.2
    | some token =>
        rw [ht, Param.objection?] at h
        split at h
        · cases h
        · rename_i error herror
          cases h
          exact .token hp ht herror
  · intro h
    cases h with
    | token _ ht herror => simp [ht, Param.objection?, herror]
    | missing _ ht hv hm => simp [ht, Param.objection?, hv, hm]

theorem misfit?_eq_some_iff :
    misfit? params tokens i = some e ↔
      ∃ p, FailsAt params tokens i p e.cause ∧ e.position = i ∧ e.name = p.name := by
  rw [misfit?, misfitFrom?_eq_some_iff, Nat.zero_add]
  constructor
  · rintro ⟨p, hp, hobjection, hposition, hname⟩
    exact ⟨p, (objection?_eq_some_iff hp).mp hobjection, hposition, hname⟩
  · rintro ⟨p, hfails, hposition, hname⟩
    have hp : governor? params i = some p := hfails.governor?_eq
    exact ⟨p, hp, (objection?_eq_some_iff hp).mpr hfails, hposition, hname⟩

theorem misfit?_eq_none_iff :
    misfit? params tokens i = none ↔ ∀ p cause, ¬FailsAt params tokens i p cause := by
  rw [Option.eq_none_iff_forall_ne_some]
  constructor
  · intro h p cause hfails
    exact h ⟨i, p.name, cause⟩ (misfit?_eq_some_iff.mpr ⟨p, hfails, rfl, rfl⟩)
  · intro h e he
    obtain ⟨p, hfails, -, -⟩ := misfit?_eq_some_iff.mp he
    exact h p e.cause hfails

/-- What is reported is the first position that fails. -/
theorem isFirst_misfit?_iff :
    IsFirst (misfit? params tokens) e ↔
      (∃ p, FailsAt params tokens e.position p e.cause ∧ e.name = p.name) ∧
        ∀ j < e.position, ∀ p cause, ¬FailsAt params tokens j p cause := by
  simp only [← misfit?_eq_none_iff]
  constructor
  · rintro ⟨i, hi, hbefore⟩
    obtain ⟨p, hfails, rfl, hname⟩ := misfit?_eq_some_iff.mp hi
    exact ⟨⟨p, hfails, hname⟩, hbefore⟩
  · rintro ⟨⟨p, hfails, hname⟩, hbefore⟩
    exact ⟨e.position, misfit?_eq_some_iff.mpr ⟨p, hfails, rfl, hname⟩, hbefore⟩

/-! ## Values -/

theorem coerceTail_eq_ok_iff {items : List Value} :
    coerceTail p start tokens = .ok items ↔ tokens.map p.type.convert = items.map Except.ok := by
  induction tokens generalizing start items with
  | nil => cases items <;> simp [coerceTail]
  | cons token rest ih =>
      have hstep : coerceTail p start (token :: rest) = .ok items ↔
          ∃ v vs, coerceToken p start token = .ok v ∧ coerceTail p (start + 1) rest = .ok vs ∧
            items = v :: vs := by
        rw [coerceTail]
        cases coerceToken p start token with
        | error e => simp [bind, Except.bind]
        | ok v =>
            cases coerceTail p (start + 1) rest with
            | error e => simp [bind, Except.bind]
            | ok vs => simp [bind, Except.bind, pure, Except.pure, eq_comm]
      rw [hstep]
      simp only [coerceToken_eq_ok_iff, ih]
      cases items with
      | nil => simp
      | cons item items => simp

/-- The value of a parameter that is given one. -/
theorem takes_of_coerceParam (h : coerceParam p start tokens = .ok v) : p.Takes tokens v := by
  unfold coerceParam at h
  split at h
  · rename_i hv
    cases hc : coerceTail p start tokens with
    | error e =>
        rw [hc] at h
        cases h
    | ok items =>
        rw [hc] at h
        cases h
        exact .tail hv (coerceTail_eq_ok_iff.mp hc)
  · rename_i hv
    have hv : p.isVariadic = false := by simpa using hv
    split at h
    · exact .token hv (coerceToken_eq_ok_iff.mp h)
    · split at h
      · cases h
        exact .fallback hv
      · cases h

/-- Where no parameter is variadic, tokens beyond the last one are not looked at. -/
theorem coerceFrom_take (hplain : ∀ p ∈ params, p.isVariadic = false) :
    coerceFrom start params (tokens.take params.length) = coerceFrom start params tokens := by
  induction params generalizing start tokens with
  | nil => rfl
  | cons p ps ih =>
      have hv : p.isVariadic = false := hplain p (by simp)
      have hps : ∀ q ∈ ps, q.isVariadic = false := fun q hq => hplain q (by simp [hq])
      cases tokens with
      | nil => rfl
      | cons token rest =>
          have hhead : coerceParam p start (token :: rest.take ps.length)
              = coerceParam p start (token :: rest) := by simp [coerceParam, hv]
          rw [List.length_cons, List.take_succ_cons, coerceFrom, coerceFrom, hhead, List.tail_cons,
            List.tail_cons, ih hps]

/-! ## The whole conversion -/

/-- The conversion of tokens under parameters whose names differ and of which only the last may be
variadic, position by position: when it succeeds, which position it reports when it does not, which
value it gives to each parameter when it does, and which tokens it leaves alone. -/
theorem coerce_by_position (hlast : VariadicLast params)
    (hnodup : (params.map Param.name).Nodup) (tokens : List String) :
    ((∃ arguments, coerce params tokens = .ok arguments) ↔
      ∀ i p cause, ¬FailsAt params tokens i p cause) ∧
    (∀ e, coerce params tokens = .error e ↔
      (∃ p, FailsAt params tokens e.position p e.cause ∧ e.name = p.name) ∧
        ∀ j < e.position, ∀ p cause, ¬FailsAt params tokens j p cause) ∧
    (∀ arguments, coerce params tokens = .ok arguments →
      arguments.values.map Prod.fst = params.map Param.name ∧
      ∀ (i : Nat) (p : Param), params[i]? = some p → ∃ v, arguments.values[i]? = some (p.name, v) ∧
        arguments.get? p.name = some v ∧ p.Takes (tokens.drop i) v) ∧
    ((∀ p ∈ params, p.isVariadic = false) →
      coerce params (tokens.take params.length) = coerce params tokens) := by
  refine ⟨?succeeds, fun e => ?reports, fun arguments hok => ⟨?names, fun i p hp => ?value⟩,
    fun hplain => ?beyond⟩
  case succeeds =>
    rw [exists_coerce_eq_ok_iff hlast]
    exact forall_congr' fun i => misfit?_eq_none_iff
  case reports =>
    rw [coerce_eq_error_iff hlast]
    exact isFirst_misfit?_iff
  case names => exact names_of_coerce hok
  case value =>
    obtain ⟨v, hvalue, hparam⟩ := exists_getElem?_of_coerceFrom (coerceFrom_of_coerce hok) hp
    have hmem : (p.name, v) ∈ arguments.values := List.mem_of_getElem? hvalue
    have hget : arguments.get? p.name = some v :=
      Arguments.get?_of_mem (names_of_coerce hok ▸ hnodup) hmem
    exact ⟨v, hvalue, hget, takes_of_coerceParam hparam⟩
  case beyond => rw [coerce, coerce, coerceFrom_take hplain]

/-- A call with two numbers for a variadic tail, and one with two words, the first of which is
reported. -/
theorem coerce_by_position_ids :
    let target : Param := { name := "target", type := .text }
    let ids : Param := { name := "ids", type := .int, isVariadic := true }
    let taken : Arguments := ⟨[("target", .text "dice"), ("ids", .list [.int 3, .int 4])]⟩
    VariadicLast [target, ids] ∧ ([target, ids].map Param.name).Nodup ∧
      coerce [target, ids] ["dice", "3", "4"] = .ok taken ∧
      (∀ i p cause, ¬FailsAt [target, ids] ["dice", "3", "4"] i p cause) ∧
      (∃ v, taken.get? "ids" = some v ∧ ids.Takes ["3", "4"] v) ∧
      coerce [target, ids] ["dice", "3", "x", "y"] = .error ⟨2, "ids", .token "x" .notInt⟩ ∧
      (∃ p, FailsAt [target, ids] ["dice", "3", "x", "y"] 2 p (.token "x" .notInt) ∧
        "ids" = p.name) ∧
      ∀ j < 2, ∀ p cause, ¬FailsAt [target, ids] ["dice", "3", "x", "y"] j p cause := by
  intro target ids taken
  have hlast : VariadicLast [target, ids] := by decide
  have hnodup : ([target, ids].map Param.name).Nodup := by decide
  have hok : coerce [target, ids] ["dice", "3", "4"] = .ok taken := rfl
  have herror : coerce [target, ids] ["dice", "3", "x", "y"]
      = .error ⟨2, "ids", .token "x" .notInt⟩ := rfl
  obtain ⟨hsucceeds, -, hvalues, -⟩ := coerce_by_position hlast hnodup ["dice", "3", "4"]
  obtain ⟨-, hreports, -, -⟩ := coerce_by_position hlast hnodup ["dice", "3", "x", "y"]
  obtain ⟨v, -, hget, htakes⟩ := (hvalues taken hok).2 1 ids rfl
  obtain ⟨hfails, hbefore⟩ := (hreports _).mp herror
  exact ⟨hlast, hnodup, hok, hsucceeds.mp ⟨taken, hok⟩, ⟨v, hget, htakes⟩, herror, hfails, hbefore⟩

end ChatWarden.Command
