import ChatWarden.Proofs.Selection

/-!
# Conversion, position by position

Each position of the arguments falls to one parameter (`governor?`). What that parameter has against
the token there, or against there being none, depends on no other position (`misfit?`), and the
conversion fails with the first misfit (`coerce_eq_error_iff`). The quick test looks at the same
positions as far as no variadic parameter governs them (`shapeFits_iff`). So tokens that pass it are
refused by a reader of a custom type or in a variadic tail, or not at all
(`coerce_agrees_with_shapeFits`).
-/

namespace ChatWarden.Command

/-- Whether a value is the first one in a sequence with gaps. -/
def IsFirst {α : Type} (f : Nat → Option α) (a : α) : Prop :=
  ∃ i, f i = some a ∧ ∀ j < i, f j = none

namespace IsFirst

variable {α : Type} {f : Nat → Option α} {a : α}

theorem iff_head_or_tail :
    IsFirst f a ↔ f 0 = some a ∨ f 0 = none ∧ IsFirst (fun i => f (i + 1)) a := by
  constructor
  · rintro ⟨i, hi, hbefore⟩
    cases i with
    | zero => exact .inl hi
    | succ i =>
        refine .inr ⟨hbefore 0 (Nat.zero_lt_succ i), i, hi, fun j hj => ?_⟩
        exact hbefore (j + 1) (Nat.succ_lt_succ hj)
  · rintro (h | ⟨h, i, hi, hbefore⟩)
    · exact ⟨0, h, fun j hj => absurd hj (Nat.not_lt_zero j)⟩
    · refine ⟨i + 1, hi, fun j hj => ?_⟩
      cases j with
      | zero => exact h
      | succ j => exact hbefore j (Nat.lt_of_succ_lt_succ hj)

theorem exists_of_eq_some {i : Nat} (h : f i = some a) : ∃ b, IsFirst f b := by
  induction i using Nat.strongRecOn generalizing a with
  | _ i ih =>
      by_cases hbefore : ∃ j b, j < i ∧ f j = some b
      · obtain ⟨j, b, hj, hb⟩ := hbefore
        exact ih j hj hb
      · refine ⟨a, i, h, fun j hj => Option.eq_none_iff_forall_ne_some.mpr fun b hb => ?_⟩
        exact hbefore ⟨j, b, hj, hb⟩

end IsFirst

/-- Whether no parameter but the last is variadic. -/
def VariadicLast (params : List Param) : Prop :=
  ∀ p ∈ params.dropLast, p.isVariadic = false

instance (params : List Param) : Decidable (VariadicLast params) :=
  inferInstanceAs (Decidable (∀ p ∈ params.dropLast, p.isVariadic = false))

namespace VariadicLast

variable {p : Param} {ps : List Param}

theorem cons (hp : ps ≠ [] → p.isVariadic = false) (h : VariadicLast ps) :
    VariadicLast (p :: ps) := by
  cases ps with
  | nil => simp [VariadicLast]
  | cons q qs =>
      intro r hr
      rcases List.mem_cons.mp (List.dropLast_cons_cons ▸ hr) with rfl | hr
      · exact hp (List.cons_ne_nil q qs)
      · exact h r hr

theorem tail (h : VariadicLast (p :: ps)) : VariadicLast ps := by
  cases ps with
  | nil => simp [VariadicLast]
  | cons q qs => exact fun r hr => h r (by simp [List.dropLast_cons_cons, hr])

theorem eq_nil (h : VariadicLast (p :: ps)) (hv : p.isVariadic = true) : ps = [] := by
  cases ps with
  | nil => rfl
  | cons q qs =>
      have hp := h p (by simp)
      rw [hv] at hp
      cases hp

theorem cons_iff :
    VariadicLast (p :: ps) ↔ (ps ≠ [] → p.isVariadic = false) ∧ VariadicLast ps := by
  refine ⟨fun h => ⟨fun hne => ?_, h.tail⟩, fun h => .cons h.1 h.2⟩
  cases hv : p.isVariadic with
  | false => rfl
  | true => exact (hne (h.eq_nil hv)).elim

end VariadicLast

namespace ParamType

def isCustom : ParamType → Bool
  | .custom _ => true
  | _ => false

/-- A type without a reader of its own converts every token of its shape. -/
theorem exists_convert_eq_ok_iff {t : ParamType} (h : t.isCustom = false) {token : String} :
    (∃ v, t.convert token = .ok v) ↔ t.accepts token = true := by
  cases t with
  | text => simp [convert, accepts]
  | int => cases hn : Text.int64? token <;> simp [convert, accepts, hn]
  | flag => cases hb : flag? token <;> simp [convert, accepts, hb]
  | enumeration t => cases hr : t.resolve? token <;> simp [convert, accepts, hr]
  | custom t => cases h

end ParamType

namespace CoercionError

/-- Whether the reader of a custom type has refused a token. -/
def IsRefusal (e : CoercionError) : Prop :=
  ∃ token message, e.cause = .token token (.refused message)

end CoercionError

namespace Param

/-- What a parameter has against a token, or against there being none. -/
def objection? (p : Param) : Option String → Option CoercionCause
  | some token =>
    match p.type.convert token with
    | .ok _ => none
    | .error cause => some (.token token cause)
  | none => if p.isVariadic || p.acceptsMissing then none else some .missing

/-- The quick test of a single position. -/
def fits (p : Param) : Option String → Bool
  | some token => p.type.accepts token
  | none => p.acceptsMissing

variable {p : Param} {token? : Option String} {cause : CoercionCause}

theorem objection?_of_fits (h : p.fits token? = true) (hc : p.objection? token? = some cause) :
    ∃ token message, cause = .token token (.refused message) := by
  cases token? with
  | none =>
      have hm : p.acceptsMissing = true := h
      simp [objection?, hm] at hc
  | some token =>
      simp only [objection?] at hc
      split at hc
      · cases hc
      · rename_i error he
        obtain ⟨message, rfl⟩ := ParamType.convert_of_accepts h he
        exact ⟨token, message, (Option.some.inj hc).symm⟩

theorem objection?_some_eq_none_iff (h : p.type.isCustom = false) {token : String} :
    p.objection? (some token) = none ↔ p.type.accepts token = true := by
  rw [← ParamType.exists_convert_eq_ok_iff h, objection?]
  split <;> simp_all

theorem objection?_of_variadic (hv : p.isVariadic = true) (hc : p.objection? token? = some cause) :
    ∃ token c, cause = .token token c := by
  cases token? with
  | none => simp [objection?, hv] at hc
  | some token =>
      simp only [objection?] at hc
      split at hc
      · cases hc
      · exact ⟨token, _, (Option.some.inj hc).symm⟩

theorem objection?_eq_none_iff_of_variadic (h : p.type.isCustom = false)
    (hv : p.isVariadic = true) :
    p.objection? token? = none ↔
      ∀ token, token? = some token → p.type.accepts token = true := by
  cases token? with
  | none => simp [objection?, hv]
  | some token => simp [objection?_some_eq_none_iff h]

theorem objection?_eq_none_iff_fits (h : p.type.isCustom = false) (hv : p.isVariadic = false) :
    p.objection? token? = none ↔ p.fits token? = true := by
  cases token? with
  | none => simp [objection?, fits, hv]
  | some token => exact objection?_some_eq_none_iff h

end Param

/-- The parameter that a position falls to. From its own position on, all fall to a variadic one. -/
def governor? : List Param → Nat → Option Param
  | [], _ => none
  | p :: ps, i =>
    if p.isVariadic then some p
    else
      match i with
      | 0 => some p
      | i + 1 => governor? ps i

section Governor

variable {p : Param} {ps params : List Param} {i : Nat}

theorem governor?_cons_of_variadic (h : p.isVariadic = true) : governor? (p :: ps) i = some p := by
  simp [governor?, h]

theorem governor?_cons_zero : governor? (p :: ps) 0 = some p := by
  simp [governor?]

theorem governor?_cons_succ (h : p.isVariadic = false) :
    governor? (p :: ps) (i + 1) = governor? ps i := by
  simp [governor?, h]

/-- A position falls to a parameter that stands there, or before it if that is variadic. -/
theorem exists_getElem?_of_governor? (h : governor? params i = some p) :
    ∃ k ≤ i, params[k]? = some p ∧ (p.isVariadic = false → k = i) := by
  induction params generalizing i with
  | nil => cases h
  | cons q qs ih =>
      cases hv : q.isVariadic with
      | true =>
          rw [governor?_cons_of_variadic hv] at h
          cases h
          exact ⟨0, Nat.zero_le i, rfl, by simp [hv]⟩
      | false =>
          cases i with
          | zero =>
              rw [governor?_cons_zero] at h
              exact ⟨0, Nat.le_refl 0, h, fun _ => rfl⟩
          | succ i =>
              rw [governor?_cons_succ hv] at h
              obtain ⟨k, hk, hp, heq⟩ := ih h
              exact ⟨k + 1, Nat.succ_le_succ hk, hp, fun hv => congrArg (· + 1) (heq hv)⟩

theorem mem_of_governor? (h : governor? params i = some p) : p ∈ params := by
  obtain ⟨k, -, hp, -⟩ := exists_getElem?_of_governor? h
  exact List.mem_of_getElem? hp

end Governor

/-! ## The first misfit -/

/-- What is wrong at a position, if anything. Positions are counted from `start`. -/
def misfitFrom? (start : Nat) (params : List Param) (tokens : List String) (i : Nat) :
    Option CoercionError :=
  (governor? params i).bind fun p =>
    (p.objection? tokens[i]?).map fun cause => ⟨start + i, p.name, cause⟩

def misfit? (params : List Param) (tokens : List String) : Nat → Option CoercionError :=
  misfitFrom? 0 params tokens

section Misfit

variable {p : Param} {ps params : List Param} {tokens : List String} {start i : Nat}
  {e : CoercionError}

theorem misfitFrom?_eq_some_iff :
    misfitFrom? start params tokens i = some e ↔
      ∃ p, governor? params i = some p ∧ p.objection? tokens[i]? = some e.cause ∧
        e.position = start + i ∧ e.name = p.name := by
  simp only [misfitFrom?, Option.bind_eq_some_iff, Option.map_eq_some_iff]
  constructor
  · rintro ⟨p, hp, cause, hc, rfl⟩
    exact ⟨p, hp, hc, rfl, rfl⟩
  · rintro ⟨p, hp, hc, hpos, hname⟩
    exact ⟨p, hp, e.cause, hc, by rw [← hpos, ← hname]⟩

theorem misfitFrom?_eq_none_iff :
    misfitFrom? start params tokens i = none ↔
      ∀ p, governor? params i = some p → p.objection? tokens[i]? = none := by
  simp [misfitFrom?, Option.bind_eq_none_iff]

theorem misfitFrom?_cons_succ (h : p.isVariadic = false) :
    misfitFrom? start (p :: ps) tokens (i + 1) = misfitFrom? (start + 1) ps tokens.tail i := by
  simp only [misfitFrom?, governor?_cons_succ h, List.getElem?_tail, Nat.add_assoc,
    Nat.add_comm 1 i]

theorem misfitFrom?_tail_of_variadic (h : p.isVariadic = true) :
    misfitFrom? start (p :: ps) tokens (i + 1) =
      misfitFrom? (start + 1) (p :: ps) tokens.tail i := by
  simp only [misfitFrom?, governor?_cons_of_variadic h, List.getElem?_tail, Nat.add_assoc,
    Nat.add_comm 1 i]

/-! ## Conversion -/

/-- Of two conversions one after the other, the second matters where the first has not failed. -/
theorem bind_pair_eq_error_iff {ε α β γ : Type} {x : Except ε α} {y : Except ε β} {g : α → β → γ}
    {f : Nat → Option ε} (hx : ∀ e, x = .error e ↔ f 0 = some e)
    (hy : ∀ e, y = .error e ↔ IsFirst (fun i => f (i + 1)) e) {e : ε} :
    (do return g (← x) (← y)) = .error e ↔ IsFirst f e := by
  rw [IsFirst.iff_head_or_tail, ← hx, ← hy]
  cases x with
  | error d => simp [bind, Except.bind, (hx d).mp rfl]
  | ok a =>
      have hnone : f 0 = none := Option.eq_none_iff_forall_ne_some.mpr fun e he => by
        cases (hx e).mpr he
      cases y <;> simp [bind, Except.bind, pure, Except.pure, hnone]

theorem coerceToken_eq_error_iff {position : Nat} {token : String} :
    coerceToken p position token = .error e ↔
      p.objection? (some token) = some e.cause ∧ e.position = position ∧ e.name = p.name := by
  simp only [coerceToken, Param.objection?]
  cases p.type.convert token with
  | ok v => simp
  | error cause =>
      cases e
      simp only [Except.error.injEq, Option.some.injEq, CoercionError.mk.injEq]
      grind

theorem coerceParam_eq_error_iff (hv : p.isVariadic = false) :
    coerceParam p start tokens = .error e ↔ misfitFrom? start (p :: ps) tokens 0 = some e := by
  rw [misfitFrom?_eq_some_iff]
  simp only [governor?_cons_zero, Option.some.injEq, exists_eq_left', Nat.add_zero]
  cases tokens with
  | nil =>
      cases e
      cases hm : p.acceptsMissing <;> simp [coerceParam, Param.objection?, hv, hm]
      grind
  | cons token rest => simpa [coerceParam, hv] using coerceToken_eq_error_iff

theorem coerceTail_eq_error_iff (hv : p.isVariadic = true) :
    coerceTail p start tokens = .error e ↔ IsFirst (misfitFrom? start [p] tokens) e := by
  induction tokens generalizing start e with
  | nil => simp [coerceTail, IsFirst, misfitFrom?, governor?, hv, Param.objection?]
  | cons token rest ih =>
      refine bind_pair_eq_error_iff (fun e => ?_) (fun e => ?_)
      · rw [coerceToken_eq_error_iff, misfitFrom?_eq_some_iff]
        simp [governor?_cons_zero]
      · rw [ih]
        simp only [misfitFrom?_tail_of_variadic hv, List.tail_cons]

/-- The conversion fails with the first misfit. -/
theorem coerceFrom_eq_error_iff (hlast : VariadicLast params) :
    coerceFrom start params tokens = .error e ↔ IsFirst (misfitFrom? start params tokens) e := by
  induction params generalizing start tokens e with
  | nil => simp [coerceFrom, IsFirst, misfitFrom?, governor?]
  | cons p ps ih =>
      cases hv : p.isVariadic with
      | false =>
          refine bind_pair_eq_error_iff (fun e => coerceParam_eq_error_iff hv) fun e => ?_
          rw [ih hlast.tail]
          simp only [misfitFrom?_cons_succ hv]
      | true =>
          rw [hlast.eq_nil hv, ← coerceTail_eq_error_iff hv]
          simp only [coerceFrom, coerceParam, hv, if_true]
          cases coerceTail p start tokens <;>
            simp [bind, Except.bind, Except.map, pure, Except.pure]

theorem coerce_eq_error_iff (hlast : VariadicLast params) :
    coerce params tokens = .error e ↔ IsFirst (misfit? params tokens) e := by
  rw [misfit?, ← coerceFrom_eq_error_iff hlast, coerce]
  cases coerceFrom 0 params tokens <;> simp [Except.map]

theorem exists_coerce_eq_ok_iff (hlast : VariadicLast params) :
    (∃ arguments, coerce params tokens = .ok arguments) ↔ ∀ i, misfit? params tokens i = none := by
  have herror (e : CoercionError) :
      coerce params tokens = .error e ↔ IsFirst (misfit? params tokens) e :=
    coerce_eq_error_iff hlast
  constructor
  · rintro ⟨arguments, hok⟩ i
    refine Option.eq_none_iff_forall_ne_some.mpr fun d hd => ?_
    obtain ⟨e, he⟩ := IsFirst.exists_of_eq_some hd
    rw [(herror e).mpr he] at hok
    cases hok
  · intro hnone
    cases hc : coerce params tokens with
    | ok arguments => exact ⟨arguments, rfl⟩
    | error e =>
        obtain ⟨i, hi, -⟩ := (herror e).mp hc
        rw [hnone] at hi
        cases hi

/-! ## Conversion and the quick test -/

/-- The quick test asks every position that falls to no variadic parameter. -/
theorem shapeFits_iff :
    shapeFits params tokens = true ↔
      ∀ i p, governor? params i = some p → p.isVariadic = false → p.fits tokens[i]? = true := by
  induction params generalizing tokens with
  | nil => simp [shapeFits, governor?]
  | cons p ps ih =>
      cases hv : p.isVariadic with
      | true => simp [shapeFits, hv, governor?_cons_of_variadic hv]
      | false =>
          have hhead : shapeFits (p :: ps) tokens =
              (p.fits tokens[0]? && shapeFits ps tokens.tail) := by
            cases tokens <;> simp [shapeFits, hv, Param.fits]
          rw [hhead, Bool.and_eq_true, ih]
          constructor
          · rintro ⟨hp, hps⟩ i q hq hqv
            cases i with
            | zero =>
                cases governor?_cons_zero.symm.trans hq
                exact hp
            | succ i => simpa using hps i q (by rwa [governor?_cons_succ hv] at hq) hqv
          · intro h
            refine ⟨h 0 p governor?_cons_zero hv, fun i q hq hqv => ?_⟩
            simpa using h (i + 1) q (by rwa [governor?_cons_succ hv]) hqv

theorem shapeFits_of_coerce {arguments : Arguments} (h : coerce params tokens = .ok arguments) :
    shapeFits params tokens = true := by
  cases hfits : shapeFits params tokens with
  | true => rfl
  | false =>
      obtain ⟨error, he⟩ := exists_error_of_not_shapeFits hfits
      rw [he] at h
      cases h

/-- What is wrong with tokens that have passed the quick test: the reader of a custom type refuses
one, or one of a variadic tail is not of its type. -/
theorem misfit?_of_shapeFits (hfits : shapeFits params tokens = true)
    (h : misfit? params tokens i = some e) :
    e.IsRefusal ∨ ∃ p token cause, governor? params e.position = some p ∧ p.isVariadic = true ∧
      e.cause = .token token cause := by
  obtain ⟨p, hp, hobj, hpos, -⟩ := misfitFrom?_eq_some_iff.mp h
  rw [Nat.zero_add] at hpos
  cases hv : p.isVariadic with
  | false => exact .inl (Param.objection?_of_fits (shapeFits_iff.mp hfits i p hp hv) hobj)
  | true =>
      obtain ⟨token, cause, hcause⟩ := Param.objection?_of_variadic hv hobj
      exact .inr ⟨p, token, cause, hpos ▸ hp, hv, hcause⟩

/-- Whether every token that falls to a variadic parameter is of the shape of its type. -/
def TailFits (params : List Param) (tokens : List String) : Prop :=
  ∀ i p token, governor? params i = some p → p.isVariadic = true → tokens[i]? = some token →
    p.type.accepts token = true

/-- Without custom types, the conversion takes what passes the quick test in front and is of the
right shape in the variadic tail. -/
theorem exists_coerce_eq_ok_iff_fits (hlast : VariadicLast params)
    (hplain : ∀ p ∈ params, p.type.isCustom = false) :
    (∃ arguments, coerce params tokens = .ok arguments) ↔
      shapeFits params tokens = true ∧ TailFits params tokens := by
  have hfront (i : Nat) (p : Param) (hp : governor? params i = some p)
      (hv : p.isVariadic = false) : p.objection? tokens[i]? = none ↔ p.fits tokens[i]? = true :=
    Param.objection?_eq_none_iff_fits (hplain p (mem_of_governor? hp)) hv
  have htail (i : Nat) (p : Param) (hp : governor? params i = some p)
      (hv : p.isVariadic = true) :
      p.objection? tokens[i]? = none ↔
        ∀ token, tokens[i]? = some token → p.type.accepts token = true :=
    Param.objection?_eq_none_iff_of_variadic (hplain p (mem_of_governor? hp)) hv
  simp only [exists_coerce_eq_ok_iff hlast, misfit?, misfitFrom?_eq_none_iff, shapeFits_iff]
  constructor
  · intro h
    refine ⟨fun i p hp hv => (hfront i p hp hv).mp (h i p hp), fun i p token hp hv ht => ?_⟩
    exact (htail i p hp hv).mp (h i p hp) token ht
  · rintro ⟨hfits, htails⟩ i p hp
    cases hv : p.isVariadic with
    | false => exact (hfront i p hp hv).mpr (hfits i p hp hv)
    | true => exact (htail i p hp hv).mpr fun token ht => htails i p token hp hv ht

/-- The quick test and the conversion agree up to custom types and variadic tails: what the test
refuses is never converted, and what it takes can only fail in one of those, never for want of a
token. -/
theorem coerce_agrees_with_shapeFits (hlast : VariadicLast params) (tokens : List String) :
    (shapeFits params tokens = false → ∃ e, coerce params tokens = .error e) ∧
    (shapeFits params tokens = true → ∀ e, coerce params tokens = .error e →
      (e.IsRefusal ∨
        ∃ k p, params[k]? = some p ∧ p.isVariadic = true ∧ k ≤ e.position) ∧
      e.cause ≠ .missing) ∧
    ((∀ p ∈ params, p.type.isCustom = false ∧ p.isVariadic = false) →
      ((∃ arguments, coerce params tokens = .ok arguments) ↔ shapeFits params tokens = true)) := by
  refine ⟨exists_error_of_not_shapeFits, fun hfits e he => ?_, fun hplain => ?_⟩
  · obtain ⟨i, hi, -⟩ := (coerce_eq_error_iff hlast).mp he
    rcases misfit?_of_shapeFits hfits hi with href | ⟨p, token, cause, hp, hv, hcause⟩
    · obtain ⟨token, message, hcause⟩ := href
      exact ⟨.inl ⟨token, message, hcause⟩, by simp [hcause]⟩
    · obtain ⟨k, hk, hget, -⟩ := exists_getElem?_of_governor? hp
      exact ⟨.inr ⟨k, p, hget, hv, hk⟩, by simp [hcause]⟩
  · have htail : TailFits params tokens := fun i p token hp hv => by
      rw [(hplain p (mem_of_governor? hp)).2] at hv
      cases hv
    rw [exists_coerce_eq_ok_iff_fits hlast fun p hp => (hplain p hp).1, and_iff_left htail]

/-- A word among the numbers of a variadic tail passes the quick test and is refused where it
stands. -/
theorem coerce_agrees_with_shapeFits_numbers :
    let target : Param := { name := "target", type := .text }
    let ids : Param := { name := "ids", type := .int, isVariadic := true }
    let error : CoercionError := ⟨2, "ids", .token "x" .notInt⟩
    VariadicLast [target, ids] ∧ shapeFits [target, ids] ["dice", "3", "x"] = true ∧
      coerce [target, ids] ["dice", "3", "x"] = .error error ∧
      (error.IsRefusal ∨
        ∃ k p, [target, ids][k]? = some p ∧ p.isVariadic = true ∧ k ≤ error.position) ∧
      error.cause ≠ .missing := by
  intro target ids error
  have hlast : VariadicLast [target, ids] := by decide
  have hfits : shapeFits [target, ids] ["dice", "3", "x"] = true := by decide
  have herror : coerce [target, ids] ["dice", "3", "x"] = .error error := by rfl
  exact ⟨hlast, hfits, herror, (coerce_agrees_with_shapeFits hlast _).2.1 hfits error herror⟩

end Misfit

end ChatWarden.Command
