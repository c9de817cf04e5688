import ChatWarden.Proofs.Registration

/-!
# What registration accepts

A command is added exactly if it is well formed by itself and no entry has its address; a refusal
names a condition that the command violates (`CatalogBuilder.enroll_decides`). Registration is
carried out write by write on a builder that its owner keeps (`CatalogBuilder.enroll`). All refusals
come before the first write, so what is refused leaves nothing behind (`CatalogBuilder.enroll_eq`).
-/

namespace ChatWarden

variable {η : Type}

namespace Command

/-- What a command has to be like, whatever else is registered. -/
structure WellFormed (c : Command) : Prop where
  name_not_blank : isBlankText c.name = false
  segments_not_blank : ∀ segment ∈ c.segments, isBlankText segment = false
  variadic_last : VariadicLast c.params
  names_distinct : (c.params.map Param.name).Nodup
  defaults_declared : ∀ p ∈ c.params, ∀ t typeName name, p.type = .enumeration t →
    p.fallback = some (.variant typeName name) → t.resolve? name ≠ none

/-- Whether two commands have the same owner, method, segments and number of parameters. -/
def SameAddress (c d : Command) : Prop :=
  c.owner = d.owner ∧ c.method = d.method ∧ c.segments = d.segments ∧
    c.params.length = d.params.length

/-- Whether an error names a condition that a command violates, by itself or beside the entries
there are. -/
inductive Violates (entries : List (Entry η)) (c : Command) : RegistrationError → Prop
  | emptyName (h : isBlankText c.name = true) : Violates entries c (.emptyName c.path)
  | emptySegment {index : Nat} {segment : String} (hs : c.segments[index]? = some segment)
    (h : isBlankText segment = true) : Violates entries c (.emptySegment c.path index)
  | variadicNotLast {before after : List Param} {p : Param}
    (hp : c.params = before ++ p :: after) (hafter : after ≠ []) (h : p.isVariadic = true) :
    Violates entries c (.variadicNotLast c.path p.name)
  | duplicateParam {before after : List Param} {p : Param}
    (hp : c.params = before ++ p :: after) (h : p.name ∈ before.map Param.name) :
    Violates entries c (.duplicateParam c.path p.name)
  | invalidDefault {p : Param} {t : EnumType} {typeName name : String} (hp : p ∈ c.params)
    (ht : p.type = .enumeration t) (hd : p.fallback = some (.variant typeName name))
    (h : t.resolve? name = none) : Violates entries c (.invalidDefault c.path p.name)
  | duplicate {e : Entry η} (he : e ∈ entries) (h : SameAddress e.command c) :
    Violates entries c (.duplicate c.path c.owner)

variable {c d : Command} {entries : List (Entry η)}

theorem key_eq_iff : c.key = d.key ↔ SameAddress c d := by
  simp [key, SameAddress]

namespace Param

variable {p : Param}

theorem hasInvalidDefault_eq_true_iff :
    p.hasInvalidDefault = true ↔ ∃ t typeName name, p.type = .enumeration t ∧
      p.fallback = some (.variant typeName name) ∧ t.resolve? name = none := by
  unfold hasInvalidDefault
  split
  · rename_i t typeName name ht hd
    constructor
    · intro h
      exact ⟨t, typeName, name, ht, hd, Option.isNone_iff_eq_none.mp h⟩
    · intro h
      obtain ⟨t', typeName', name', ht', hd', h⟩ := h
      rw [ht] at ht'
      rw [hd] at hd'
      cases ht'
      cases hd'
      exact Option.isNone_iff_eq_none.mpr h
  · rename_i hother
    constructor
    · intro h
      cases h
    · intro h
      obtain ⟨t, typeName, name, ht, hd, -⟩ := h
      exact (hother t typeName name ht hd).elim

theorem hasInvalidDefault_eq_false_iff_resolves :
    p.hasInvalidDefault = false ↔ ∀ t typeName name, p.type = .enumeration t →
      p.fallback = some (.variant typeName name) → t.resolve? name ≠ none := by
  rw [← Bool.not_eq_true, hasInvalidDefault_eq_true_iff]
  simp only [not_exists, not_and, ne_eq]

end Param

/-- A command without a fault is a well-formed one. -/
theorem fault?_eq_none_iff : c.fault? = none ↔ c.WellFormed := by
  have hparams : paramFault? c.path [] c.params = none ↔
      VariadicLast c.params ∧ (c.params.map Param.name).Nodup ∧
        ∀ p ∈ c.params, p.hasInvalidDefault = false := by
    rw [paramFault?_eq_none_iff]
    simp
  simp only [Param.hasInvalidDefault_eq_false_iff_resolves] at hparams
  rw [fault?]
  cases hname : isBlankText c.name with
  | true =>
      constructor
      · intro h
        cases h
      · intro h
        rw [h.name_not_blank] at hname
        cases hname
  | false =>
      cases hindex : c.segments.findIdx? isBlankText with
      | some index =>
          constructor
          · intro h
            cases h
          · intro h
            rw [List.findIdx?_eq_none_iff.mpr h.segments_not_blank] at hindex
            cases hindex
      | none =>
          constructor
          · intro h
            obtain ⟨hlast, hnames, hdefaults⟩ := hparams.mp h
            exact ⟨hname, List.findIdx?_eq_none_iff.mp hindex, hlast, hnames, hdefaults⟩
          · intro h
            exact hparams.mpr ⟨h.variadic_last, h.names_distinct, h.defaults_declared⟩

-- The parameters that were looked at are those before the rest, and the names seen are theirs.
theorem violates_of_paramFault? (before : List Param) {rest : List Param} {e : RegistrationError}
    (hsplit : c.params = before ++ rest)
    (h : paramFault? c.path (before.map Param.name).reverse rest = some e) :
    c.Violates entries e := by
  induction rest generalizing before with
  | nil => cases h
  | cons p ps ih =>
      rw [paramFault?] at h
      split at h
      · rename_i hplace
        cases h
        simp only [Bool.and_eq_true, Bool.not_eq_true', List.isEmpty_eq_false_iff] at hplace
        exact .variadicNotLast hsplit hplace.2 hplace.1
      · split at h
        · rename_i hseen
          cases h
          exact .duplicateParam hsplit (by simpa using hseen)
        · split at h
          · rename_i hdefault
            cases h
            obtain ⟨t, typeName, name, ht, hd, hr⟩ :=
              Param.hasInvalidDefault_eq_true_iff.mp hdefault
            exact .invalidDefault (by simp [hsplit]) ht hd hr
          · apply ih (before ++ [p])
            · simpa using hsplit
            · simpa using h

theorem violates_of_fault? {e : RegistrationError} (h : c.fault? = some e) :
    c.Violates entries e := by
  rw [fault?] at h
  split at h
  · rename_i hname
    cases h
    exact .emptyName hname
  · split at h
    · rename_i index hindex
      cases h
      obtain ⟨hlt, hblank, -⟩ := List.findIdx?_eq_some_iff_getElem.mp hindex
      exact .emptySegment (List.getElem?_eq_getElem hlt) hblank
    · exact violates_of_paramFault? [] rfl h

end Command

namespace CatalogBuilder

open Command

variable {b b' : CatalogBuilder η} {command : Command} {handler : η}

/-- The writes of a registration: the key first, then the index and the list. -/
def record (command : Command) (handler : η) :
    EStateM RegistrationError (CatalogBuilder η) Unit := do
  modify fun b => { b with keys := command.key :: b.keys }
  let entry : Entry η := ⟨command, handler, (← get).catalog.entries.length⟩
  modify fun b =>
    { b with catalog := { b.catalog with buckets := b.catalog.buckets.add entry } }
  modify fun b =>
    { b with catalog := { b.catalog with entries := b.catalog.entries ++ [entry] } }

/-- Registration on a builder that its owner keeps also when the command is refused. -/
def enroll (command : Command) (handler : η) :
    EStateM RegistrationError (CatalogBuilder η) Unit :=
  match command.fault? with
  | some e => throw e
  | none => do
    if (← get).keys.contains command.key then
      throw (.duplicate command.path command.owner)
    else
      record command handler

/-- Both refusals come before the first write. -/
theorem enroll_eq (b : CatalogBuilder η) (command : Command) (handler : η) :
    (enroll command handler).run b =
      match b.register command handler with
      | .ok b' => .ok () b'
      | .error e => .error e b := by
  unfold enroll register
  cases command.fault? with
  | some e => rfl
  | none =>
      change (if b.keys.contains command.key = true then
        throw (.duplicate command.path command.owner) else record command handler :
          EStateM RegistrationError (CatalogBuilder η) Unit) b = _
      by_cases hkey : b.keys.contains command.key = true
      · rw [if_pos hkey]
        simp only [if_pos hkey]
        rfl
      · rw [if_neg hkey]
        simp only [if_neg hkey]
        rfl

theorem enroll_eq_ok_iff :
    (enroll command handler).run b = .ok () b' ↔ b.register command handler = .ok b' := by
  rw [enroll_eq]
  cases b.register command handler <;> simp

theorem enroll_eq_error_iff {e : RegistrationError} :
    (enroll command handler).run b = .error e b' ↔
      b.register command handler = .error e ∧ b' = b := by
  rw [enroll_eq]
  cases b.register command handler with
  | ok b'' => simp
  | error e' => simp [eq_comm]

theorem Coherent.mem_keys_iff (h : b.Coherent) :
    command.key ∈ b.keys ↔ ∃ e ∈ b.catalog.entries, SameAddress e.command command := by
  simp [h.keys_eq, key_eq_iff]

theorem Coherent.exists_register_eq_ok_iff (h : b.Coherent) :
    (∃ b', b.register command handler = .ok b') ↔
      command.WellFormed ∧ ∀ e ∈ b.catalog.entries, ¬SameAddress e.command command := by
  have hkeys : command.key ∉ b.keys ↔
      ∀ e ∈ b.catalog.entries, ¬SameAddress e.command command := by
    simp [h.mem_keys_iff]
  rw [← hkeys, ← fault?_eq_none_iff]
  constructor
  · intro hregister
    obtain ⟨b', hb'⟩ := hregister
    exact ⟨fault?_eq_none_of_register hb', (register_eq_ok hb').1⟩
  · intro haccept
    simp [register, haccept.1, haccept.2]

theorem Coherent.violates_of_register (h : b.Coherent) {e : RegistrationError}
    (hr : b.register command handler = .error e) : command.Violates b.catalog.entries e := by
  unfold register at hr
  split at hr
  · rename_i e' hfault
    cases hr
    exact violates_of_fault? hfault
  · split at hr
    · rename_i hkey
      cases hr
      obtain ⟨twin, htwin, hsame⟩ := h.mem_keys_iff.mp (by simpa using hkey)
      exact .duplicate htwin hsame
    · cases hr

/-- Whether a builder is another one with a new entry: at the end of the list and of its own bucket,
and with its key used up. -/
structure Adds (b : CatalogBuilder η) (entry : Entry η) (b' : CatalogBuilder η) : Prop where
  entries_eq : b'.catalog.entries = b.catalog.entries ++ [entry]
  bucket_eq : ∀ place, b'.catalog.buckets.bucket place =
    if place = entry.place then b.catalog.buckets.bucket place ++ [entry]
    else b.catalog.buckets.bucket place
  keys_eq : b'.keys = entry.command.key :: b.keys

theorem adds_of_register (hr : b.register command handler = .ok b') :
    b.Adds ⟨command, handler, b.catalog.entries.length⟩ b' := by
  obtain ⟨-, rfl⟩ := register_eq_ok hr
  exact ⟨rfl, Buckets.bucket_add b.catalog.buckets _, rfl⟩

/-- After any history of offers, a command is added exactly if it is well formed and no entry has
its address. It becomes the next entry; a refused one leaves the builder as it was, and the error
names what the command violates. -/
theorem enroll_decides (offers : List (Command × η)) (command : Command) (handler : η) :
    let b := (empty.registerAll offers).1
    ((∃ b', (enroll command handler).run b = .ok () b') ↔
      command.WellFormed ∧ ∀ e ∈ b.catalog.entries, ¬SameAddress e.command command) ∧
    (∀ b', (enroll command handler).run b = .ok () b' →
      b.register command handler = .ok b' ∧
        b.Adds ⟨command, handler, b.catalog.entries.length⟩ b') ∧
    ∀ e b', (enroll command handler).run b = .error e b' →
      b.register command handler = .error e ∧ b' = b ∧ command.Violates b.catalog.entries e := by
  intro b
  have hb : b.Coherent := coherent_registerAll coherent_empty offers
  refine ⟨?accepted, ?added, ?refused⟩
  case accepted =>
    simp only [enroll_eq_ok_iff]
    exact hb.exists_register_eq_ok_iff
  case added =>
    intro b' h
    have hr : b.register command handler = .ok b' := enroll_eq_ok_iff.mp h
    exact ⟨hr, adds_of_register hr⟩
  case refused =>
    intro e b' h
    obtain ⟨hr, hsame⟩ := enroll_eq_error_iff.mp h
    exact ⟨hr, hsame, hb.violates_of_register hr⟩

/-- The command `play` of an owner. -/
def playCommand (owner : String) : Command :=
  { Command.ofSegments ["play"] with owner }

/-- Where one owner has a command `play`, it cannot add it again, and another owner can. -/
theorem enroll_decides_play :
    let b := (empty.registerAll [(playCommand "Music", ())]).1
    (∃ b', (enroll (playCommand "Games") ()).run b = .ok () b') ∧
      (enroll (playCommand "Music") ()).run b = .error (.duplicate "play" "Music") b ∧
      (playCommand "Music").Violates b.catalog.entries (.duplicate "play" "Music") := by
  intro b
  have hfree : ∀ e ∈ b.catalog.entries, ¬SameAddress e.command (playCommand "Games") := by
    intro e he hsame
    obtain rfl := List.mem_singleton.mp he
    exact absurd hsame.1 (by decide)
  have hformed : (playCommand "Games").WellFormed := fault?_eq_none_iff.mp rfl
  have hrefused : (enroll (playCommand "Music") ()).run b =
      .error (.duplicate "play" "Music") b := rfl
  have hgames := enroll_decides [(playCommand "Music", ())] (playCommand "Games") ()
  have hmusic := enroll_decides [(playCommand "Music", ())] (playCommand "Music") ()
  exact ⟨hgames.1.mpr ⟨hformed, hfree⟩, hrefused, (hmusic.2.2 _ _ hrefused).2.2⟩

end CatalogBuilder

end ChatWarden
