import ChatWarden.Proofs.Catalog
import ChatWarden.Proofs.Conversion

/-!
# What a registered command is like

A builder adds a command only if it has no fault, so no entry of a catalog that was built command by
command has one (`fault?_eq_none_of_mem`). What that says about its parameters is stated by
`paramFault?_eq_none_iff`; in particular only the last one is variadic.
-/

namespace ChatWarden

namespace Command

variable {c : Command}

theorem paramFault?_cons_eq_none_iff {command : String} {seen : List String} {p : Param}
    {ps : List Param} :
    paramFault? command seen (p :: ps) = none ↔
      (ps ≠ [] → p.isVariadic = false) ∧ p.name ∉ seen ∧ p.hasInvalidDefault = false ∧
        paramFault? command (p.name :: seen) ps = none := by
  have hplace : (p.isVariadic && !ps.isEmpty) = false ↔ (ps ≠ [] → p.isVariadic = false) := by
    cases ps <;> simp
  rw [paramFault?, ← hplace]
  cases p.isVariadic && !ps.isEmpty with
  | true => simp
  | false =>
      by_cases hseen : p.name ∈ seen
      · simp [hseen]
      · cases hdefault : p.hasInvalidDefault <;> simp [hseen]

/-- Parameters without a fault: the variadic one is last, names differ from one another and from
those before, and no default of an enumeration is none of its variants. -/
theorem paramFault?_eq_none_iff {command : String} {seen : List String} {ps : List Param} :
    paramFault? command seen ps = none ↔
      VariadicLast ps ∧ (ps.map Param.name).Nodup ∧ (∀ p ∈ ps, p.name ∉ seen) ∧
        ∀ p ∈ ps, p.hasInvalidDefault = false := by
  induction ps generalizing seen with
  | nil => simp [paramFault?, VariadicLast]
  | cons p ps ih =>
      rw [paramFault?_cons_eq_none_iff, ih, VariadicLast.cons_iff, List.map_cons, List.nodup_cons,
        List.forall_mem_cons, List.forall_mem_cons]
      have hnames : (∀ q ∈ ps, q.name ∉ p.name :: seen) ↔
          p.name ∉ ps.map Param.name ∧ ∀ q ∈ ps, q.name ∉ seen := by
        simp only [List.mem_cons, List.mem_map]
        grind
      rw [hnames]
      constructor
      · rintro ⟨hplace, hseen, hdefault, hlast, hnodup, ⟨hname, hseens⟩, hdefaults⟩
        exact ⟨⟨hplace, hlast⟩, ⟨hname, hnodup⟩, ⟨hseen, hseens⟩, hdefault, hdefaults⟩
      · rintro ⟨⟨hplace, hlast⟩, ⟨hname, hnodup⟩, ⟨hseen, hseens⟩, hdefault, hdefaults⟩
        exact ⟨hplace, hseen, hdefault, hlast, hnodup, ⟨hname, hseens⟩, hdefaults⟩

theorem paramFault?_of_fault? (h : c.fault? = none) : paramFault? c.path [] c.params = none := by
  simp only [fault?] at h
  split at h
  · cases h
  · split at h
    · cases h
    · exact h

end Command

namespace CatalogBuilder

variable {η : Type} {b b' : CatalogBuilder η}

theorem fault?_eq_none_of_register {command : Command} {handler : η}
    (h : b.register command handler = .ok b') : command.fault? = none := by
  unfold register at h
  split at h
  · cases h
  · assumption

/-- No entry of the catalog has a fault. -/
def Sound (b : CatalogBuilder η) : Prop :=
  ∀ e ∈ b.catalog.entries, e.command.fault? = none

theorem sound_empty : (empty : CatalogBuilder η).Sound := by
  simp [Sound, empty]

theorem sound_register (h : b.Sound) {command : Command} {handler : η}
    (hr : b.register command handler = .ok b') : b'.Sound := by
  obtain ⟨-, rfl⟩ := register_eq_ok hr
  intro e he
  rcases List.mem_append.mp he with he | he
  · exact h e he
  · obtain rfl := List.mem_singleton.mp he
    exact fault?_eq_none_of_register hr

theorem sound_registerAll (h : b.Sound) (offers : List (Command × η)) :
    (b.registerAll offers).1.Sound := by
  induction offers generalizing b with
  | nil => exact h
  | cons offer rest ih =>
      obtain ⟨command, handler⟩ := offer
      rw [registerAll]
      cases hr : b.register command handler with
      | ok b' => exact ih (sound_register h hr)
      | error e => exact ih h

theorem fault?_eq_none_of_mem {offers : List (Command × η)} {e : Entry η}
    (he : e ∈ (empty.registerAll offers).1.catalog.entries) : e.command.fault? = none :=
  sound_registerAll sound_empty offers e he

theorem variadicLast_of_mem {offers : List (Command × η)} {e : Entry η}
    (he : e ∈ (empty.registerAll offers).1.catalog.entries) :
    Command.VariadicLast e.command.params :=
  (Command.paramFault?_eq_none_iff.mp
    (Command.paramFault?_of_fault? (fault?_eq_none_of_mem he))).1

end CatalogBuilder

end ChatWarden
