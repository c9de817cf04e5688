import ChatWarden.Engine

/-!
# Reloads of several callers

The two steps of a reload may have steps of other callers between them. What a reload leaves is the
catalog that it read when it began, whatever has been published since. As long as snapshots with
another catalog are published only while no reload is under way, every reload under way holds the
catalog in force (`Settled`) and leaves it in force; a catalog published in between is lost
(`endReload_catalog`).
-/

namespace ChatWarden.Engine

variable {η : Type}

/-- Whether a step belongs to the reload of a caller. -/
def Step.isOf (caller : Nat) : Step η → Bool
  | .publish _ => false
  | .beginReload other => other == caller
  | .endReload other _ => other == caller

namespace Shared

/-- The catalog in force. -/
def catalog (s : Shared η) : Catalog η :=
  s.engine.current.catalog

/-- Whether every reload under way has read the catalog in force. -/
def Settled (s : Shared η) : Prop :=
  ∀ caller read, s.pending caller = some read → read = s.catalog

/-- Whether a step leaves every reload under way with the catalog in force. -/
def Permits (s : Shared η) : Step η → Prop
  | .publish snapshot => snapshot.catalog = s.catalog ∨ ∀ caller, s.pending caller = none
  | _ => True

/-- Whether another catalog is published only while no reload is under way. -/
def Undisturbed (s : Shared η) : List (Step η) → Prop
  | [] => True
  | step :: rest => s.Permits step ∧ (s.step step).Undisturbed rest

variable {s : Shared η} {caller : Nat} {read : Catalog η} {policies : PolicySet} {turn : Step η}

/-! ## One step -/

theorem step_endReload (h : s.pending caller = some read) :
    (s.step (.endReload caller policies)).engine.current = ⟨read, policies⟩ := by
  simp [Shared.step, h, writePolicies, publish]

theorem pending_step (h : turn.isOf caller = false) :
    (s.step turn).pending caller = s.pending caller := by
  cases turn with
  | publish snapshot => rfl
  | beginReload other =>
      have hne : ¬caller = other := fun heq => by simp [Step.isOf, heq] at h
      simp [Shared.step, hne]
  | endReload other policies =>
      have hne : ¬caller = other := fun heq => by simp [Step.isOf, heq] at h
      cases hp : s.pending other <;> simp [Shared.step, hp, hne]

/-- The end of a reload begins no other. -/
theorem pending_of_endReload {other : Nat}
    (h : (s.step (.endReload other policies)).pending caller = some read) :
    s.pending caller = some read := by
  cases hp : s.pending other with
  | none =>
      simp only [Shared.step, hp] at h
      exact h
  | some _ =>
      simp only [Shared.step, hp] at h
      split at h
      · cases h
      · exact h

/-- A reload that holds the catalog in force leaves it in force. -/
theorem Settled.catalog_endReload (h : s.Settled) :
    (s.step (.endReload caller policies)).catalog = s.catalog := by
  cases hp : s.pending caller with
  | none => simp [Shared.step, hp]
  | some read => rw [catalog, step_endReload hp, h caller read hp]

theorem settled_step (h : s.Settled) (hturn : s.Permits turn) : (s.step turn).Settled := by
  intro caller read hread
  cases turn with
  | publish snapshot =>
      have hread : s.pending caller = some read := hread
      rcases hturn with hsame | hnone
      · exact (h caller read hread).trans hsame.symm
      · rw [hnone caller] at hread
        cases hread
  | beginReload other =>
      have hread : (if caller = other then some s.catalog else s.pending caller) = some read :=
        hread
      split at hread
      · exact (Option.some.inj hread).symm
      · exact h caller read hread
  | endReload other policies =>
      rw [h.catalog_endReload]
      exact h caller read (pending_of_endReload hread)

/-! ## Runs -/

variable {pre mid post steps : List (Step η)}

theorem run_append : s.run (pre ++ post) = (s.run pre).run post :=
  List.foldl_append

theorem pending_run (h : ∀ turn ∈ steps, turn.isOf caller = false) :
    (s.run steps).pending caller = s.pending caller := by
  induction steps generalizing s with
  | nil => rfl
  | cons turn rest ih =>
      have hrun : s.run (turn :: rest) = (s.step turn).run rest := rfl
      rw [hrun, ih fun later hlater => h later (List.mem_cons_of_mem turn hlater)]
      exact pending_step (h turn List.mem_cons_self)

/-- A reload under way holds the catalog that was in force when it began. -/
theorem pending_run_beginReload (h : ∀ turn ∈ mid, turn.isOf caller = false) :
    (s.run (pre ++ .beginReload caller :: mid)).pending caller = some (s.run pre).catalog := by
  have hbegun : ((s.run pre).step (.beginReload caller)).pending caller
      = some (s.run pre).catalog := by
    simp [Shared.step, readCatalog, catalog]
  rw [run_append, ← hbegun]
  exact pending_run h

theorem settled_run (h : s.Settled) (hsteps : s.Undisturbed steps) : (s.run steps).Settled := by
  induction steps generalizing s with
  | nil => exact h
  | cons turn rest ih => exact ih (settled_step h hsteps.1) hsteps.2

/-- The last step of a reload brings back the catalog that was in force at its first one, so it
keeps the catalog in force exactly if that is the same. It does so after steps that leave reloads
under way undisturbed; a snapshot that is published in between is undone by it. -/
theorem endReload_catalog (e : Engine η) :
    let s : Shared η := { engine := e }
    (∀ pre caller mid policies, (∀ turn ∈ mid, turn.isOf caller = false) →
      let t := s.run (pre ++ .beginReload caller :: mid)
      (t.step (.endReload caller policies)).engine.current = ⟨(s.run pre).catalog, policies⟩ ∧
        ((t.step (.endReload caller policies)).catalog = t.catalog ↔
          (s.run pre).catalog = t.catalog)) ∧
    (∀ steps caller policies, s.Undisturbed steps →
      ((s.run steps).step (.endReload caller policies)).catalog = (s.run steps).catalog) ∧
    ∀ steps caller read snapshot policies, (s.run steps).pending caller = some read →
      let t := s.run (steps ++ [.publish snapshot])
      t.catalog = snapshot.catalog ∧ (t.step (.endReload caller policies)).catalog = read := by
  intro s
  refine ⟨fun pre caller mid policies hmid => ?_, fun steps caller policies hsteps => ?_,
    fun steps caller read snapshot policies hread => ?_⟩
  · have hread := @pending_run_beginReload η s caller pre mid hmid
    have hleft := @step_endReload η _ caller _ policies hread
    exact ⟨hleft, by rw [catalog, hleft]⟩
  · have hsettled : s.Settled := fun caller read hread => by cases hread
    exact (settled_run hsettled hsteps).catalog_endReload
  · have hpublished : s.run (steps ++ [.publish snapshot])
        = { s.run steps with engine := ⟨snapshot⟩ } := run_append
    have hread : (s.run (steps ++ [.publish snapshot])).pending caller = some read := by
      rw [hpublished]
      exact hread
    have hcatalog : (s.run (steps ++ [.publish snapshot])).catalog = snapshot.catalog := by
      rw [hpublished, catalog]
    exact ⟨hcatalog, by rw [catalog, step_endReload hread]⟩

/-- A catalog of one command. -/
def onePing : Catalog Unit :=
  (CatalogBuilder.empty.registerAll [(Command.ofSegments ["ping"], ())]).1.catalog

/-- A catalog that is published before two reloads stays, although they overlap. -/
theorem endReload_catalog_onePing :
    let s : Shared Unit := { engine := {} }
    let steps : List (Step Unit) :=
      [.publish ⟨onePing, ∅⟩, .beginReload 1, .beginReload 2, .endReload 2 ∅,
        .publish ⟨onePing, .add ∅ { name := "Music" }⟩]
    s.Undisturbed steps ∧ (s.run steps).catalog = onePing ∧
      ((s.run steps).step (.endReload 1 ∅)).catalog = (s.run steps).catalog := by
  intro s steps
  have hsteps : s.Undisturbed steps :=
    ⟨.inr fun _ => rfl, trivial, trivial, trivial, .inl rfl, trivial⟩
  exact ⟨hsteps, rfl, (endReload_catalog {}).2.1 steps 1 ∅ hsteps⟩

/-- A catalog that is published while a reload is under way is lost when the reload ends. -/
theorem endReload_loses_onePing :
    let s : Shared Unit := { engine := {} }
    let steps : List (Step Unit) := [.beginReload 1, .publish ⟨onePing, ∅⟩]
    (s.run steps).catalog = onePing ∧ ((s.run steps).step (.endReload 1 ∅)).catalog = {} ∧
      ((s.run steps).step (.endReload 1 ∅)).catalog ≠ (s.run steps).catalog := by
  refine ⟨rfl, rfl, fun h => ?_⟩
  have hsize : ({} : Catalog Unit).size = onePing.size := congrArg Catalog.size h
  cases hsize

end Shared

end ChatWarden.Engine
