import Lewsql.DiskManager.ExclusiveCreation
import Lewsql.DiskManager.InStep
import Lewsql.Interaction.Solo

/-!
# Managers with disks of their own

Managers that share a directory, each with names that no other one uses, do not
notice each other: whatever the order of their POSIX calls and whatever fails,
every manager returns what it would return without the others, and leaves the
same contents under its names.
-/

namespace Lewsql

open Interaction Posix FileSystem

section Apart

variable {Who : Type} [DecidableEq Who] {allowed : Fault → Prop}
variable {base : Who → DiskManager} {owns : Who → String → Prop}

theorem managers_separation (resolve : String → String)
    (disjoint : ∀ who other name, who ≠ other → owns who name →
      ¬ owns other name) :
    Parties.Separation (managers (faulty allowed) base)
      (fun who => pairing resolve (owns who)) none
      (fun who operation =>
        operation.Within (base who) resolve (owns who))
      (fun who => WithinNames (base who) resolve (owns who))
      (Apart resolve owns) where
  body _ _ suits within :=
    PosixDiskManager.inStep_perform suits within
  rest _ _ _ _ apart := apart.rest
  move _ _ _ _ _ _ _ _ apart asks moved :=
    apart.move disjoint asks moved

/-- In every run of managers whose names are different, each of them has a run
without the others, from the same start, in which its operations begin and end in
the same way and its disks have the same contents in the end. -/
theorem managers_undisturbed
    (disjoint : ∀ who other name, who ≠ other → owns who name →
      ¬ owns other name)
    {first scene : ManagerScene Who} {events : List (ManagerEvent Who)}
    (resting : ∀ who, ∃ own, first.activity who = .idle own ∧
      WithinNames (base who) first.shared.resolve (owns who) own)
    (run :
      (((managers (faulty allowed) base).onward first).whenever
        fun _ event => event.Suits fun who operation =>
          operation.Within (base who) first.shared.resolve
            (owns who)).Run events scene)
    (who : Who) :
    ∃ events' scene',
      ((managers (faulty allowed) base).solo first who).Run events'
          scene' ∧
        boundaries who events' = boundaries who events ∧
        ∀ path, owns who (first.shared.resolve path) →
          scene'.shared.contentsOf path = scene.shared.contentsOf path := by
  obtain ⟨links, alone, apart, accompanied⟩ :=
    (managers_separation first.shared.resolve disjoint).accompanied
      (Apart.start rfl) resting run
  obtain ⟨events', scene', ownRun, same, shared, _⟩ := accompanied who
  refine ⟨events', scene', ownRun, same, ?_⟩
  intro path owned
  rw [shared]
  have resolved := apart.resolve
  exact (apart.alike who).contentsOf (resolved.symm ▸ owned)

end Apart

private def oneName (who : Bool) (name : String) : Prop :=
  name = smallBase.diskPath (if who then "b" else "a")

private instance (who : Bool) : DecidablePred (oneName who) :=
  fun name =>
    inferInstanceAs
      (Decidable (name = smallBase.diskPath (if who then "b" else "a")))

private theorem oneName_disjoint (who other : Bool) (name : String)
    (different : who ≠ other) (own : oneName who name) :
    ¬ oneName other name := by
  intro same
  have equal := own.symm.trans same
  cases who <;> cases other
  · exact different rfl
  · exact absurd equal (by decide)
  · exact absurd equal (by decide)
  · exact different rfl

/-- Two creates of different names, call by call in turn. -/
private def createsApart : List (Bool × Option Operation) :=
  (false, some (.create "a")) :: (true, some (.create "b")) ::
    (List.range 9).flatMap fun _ => turns false 1 ++ turns true 1

/-- Two managers create different disks at once. -/
theorem managers_undisturbed_creates :
    ∃ events scene events' scene',
      ((managers (faulty (· = .none)) fun _ : Bool => smallBase).onward
          twoManagers).Run events scene ∧
        ((managers (faulty (· = .none)) fun _ : Bool => smallBase).solo
          twoManagers true).Run events' scene' ∧
        boundaries true events' = boundaries true events ∧
        scene'.shared.contentsOf "d/b.disk" =
          scene.shared.contentsOf "d/b.disk" := by
  have run :=
    @Parties.append_play _ _ _ _ _ _ _ _
      (managers (faulty (· = .none)) fun _ : Bool => smallBase) twoManagers
      []
      (((managers (faulty (· = .none)) fun _ : Bool => smallBase).onward
        twoManagers).whenever fun _ event => event.Suits
          fun who operation =>
            operation.Within smallBase id (oneName who))
      serve (fun _ _ => ⟨.none, rfl, rfl⟩)
      (fun event => event.Suits
        fun who operation => operation.Within smallBase id (oneName who))
      (fun _ _ _ allowed stepped => ⟨allowed, stepped⟩) createsApart
      (by decide) (.start rfl)
  have resting (who : Bool) :
      ∃ own, twoManagers.activity who = .idle own ∧
        WithinNames smallBase id (oneName who) own :=
    ⟨PosixDiskManager.new, rfl, fun _ _ found => nomatch found⟩
  obtain ⟨events', scene', solo, same, contents⟩ :=
    managers_undisturbed oneName_disjoint resting run true
  exact ⟨_, _, events', scene', run.of_whenever, solo, same,
    contents _ rfl⟩

end Lewsql
