import SchemaForge.Proofs.Configuration.Fingerprint

/-!
# What normalizing keeps

Trimming has nothing left to drop once it was done: the configurations that it keeps as they are are
those that are `Configuration.IsTrimmed`, and what it answers is one of them. Normalizing without a
hook keeps those among them that have no output directory
(`Configuration.normalize_none_eq_self_iff`).

A hook runs between the two passes. It sees a copy without a directory, whatever directory there
was, and what it leaves behind is trimmed. The directory is not dropped a second time, so
normalizing once more changes something exactly if the hook has set it
(`Configuration.normalize_laws`).
-/

namespace SchemaForge

theorem Strategy.trim_eq_self_iff {s : Strategy} :
    s.trim = s ↔ (s.matchers.isSome = true → s.name = none) := by
  rcases s with ⟨name, _ | rules⟩ <;> simp [trim, eq_comm]

theorem Strategy.trim_trim (s : Strategy) : s.trim.trim = s.trim := by
  rw [trim_eq_self_iff]
  intro hmatchers
  rw [trim] at hmatchers ⊢
  split at hmatchers <;> rename_i h
  · rw [if_pos h]
  · exact absurd hmatchers h

namespace Configuration

variable {c : Configuration} {hook : Option NormalizationHook}

/-! ### Trimmed configurations -/

/-- Trimming has nothing to drop: a strategy that has rules has no name, and a connection carries a
value. -/
structure IsTrimmed (c : Configuration) : Prop where
  strategy : ∀ s ∈ c.generator.strategy, s.matchers.isSome = true → s.name = none
  jdbc : ∀ jdbc ∈ c.jdbc, jdbc.isUnset = false

/-- The configurations that trimming keeps are the trimmed ones. -/
theorem trimDefaults_eq_self_iff : c.trimDefaults = c ↔ c.IsTrimmed := by
  have hjdbc : (c.jdbc.filter fun jdbc ↦ !jdbc.isUnset) = c.jdbc ↔
      ∀ jdbc ∈ c.jdbc, jdbc.isUnset = false := by
    cases c.jdbc with
    | none => simp
    | some jdbc => simp [Option.filter_some]
  have hstrategy : c.generator.strategy.map Strategy.trim = c.generator.strategy ↔
      ∀ s ∈ c.generator.strategy, s.matchers.isSome = true → s.name = none := by
    cases c.generator.strategy with
    | none => simp
    | some s => simp [Strategy.trim_eq_self_iff]
  constructor
  · intro h
    exact ⟨hstrategy.1 (congrArg (·.generator.strategy) h), hjdbc.1 (congrArg (·.jdbc) h)⟩
  · rintro ⟨hs, hj⟩
    rw [trimDefaults, hjdbc.2 hj, hstrategy.2 hs]

theorem isTrimmed_trimDefaults (c : Configuration) : c.trimDefaults.IsTrimmed := by
  refine ⟨fun s hs ↦ ?_, fun jdbc hjdbc ↦ ?_⟩
  · obtain ⟨s, -, rfl⟩ := Option.map_eq_some_iff.1 hs
    exact Strategy.trim_eq_self_iff.1 s.trim_trim
  · have hkept := (Option.filter_eq_some_iff.1 hjdbc).2
    rwa [Bool.not_eq_true'] at hkept

/-! ### Normal configurations -/

/-- What trimming drops tells no two configurations apart. -/
theorem trimDefaults_alike (c : Configuration) : c.trimDefaults.Alike c where
  jdbc := filter_isUnset_eq_iff.1 (by
    rw [trimDefaults, Option.filter_filter]
    simp only [Bool.and_self])
  strategy := map_trim_eq_iff.1 (by
    rw [trimDefaults, Option.map_map]
    exact congrArg (c.generator.strategy.map ·) (funext Strategy.trim_trim))
  database := rfl
  generate := rfl
  packageName := rfl
  clean := rfl

theorem isTrimmed_normalize (c : Configuration) (hook : Option NormalizationHook) :
    (c.normalize hook).IsTrimmed :=
  isTrimmed_trimDefaults _

theorem normalize_none_trimDefaults (c : Configuration) :
    c.trimDefaults.normalize none = c.normalize none :=
  normalize_none_eq_iff.2 c.trimDefaults_alike

/-- Without a hook, the configurations that normalizing keeps are the trimmed ones that have no
output directory. -/
theorem normalize_none_eq_self_iff :
    c.normalize none = c ↔ c.IsTrimmed ∧ c.generator.target.directory = none := by
  constructor
  · intro h
    refine ⟨h ▸ c.isTrimmed_normalize none, ?_⟩
    rw [← h]
    rfl
  · rintro ⟨htrimmed, hdirectory⟩
    have hcopy : c.withDirectory none = c := by
      rw [withDirectory, ← hdirectory]
    show (c.withDirectory none).trimDefaults = c
    rw [hcopy, trimDefaults_eq_self_iff.2 htrimmed]

/-- The output directory is dropped before the hook runs, and trimming does not touch it. -/
theorem directory_normalize_eq_none_iff :
    (c.normalize hook).generator.target.directory = none ↔
      ∀ change ∈ hook, (change (c.withDirectory none)).generator.target.directory = none := by
  cases hook with
  | none => exact iff_of_true rfl fun _ h ↦ nomatch h
  | some change => exact ⟨fun h _ hchange ↦ Option.some.inj hchange ▸ h, fun h ↦ h change rfl⟩

/-- **How normalizing goes together with itself, with trimming and with the output directory.**
Whatever the hook does, the normal form does not depend on the output directory and has nothing left
to trim. Without a hook, trimming first makes no difference, and neither does normalizing again.
After a hook, normalizing again without it makes none exactly if the hook has left the directory
unset. -/
theorem normalize_laws (c : Configuration) (hook : Option NormalizationHook) :
    (∀ directory, (c.withDirectory directory).normalize hook = c.normalize hook) ∧
      (c.normalize hook).trimDefaults = c.normalize hook ∧
      (c.normalize none).normalize none = c.normalize none ∧
      c.trimDefaults.normalize none = c.normalize none ∧
      ((c.normalize hook).normalize none = c.normalize hook ↔
        ∀ change ∈ hook, (change (c.withDirectory none)).generator.target.directory = none) := by
  have hagain {hook : Option NormalizationHook} :
      (c.normalize hook).normalize none = c.normalize hook ↔
        ∀ change ∈ hook, (change (c.withDirectory none)).generator.target.directory = none := by
    rw [normalize_none_eq_self_iff, and_iff_right (c.isTrimmed_normalize hook),
      directory_normalize_eq_none_iff]
  refine ⟨fun directory ↦ rfl, ?_, hagain.2 fun _ h ↦ (nomatch h),
    c.normalize_none_trimDefaults, hagain⟩
  exact trimDefaults_eq_self_iff.2 (c.isTrimmed_normalize hook)

/-- A hook that names an output directory is undone in part by normalizing once more. -/
example :
    let hook : NormalizationHook := (·.withDirectory (some ⟨"out"⟩))
    (({} : Configuration).normalize (some hook)).normalize none ≠
      ({} : Configuration).normalize (some hook) := by
  decide

end Configuration

end SchemaForge
