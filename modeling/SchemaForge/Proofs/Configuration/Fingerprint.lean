import SchemaForge.Configuration.Fingerprint
import SchemaForge.Proofs.Configuration.Canonical

/-!
# What a fingerprint tells apart

Two configurations are `Configuration.Alike` if they differ at most in where the output goes, in the
name of a strategy that has rules, and in connections none of which carries a value. These are the
configurations with the same normal form (`Configuration.normalize_none_eq_iff`). A normal form can
be written, and no two configurations that can be written have the same canonical text, so
`Fingerprint.preimage_normalize_eq_iff` says that the bytes that are hashed tell all others apart.
-/

namespace SchemaForge

namespace Configuration

/-- The configurations differ at most in their output directories, in the names of strategies that
both have rules, and in connections none of which carries a value. -/
structure Alike (a b : Configuration) : Prop where
  jdbc : a.jdbc = b.jdbc ∨ a.jdbc.all Jdbc.isUnset = true ∧ b.jdbc.all Jdbc.isUnset = true
  strategy : a.generator.strategy = b.generator.strategy ∨
    ∃ (rules : Matchers) (name name' : Option String),
      a.generator.strategy = some { name := name, matchers := some rules } ∧
        b.generator.strategy = some { name := name', matchers := some rules }
  database : a.generator.database = b.generator.database
  generate : a.generator.generate = b.generator.generate
  packageName : a.generator.target.packageName = b.generator.target.packageName
  clean : a.generator.target.clean = b.generator.target.clean

/-! ### Normal forms -/

theorem filter_isUnset_eq_iff {x y : Option Jdbc} :
    (x.filter fun jdbc ↦ !jdbc.isUnset) = (y.filter fun jdbc ↦ !jdbc.isUnset) ↔
      x = y ∨ x.all Jdbc.isUnset = true ∧ y.all Jdbc.isUnset = true := by
  cases x <;> cases y <;> grind [Option.filter, Option.all]

theorem map_trim_eq_iff {s t : Option Strategy} :
    s.map Strategy.trim = t.map Strategy.trim ↔
      s = t ∨ ∃ (rules : Matchers) (name name' : Option String),
        s = some { name := name, matchers := some rules } ∧
          t = some { name := name', matchers := some rules } := by
  constructor
  · intro h
    rcases s with _ | ⟨name, _ | rules⟩ <;> rcases t with _ | ⟨name', _ | rules'⟩ <;>
      simp_all [Strategy.trim]
  · rintro (rfl | ⟨rules, name, name', rfl, rfl⟩)
    · rfl
    · rfl

/-- Without a hook, the configurations with the same normal form are those that are alike. -/
theorem normalize_none_eq_iff {a b : Configuration} :
    a.normalize none = b.normalize none ↔ a.Alike b := by
  have hnormalize (c : Configuration) : c.normalize none = {
      jdbc := c.jdbc.filter fun jdbc ↦ !jdbc.isUnset
      generator := { c.generator with
        strategy := c.generator.strategy.map Strategy.trim
        target := { c.generator.target with directory := none } } } := rfl
  simp only [hnormalize, Configuration.mk.injEq, Generator.mk.injEq, Target.mk.injEq,
    filter_isUnset_eq_iff, map_trim_eq_iff, true_and]
  constructor
  · rintro ⟨hjdbc, hstrategy, hdatabase, hgenerate, hpackage, hclean⟩
    exact ⟨hjdbc, hstrategy, hdatabase, hgenerate, hpackage, hclean⟩
  · rintro ⟨hjdbc, hstrategy, hdatabase, hgenerate, hpackage, hclean⟩
    exact ⟨hjdbc, hstrategy, hdatabase, hgenerate, hpackage, hclean⟩

end Configuration

/-- Without a hook, the normal form has no directory, so it can be written. -/
theorem Configuration.isWritable_normalize_none (c : Configuration) :
    (c.normalize none).isWritable = true := rfl

theorem Utf8.encode_injective : Function.Injective Utf8.encode := fun _ _ h ↦
  String.toByteArray_inj.1 (ByteArray.ext (Array.toList_inj.1 h))

namespace Fingerprint

/-- There is a fingerprint of a configuration exactly if it can be written. -/
theorem of_eq_ok_iff {normal : Configuration} {f : Fingerprint} :
    of normal = .ok f ↔ normal.isWritable = true ∧ f = ofNormal normal := by
  rw [of]
  cases hvalue : normal.serialize with
  | ok j =>
    rw [and_iff_right (Configuration.serialize_eq_ok_iff.1 hvalue).1]
    exact ⟨fun h ↦ (Except.ok.inj h).symm, fun h ↦ congrArg Except.ok h.symm⟩
  | error e =>
    refine ⟨nofun, fun h ↦ ?_⟩
    have hunwritable := (Configuration.serialize_eq_error_iff.1 hvalue).1
    exact absurd (hunwritable.symm.trans h.1) nofun

theorem preimage_inj {a b : Configuration} (ha : a.isWritable = true) (hb : b.isWritable = true) :
    preimage a = preimage b ↔ a = b := by
  refine ⟨fun h ↦ ?_, congrArg preimage⟩
  have htext := (List.cons.inj (List.append_cancel_left h)).2
  exact (Configuration.canonical_inj ha hb).1 (Utf8.encode_injective htext)

/-- **Exactly which configurations a fingerprint takes for the same.** Without a hook, the bytes
that are hashed for two configurations are equal if and only if the configurations differ at most in
where their output goes, in the names of strategies that both have rules, and in connections none of
which carries a value. -/
theorem preimage_normalize_eq_iff (a b : Configuration) :
    preimage (a.normalize none) = preimage (b.normalize none) ↔ a.Alike b :=
  (preimage_inj a.isWritable_normalize_none b.isWritable_normalize_none).trans
    Configuration.normalize_none_eq_iff

end Fingerprint

end SchemaForge
