import SchemaForge.Configuration.Basic

/-!
# Normal forms of configurations

Two configurations that ask the generator for the same thing may differ in what does not
matter: where the output goes, a strategy name beside rules that overrule it, a connection
without a value. The normal form drops all three.

## Main definitions

* `Configuration.trimDefaults` : drops what is written without carrying meaning.
* `Configuration.normalize` : drops the output directory, lets the caller's hook change the
  copy, and trims what is left.
-/

namespace SchemaForge

/-- A caller's change to the copy that is fingerprinted. -/
abbrev NormalizationHook := Configuration → Configuration

/-- Rules overrule a strategy's name. -/
def Strategy.trim (s : Strategy) : Strategy :=
  if s.matchers.isSome then { s with name := none } else s

namespace Configuration

/-- Drops the name of a strategy that has rules, and a connection without any value. -/
def trimDefaults (c : Configuration) : Configuration :=
  { c with
    jdbc := c.jdbc.filter fun jdbc => !jdbc.isUnset
    generator.strategy := c.generator.strategy.map Strategy.trim }

/-- The normal form of a configuration. -/
def normalize (c : Configuration) (hook : Option NormalizationHook) : Configuration :=
  let copy := c.withDirectory none
  (match hook with
    | some change => change copy
    | none => copy).trimDefaults

end Configuration

end SchemaForge
