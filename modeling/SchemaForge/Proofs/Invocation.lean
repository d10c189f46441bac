import SchemaForge.Invocation
import SchemaForge.Proofs.Names
import SchemaForge.Proofs.Text.Pieces

/-!
# What the generator is launched with

The classpath of a command is handed over as one value in the environment, in which its entries
stand between separators. An entry that holds a separator itself is refused; otherwise the generator
can cut the value and has the entries again, empty ones included
(`ProcessSpec.splitPaths_joinPaths`). All else in the environment is as the command declares it,
except for a variable of the same name (`ProcessSpec.ofCommand_launches`).
-/

namespace SchemaForge.ProcessSpec

/-- The paths that stand between separators. -/
def splitPaths (joined : RawText) : List Path :=
  (Text.pieces (· == separator) joined.bytes).map fun piece ↦ ⟨⟨piece⟩⟩

/-- The variables that a command declares, as a process is given them. -/
def declared (command : GeneratorCommand) : List (String × RawText) :=
  command.env.map fun v ↦ (v.1, RawText.ofText v.2)

variable {command : GeneratorCommand} {document workingDir : Path} {spec : ProcessSpec}

theorem joinPaths_eq_none_iff {entries : List Path} :
    joinPaths entries = none ↔ ∃ p ∈ entries, separator ∈ p.text.bytes := by
  rw [joinPaths]
  split
  · rename_i h
    simpa using h
  · rename_i h
    simpa using h

/-- Joined paths can be cut apart again. -/
theorem splitPaths_joinPaths {entries : List Path} {joined : RawText}
    (h : joinPaths entries = some joined) (hne : entries ≠ []) : splitPaths joined = entries := by
  have hfree : ∀ p ∈ entries, ∀ a ∈ p.text.bytes, (a == separator) = false := by
    intro p hp a ha
    refine beq_false_of_ne fun heq ↦ ?_
    rw [joinPaths_eq_none_iff.2 ⟨p, hp, heq ▸ ha⟩] at h
    cases h
  rw [joinPaths] at h
  split at h
  · cases h
  · obtain rfl := Option.some.inj h
    have hpieces : Text.pieces (· == separator)
        ([separator].intercalate (entries.map (·.text.bytes))) = entries.map (·.text.bytes) := by
      refine Text.pieces_intercalate ?_ (List.map_eq_nil_iff.not.2 hne)
        (List.forall_mem_map.2 hfree)
      exact BEq.rfl
    rw [splitPaths, hpieces, List.map_map]
    exact List.map_id'' (fun _ ↦ rfl) entries

/-- The environment of a launch: that of the command, with the joined classpath unless it is
empty. -/
theorem environment_eq_ok_iff {env : List (String × RawText)} :
    environment command = .ok env ↔
      command.classpath = [] ∧ env = declared command ∨
      command.classpath ≠ [] ∧ ∃ joined, joinPaths command.classpath = some joined ∧
        env = Names.insert ("CLASSPATH", joined) (declared command) := by
  rw [environment, declared]
  cases hclasspath : command.classpath with
  | nil => simp [eq_comm]
  | cons p rest => cases joinPaths (p :: rest) <;> simp [eq_comm]

theorem ascending_declared (h : Names.Ascending command.env) :
    Names.Ascending (declared command) :=
  List.pairwise_map.2 h

theorem find?_declared (command : GeneratorCommand) (name : String) :
    Names.find? name (declared command) = (Names.find? name command.env).map RawText.ofText := by
  rw [declared, Names.find?, Names.find?, List.find?_map, Option.map_map, Option.map_map]
  rfl

theorem exists_error_iff : (∃ e, ofCommand command document workingDir = .error e) ↔
    ∃ p ∈ command.classpath, separator ∈ p.text.bytes := by
  rw [← joinPaths_eq_none_iff, ofCommand, environment]
  cases hclasspath : command.classpath with
  | nil =>
    exact ⟨fun ⟨_, h⟩ ↦ (by cases h), fun h ↦ by cases h⟩
  | cons p rest =>
    cases joinPaths (p :: rest) with
    | none => exact ⟨fun _ ↦ rfl, fun _ ↦ ⟨_, rfl⟩⟩
    | some joined => exact ⟨fun ⟨_, h⟩ ↦ (by cases h), fun h ↦ by cases h⟩

theorem of_ofCommand (h : ofCommand command document workingDir = .ok spec) :
    environment command = .ok spec.env ∧ spec.program = command.program ∧
      spec.args = command.args.map RawText.ofText ++ [document.text] ∧
      spec.workingDir = workingDir := by
  rw [ofCommand] at h
  cases henv : environment command with
  | error e =>
    rw [henv] at h
    cases h
  | ok env =>
    rw [henv] at h
    cases h
    exact ⟨rfl, rfl, rfl, rfl⟩

/-- **How a command is launched.** It cannot be exactly if an entry of its classpath holds the
separator. Otherwise its arguments come first and then the document, and the variables are those
that it declares, except that a classpath with entries stands under its own name, whatever was
declared there; cut at the separators, it has just these entries. -/
theorem ofCommand_launches (command : GeneratorCommand) (document workingDir : Path) :
    ((∃ e, ofCommand command document workingDir = .error e) ↔
      ∃ p ∈ command.classpath, separator ∈ p.text.bytes) ∧
    ∀ spec, ofCommand command document workingDir = .ok spec →
      spec.program = command.program ∧
      spec.args = command.args.map RawText.ofText ++ [document.text] ∧
      spec.workingDir = workingDir ∧
      (Names.Ascending command.env → Names.Ascending spec.env) ∧
      (command.classpath = [] →
        spec.env = command.env.map fun v ↦ (v.1, RawText.ofText v.2)) ∧
      (command.classpath ≠ [] → ∃ joined,
        (∀ name, Names.find? name spec.env =
          if name = "CLASSPATH" then some joined
          else (Names.find? name command.env).map RawText.ofText) ∧
        splitPaths joined = command.classpath) := by
  refine ⟨exists_error_iff, fun spec hspec ↦ ?_⟩
  obtain ⟨henv, hprogram, hargs, hdir⟩ := of_ofCommand hspec
  refine ⟨hprogram, hargs, hdir, ?_⟩
  rcases environment_eq_ok_iff.1 henv with ⟨hnone, heq⟩ | ⟨hsome, joined, hjoined, heq⟩
  · rw [heq]
    exact ⟨ascending_declared, fun _ ↦ rfl, fun hsome ↦ absurd hnone hsome⟩
  · rw [heq]
    refine ⟨fun h ↦ Names.ascending_insert (ascending_declared h),
      fun hnone ↦ absurd hnone hsome, fun _ ↦ ⟨joined, ?_, ?_⟩⟩
    · intro name
      rw [Names.find?_insert, find?_declared]
      exact if_congr eq_comm rfl rfl
    · exact splitPaths_joinPaths hjoined hsome

/-- A classpath with an empty entry and a repeated one, in place of one that was declared. -/
theorem ofCommand_launches_override :
    let command : GeneratorCommand := {
      program := "java"
      args := ["-jar", "codegen.jar"]
      classpath := [⟨"/lib/a.jar"⟩, ⟨""⟩, ⟨"/lib/a.jar"⟩]
      env := [("CLASSPATH", "/old.jar"), ("MODE", "strict")] }
    ∃ spec, ofCommand command ⟨"/work/config.json"⟩ ⟨"/work"⟩ = .ok spec ∧
      Names.Ascending command.env ∧ command.classpath ≠ [] ∧
      spec.args = ["-jar", "codegen.jar", "/work/config.json"] ∧
      Names.find? "MODE" spec.env = some (RawText.ofText "strict") ∧
      ∃ joined, Names.find? "CLASSPATH" spec.env = some joined ∧
        joined = "/lib/a.jar::/lib/a.jar" ∧
        splitPaths joined = [⟨"/lib/a.jar"⟩, ⟨""⟩, ⟨"/lib/a.jar"⟩] := by
  intro command
  obtain ⟨spec, hspec, hjoined⟩ : ∃ spec,
      ofCommand command ⟨"/work/config.json"⟩ ⟨"/work"⟩ = .ok spec ∧
        Names.find? "CLASSPATH" spec.env = some (RawText.ofText "/lib/a.jar::/lib/a.jar") :=
    ⟨_, rfl, by decide +kernel⟩
  have hsome : command.classpath ≠ [] := List.cons_ne_nil _ _
  obtain ⟨-, hargs, -, -, -, hclasspath⟩ :=
    (ofCommand_launches command ⟨"/work/config.json"⟩ ⟨"/work"⟩).2 spec hspec
  obtain ⟨joined, hfind, hsplit⟩ := hclasspath hsome
  have heq : joined = "/lib/a.jar::/lib/a.jar" := by
    rw [hfind, if_pos rfl] at hjoined
    exact Option.some.inj hjoined
  refine ⟨spec, hspec, List.pairwise_pair.2 (by decide), hsome, hargs, ?_, joined, ?_, heq, hsplit⟩
  · rw [hfind, if_neg (by decide)]
    decide
  · rw [hfind, if_pos rfl]

end SchemaForge.ProcessSpec
