import SchemaForge.GenerationTask.Generation
import SchemaForge.Project.Basic

/-!
# Generating projects

## Main definitions

* `Project.generate` : the run of selected tasks of a project.
-/

namespace SchemaForge.Project

variable {δ : Type}

/-- How many of the outcomes are failures. -/
def failures (outcomes : List (Except TaskError GenerationTask.Outcome)) : Nat :=
  outcomes.countP fun
    | .error _ => true
    | .ok _ => false

/-- Runs the tasks of some names, without any name all tasks, and counts those that failed. -/
def generate (b : Backend δ) (p : Project) (projectDir : Path) (only : List String) :
    Build.Operation δ (Except Error Nat) := do
  match p.select projectDir only with
  | .error e => return .error e
  | .ok tasks => return .ok (failures (← GenerationTask.generateAll b tasks))

end SchemaForge.Project
