/-!
# Programs in steps

A computation that shares its state with others, cut into the steps between which others may
run. Each step happens at once, may have to wait until the state allows it, and announces
what it did by an event. A program can be run alone, or step by step in turn with others.

## Main definitions

* `Program` : a computation by its steps.
* `Program.run` : running one alone to its end.
* `Program.advance` : its next step.
* `Program.zoom` : a program on a part of the state as a program on the whole.
-/

namespace SchemaForge

/-- A computation on the state `σ` with an answer in `α` that announces events in `ε`. -/
inductive Program (ε σ α : Type) : Type 1 where
  | done (a : α)
  /-- A step that happens when `act` has an answer for the state; until then it waits. -/
  | step {β : Type} (act : σ → Option (β × σ)) (event : β → ε) (next : β → Program ε σ α)

namespace Program

variable {ε σ α β : Type}

/-- One program and then another, which may depend on its answer. -/
def bind (p : Program ε σ α) (f : α → Program ε σ β) : Program ε σ β :=
  match p with
  | done a => f a
  | step act event next => step act event fun b => (next b).bind f

instance : Monad (Program ε σ) where
  pure := done
  bind := bind

/-- A step that never waits. -/
def perform (act : σ → β × σ) (event : β → ε) : Program ε σ β :=
  step (fun s => some (act s)) event done

/-- A step that waits until `act` has an answer. -/
def await (act : σ → Option (β × σ)) (event : β → ε) : Program ε σ β :=
  step act event done

/-- A step that changes the state and answers nothing. -/
def change (act : σ → σ) (event : ε) : Program ε σ Unit :=
  perform (fun s => ((), act s)) fun _ => event

/-- A step that leaves the state as it is. -/
def look (read : σ → β) (event : β → ε) : Program ε σ β :=
  perform (fun s => (read s, s)) event

/-- What a program comes to when it runs alone. -/
structure Run (ε σ α : Type) where
  answer : α
  events : List ε
  state : σ

/-- Runs a program alone: `none` if it waits for what only others can do. -/
def run : Program ε σ α → σ → Option (Run ε σ α)
  | done a, s => some ⟨a, [], s⟩
  | step act event next, s =>
    match act s with
    | none => none
    | some (b, s') =>
      ((next b).run s').map fun r => { r with events := event b :: r.events }

/-- The next step of a program: what remains of it, its event and the state after it; `none`
if it is done or has to wait. -/
def advance : Program ε σ α → σ → Option (Program ε σ α × ε × σ)
  | done _, _ => none
  | step act event next, s => (act s).map fun r => (next r.1, event r.1, r.2)

/-- The answer of a program that is done. -/
def answer? : Program ε σ α → Option α
  | done a => some a
  | step .. => none

/-- A program on a part of a state as a program on the whole. -/
def zoom {τ ζ : Type} (get : τ → σ) (put : σ → τ → τ) (name : ε → ζ) :
    Program ε σ α → Program ζ τ α
  | done a => done a
  | step act event next =>
    step (fun t => (act (get t)).map fun r => (r.1, put r.2 t)) (fun b => name (event b))
      fun b => (next b).zoom get put name

end Program

end SchemaForge
