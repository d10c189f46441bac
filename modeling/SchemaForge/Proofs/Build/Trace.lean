import SchemaForge.Build.World
import SchemaForge.Proofs.Migration.Progress
import SchemaForge.Proofs.Program.Interference

/-!
# What the trace of a build says of a schema

The tasks of a build announce their steps. Of a trace of such events, each with the task that
announced it, three things matter for the migration of one schema: which scripts were executed and
by whom (`Build.executions`), who holds the lock (`Build.holder`), and who has a connection open
(`Build.isConnected`). Each is read off event by event, so a lemma for one event more is all that
the runs of a build need.
-/

namespace SchemaForge

namespace Build

variable {ι : Type}

/-! ### One event -/

/-- The attempt at a script of the schema that an event announces. -/
def Event.attempt? (schema : String) : Event → Option Migration.Attempt
  | .migration (.executed s script outcome) => if s = schema then some (script, outcome) else none
  | _ => none

/-- Who holds the lock of the schema after an event of a party. -/
def Event.holderAfter (schema : String) (i : ι) : Event → Option ι → Option ι
  | .locked name s, h => if name = Defaults.databaseService ∧ s = schema then some i else h
  | .unlocked name s, h => if name = Defaults.databaseService ∧ s = schema then none else h
  | _, h => h

/-- Whether a party has a connection open after an event of its own. -/
def Event.connectedAfter : Event → Bool → Bool
  | .connected outcome, _ => outcome.isOk
  | .closed _, _ => false
  | _, before => before

/-- The event tells of nothing that tasks share but files and what is outside. -/
def Event.OfTask : Event → Prop
  | .registered _ | .database .. | .counted _ | .locked .. | .unlocked .. => False
  | _ => True

/-! ### Traces -/

/-- The scripts of the schema that were executed, each with the party that did. -/
def executions (schema : String) (events : List (ι × Event)) : List (ι × Migration.Attempt) :=
  events.filterMap fun x ↦ (x.2.attempt? schema).map (x.1, ·)

/-- The party that holds the lock of the schema. -/
def holder (schema : String) (events : List (ι × Event)) : Option ι :=
  events.foldl (fun h x ↦ x.2.holderAfter schema x.1 h) none

/-- Whether the party has a connection open. -/
def isConnected [DecidableEq ι] (i : ι) (events : List (ι × Event)) : Bool :=
  events.foldl (fun before x ↦ if x.1 = i then x.2.connectedAfter before else before) false

@[simp] theorem executions_append (schema : String) (events : List (ι × Event)) (i : ι)
    (e : Event) : executions schema (events ++ [(i, e)]) =
      executions schema events ++ ((e.attempt? schema).map (i, ·)).toList := by
  rw [executions, List.filterMap_append]
  cases h : e.attempt? schema <;> simp [executions, h]

theorem executions_append_of_none {schema : String} {e : Event} (h : e.attempt? schema = none)
    (events : List (ι × Event)) (i : ι) :
    executions schema (events ++ [(i, e)]) = executions schema events := by
  rw [executions_append, h, Option.map_none, Option.toList_none, List.append_nil]

/-- Whatever an event adds to the executions is by its party. -/
theorem fst_eq_of_mem_attempt {schema : String} {e : Event} {i : ι} {x : ι × Migration.Attempt}
    (hx : x ∈ ((e.attempt? schema).map (i, ·)).toList) : x.1 = i := by
  obtain ⟨a, -, rfl⟩ := Option.map_eq_some_iff.1 (Option.mem_toList.1 hx)
  rfl

@[simp] theorem holder_append (schema : String) (events : List (ι × Event)) (i : ι) (e : Event) :
    holder schema (events ++ [(i, e)]) = e.holderAfter schema i (holder schema events) := by
  rw [holder, List.foldl_append]
  rfl

/-- An event gives the lock away, takes it back, or leaves it where it was. -/
theorem Event.holderAfter_cases (schema : String) (i : ι) (e : Event) :
    (∀ h, e.holderAfter schema i h = some i) ∨ (∀ h, e.holderAfter schema i h = none) ∨
      ∀ h, e.holderAfter schema i h = h := by
  cases e with
  | locked name s =>
    by_cases hs : name = Defaults.databaseService ∧ s = schema
    · exact Or.inl fun _ ↦ if_pos hs
    · exact Or.inr (Or.inr fun _ ↦ if_neg hs)
  | unlocked name s =>
    by_cases hs : name = Defaults.databaseService ∧ s = schema
    · exact Or.inr (Or.inl fun _ ↦ if_pos hs)
    · exact Or.inr (Or.inr fun _ ↦ if_neg hs)
  | _ => exact Or.inr (Or.inr fun _ ↦ rfl)

/-- Nobody is given the lock by an event of another party. -/
theorem holder_of_append {schema : String} {i j : ι} (hji : j ≠ i) {events : List (ι × Event)}
    {e : Event} (h : holder schema (events ++ [(j, e)]) = some i) :
    holder schema events = some i := by
  rw [holder_append] at h
  unfold Event.holderAfter at h
  split at h
  · split at h
    · exact absurd (Option.some.inj h) hji
    · exact h
  · split at h
    · cases h
    · exact h
  · exact h

theorem isConnected_append_self [DecidableEq ι] (events : List (ι × Event)) (i : ι) (e : Event) :
    isConnected i (events ++ [(i, e)]) = e.connectedAfter (isConnected i events) := by
  rw [isConnected, List.foldl_append]
  simp [isConnected]

theorem isConnected_append_of_ne [DecidableEq ι] {i j : ι} (hij : j ≠ i)
    (events : List (ι × Event)) (e : Event) :
    isConnected i (events ++ [(j, e)]) = isConnected i events := by
  rw [isConnected, List.foldl_append]
  simp [isConnected, hij]

/-- An execution on another schema is none on the schema. -/
theorem Event.attempt?_of_ne {schema other : String} (hne : other ≠ schema) (s : Script)
    (outcome : Except Error Unit) :
    (Event.migration (.executed other s outcome)).attempt? schema = none :=
  if_neg hne

/-! ### The text of a migration -/

variable {δ α β : Type}

theorem outside_perform (act : δ → β × δ) (event : β → Migration.Event)
    (next : β → Program Migration.Event δ α) :
    outside (Program.perform act event >>= next) =
      Program.perform
        (fun w : World δ ↦ ((act w.outside).1, { w with outside := (act w.outside).2 }))
        (fun b ↦ Event.migration (event b)) >>= fun b ↦ outside (next b) := rfl

theorem outside_bind (p : Program Migration.Event δ α) (f : α → Program Migration.Event δ β) :
    outside (p >>= f) = outside p >>= fun a ↦ outside (f a) :=
  Program.zoom_bind ..

end Build

end SchemaForge
