import Mathlib.Logic.Function.Basic
import SchemaForge.Proofs.Table
import SchemaForge.Rehearsal.Databases

/-!
# What a database keeps of its schemas

A migration asks a database to prepare, to list, to execute and to record. `Target.Keeps` says how
the histories of all schemas fare under these operations, whatever else the database does: a record
that succeeds adds its row at the end of one history, and nothing else changes any. Which operations
succeed is left open. `Target.Serves` says that on one schema all succeed but the scripts, as long
as the database is `ready`, and `Backend.Hosts` that connections to such targets can be had.

The databases of a rehearsal keep their histories in this sense (`Rehearsal.target_keeps`), and are
ready while no rule lets an operation fail (`Rehearsal.backend_hosts`).
-/

namespace SchemaForge

namespace Migration

variable {δ : Type}

/-- The operations of a target treat the histories as tables to which rows are added: `history`
reads them off the state. -/
structure Target.Keeps (target : Target δ) (history : δ → String → List HistoryEntry) : Prop where
  prepare : ∀ schema d, history (target.prepare schema d).2 = history d
  applied : ∀ schema d, history (target.applied schema d).2 = history d
  /-- What is listed are the rows of the schema. -/
  listed : ∀ {schema d rows}, (target.applied schema d).1 = .ok rows → rows = history d schema
  execute : ∀ schema s d, history (target.execute schema s d).2 = history d
  /-- A record that succeeds adds the row at the end. -/
  recorded : ∀ {schema entry d}, (target.record schema entry d).1 = .ok () →
    history (target.record schema entry d).2 =
      Function.update (history d) schema (history d schema ++ [entry])
  /-- A record that fails adds nothing. -/
  unrecorded : ∀ {schema entry d e}, (target.record schema entry d).1 = .error e →
    history (target.record schema entry d).2 = history d
  close : ∀ d, history (target.close d).2 = history d

/-- A record changes no history but that of its schema. -/
theorem Target.Keeps.record_of_ne {target : Target δ} {history : δ → String → List HistoryEntry}
    (h : target.Keeps history) {schema other : String} (hne : schema ≠ other) (entry : HistoryEntry)
    (d : δ) : history (target.record other entry d).2 schema = history d schema := by
  cases hrecord : (target.record other entry d).1 with
  | error e => rw [h.unrecorded hrecord]
  | ok u => rw [h.recorded hrecord, Function.update_of_ne hne]

/-- On the schema, all operations but the scripts succeed while the database is ready, and it stays
ready under the operations on any schema. -/
structure Target.Serves (target : Target δ) (history : δ → String → List HistoryEntry)
    (ready : δ → Prop) (schema : String) : Prop extends target.Keeps history where
  prepares : ∀ {d}, ready d → (target.prepare schema d).1 = .ok ()
  lists : ∀ {d}, ready d → (target.applied schema d).1 = .ok (history d schema)
  records : ∀ {entry d}, ready d → (target.record schema entry d).1 = .ok ()
  closes : ∀ {d}, ready d → (target.close d).1 = .ok ()
  ready_prepare : ∀ {s d}, ready d → ready (target.prepare s d).2
  ready_applied : ∀ {s d}, ready d → ready (target.applied s d).2
  ready_execute : ∀ {s script d}, ready d → ready (target.execute s script d).2
  ready_record : ∀ {s entry d}, ready d → ready (target.record s entry d).2
  ready_close : ∀ {d}, ready d → ready (target.close d).2

end Migration

/-- Connections can be had while the database is ready, and each is to a target that serves. -/
structure Backend.Hosts {δ : Type} (b : Backend δ) (handle : DatabaseHandle)
    (history : δ → String → List HistoryEntry) (ready : δ → Prop) (schema : String) : Prop where
  connects : ∀ {d}, ready d →
    ∃ target, (b.connect handle d).1 = .ok target ∧ target.Serves history ready schema
  history_connect : ∀ d, history (b.connect handle d).2 = history d
  ready_connect : ∀ {d}, ready d → ready (b.connect handle d).2

namespace Rehearsal

theorem history_setHistory (r : Rehearsal) (schema : String) (rows : List HistoryEntry) :
    (r.setHistory schema rows).history = Function.update r.history schema rows := by
  funext s
  by_cases hs : s = schema
  · subst hs
    rw [Function.update_self, history, setHistory, find?_replace_self]
  · rw [Function.update_of_ne hs, history, history, setHistory, find?_replace_of_ne hs]

/-- The databases of a rehearsal keep the histories of their schemas. -/
theorem target_keeps : target.Keeps history where
  prepare _ _ := rfl
  applied _ _ := rfl
  listed {schema d rows} h := by
    simp only [target] at h
    cases hrule : outcome d.rules.applied with
    | error e => rw [hrule] at h; cases h
    | ok u => rw [hrule] at h; exact (Except.ok.inj h).symm
  execute _ _ _ := rfl
  recorded {schema entry d} h := by
    simp only [target] at h ⊢
    split at h
    · cases h
    · exact history_setHistory ..
  unrecorded {schema entry d e} h := by
    simp only [target] at h ⊢
    split at h
    · rfl
    · cases h
  close _ := rfl

/-- No rule lets an operation fail; scripts may. -/
structure IsReady (r : Rehearsal) : Prop where
  connect : r.rules.connect = none
  prepare : r.rules.prepare = none
  applied : r.rules.applied = none
  record : r.rules.record = none
  close : r.rules.close = none

theorem rules_record (schema : String) (entry : HistoryEntry) (r : Rehearsal) :
    (target.record schema entry r).2.rules = r.rules := by
  simp only [target]
  split <;> rfl

theorem target_serves (schema : String) : target.Serves history IsReady schema where
  toKeeps := target_keeps
  prepares h := by simp only [target, h.prepare, outcome]
  lists h := by simp only [target, h.applied, outcome]; rfl
  records h := by simp only [target, h.record]
  closes h := by simp only [target, h.close, outcome]
  ready_prepare h := ⟨h.connect, h.prepare, h.applied, h.record, h.close⟩
  ready_applied h := ⟨h.connect, h.prepare, h.applied, h.record, h.close⟩
  ready_execute h := ⟨h.connect, h.prepare, h.applied, h.record, h.close⟩
  ready_record {schema entry d} h := by
    have hrules := rules_record schema entry d
    exact ⟨hrules ▸ h.connect, hrules ▸ h.prepare, hrules ▸ h.applied, hrules ▸ h.record,
      hrules ▸ h.close⟩
  ready_close h := ⟨h.connect, h.prepare, h.applied, h.record, h.close⟩

theorem backend_hosts (handle : DatabaseHandle) (schema : String) :
    backend.Hosts handle history IsReady schema where
  connects {d} h := by
    refine ⟨target, ?_, target_serves schema⟩
    show (outcome d.rules.connect).map (fun _ ↦ target) = .ok target
    rw [h.connect]
    rfl
  history_connect _ := rfl
  ready_connect h := ⟨h.connect, h.prepare, h.applied, h.record, h.close⟩

end Rehearsal

end SchemaForge
