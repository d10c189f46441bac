import Mathlib.Data.List.Basic
import SchemaForge.Proofs.Migration.Target

/-!
# The schemas of a database

What a database holds, schema by schema (`Schemas`), and what it means that an operation is about
one schema only (`Schemas.Local`). The history of a schema tells how long each script took, which
depends on much else and which no migration looks at: what is still to run is the same up to times
(`History.pending_untimed`). So the content of a schema is its tables and its history without times.
-/

namespace SchemaForge

/-- The row without the time that its script took. -/
def HistoryEntry.untimed (h : HistoryEntry) : HistoryEntry := { h with milliseconds := 0 }

namespace History

variable {rows rows' : List HistoryEntry}

theorem nextRank_untimed (rows : List HistoryEntry) :
    nextRank (rows.map HistoryEntry.untimed) = nextRank rows := by
  rw [nextRank, nextRank, List.foldl_map]
  rfl

/-- **No migration looks at times.** -/
theorem pending_untimed (scripts : List Script) (rows : List HistoryEntry) :
    pending scripts (rows.map HistoryEntry.untimed) = pending scripts rows := by
  have hsuccess : checkSuccess (rows.map HistoryEntry.untimed) = checkSuccess rows := by
    have hfind : (rows.map HistoryEntry.untimed).find? (fun h ↦ !h.success) =
        (rows.find? fun h ↦ !h.success).map HistoryEntry.untimed :=
      List.find?_map
    rw [checkSuccess, checkSuccess, hfind]
    cases rows.find? fun h ↦ !h.success <;> rfl
  have hentries : (rows.map HistoryEntry.untimed).forM (checkEntry scripts) =
      rows.forM (checkEntry scripts) :=
    List.forM_map
  have hholds (v : Version) : holds (rows.map HistoryEntry.untimed) v = holds rows v := by
    rw [holds, holds, List.any_map]
    rfl
  have hlatest : latest? (rows.map HistoryEntry.untimed) = latest? rows := by
    unfold latest?
    rw [List.foldl_map]
    rfl
  rw [pending, pending, hsuccess, hentries]
  simp only [hholds, checkOrder, hlatest]

end History

/-- What a database holds, on a state `δ`: of each schema its history, and its tables in `κ`. -/
structure Schemas (δ κ : Type) where
  history : δ → String → List HistoryEntry
  tables : δ → String → κ

namespace Schemas

variable {δ κ α χ ι : Type}

/-- What counts of a schema. -/
def content (S : Schemas δ κ) (schema : String) (d : δ) : List HistoryEntry × κ :=
  ((S.history d schema).map HistoryEntry.untimed, S.tables d schema)

/-- The operations of a family are about one schema, and alike. What they make of it and what counts
of their answers depends on nothing but what is in it, and they leave all others as they are. -/
structure Local (S : Schemas δ κ) (schema : String) (kind : α → χ) (op : ι → δ → α × δ) : Prop where
  answer : ∀ i d i' d', S.content schema d' = S.content schema d →
    kind (op i' d').1 = kind (op i d).1
  content : ∀ i d i' d', S.content schema d' = S.content schema d →
    S.content schema (op i' d').2 = S.content schema (op i d).2
  others : ∀ i d other, other ≠ schema → S.content other (op i d).2 = S.content other d

theorem Local.comp {S : Schemas δ κ} {schema : String} {kind : α → χ} {op : ι → δ → α × δ}
    (h : S.Local schema kind op) {ι' : Type} (f : ι' → ι) :
    S.Local schema kind fun i ↦ op (f i) where
  answer i d i' := h.answer (f i) d (f i')
  content i d i' := h.content (f i) d (f i')
  others i := h.others (f i)

end Schemas

variable {δ κ : Type}

/-- Over the connection each schema can be worked on as if there were no others. The outcome of a
script, and what it does, depend on its own schema alone. -/
structure Migration.Target.Separates (target : Target δ) (S : Schemas δ κ) : Prop where
  prepare : ∀ schema, S.Local schema id fun _ : Unit ↦ target.prepare schema
  applied : ∀ schema, S.Local schema (Except.map fun _ ↦ ()) fun _ : Unit ↦ target.applied schema
  /-- What is listed is the history. -/
  listed : ∀ schema d rows, (target.applied schema d).1 = .ok rows → rows = S.history d schema
  execute : ∀ schema script, S.Local schema Execution.outcome fun _ : Unit ↦
    target.execute schema script
  /-- Rows that differ in their times only are recorded alike. -/
  record : ∀ schema entry, S.Local schema id fun e : {e : HistoryEntry // e.untimed = entry} ↦
    target.record schema e
  close : ∀ schema, S.Local schema id fun _ : Unit ↦ target.close

/-- The answer of a listing without the times. -/
def Migration.untimedAnswer : Except Error (List HistoryEntry) → Except Error (List HistoryEntry) :=
  Except.map (List.map HistoryEntry.untimed)

/-- What a migration does with the history that was listed. -/
def Migration.goOn (target : Target δ) (schema : String) (scripts : List Script)
    (listed : Except Error (List HistoryEntry)) :
    Program Event δ (Except Error (List Applied)) :=
  match listed with
  | .error e => return .error e
  | .ok history =>
    match History.pending scripts history with
    | .error e => return .error e
    | .ok pending => runPending target schema (History.nextRank history) pending

/-- It goes on alike from histories that are the same up to times. -/
theorem Migration.goOn_eq {answer answer' : Except Error (List HistoryEntry)}
    (h : untimedAnswer answer' = untimedAnswer answer) (target : Target δ) (schema : String)
    (scripts : List Script) :
    goOn target schema scripts answer' = goOn target schema scripts answer := by
  cases answer with
  | error e =>
    cases answer' with
    | error e' =>
      cases h
      rfl
    | ok rows' => cases h
  | ok rows =>
    cases answer' with
    | error e' => cases h
    | ok rows' =>
      have hrows : rows'.map HistoryEntry.untimed = rows.map HistoryEntry.untimed :=
        Except.ok.inj h
      rw [goOn, goOn, ← History.pending_untimed scripts rows', ← History.nextRank_untimed rows',
        hrows, History.pending_untimed, History.nextRank_untimed]

/-- Up to times, the history that is listed depends on the schema alone. -/
theorem Migration.Target.Separates.applied_untimed {target : Target δ} {S : Schemas δ κ}
    (h : target.Separates S) (schema : String) :
    S.Local schema untimedAnswer fun _ : Unit ↦ target.applied schema where
  answer i d i' d' hcontent := by
    have hanswer := (h.applied schema).answer i d i' d' hcontent
    have hrows := congrArg Prod.fst hcontent
    show untimedAnswer (target.applied schema d').1 = untimedAnswer (target.applied schema d).1
    cases hlisted : (target.applied schema d).1 with
    | error e =>
      cases hlisted' : (target.applied schema d').1 with
      | error e' =>
        rw [hlisted, hlisted'] at hanswer
        cases hanswer
        rfl
      | ok rows' =>
        rw [hlisted, hlisted'] at hanswer
        cases hanswer
    | ok rows =>
      cases hlisted' : (target.applied schema d').1 with
      | error e' =>
        rw [hlisted, hlisted'] at hanswer
        cases hanswer
      | ok rows' =>
        rw [h.listed schema d rows hlisted, h.listed schema d' rows' hlisted']
        exact congrArg Except.ok hrows
  content := (h.applied schema).content
  others := (h.applied schema).others

/-- The databases of a backend keep their schemas apart, and how a start ends is fixed. -/
structure Backend.Separates (b : Backend δ) (S : Schemas δ κ) : Prop where
  start : ∀ d d', (b.start d').1 = (b.start d).1
  content_start : ∀ schema d, S.content schema (b.start d).2 = S.content schema d
  connect : ∀ handle schema, S.Local schema id fun _ : Unit ↦ b.connect handle
  target : ∀ handle d target, (b.connect handle d).1 = .ok target → target.Separates S

namespace Rehearsal

/-- The schemas of a rehearsal. Nothing is in them but their histories; what becomes of an operation
on them is up to the rules. -/
def schemas : Schemas Rehearsal Rules where
  history := history
  tables r _ := r.rules

/-- An operation that changes neither histories nor rules and whose answer is up to the rules. -/
theorem local_of_rules {α χ : Type} {schema : String} {kind : α → χ}
    {op : Rehearsal → α × Rehearsal}
    (hanswer : ∀ r r', r'.rules = r.rules → kind (op r').1 = kind (op r).1)
    (hhistory : ∀ r, (op r).2.history = r.history) (hrules : ∀ r, (op r).2.rules = r.rules) :
    schemas.Local schema kind fun _ : Unit ↦ op where
  answer _ r _ r' h := hanswer r r' (congrArg Prod.snd h)
  content _ r _ r' h := by
    rw [Schemas.content, Schemas.content]
    simp only [schemas, hhistory, hrules]
    exact h
  others _ r other _ := by
    rw [Schemas.content, Schemas.content]
    simp only [schemas, hhistory, hrules]

/-- A record is about one schema. -/
theorem local_record (schema : String) (entry : HistoryEntry) :
    schemas.Local schema id fun e : {e : HistoryEntry // e.untimed = entry} ↦
      target.record schema e where
  answer e r e' r' h := by
    have hrules : r'.rules = r.rules := congrArg Prod.snd h
    simp only [target, hrules]
    cases r.rules.record <;> rfl
  content e r e' r' h := by
    have hrules : r'.rules = r.rules := congrArg Prod.snd h
    have hrows : (r'.history schema).map HistoryEntry.untimed =
        (r.history schema).map HistoryEntry.untimed := congrArg Prod.fst h
    refine Prod.ext ?_ ?_
    · simp only [schemas, Schemas.content, target, hrules]
      cases r.rules.record with
      | some e => exact hrows
      | none =>
        simp only [history_setHistory, Function.update_self, List.map_append, hrows, List.map_cons,
          List.map_nil, e.2, e'.2]
    · simp only [schemas, Schemas.content, rules_record, hrules]
  others e r other hother := by
    refine Prod.ext ?_ ?_
    · simp only [schemas, Schemas.content, target]
      cases r.rules.record with
      | some e => rfl
      | none =>
        simp only [history_setHistory, Function.update_of_ne hother]
        rfl
    · simp only [schemas, Schemas.content, rules_record]

/-- **A rehearsal keeps its schemas apart.** -/
theorem target_separates : target.Separates schemas where
  prepare _ := local_of_rules (fun r r' h ↦ by simp only [target, h]) (fun _ ↦ rfl) fun _ ↦ rfl
  applied _ := local_of_rules (fun r r' h ↦ by
    simp only [target, h]
    cases outcome r.rules.applied <;> rfl) (fun _ ↦ rfl) fun _ ↦ rfl
  listed _ _ _ h := target_keeps.listed h
  execute _ script := local_of_rules (fun r r' h ↦ by simp only [target, h]) (fun _ ↦ rfl)
    fun _ ↦ rfl
  record := local_record
  close _ := local_of_rules (fun r r' h ↦ by simp only [target, h]) (fun _ ↦ rfl) fun _ ↦ rfl

end Rehearsal

end SchemaForge
