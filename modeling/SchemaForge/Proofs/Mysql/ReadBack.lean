import SchemaForge.Proofs.Migration.VersionText
import SchemaForge.Proofs.Mysql.Ranks

/-!
# The history that is read back

An entry is stored as a row of texts and numbers, and the rows are read as entries again. Whoever
records a migration whose version was read from some script's name gets this very entry back
(`Row.toEntry_ofEntry`), next to the entries that were there before (`applied_of_recorded`). So a
row that a migration has written blocks no later run: the history can be read after it exactly when
it could before.

All that is asked of the server is that it keeps the values of its columns (`Connection.Stores`).
-/

namespace SchemaForge.Mysql

variable {σ : Type} {c : Connection σ} {schema : String} {rows : σ → List Row}

/-! ### Rows and entries -/

namespace Row

/-- An entry is read back from its row: its version from the text of the version, a flag from a
number, and everything else as it stands. -/
theorem toEntry_ofEntry {e : HistoryEntry} (h : e.version.Legible) :
    (ofEntry e).toEntry = .ok (some e) := by
  have hparse : Version.parse e.version.toText = .ok e.version := Version.parse_toText h
  have hsuccess : ((if e.success then 1 else 0 : Int) != 0) = e.success := by
    cases e.success <;> rfl
  simp only [toEntry, ofEntry, hparse, Option.getD_some, hsuccess]

end Row

/-! ### What a server keeps -/

/-- The history of the schema is kept by the server: `rows` reads it off the state. An insertion
that succeeds adds its row with the values that it was given, and a selection that succeeds gives
the rows with the values that they have, in whatever order. -/
structure Connection.Stores (c : Connection σ) (schema : String) (rows : σ → List Row) : Prop where
  inserted : ∀ {row s}, (c.insert (insertHistory schema) row s).1 = .ok () →
    (rows (c.insert (insertHistory schema) row s).2).Perm (row :: rows s)
  selected : ∀ {s found}, (c.select (selectHistory schema) s).1 = .ok found → found.Perm (rows s)

theorem Connection.Tables.stores (h : c.Tables schema rows) : c.Stores schema rows :=
  ⟨h.inserted, h.selected⟩

theorem insert_of_recorded {entry : HistoryEntry} {s : σ}
    (h : ((target c).record schema entry s).1 = .ok ()) :
    (c.insert (insertHistory schema) (Row.ofEntry entry) s).1 = .ok () := by
  change (c.insert (insertHistory schema) (Row.ofEntry entry) s).1.mapError ServerFault.error =
    .ok () at h
  cases hinsert : (c.insert (insertHistory schema) (Row.ofEntry entry) s).1 with
  | error fault =>
    rw [hinsert] at h
    cases h
  | ok u => rfl

theorem applied_of_selected {s : σ} {found : List Row}
    (h : (c.select (selectHistory schema) s).1 = .ok found) :
    ((target c).applied schema s).1 = Row.toEntries found := by
  show ((c.select (selectHistory schema) s).1.mapError ServerFault.error).bind Row.toEntries = _
  rw [h]
  rfl

/-- **Recorded history reads back unchanged.** Let an entry be recorded whose version was read from
some text. The text of the version is read as this version, and the row of the entry as this entry.
The history is then read, if the rows can be selected at all, exactly when it could be read from the
table before, and it is the entry together with what was in the history before. -/
theorem applied_of_recorded (hc : c.Stores schema rows) {entry : HistoryEntry}
    (hversion : ∃ text, Version.parse text = .ok entry.version) {s t : σ}
    (hrecord : ((target c).record schema entry s).1 = .ok ())
    (ht : rows t = rows ((target c).record schema entry s).2)
    (hselect : ∃ found, (c.select (selectHistory schema) t).1 = .ok found) :
    Version.parse entry.version.toText = .ok entry.version ∧
      (Row.ofEntry entry).toEntry = .ok (some entry) ∧
      ((∃ history, ((target c).applied schema t).1 = .ok history) ↔
        ∃ old, Row.toEntries (rows s) = .ok old) ∧
      ∀ history old, ((target c).applied schema t).1 = .ok history →
        Row.toEntries (rows s) = .ok old → history.Perm (entry :: old) := by
  have hlegible : entry.version.Legible := Version.exists_parse_iff.1 hversion
  have hentry : (Row.ofEntry entry).toEntry = .ok (some entry) := Row.toEntry_ofEntry hlegible
  obtain ⟨found, hfound⟩ := hselect
  have hrows : found.Perm (Row.ofEntry entry :: rows s) :=
    (hc.selected hfound).trans (ht ▸ hc.inserted (insert_of_recorded hrecord))
  -- the row of the entry can be read, so all rows can if those before could
  have hread : (∀ row ∈ found, ∃ e, row.toEntry = .ok e) ↔
      ∀ row ∈ rows s, ∃ e, row.toEntry = .ok e := by
    simp only [hrows.mem_iff, List.forall_mem_cons]
    exact and_iff_right ⟨_, hentry⟩
  have hentries : (found.filterMap (contribution? Row.toEntry)).Perm
      (entry :: (rows s).filterMap (contribution? Row.toEntry)) := by
    refine (hrows.filterMap _).trans ?_
    rw [List.filterMap_cons_some (contribution?_eq_some_iff.2 hentry)]
  rw [applied_of_selected hfound]
  simp only [Row.toEntries_eq_ok_iff, exists_and_left, exists_eq', and_true]
  refine ⟨Version.parse_toText hlegible, hentry, hread, ?_⟩
  rintro history old ⟨-, rfl⟩ ⟨-, rfl⟩
  exact hentries

/-- Versions as people write them: a zero in front, a plus sign, the largest number there is, zeros
at the end. -/
theorem applied_of_recorded_store :
    let entry : HistoryEntry := ⟨2, Version.ofSegments [1, 2, 18446744073709551615], "add users",
      "V01.+2_18446744073709551615.0__add_users.sql", "c0ffee", 12, true⟩
    let store : Store := ⟨[⟨1, some "1", "users", "V1__users.sql", some "a", 5, 1⟩], []⟩
    let after := ((target Store.connection).record "app" entry store).2
    Store.connection.Stores "app" Store.rows ∧
      Version.parse "01.+2_18446744073709551615.0" = .ok entry.version ∧
      ((target Store.connection).record "app" entry store).1 = .ok () ∧
      (Store.connection.select (selectHistory "app") after).1 = .ok after.rows ∧
      Version.parse entry.version.toText = .ok entry.version ∧
      (Row.ofEntry entry).toEntry = .ok (some entry) ∧
      ((∃ history, ((target Store.connection).applied "app" after).1 = .ok history) ↔
        ∃ old, Row.toEntries store.rows = .ok old) ∧
      ∀ history old, ((target Store.connection).applied "app" after).1 = .ok history →
        Row.toEntries store.rows = .ok old → history.Perm (entry :: old) := by
  intro entry store after
  have hparse : Version.parse "01.+2_18446744073709551615.0" = .ok entry.version := by
    decide +kernel
  have hrecord : ((target Store.connection).record "app" entry store).1 = .ok () := by
    decide +kernel
  exact ⟨(Store.tables _).stores, hparse, hrecord, rfl,
    applied_of_recorded (Store.tables _).stores ⟨_, hparse⟩ hrecord rfl ⟨_, rfl⟩⟩

end SchemaForge.Mysql
