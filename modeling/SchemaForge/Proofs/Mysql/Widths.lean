import Mathlib.Algebra.BigOperators.Group.List.Basic
import Mathlib.Algebra.Order.BigOperators.Group.List
import Mathlib.Data.List.Induction
import Mathlib.Data.Nat.Digits.Defs
import SchemaForge.Mysql.Server
import SchemaForge.Proofs.Migration.Discovery
import SchemaForge.Proofs.Migration.VersionText
import SchemaForge.Proofs.Mysql.Ranks

/-!
# What has room in the history

The columns of the history bound the texts of a row, and the names of scripts bound them too, by
rules of their own: a name is read up to the length that a directory can hold, with as many numbers
in its version and as long a description as fit in there. A script is executed before its row is
added, so a text without room is noticed when it is too late.

`recorded_fits_iff` says which rows have room: the name and the checksum of a script always do, so
it comes down to the text of the version (50 characters) and the description (200). The two are
compared with the file name that they are read from: a description is as long as its part of the
name, and the text of a version is at most as long as its part (`length_toText_le`), since reading a
version only drops characters: plus signs, zeros in front and numbers that do not count.
-/

namespace SchemaForge

/-! ### Checksums -/

theorem length_hex (bytes : Bytes) : (hex bytes).length = 2 * bytes.length := by
  rw [hex, String.length_ofList, List.length_flatMap]
  simp [Nat.mul_comm]

theorem Sha256.length_digest (message : Bytes) : (digest message).length = 32 :=
  rfl

theorem Checksum.length_ofScript (sql : String) : (ofScript sql).length = 64 := by
  rw [ofScript, length_hex, Sha256.length_digest]

/-! ### Texts of versions -/

namespace Version

variable {part : List Char} {parts : List (List Char)} {n : ℕ} {ns : List ℕ}

/-- Digits denote a number below the power of ten by their count. -/
theorem valueOf_lt {digits : List Char} (h : digits.all isDigit = true) :
    valueOf digits < 10 ^ digits.length := by
  induction digits using List.reverseRecOn with
  | nil => decide
  | append_singleton digits c ih =>
    rw [List.all_append, Bool.and_eq_true, List.all_cons, Bool.and_eq_true] at h
    have hdigit : c.toNat ≤ 0x39 := by
      have hle := h.2.1
      rw [isDigit, Bool.and_eq_true, decide_eq_true_eq, decide_eq_true_eq] at hle
      exact hle.2
    have hrest := ih h.1
    rw [valueOf, List.foldl_append, List.foldl_cons, List.foldl_nil, ← valueOf,
      List.length_append, List.length_singleton, pow_succ]
    omega

/-- A number is written with at most as many digits as it was read from. -/
theorem length_repr_of_segment? (h : segment? part = some n) :
    (toString n).length ≤ part.length := by
  have hdigits {digits : List Char} (h : digitsValue? digits = some n) :
      (toString n).length ≤ digits.length := by
    rw [digitsValue?] at h
    split at h
    · cases h
    · rename_i hall
      rw [Bool.or_eq_true, not_or, Bool.not_eq_true, Bool.not_eq_true, Bool.not_eq_false'] at hall
      split at h
      · obtain rfl := Option.some.inj h
        refine Nat.repr_length _ _ ?_ (valueOf_lt hall.2)
        exact List.length_pos_iff.2 (List.isEmpty_eq_false_iff.1 hall.1)
      · cases h
  unfold segment? at h
  split at h
  · exact (hdigits h).trans (Nat.le_succ _)
  · exact hdigits h

/-- The extent of texts one after the other, each with a separator behind it. -/
def extent (lengths : List ℕ) : ℕ := (lengths.map (· + 1)).sum

theorem extent_pieces (separates : Char → Bool) (cs : List Char) :
    extent ((Text.pieces separates cs).map List.length) = cs.length + 1 := by
  induction cs with
  | nil => rfl
  | cons c cs ih =>
    rw [Text.pieces]
    split
    · rw [List.map_cons, extent, List.map_cons, List.sum_cons, ← extent, ih, List.length_cons,
        List.length_nil]
      omega
    · cases hpieces : Text.pieces separates cs with
      | nil =>
        rw [hpieces] at ih
        cases ih
      | cons p ps =>
        rw [hpieces] at ih
        simp only [extent, List.map_cons, List.sum_cons, List.length_cons] at ih ⊢
        omega

theorem extent_readSegments {whole : String} (h : readSegments whole parts = .ok ns) :
    extent (ns.map fun n ↦ (toString n).length) ≤ extent (parts.map List.length) := by
  induction parts generalizing ns with
  | nil =>
    cases h
    exact le_rfl
  | cons part parts ih =>
    rw [readSegments] at h
    split at h
    · cases h
    · rename_i n hn
      cases hrest : readSegments whole parts with
      | error e =>
        rw [hrest] at h
        cases h
      | ok rest =>
        rw [hrest] at h
        obtain rfl := Except.ok.inj h
        have hpart := length_repr_of_segment? hn
        have hparts := ih hrest
        simp only [extent, List.map_cons, List.sum_cons] at hparts ⊢
        omega

theorem length_join_le (texts : List String) :
    (Text.join "." texts).length ≤ extent (texts.map String.length) - 1 := by
  induction texts with
  | nil => exact le_rfl
  | cons s rest ih =>
    cases rest with
    | nil => simp [Text.join, extent]
    | cons t rest =>
      rw [Text.join, String.length_append, String.length_append]
      have hpoint : ".".length = 1 := rfl
      simp only [extent, List.map_cons, List.sum_cons] at ih ⊢
      omega

/-- The text of a version is at most as long as what it was read from. -/
theorem length_toText_le {s : String} {v : Version} (h : parse s = .ok v) :
    v.toText.length ≤ s.length := by
  rw [parse] at h
  split at h
  · cases h
  cases hsegments : readSegments s (Text.pieces separates s.toList) with
  | error e =>
    rw [hsegments] at h
    cases h
  | ok ns =>
    rw [hsegments] at h
    obtain rfl := Except.ok.inj h
    obtain ⟨dropped, hdropped⟩ := trim_isPrefix ns
    have hread := extent_readSegments hsegments
    rw [extent_pieces, String.length_toList, ← hdropped] at hread
    have hjoin := length_join_le ((trim ns).map toString)
    rw [List.map_map] at hjoin
    simp only [extent, List.map_append, List.sum_append] at hread hjoin
    show (Text.join "." ((trim ns).map toString)).length ≤ s.length
    simp only [List.map_map, Function.comp_def] at hread hjoin
    omega

end Version

/-! ### Names of scripts -/

/-- A text has at most as many characters as bytes. -/
theorem length_le_length_encode (s : String) : s.length ≤ (Utf8.encode s).length := by
  have hsize : (Utf8.encode s).length = s.toList.utf8Encode.size := by
    rw [Utf8.encode, Array.length_toList, String.toUTF8_eq_toByteArray, ← String.toByteArray_ofList,
      String.ofList_toList]
    rfl
  rw [hsize, ← String.length_toList]
  induction s.toList with
  | nil => exact Nat.zero_le _
  | cons c cs ih =>
    have hc : [c].utf8Encode.size = c.utf8Size := by
      rw [List.utf8Encode_singleton, List.size_toByteArray, String.length_utf8EncodeChar]
    have hpos := c.utf8Size_pos
    rw [List.utf8Encode_cons, ByteArray.size_append, List.length_cons, hc]
    omega

namespace ScriptName

/-- The parts that a name is read from, and how long what they say can be. -/
theorem exists_parts {fileName : String} {parsed : ScriptName}
    (h : parse? fileName = some (.ok parsed)) :
    ∃ version description : List Char,
      fileName.toList = 'V' :: version ++ '_' :: '_' :: description ++ ending ∧
      parsed.version.toText.length ≤ version.length ∧
      parsed.description.length = description.length := by
  obtain ⟨stem, front, back, hframes, ⟨rfl, -⟩, hversion, hdescription⟩ := parse?_eq_ok_iff.1 h
  refine ⟨front, back, ?_, ?_, ?_⟩
  · rw [hframes, separator]
    simp
  · have hlength := Version.length_toText_le hversion
    rwa [String.length_ofList] at hlength
  · rw [hdescription, describe, String.length_ofList, List.length_map]

end ScriptName

/-! ### Scripts of a directory -/

namespace Script

/-- A script is what its name and its text say. -/
def Named (s : Script) : Prop :=
  ScriptName.parse? s.fileName = some (.ok ⟨s.version, s.description⟩) ∧
    s.checksum = Checksum.ofScript s.sql

theorem named_of_discover {fs : FileSystem} {dir : Path} {scripts : List Script}
    (h : discover fs dir = .ok scripts) : ∀ s ∈ scripts, s.Named := by
  intro s hs
  obtain ⟨name, hread⟩ := exists_readFrom_of_discover h s hs
  exact ⟨ScriptName.parse?_eq_ok_iff.2 hread.named, hread.checksum⟩

end Script

/-! ### Rows -/

namespace Mysql

theorem Row.fits_iff (r : Row) : r.fits = true ↔ (∀ v, r.version = some v → v.length ≤ 50) ∧
    r.description.length ≤ 200 ∧ r.script.length ≤ 1000 ∧
    ∀ v, r.checksum = some v → v.length ≤ 64 := by
  simp [Row.fits, columns, Option.all_eq_true, and_assoc]

variable {δ : Type} {target : Migration.Target δ} {schema : String} {scripts : List Script}
  {steps : List (Footstep Migration.Event δ)} {x : Footstep Migration.Event δ}
  {q : Program Migration.Event δ (Except Error (List Migration.Applied))}

/-- **A row that a migration records has room exactly when its version and its description do.** The
row is that of a script of the directory, as its name and texts say. The text of its version is at
most as long as the part of the file name that it is read from, and its description is just as long
as its part. -/
theorem recorded_fits_iff {fs : FileSystem} {dir : Path}
    (hfound : Script.discover fs dir = .ok scripts)
    (hnames : ∀ s ∈ scripts, (Utf8.encode s.fileName).length ≤ 255)
    (htakes : (Migration.migrate target schema scripts).Takes steps q) (hx : x ∈ steps)
    {entry : HistoryEntry} (hentry : x.event.entry? = some entry) :
    ∃ s ∈ scripts, (entry.fileName = s.fileName ∧ entry.version = s.version ∧
      entry.description = s.description ∧ entry.checksum = s.checksum) ∧
      ∃ version description : List Char, s.fileName.toList =
        'V' :: version ++ '_' :: '_' :: description ++ ScriptName.ending ∧
      s.version.toText.length ≤ version.length ∧
      ((Row.ofEntry entry).fits = true ↔
        s.version.toText.length ≤ 50 ∧ description.length ≤ 200) := by
  obtain ⟨s, hs, rank, e, rfl⟩ := Migration.always_migrate_recorded steps q htakes x hx _ hentry
  obtain ⟨hparse, hchecksum⟩ := Script.named_of_discover hfound s hs
  obtain ⟨version, description, hname, hversion, hdescription⟩ := ScriptName.exists_parts hparse
  refine ⟨s, hs, ⟨rfl, rfl, rfl, rfl⟩, version, description, hname, hversion, ?_⟩
  have hscript : s.fileName.length ≤ 1000 :=
    (length_le_length_encode _).trans ((hnames s hs).trans (by decide))
  have hdigest : s.checksum.length ≤ 64 := (hchecksum ▸ Checksum.length_ofScript s.sql).le
  rw [Row.fits_iff, ← hdescription]
  simp [Row.ofEntry, Migration.entryOf, hscript, hdigest]

/-- A directory of one script with nothing in it. -/
def oneScript (fileName : String) : FileSystem :=
  ⟨[([RawText.ofText "db"], .directory none),
    ([RawText.ofText "db", RawText.ofText fileName], .file [] false)], []⟩

/-- A run that migrates the directory of one script on an empty store, by its parts. -/
theorem exists_entry_of_any (fileName : String) (good : HistoryEntry → Bool)
    (h : (Script.discover (oneScript fileName) ⟨"db"⟩).toOption.any (fun scripts ↦
      scripts.all (fun s ↦ (Utf8.encode s.fileName).length ≤ 255) &&
        ((Migration.migrate (Mysql.target Store.connection) "app" scripts).run ⟨[], []⟩).any
          fun r ↦ r.events.any fun e ↦ e.entry?.any good) = true) :
    ∃ scripts steps a, Script.discover (oneScript fileName) ⟨"db"⟩ = .ok scripts ∧
      (∀ s ∈ scripts, (Utf8.encode s.fileName).length ≤ 255) ∧
      (Migration.migrate (Mysql.target Store.connection) "app" scripts).Takes steps (.done a) ∧
      ∃ x ∈ steps, ∃ entry, x.event.entry? = some entry ∧ good entry = true := by
  cases hfound : Script.discover (oneScript fileName) ⟨"db"⟩ with
  | error e =>
    rw [hfound] at h
    cases h
  | ok scripts =>
    rw [hfound] at h
    obtain ⟨hnames, hrun⟩ := Bool.and_eq_true_iff.1 h
    obtain ⟨r, hr, hany⟩ := (Option.any_eq_true _ _).1 hrun
    obtain ⟨steps, htakes, hevents, -⟩ := Program.takes_of_run hr
    rw [← hevents] at hany
    obtain ⟨e, he, hgood⟩ := List.any_eq_true.1 hany
    obtain ⟨x, hx, rfl⟩ := List.mem_map.1 he
    obtain ⟨entry, hentry, hgood⟩ := (Option.any_eq_true _ _).1 hgood
    exact ⟨scripts, steps, r.answer, rfl, by simpa using hnames, htakes, x, hx, entry, hentry, hgood⟩

/-- A version that is written shorter than it was read. -/
theorem recorded_fits_iff_store :
    ∃ scripts steps a,
      Script.discover (oneScript "V1_02_0__add_users.sql") ⟨"db"⟩ = .ok scripts ∧
      (∀ s ∈ scripts, (Utf8.encode s.fileName).length ≤ 255) ∧
      (Migration.migrate (Mysql.target Store.connection) "app" scripts).Takes steps (.done a) ∧
      ∃ x ∈ steps, ∃ entry, x.event.entry? = some entry ∧ entry.version.toText = "1.2" ∧
        ∃ s ∈ scripts, (entry.fileName = s.fileName ∧ entry.version = s.version ∧
          entry.description = s.description ∧ entry.checksum = s.checksum) ∧
          ∃ version description : List Char, s.fileName.toList =
            'V' :: version ++ '_' :: '_' :: description ++ ScriptName.ending ∧
          s.version.toText.length ≤ version.length ∧
          ((Row.ofEntry entry).fits = true ↔
            s.version.toText.length ≤ 50 ∧ description.length ≤ 200) := by
  obtain ⟨scripts, steps, a, hfound, hnames, htakes, x, hx, entry, hentry, htext⟩ :=
    exists_entry_of_any "V1_02_0__add_users.sql" (fun entry ↦ entry.version.toText == "1.2")
      (by decide +kernel)
  exact ⟨scripts, steps, a, hfound, hnames, htakes, x, hx, entry, hentry, beq_iff_eq.1 htext,
    recorded_fits_iff hfound hnames htakes hx hentry⟩

/-- **Not every script that is executed can be recorded**: one of a version with twenty-six numbers
is found and run, and its row has no room. -/
theorem recorded_not_fits :
    ∃ scripts steps a, Script.discover
        (oneScript "V1_1_1_1_1_1_1_1_1_1_1_1_1_1_1_1_1_1_1_1_1_1_1_1_1_1__x.sql") ⟨"db"⟩ =
          .ok scripts ∧
      (∀ s ∈ scripts, (Utf8.encode s.fileName).length ≤ 255) ∧
      (Migration.migrate (Mysql.target Store.connection) "app" scripts).Takes steps (.done a) ∧
      ∃ x ∈ steps, ∃ entry, x.event.entry? = some entry ∧ (Row.ofEntry entry).fits = false := by
  obtain ⟨scripts, steps, a, hfound, hnames, htakes, x, hx, entry, hentry, hfits⟩ :=
    exists_entry_of_any "V1_1_1_1_1_1_1_1_1_1_1_1_1_1_1_1_1_1_1_1_1_1_1_1_1_1__x.sql"
      (fun entry ↦ !(Row.ofEntry entry).fits) (by decide +kernel)
  exact ⟨scripts, steps, a, hfound, hnames, htakes, x, hx, entry, hentry, by simpa using hfits⟩

end Mysql

end SchemaForge
