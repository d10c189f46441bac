import SchemaForge.FileSystem.System
import SchemaForge.Proofs.Document.Contract
import SchemaForge.Proofs.Document.Placing

/-!
# What writing a document does to a tree

A document is checked before anything is written. So writing it either fails without a change, for
want of a schema, because the configuration cannot be written or because the document is not valid,
or the document is valid and only an operation on a file can still fail. If none does, then the path
leads to the text of the document, all paths above it lead to directories, and the directories that
were missing there are all else that is new (`Document.write_effect`). All this is so whatever
validator holds the document against its schema.

The text is there to be read unless the path leads to a device, which takes it and keeps nothing
(`Document.not_readText_device`).
-/

namespace SchemaForge

/-- The path has the first steps of another one and not all of them. -/
def Path.IsAbove (p path : Path) : Prop := p.steps <+: path.steps ∧ p.steps ≠ path.steps

instance (p path : Path) : Decidable (p.IsAbove path) :=
  inferInstanceAs (Decidable (p.steps <+: path.steps ∧ p.steps ≠ path.steps))

namespace FileSystem

variable {fs fs' : FileSystem} {purpose : Purpose} {fuel links : ℕ} {loc l place : Location}
  {steps : List Component} {p path : Path}

/-! ### On the way of a path -/

/-- There is a directory at the place, and at every place above it. -/
def Enterable (fs : FileSystem) (loc : Location) : Prop :=
  ∀ q, q <+: loc → fs.isDirectoryAt q = true

namespace Enterable

theorem nil : fs.Enterable [] := by
  intro q hq
  rw [List.prefix_nil.1 hq]
  rfl

theorem dropLast (h : fs.Enterable loc) : fs.Enterable loc.dropLast :=
  fun q hq ↦ h q (hq.trans (List.dropLast_prefix loc))

theorem concat {name : FileName} {refusal : Option IoFault} (h : fs.Enterable loc)
    (hnode : fs.node? (loc ++ [name]) = some (.directory refusal)) :
    fs.Enterable (loc ++ [name]) := by
  intro q hq
  rcases List.prefix_concat_iff.1 hq with rfl | hq
  · rw [isDirectoryAt, hnode]
  · exact h q hq

theorem isDirectoryAt (h : fs.Enterable loc) : fs.isDirectoryAt loc = true := h loc List.prefix_rfl

theorem of_covers (h : Covers fs fs') (hloc : fs.Enterable loc) : fs'.Enterable loc :=
  fun q hq ↦ h.isDirectoryAt (hloc q hq)

/-- A walk that is asked for a directory stays on directories. -/
theorem of_walk (h : fs.Enterable loc)
    (hwalk : fs.walk .target true fuel links loc steps = .ok (.taken l)) : fs.Enterable l := by
  induction fuel generalizing links loc steps with
  | zero => cases hwalk
  | succ fuel ih =>
    cases steps with
    | nil =>
      cases hwalk
      exact h
    | cons step rest =>
      cases step with
      | root => exact ih nil hwalk
      | current => exact ih h hwalk
      | parent => exact ih h.dropLast hwalk
      | name s =>
        cases (walk_name_eq_ok_iff.1 hwalk).2 with
        | free _ _ hplace => cases hplace
        | directory _ hnode hwalk => exact ih (h.concat hnode) hwalk
        | entry _ _ _ hpurpose => cases hpurpose
        | link _ _ _ _ _ _ hwalk => exact ih h hwalk
        | leaf _ _ _ _ hslash => cases hslash

/-- The walk of a path that is asked for a directory leads to one, if one is where it starts. -/
theorem of_walk_steps (h : fs.Enterable (p.origin fs.workingDirectory))
    (hwalk : fs.walk .target true fuel links fs.workingDirectory p.steps = .ok (.taken l)) :
    fs.Enterable l := by
  rw [Path.origin] at h
  rw [Path.steps] at hwalk
  split at hwalk
  · cases fuel with
    | zero => cases hwalk
    | succ fuel => exact nil.of_walk hwalk
  · rename_i hrelative
    rw [if_neg hrelative] at h
    exact h.of_walk hwalk

end Enterable

/-- Of a path that leads somewhere, all paths above lead to directories, unless the text of one is
no path at all. -/
theorem isDirectory_of_isAbove (hplace : fs.resolve .target path = .ok place)
    (habove : p.IsAbove path) (hfault : p.fault? = none)
    (hstart : fs.Enterable (p.origin fs.workingDirectory)) : fs.isDirectory p = true := by
  obtain ⟨⟨rest, hrest⟩, hne⟩ := habove
  have hnil : rest ≠ [] := by
    rintro rfl
    exact hne (by rw [← hrest, List.append_nil])
  rw [resolve_eq_ok_iff] at hplace
  rw [locate_eq_walk hplace, ← hrest] at hplace
  -- the front part leads to the same with a slash behind it, which asks for a directory
  obtain ⟨l, hl⟩ := exists_walk_of_append hnil p.endsInSlash hplace
  obtain ⟨l', hl'⟩ := exists_walk_of_append hnil true hplace
  obtain rfl : l = l' := (walk_common Within.refl.covers.meet hl hl').1
  have hresolve : fs.resolve .target p = .ok l := by
    rw [resolve_eq_ok_iff, locate_eq_match, hfault]
    exact (walk_of_stepBudget_le fs (fs.stepBudget_mono (List.prefix_append p.steps rest)) ..).trans
      hl
  rw [isDirectory_eq_of_resolve hresolve]
  exact (hstart.of_walk_steps hl').isDirectoryAt

end FileSystem

namespace Document

open FileSystem

variable {v : Validator} {fs fs' : FileSystem} {c : Configuration} {source : SchemaSource}
  {path : Path} {text : String} {e : Error}

/-! ### A text with its directories -/

/-- The text was written to the place to which the path leads. All else that is new are plain
directories to which paths above it lead, and none is missing there. -/
structure PlacedAt (path : Path) (text : String) (place : Location) (fs fs' : FileSystem) :
    Prop where
  workingDirectory : fs'.workingDirectory = fs.workingDirectory
  resolve : fs'.resolve .target path = .ok place
  node : ∃ node, fs'.node? place = some node ∧ Fills (Utf8.encode text) (fs.node? place) node
  elsewhere : ∀ q, q ≠ place → fs'.node? q = fs.node? q ∨
    (fs.node? q = none ∧ fs'.node? q = some (.directory none)) ∧
      ∃ p : Path, p.IsAbove path ∧ fs'.resolve .target p = .ok q
  /-- Left out are texts that no tree can follow, and relative paths without a working directory. -/
  above : ∀ p : Path, p.IsAbove path → p.fault? = none →
    fs.Enterable (p.origin fs.workingDirectory) → fs'.isDirectory p = true

theorem exists_placedAt_of_place (h : place fs path text = (.ok (), fs')) :
    ∃ q, PlacedAt path text q fs fs' := by
  obtain ⟨fs₁, hfs₁, hwritten⟩ := exists_writeBytes_of_place h
  obtain ⟨dir, hsteps, hmade⟩ : ∃ dir : Path, dir.steps <+: path.steps ∧ Made dir fs fs₁ := by
    rcases hfs₁ with rfl | ⟨dir, hdir, rfl⟩
    · exact ⟨path, List.prefix_rfl, .refl⟩
    · exact ⟨dir, Path.steps_isPrefix_of_parent? hdir, made_makeDirectories fs dir⟩
  obtain ⟨q, node, hresolve, hnode, hfills, helse⟩ := exists_fills_of_writeBytes hwritten
  have hcovers := (placed_place h).covers
  refine ⟨q, hcovers.workingDirectory, hresolve, ⟨node, hnode, ?_⟩, fun r hr ↦ ?_,
    fun p habove hfault hstart ↦ ?_⟩
  · -- the directories that were created are not in its place
    rcases hmade.node q with heq | ⟨⟨-, hplain⟩, -⟩
    · rwa [← heq]
    · rw [hplain] at hfills
      cases hfills
  · rw [helse r hr]
    refine (hmade.node r).imp_right fun ⟨hnew, p, hp, hled⟩ ↦ ?_
    have hled' : fs'.resolve .target p = .ok r := (placed_writeBytes hwritten).covers.resolve hled
    exact ⟨hnew, p, ⟨hp.trans hsteps, fun heq ↦ hr (resolve_of_steps_eq heq hled' hresolve)⟩, hled'⟩
  · rw [← hcovers.workingDirectory] at hstart
    exact isDirectory_of_isAbove hresolve habove hfault (.of_covers hcovers hstart)

/-- What is no device now was none before. -/
theorem PlacedAt.stat_ne_device {q : Location} (h : PlacedAt path text q fs fs')
    (hplain : ∀ full, fs.node? q ≠ some (.device full)) (full : Bool) :
    fs'.stat path ≠ .ok (.device full) := by
  obtain ⟨node, hnode, hfills⟩ := h.node
  simp only [stat, h.resolve, hnode]
  rintro ⟨⟩
  cases hq : fs.node? q with
  | none =>
    rw [hq] at hfills
    cases hfills
  | some old =>
    rw [hq] at hfills
    cases hfills
    exact hplain full hq

/-! ### Errors -/

/-- The check of a document fails for want of a schema, because the configuration cannot be written,
or because the document is not valid. -/
theorem kind_of_check (h : check v fs c source = .error e) :
    (∃ resource, e = .schemaMissing resource) ∨
      (∃ resource fault, e = .schemaUnusable resource fault) ∨
      (c.isWritable = false ∧ ∃ reason, e = .serialization reason) ∨
      ∃ violations document, e = .validation source.resource violations document := by
  cases hreport : source.report v fs with
  | error e' =>
    rw [check, hreport] at h
    cases h
    exact (kind_of_report hreport).imp_right Or.inl
  | ok report =>
    rw [check_of_report hreport] at h
    cases hvalue : c.serialize with
    | error e' =>
      rw [hvalue] at h
      obtain ⟨hwritable, rfl⟩ := Configuration.serialize_eq_error_iff.1 hvalue
      exact Or.inr (Or.inr (Or.inl ⟨hwritable, _, (Except.error.inj h).symm⟩))
    | ok j =>
      rw [hvalue] at h
      dsimp only at h
      split at h
      · cases h
      · cases h
        exact Or.inr (Or.inr (Or.inr ⟨_, _, rfl⟩))

/-- **What writing a document does**: if it fails otherwise than by an operation on a file, it is
the check that has failed and nothing has changed. If it succeeds, then the validator has nothing to
report of the value of the configuration under the schema that was loaded, and the text of this
value was placed where the path leads; unless that is a device, the text is there to be read. -/
theorem write_effect (v : Validator) (fs : FileSystem) (c : Configuration) (source : SchemaSource)
    (path : Path) :
    (∀ e fs', write v fs c source path = (.error e, fs') → (∀ p fault, e ≠ .file p fault) →
      fs' = fs ∧ check v fs c source = .error e ∧
        ((∃ resource, e = .schemaMissing resource) ∨
          (∃ resource fault, e = .schemaUnusable resource fault) ∨
          (c.isWritable = false ∧ ∃ reason, e = .serialization reason) ∨
          ∃ violations document, e = .validation source.resource violations document)) ∧
    ∀ fs', write v fs c source path = (.ok (), fs') →
      ∃ schema report value text place, source.load fs = .ok schema ∧
        v.compile schema = .ok report ∧ c.serialize.map Json.sorted = .ok value ∧
        report value = [] ∧
        (v.Follows → ∀ s, source.schema fs = .ok s → s.accepts value = true) ∧
        Json.parse? text = some value ∧ PlacedAt path text place fs fs' ∧
        ((∀ full, fs.node? place ≠ some (.device full)) → fs'.readText path = .ok text) := by
  refine ⟨fun e fs' hwrite hfile ↦ ?_, fun fs' hwrite ↦ ?_⟩
  · rw [write] at hwrite
    cases hcheck : check v fs c source with
    | error e' =>
      rw [hcheck] at hwrite
      cases hwrite
      exact ⟨rfl, rfl, kind_of_check hcheck⟩
    | ok text =>
      rw [hcheck] at hwrite
      obtain ⟨p, fault, he⟩ := exists_file_of_place (congrArg Prod.fst hwrite)
      exact absurd he (hfile p fault)
  · obtain ⟨text, hcheck, hplace⟩ := check_of_write hwrite
    obtain ⟨⟨report, hreport, hvalid⟩, hwritable, rfl⟩ := check_eq_ok_iff.1 hcheck
    obtain ⟨schema, hload, hcompile⟩ := report_eq_ok_iff.1 hreport
    have hvalue : c.serialize.map Json.sorted = .ok (ofConfiguration c) := by
      rw [Configuration.serialize_eq_ok_iff.2 ⟨hwritable, rfl⟩]
      rfl
    obtain ⟨q, hplaced⟩ := exists_placedAt_of_place hplace
    exact ⟨schema, report, _, _, q, hload, hcompile, hvalue, hvalid,
      fun hv s hs ↦ (accepts_of_follows hv hs hreport _).2 hvalid,
      parse?_pretty_ofConfiguration c, hplaced,
      fun hplain ↦ readText_of_write hwrite (hplaced.stat_ne_device hplain)⟩

/-- A directory that is no text. -/
def unwritable : Configuration :=
  { generator.target.directory := some ⟨⟨[0x2F, 0xFF]⟩⟩ }

/-- A document below two directories that are missing, one whose schema is missing, and one of a
configuration that cannot be written. -/
theorem write_effect_connected :
    ∃ fs' text place,
      write Schema.validator unguarded connected (.file ⟨"/schema.json"⟩)
        ⟨"/build/main/document.json"⟩ = (.ok (), fs') ∧
      PlacedAt ⟨"/build/main/document.json"⟩ text place unguarded fs' ∧
      fs'.isDirectory ⟨"/build/main"⟩ = true ∧
      fs'.readText ⟨"/build/main/document.json"⟩ = .ok text ∧
      Json.parse? text = some (ofConfiguration connected) ∧
      write Schema.validator .empty connected (.file ⟨"/schema.json"⟩)
        ⟨"/build/main/document.json"⟩ = (.error (.schemaMissing "/schema.json"), .empty) ∧
      ∃ reason, write Schema.validator unguarded unwritable (.file ⟨"/schema.json"⟩)
        ⟨"/build/main/document.json"⟩ = (.error (.serialization reason), unguarded) := by
  obtain ⟨-, hsucceeds⟩ := write_effect Schema.validator unguarded connected
    (.file ⟨"/schema.json"⟩) ⟨"/build/main/document.json"⟩
  obtain ⟨hfails, -⟩ := write_effect Schema.validator .empty connected (.file ⟨"/schema.json"⟩)
    ⟨"/build/main/document.json"⟩
  obtain ⟨hrefuses, -⟩ := write_effect Schema.validator unguarded unwritable
    (.file ⟨"/schema.json"⟩) ⟨"/build/main/document.json"⟩
  obtain ⟨fs', hwrite, hresolve⟩ : ∃ fs',
      write Schema.validator unguarded connected (.file ⟨"/schema.json"⟩)
        ⟨"/build/main/document.json"⟩ = (.ok (), fs') ∧
      fs'.resolve .target ⟨"/build/main/document.json"⟩ =
        .ok (placeOf ["build", "main", "document.json"]) :=
    ⟨(write Schema.validator unguarded connected (.file ⟨"/schema.json"⟩)
      ⟨"/build/main/document.json"⟩).2, rfl, by decide +kernel⟩
  obtain ⟨fs'', hmissing⟩ : ∃ fs'', write Schema.validator .empty connected
      (.file ⟨"/schema.json"⟩) ⟨"/build/main/document.json"⟩ =
        (.error (.schemaMissing "/schema.json"), fs'') := ⟨_, rfl⟩
  obtain ⟨reason, fs₀, hunwritable⟩ : ∃ reason fs₀, write Schema.validator unguarded unwritable
      (.file ⟨"/schema.json"⟩) ⟨"/build/main/document.json"⟩ =
        (.error (.serialization reason), fs₀) := ⟨_, _, rfl⟩
  obtain ⟨rfl, -⟩ := hfails _ fs'' hmissing nofun
  obtain ⟨rfl, -⟩ := hrefuses _ fs₀ hunwritable nofun
  obtain ⟨_, _, value, text, place, -, -, hvalue, -, -, hparse, hplaced, hread⟩ :=
    hsucceeds fs' hwrite
  obtain rfl : ofConfiguration connected = value := Except.ok.inj hvalue
  obtain rfl := Except.ok.inj (hplaced.resolve.symm.trans hresolve)
  have hmain : fs'.isDirectory ⟨"/build/main"⟩ = true :=
    hplaced.above _ (by decide) (by decide) .nil
  exact ⟨fs', text, _, hwrite, hplaced, hmain, hread (by decide), hparse, hmissing, reason,
    hunwritable⟩

/-- A configuration with all that the bundled schema asks for. -/
def sparing : Configuration :=
  { generator.target := { packageName := "com.example.db", directory := some ⟨"/o"⟩ } }

/-- **A document that is written to a device is nowhere**: writing it succeeds, and no text of it is
there to be read. -/
theorem not_readText_device :
    ∃ fs', write Schema.validator .system sparing (.bundled Defaults.documentSchema)
        ⟨"/dev/null"⟩ = (.ok (), fs') ∧
      ¬∃ text, fs'.readText ⟨"/dev/null"⟩ = .ok text ∧
        Json.parse? text = some (ofConfiguration sparing) := by
  have hcontract : sparing.MeetsContract := {
    directory := ⟨_, rfl, by decide⟩
    packageName := ⟨["com", "example", "db"], by decide, by decide, rfl⟩
    url := by decide
    strategyName := by decide
    inputSchema := by decide
    expressions := by decide
    forcedTypes := List.forall_mem_nil _ }
  obtain ⟨text, hcheck⟩ : ∃ text,
      check Schema.validator .system sparing (.bundled Defaults.documentSchema) = .ok text :=
    (exists_check_bundled_iff Schema.validator_follows).2 hcontract
  have hplace : place .system ⟨"/dev/null"⟩ text = (.ok (), .system) := by rfl
  refine ⟨.system, by rw [write, hcheck]; exact hplace, ?_⟩
  rintro ⟨text, hread, hparse⟩
  have hempty : FileSystem.system.readText ⟨"/dev/null"⟩ = .ok "" := by decide +kernel
  obtain rfl := Except.ok.inj (hread.symm.trans hempty)
  rw [parse?_empty] at hparse
  cases hparse

end Document

end SchemaForge
