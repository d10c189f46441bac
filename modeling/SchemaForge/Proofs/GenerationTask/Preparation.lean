import SchemaForge.Proofs.Document.Contract
import SchemaForge.Proofs.Document.Placing
import SchemaForge.Proofs.GenerationTask.Handover

/-!
# What is prepared for a generator

When a run starts its generator, its last two steps were to empty the output directory and to write
the document (`GenerationTask.exists_steps_of_launches`). If nobody else changes files in between,
the generator finds the document, and it finds the output directory empty exactly if the path of the
directory is straight and that of the document does not enter it
(`GenerationTask.generate_prepares`).

Only the project directory is kept out of the output directory. The work directory can be in it, and
then the generator finds the document there (`GenerationTask.launches_beside_document`).
-/

namespace SchemaForge

open FileSystem Program

variable {δ : Type}

namespace GenerationTask

variable {b : Backend δ} {t : GenerationTask} {steps : List (Footstep Build.Event (World δ))}
  {x : Footstep Build.Event (World δ)}

/-! ### The steps before a launch -/

/-- The step starts a process, or tries to. -/
def Launches (x : Footstep Build.Event (World δ)) : Prop :=
  ∃ spec answer, x.event = .launched spec answer

theorem Launches.stage_eq (h : Launches x) : x.event.stage = .invocation := by
  obtain ⟨spec, answer, hevent⟩ := h
  rw [hevent]
  rfl

/-- A run that has gone beyond the one step of a stage has passed the stage. -/
theorem exists_cons_of_during {stage : Stage} {α β : Type}
    {act : World δ → Except Error α × World δ} {event : Except Error α → Build.Event}
    {k : α → Staged δ β} {q : Build.Operation δ (Except TaskError β)}
    (h : (t.during stage (perform act event) >>= k).run.Takes steps q) (hx : x ∈ steps)
    (hother : ∀ a, x.event ≠ event a) :
    ∃ first rest a, steps = first :: rest ∧ act first.before = (.ok a, first.after) ∧ x ∈ rest ∧
      (k a).run.Takes rest q := by
  rw [run_during_bind, takes_perform_bind] at h
  rcases h with ⟨rfl, -⟩ | ⟨w, answer, w', rest, hact, rfl, hrest⟩
  · cases hx
  have hlater : x ∈ rest := (List.mem_cons.1 hx).resolve_left fun heq ↦ hother answer (heq ▸ rfl)
  cases answer with
  | error cause =>
    rw [(takes_pure.1 hrest).1] at hlater
    cases hlater
  | ok a => exact ⟨_, rest, a, rfl, hact, hlater, hrest⟩

/-- The generator is started by the first step of its run. -/
theorem eq_of_takes_invoke
    {q : Build.Operation δ (Except Error (GenerationResult × Option Verdict))}
    (h : (t.invoke b).Takes steps q) (hx : x ∈ steps) (hlaunches : Launches x) :
    ∃ back, steps = x :: back := by
  rw [invoke] at h
  cases hspec : t.processSpec with
  | error e =>
    rw [hspec] at h
    rw [(takes_pure.1 h).1] at hx
    cases hx
  | ok spec =>
    rw [hspec] at h
    dsimp only at h
    rw [spawn, bind_assoc, Program.look, takes_perform_bind] at h
    rcases h with ⟨rfl, -⟩ | ⟨w, answer, w', rest, -, rfl, hrest⟩
    · cases hx
    rcases List.mem_cons.1 hx with rfl | hlater
    · exact ⟨rest, rfl⟩
    · -- only the end of the generator is left
      obtain ⟨spec', answer', hevent⟩ := hlaunches
      cases answer with
      | error fault =>
        rw [(takes_pure.1 hrest).1] at hlater
        cases hlater
      | ok u =>
        rw [pure_bind, takes_perform_bind] at hrest
        rcases hrest with ⟨rfl, -⟩ | ⟨_, _, _, _, -, rfl, hend⟩
        · cases hlater
        · rw [(takes_pure.1 hend).1, List.mem_singleton] at hlater
          rw [hlater] at hevent
          cases hevent

/-- From the cleaning on, a run that starts its generator has emptied the output directory and
written the document before. -/
theorem exists_steps_of_produce {print : Fingerprint} {handle : Option DatabaseHandle}
    {migrations : List Migration.Applied} {q : Build.Operation δ (Except TaskError Outcome)}
    (h : (t.produce b print handle migrations).run.Takes steps q) (hx : x ∈ steps)
    (hlaunches : Launches x) :
    ∃ cleaning writing back, steps = cleaning :: writing :: x :: back ∧
      OutputDirectory.clean cleaning.before.files t.outputDir = (.ok (), cleaning.after.files) ∧
      Document.write b.validator writing.before.files (t.effective handle) t.schema
        t.documentPath = (.ok (), writing.after.files) := by
  -- neither of the first two steps starts a process, so the launch is behind both
  have hother {e : Build.Event} (hstage : e.stage ≠ .invocation) : x.event ≠ e :=
    fun heq ↦ hstage (heq ▸ hlaunches.stage_eq)
  obtain ⟨cleaning, rest, _, rfl, hclean, hcleaned, h⟩ :=
    exists_cons_of_during h hx fun _ ↦ hother (fun heq ↦ nomatch heq)
  obtain ⟨writing, rest, _, rfl, hwrite, hwritten, h⟩ :=
    exists_cons_of_during h hcleaned fun _ ↦ hother (fun heq ↦ nomatch heq)
  obtain ⟨hcleanOk, hcleanFiles⟩ := Prod.mk.inj hclean
  obtain ⟨hwriteOk, hwriteFiles⟩ := Prod.mk.inj hwrite
  rw [run_during_bind, takes_bind] at h
  obtain ⟨back, rfl⟩ : ∃ back, rest = x :: back := by
    rcases h with ⟨p', hp', -, -⟩ | ⟨a, front, back, rfl, hfront, hback⟩
    · exact eq_of_takes_invoke hp' hwritten hlaunches
    · -- what follows the generator's run is its answer, which takes no step
      obtain rfl : back = [] := by
        cases a with
        | error cause => exact (takes_pure.1 hback).1
        | ok result => exact (takes_pure.1 hback).1
      rw [List.append_nil] at hwritten ⊢
      exact eq_of_takes_invoke hfront hwritten hlaunches
  exact ⟨cleaning, writing, back, rfl, Prod.ext hcleanOk (congrArg World.files hcleanFiles),
    Prod.ext hwriteOk (congrArg World.files hwriteFiles)⟩

/-- **A run that starts its generator has emptied the output directory and written the document
right before.** Up to there it has changed no file. -/
theorem exists_steps_of_launches {q : Build.Operation δ (Except TaskError Outcome)}
    (h : (t.generate b).run.Takes steps q) (hx : x ∈ steps) (hlaunches : Launches x) :
    ∃ handle front cleaning writing back, steps = front ++ cleaning :: writing :: x :: back ∧
      (∀ y ∈ front, y.after.files = y.before.files) ∧ IsGiven b t steps x handle ∧
      OutputDirectory.clean cleaning.before.files t.outputDir = (.ok (), cleaning.after.files) ∧
      Document.write b.validator writing.before.files (t.effective handle) t.schema
        t.documentPath = (.ok (), writing.after.files) := by
  obtain ⟨print, handle, migrations, front, back, rfl, hfront, hx', hgiven, hproduce⟩ :=
    exists_produce_of_takes h hx (by rw [hlaunches.stage_eq]; decide)
  obtain ⟨cleaning, writing, back, rfl, hclean, hwrite⟩ :=
    exists_steps_of_produce hproduce hx' hlaunches
  exact ⟨handle, front, cleaning, writing, back, rfl, hfront, hgiven, hclean, hwrite⟩

/-- In a run alone nobody else changes files. -/
theorem files_of_leads {w u : World δ} {front back : List (Footstep Build.Event (World δ))}
    {cleaning writing : Footstep Build.Event (World δ)}
    (h : Leads w (front ++ cleaning :: writing :: x :: back) u)
    (hfront : ∀ y ∈ front, y.after.files = y.before.files) :
    cleaning.before.files = w.files ∧ writing.before.files = cleaning.after.files ∧
      x.before.files = writing.after.files := by
  obtain ⟨m, hleads, rfl, hwriting, hlaunching, -⟩ := h.exists_of_append
  exact ⟨hleads.eq_of_forall hfront, congrArg World.files hwriting, congrArg World.files hlaunching⟩

/-- What a run alone has made of the files when it starts its generator, if it needs no database. -/
theorem files_of_launches {w u : World δ} {q : Build.Operation δ (Except TaskError Outcome)}
    (hengages : t.engagesContainer = false) (h : (t.generate b).run.Takes steps q)
    (hleads : Leads w steps u) (hx : x ∈ steps) (hlaunches : Launches x) :
    x.before.files = (Document.write b.validator (OutputDirectory.clean w.files t.outputDir).2
      (t.effective none) t.schema t.documentPath).2 := by
  obtain ⟨handle, front, cleaning, writing, back, rfl, hfront, hgiven, hclean, hwrite⟩ :=
    exists_steps_of_launches h hx hlaunches
  obtain ⟨hcleaning, hwriting, hlaunching⟩ := files_of_leads hleads hfront
  cases handle with
  | some handle =>
    have hneeds := hgiven.1
    rw [hengages] at hneeds
    cases hneeds
  | none => rw [← hcleaning, hclean, hlaunching, ← hwriting, hwrite]

/-! ### What a launch finds -/

/-- What a generator finds when it is started, by the files before the output directory was emptied
(`fs`) and after that (`cleaned`). -/
structure Prepared (t : GenerationTask) (v : Validator) (c : Configuration)
    (fs cleaned files : FileSystem) : Prop where
  /-- The validator has nothing to report of the document of the configuration. -/
  valid : ∃ report, t.schema.report v cleaned = .ok report ∧
    report (Document.ofConfiguration c) = []
  /-- So the document satisfies its schema, if that is one of the language. -/
  accepted : v.Follows → ∀ schema, t.schema.schema cleaned = .ok schema →
    schema.accepts (Document.ofConfiguration c) = true
  /-- It is what is read at its path, exactly if it has not gone to a device. -/
  document : files.readText t.documentPath = .ok (Document.ofConfiguration c).pretty ↔
    ∀ full, files.stat t.documentPath ≠ .ok (.device full)
  /-- The directory that was emptied is still there and empty, exactly if its path needs nothing of
  what was in it and that of the document does not enter it. -/
  output : let made := (fs.makeDirectories t.outputDir).2
    ∃ place, made.resolve .target t.outputDir = .ok place ∧
      (files.list t.outputDir = .ok (place, []) ↔
        made.Straight t.outputDir place ∧ ¬files.Enters t.documentPath place)
  /-- Without links, this means that the work directory is not in the output directory, if neither
  path turns back. -/
  plain : fs.Linkless → t.outputDir.Forward → t.workDir.Forward →
    (files.list t.outputDir = .ok (t.outputDir.place fs.workingDirectory, []) ↔
      ¬t.outputDir.place fs.workingDirectory <+: t.workDir.place fs.workingDirectory)

theorem place_documentPath (t : GenerationTask) (cwd : Location) :
    t.documentPath.place cwd =
      t.workDir.place cwd ++ [Defaults.documentName.text] := by
  rw [documentPath, Path.place_join]
  rfl

theorem forward_documentPath (h : t.workDir.Forward) : t.documentPath.Forward := by
  rw [Path.Forward, documentPath, Path.steps_join (by decide), List.mem_append, not_or]
  exact ⟨h, by decide⟩

theorem prepared_of_write {v : Validator} {c : Configuration} {fs cleaned files : FileSystem}
    (hfs : fs.Nested) (hclean : OutputDirectory.clean fs t.outputDir = (.ok (), cleaned))
    (hwrite : Document.write v cleaned c t.schema t.documentPath = (.ok (), files)) :
    t.Prepared v c fs cleaned files := by
  obtain ⟨text, hcheck, -⟩ := Document.check_of_write hwrite
  obtain ⟨⟨report, hreport, hvalid⟩, -, -⟩ := Document.check_eq_ok_iff.1 hcheck
  refine ⟨⟨report, hreport, hvalid⟩,
    fun hv _ hschema ↦ (Document.accepts_of_follows hv hschema hreport _).2 hvalid,
    Document.readText_eq_iff hwrite,
    OutputDirectory.list_placed_iff hfs hclean (Document.placed_write hwrite),
    fun hlinks houtput hwork ↦ ?_⟩
  obtain ⟨hne, hiff⟩ := OutputDirectory.list_placed_iff_of_linkless hfs hlinks houtput
    (forward_documentPath hwork) hclean hwrite
  rw [place_documentPath] at hne hiff
  rw [hiff, List.prefix_concat_iff, or_iff_right hne.symm]

/-- **What a run has prepared when it starts its generator.** It has emptied the output directory
and written the document right before, and changed no file before that. If nobody else has changed
files in between, then the generator finds the document and the output directory as `Prepared`
says. -/
theorem generate_prepares (b : Backend δ) (t : GenerationTask)
    {q : Build.Operation δ (Except TaskError Outcome)} (h : (t.generate b).run.Takes steps q)
    (hx : x ∈ steps) (hlaunches : Launches x) :
    ∃ handle front cleaning writing back, steps = front ++ cleaning :: writing :: x :: back ∧
      (∀ y ∈ front, y.after.files = y.before.files) ∧ IsGiven b t steps x handle ∧
      (cleaning.before.files.Nested → writing.before.files = cleaning.after.files →
        x.before.files = writing.after.files →
        t.Prepared b.validator (t.effective handle) cleaning.before.files cleaning.after.files
          x.before.files) := by
  obtain ⟨handle, front, cleaning, writing, back, hsteps, hfront, hgiven, hclean, hwrite⟩ :=
    exists_steps_of_launches h hx hlaunches
  refine ⟨handle, front, cleaning, writing, back, hsteps, hfront, hgiven,
    fun hnested hwriting hlaunching ↦ ?_⟩
  rw [hwriting] at hwrite
  rw [hlaunching]
  exact prepared_of_write hnested hclean hwrite

/-- A run alone that starts its generator. -/
theorem exists_launches_of_run {w : World δ}
    (h : ((t.generate b).run.run w).any
      (fun r ↦ r.events.any fun e ↦ e matches .launched ..) = true) :
    ∃ steps q u x, (t.generate b).run.Takes steps q ∧ Leads w steps u ∧ x ∈ steps ∧ Launches x := by
  obtain ⟨r, hrun, hevents⟩ := (Option.any_eq_true _ _).1 h
  obtain ⟨steps, hsteps, hmap, hleads⟩ := takes_of_run hrun
  obtain ⟨e, he, hlaunched⟩ := List.any_eq_true.1 hevents
  rw [← hmap] at he
  obtain ⟨x, hx, rfl⟩ := List.mem_map.1 he
  refine ⟨steps, _, _, x, hsteps, hleads, hx, ?_⟩
  rw [Launches]
  split at hlaunched
  · rename_i spec answer heq
    exact ⟨spec, answer, heq⟩
  · cases hlaunched

/-- A run whose work directory is beside its output directory. -/
theorem generate_prepares_rehearsal :
    let t : GenerationTask := { rehearsed "app" with useContainer := false }
    let b := copying rehearsalHandle
    ∃ steps q x, (t.generate b).run.Takes steps q ∧ x ∈ steps ∧ Launches x ∧
      x.before.files.list t.outputDir = .ok (locationOf ["app", "out"], []) ∧
      x.before.files.readText t.documentPath =
        .ok (Document.ofConfiguration (t.effective none)).pretty := by
  intro t b
  obtain ⟨steps, q, u, x, hsteps, hleads, hx, hlaunches⟩ :=
    @exists_launches_of_run _ b t rehearsalStart (by decide +kernel)
  have hfound := files_of_launches rfl hsteps hleads hx hlaunches
  obtain ⟨handle, front, cleaning, writing, back, rfl, hfront, hgiven, hprepared⟩ :=
    generate_prepares b t hsteps hx hlaunches
  obtain ⟨hcleaning, hwriting, hlaunching⟩ := files_of_leads hleads hfront
  have hnested : rehearsalFiles.Nested := nested_of_forall_nodes (by decide +kernel)
  have hlinks : rehearsalFiles.Linkless := (isPlain_of_forall_nodes (by decide +kernel)).linkless
  have hstart : cleaning.before.files = rehearsalFiles := hcleaning
  cases handle with
  | some handle => cases hgiven.1
  | none =>
    have h := hprepared (hstart ▸ hnested) hwriting hlaunching
    have hplain := h.plain (hstart ▸ hlinks) (by decide) (by decide)
    have hplace : t.outputDir.place rehearsalFiles.workingDirectory =
        locationOf ["app", "out"] := by decide +kernel
    rw [hstart, hplace] at hplain
    refine ⟨_, q, x, hsteps, hx, hlaunches, hplain.2 (by decide), h.document.2 ?_⟩
    rw [hfound]
    decide +kernel

/-- **A task whose document is in its output directory.** Its work directory is in its output
directory, so the generator does not find that empty. -/
theorem launches_beside_document :
    let t : GenerationTask := { rehearsed "app" with
      workDir := ⟨"/app/out/work"⟩, useContainer := false }
    let b := copying rehearsalHandle
    (∃ d : Draft, d.build ⟨"/"⟩ = .ok t) ∧
    ∃ steps q u x, (t.generate b).run.Takes steps q ∧ Leads rehearsalStart steps u ∧
      x ∈ steps ∧ Launches x ∧
      x.before.files.list t.outputDir =
        .ok (locationOf ["app", "out"], [RawText.ofText "work"]) ∧
      x.before.files.isFile t.documentPath = true ∧
      t.outputDir.place [] <+: t.documentPath.place [] := by
  intro t b
  obtain ⟨steps, q, u, x, hsteps, hleads, hx, hlaunches⟩ :=
    @exists_launches_of_run _ b t rehearsalStart (by decide +kernel)
  refine ⟨⟨{
    name := "app", configuration := (rehearsed "app").configuration
    projectDir := some ⟨"/app"⟩, outputDir := some ⟨"out"⟩, workDir := some ⟨"out/work"⟩
    migrationsDir := some ⟨"/db"⟩, useContainer := false, command := some { program := "copy" }
    schema := .file ⟨"/schema.json"⟩ }, rfl⟩,
    steps, q, u, x, hsteps, hleads, hx, hlaunches, ?_⟩
  rw [files_of_launches rfl hsteps hleads hx hlaunches]
  decide +kernel

end GenerationTask

end SchemaForge
