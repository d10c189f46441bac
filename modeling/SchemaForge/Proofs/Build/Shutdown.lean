import SchemaForge.Proofs.Build.Moves

/-!
# The end of a build

When all tasks have ended, the build releases its databases (`Build.shutdown`). Nobody else does
anything then, so this runs alone, and what it stops is what is running
(`Build.run_shutdown`).
-/

namespace SchemaForge

open Program

variable {δ : Type}

namespace DatabaseService

theorem run_release (p : Provisioner δ) {s : DatabaseService} (hreleased : s.released = false)
    (d : δ) :
    ∃ r, (release p).run (s, d) = some r ∧ r.events = .swapped false :: .took s.running ::
      (s.running.map fun running ↦ .stopped running (p.stop running d).1).toList := by
  obtain ⟨name, cell, running, released⟩ := s
  obtain rfl : released = false := hreleased
  cases running <;> exact ⟨_, rfl, rfl⟩

theorem always_release (p : Provisioner δ) :
    (release p).Always fun x ↦ x.after.1.name = x.before.1.name := by
  refine (always_perform fun _ ↦ rfl).bind fun before ↦ ?_
  cases before with
  | true => exact always_pure
  | false =>
    refine (always_perform fun _ ↦ rfl).bind fun running ↦ ?_
    cases running with
    | none => exact always_pure
    | some r => exact always_perform fun _ ↦ rfl

/-- A step that releases nothing and keeps the name of the database. -/
def Acquires (x : Footstep Event (DatabaseService × δ)) : Prop :=
  ¬x.event.OfRelease ∧ x.after.1.name = x.before.1.name

theorem always_start (p : Provisioner δ) : (start p).Always Acquires := by
  refine (always_perform fun _ ↦ ⟨id, rfl⟩).bind fun started ↦ ?_
  cases started with
  | error e => exact (always_perform fun _ ↦ ⟨id, rfl⟩).bind fun _ ↦ always_pure
  | ok running =>
    exact (always_perform fun _ ↦ ⟨id, rfl⟩).bind fun _ ↦
      (always_perform fun _ ↦ ⟨id, rfl⟩).bind fun _ ↦ always_pure

theorem always_acquire (p : Provisioner δ) (name : String) :
    (acquire p name).Always Acquires := by
  refine (always_perform fun _ ↦ ⟨id, rfl⟩).bind fun released ↦ ?_
  cases released with
  | true => exact always_pure
  | false =>
    refine Always.bind (always_step (fun w found w' hact ↦ ⟨id, ?_⟩) fun _ ↦ always_pure)
      fun found ↦ ?_
    · obtain ⟨r, hr, heq⟩ := Option.map_eq_some_iff.1 hact
      cases heq
      rcases eq_of_enter hr with ⟨-, -, hs⟩ | ⟨_, -, -, hs⟩ <;> rw [hs]
    · cases found with
      | some outcome => exact always_pure
      | none => exact (always_start p).bind fun _ ↦ always_pure

end DatabaseService

namespace Build

/-- Events of nobody in particular. -/
def anyones (events : List Event) : List (Unit × Event) := events.map ((), ·)

/-- What was stopped does not depend on who has done it. -/
theorem stops_anyones {ι : Type} (events : List (ι × Event)) :
    DatabaseService.stops (databaseEvents (anyones (events.map Prod.snd))) =
      DatabaseService.stops (databaseEvents events) := by
  simp only [DatabaseService.stops, databaseEvents, anyones, List.filterMap_filterMap,
    List.filterMap_map, List.map_map]
  refine List.filterMap_congr fun x _ ↦ ?_
  cases h : x.2.database? <;> simp [h]

theorem stops_anyones_append (front back : List Event) :
    DatabaseService.stops (databaseEvents (anyones (front ++ back))) =
      DatabaseService.stops (databaseEvents (anyones front)) ++
        DatabaseService.stops (databaseEvents (anyones back)) := by
  rw [anyones, List.map_append, databaseEvents, List.filterMap_append, DatabaseService.stops,
    List.filterMap_append]
  rfl

/-- A run on the database that all tasks share. -/
theorem run_onService {α : Type} {p : DatabaseService.Operation δ α}
    (hp : p.Always fun x ↦ x.after.1.name = x.before.1.name) {w : World δ} (hw : OnlyMysql w)
    {r : Run DatabaseService.Event (DatabaseService × δ) α}
    (hr : p.run (mysql w, w.outside) = some r) :
    ∃ w', (onService Defaults.databaseService p).run w =
        some ⟨r.answer, r.events.map (Event.database Defaults.databaseService), w'⟩ ∧
      (OnlyMysql w' ∧ w'.locks = w.locks) ∧ (mysql w', w'.outside) = r.state := by
  refine run_zoom (I := fun w' ↦ OnlyMysql w' ∧ w'.locks = w.locks)
    (J := fun s ↦ s.1.name = Defaults.databaseService) ?_
    (hp.imp fun _ hx hbefore ↦ hx.trans hbefore) ⟨hw, rfl⟩ (name_mysql hw) hr
  rintro ⟨s, d⟩ w' ⟨hw', hlocks⟩ hs
  have hs' : { s with name := Defaults.databaseService } = s := by rw [← hs]
  have hservices := services_putService hw' hs
  rw [hs']
  exact ⟨⟨Or.inr ⟨_, hservices, hs⟩, hlocks⟩, Prod.ext (mysql_of_services hservices) rfl⟩

/-- The release of one database. -/
theorem run_releaseEach (b : Backend δ) {w : World δ} (hservices : OnlyMysql w)
    (hreleased : (mysql w).released = false) :
    ∃ r, (releaseEach b [Defaults.databaseService]).run w = some r ∧
      DatabaseService.stops (databaseEvents (anyones r.events)) = (mysql w).running.toList := by
  obtain ⟨q, hq, hevents⟩ := DatabaseService.run_release b.toProvisioner hreleased w.outside
  obtain ⟨w', hrun, -⟩ := run_onService (DatabaseService.always_release _) hservices hq
  have hstops : DatabaseService.stops (databaseEvents (anyones
      (q.events.map (Event.database Defaults.databaseService)))) = (mysql w).running.toList := by
    rw [hevents]
    cases (mysql w).running <;> rfl
  refine ⟨⟨q.answer, q.events.map (Event.database Defaults.databaseService), w'⟩, ?_, hstops⟩
  rw [releaseEach, run_bind, hrun, Option.bind_some]
  cases q.answer with
  | error e => exact congrArg some (congrArg (Run.mk _ · w') (List.append_nil _))
  | ok _ => exact congrArg some (congrArg (Run.mk _ · w') (List.append_nil _))

/-- **What is running when a build ends is stopped**, and nothing else. -/
theorem run_shutdown (b : Backend δ) {w : World δ} (hservices : OnlyMysql w)
    (hreleased : (mysql w).released = false) :
    ∃ r, (shutdown b).run w = some r ∧
      DatabaseService.stops (databaseEvents (anyones r.events)) = (mysql w).running.toList := by
  rw [show (shutdown b).run w = ((releaseEach b (w.services.map (·.1))).run w).map fun r ↦
    { r with events := .counted (w.services.map (·.1)) :: r.events } from rfl]
  have hservices' := hservices
  rcases hservices with h | ⟨s, h, -⟩
  · refine ⟨_, by rw [h]; rfl, ?_⟩
    rw [mysql, World.service, h]
    rfl
  · rw [h]
    obtain ⟨r, hr, hstops⟩ := run_releaseEach b hservices' hreleased
    exact ⟨_, congrArg (Option.map _) hr, hstops⟩

end Build

end SchemaForge
