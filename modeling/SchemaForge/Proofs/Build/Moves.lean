import SchemaForge.Proofs.Build.Trace
import SchemaForge.Proofs.DatabaseService.Stopping
import SchemaForge.Proofs.Program.Pool

/-!
# What the tasks of a build do to what they share

Tasks share one database, which they ask for by one name, and the locks of its schemas.
`Build.Moves` is the list of the steps that tasks take on these, each with the condition under which
it is taken, and `Build.Inv` is what holds between any two steps of all tasks together.

The steps on the database are those of `DatabaseService.Moves`, on the part of the trace that is
about the database (`Build.databaseEvents`). So what is known of a database that is shared by calls
holds of the database of a build, once it is known that tasks take no other steps.
-/

namespace SchemaForge

namespace DatabaseService

variable {ι : Type} {events : List (ι × Event)} {s s' : DatabaseService} {i : ι} {e : Event}

/-- While the cell is entered somebody has to start the database, and nobody has published an
outcome. -/
structure Underway (events : List (ι × Event)) (s : DatabaseService) : Prop where
  starter : s.cell = .starting → ∃ i, IsStarter i events
  published : ∀ i outcome, (i, .published outcome) ∈ events → ∃ o, s.cell = .settled o

theorem underway_start (name : String) : Underway ([] : List (ι × Event)) { name } where
  starter h := nomatch h
  published _ _ h := nomatch h

theorem Underway.step (h : Underway events s) (hstep : Moves events i s e s') :
    Underway (events ++ [(i, e)]) s' := by
  have hkeep (hcell : s'.cell = s.cell) (he : ∀ outcome, e ≠ .published outcome) :
      Underway (events ++ [(i, e)]) s' := by
    refine ⟨fun hstarting ↦ ?_, fun j outcome hmem ↦ ?_⟩
    · obtain ⟨j, hj⟩ := h.starter (hcell ▸ hstarting)
      exact ⟨j, isStarter_append.2 (Or.inl hj)⟩
    · rw [hcell]
      rcases List.mem_append.1 hmem with hmem | hmem
      · exact h.published j outcome hmem
      · cases List.mem_singleton.1 hmem
        exact absurd rfl (he outcome)
  cases hstep with
  | look | pass | start | store | swap | take | stop => exact hkeep rfl nofun
  | enter hcell =>
    refine ⟨fun _ ↦ ⟨i, isStarter_append.2 (Or.inr ⟨rfl, rfl⟩)⟩, fun j outcome hmem ↦ ?_⟩
    rcases List.mem_append.1 hmem with hmem | hmem
    · obtain ⟨o, ho⟩ := h.published j outcome hmem
      rw [hcell] at ho
      cases ho
    · cases List.mem_singleton.1 hmem
  | publish => exact ⟨nofun, fun _ _ _ ↦ ⟨_, rfl⟩⟩

theorem Moves.name_eq (hstep : Moves events i s e s') : s'.name = s.name := by
  cases hstep <;> rfl

end DatabaseService

namespace Build

variable {ι δ : Type}

/-! ### The database of a build -/

/-- What happened to the database, if the event tells of that. -/
def Event.database? : Event → Option DatabaseService.Event
  | .database _ e => some e
  | _ => none

/-- What the parties have done to the database. -/
def databaseEvents (events : List (ι × Event)) : List (ι × DatabaseService.Event) :=
  events.filterMap fun x ↦ x.2.database?.map (x.1, ·)

@[simp] theorem databaseEvents_append (events : List (ι × Event)) (i : ι) (e : Event) :
    databaseEvents (events ++ [(i, e)]) =
      databaseEvents events ++ (e.database?.map (i, ·)).toList := by
  rw [databaseEvents, List.filterMap_append]
  cases h : e.database? <;> simp [databaseEvents, h]

theorem mem_databaseEvents {events : List (ι × Event)} {i : ι} {e : DatabaseService.Event} :
    (i, e) ∈ databaseEvents events ↔ ∃ name, (i, .database name e) ∈ events := by
  rw [databaseEvents, List.mem_filterMap]
  constructor
  · rintro ⟨⟨j, e'⟩, hmem, he⟩
    cases e' with
    | database name inner =>
      cases he
      exact ⟨name, hmem⟩
    | _ => cases he
  · rintro ⟨name, hmem⟩
    exact ⟨_, hmem, rfl⟩

/-- The database that all tasks share. -/
def mysql (w : World δ) : DatabaseService := w.service Defaults.databaseService

/-- No other database was asked for. -/
def OnlyMysql (w : World δ) : Prop :=
  w.services = [] ∨ ∃ s : DatabaseService, w.services = [(Defaults.databaseService, s)] ∧
    s.name = Defaults.databaseService

theorem name_mysql {w : World δ} (h : OnlyMysql w) : (mysql w).name = Defaults.databaseService := by
  rcases h with h | ⟨s, h, hname⟩
  · rw [mysql, World.service, h]
    rfl
  · rw [mysql, World.service, h]
    exact hname

theorem services_putService {w : World δ} (h : OnlyMysql w) {s : DatabaseService}
    (hname : s.name = Defaults.databaseService) :
    (w.putService s).services = [(Defaults.databaseService, s)] := by
  rw [World.putService, hname]
  rcases h with h | ⟨s', h, -⟩
  · rw [h]
    rfl
  · rw [h, Names.insert, if_neg (String.lt_irrefl _), if_pos BEq.rfl]

theorem mysql_of_services {w : World δ} {s : DatabaseService}
    (h : w.services = [(Defaults.databaseService, s)]) : mysql w = s := by
  rw [mysql, World.service, h]
  rfl

/-! ### Steps -/

/-- A step of a task after what has been done so far: what it makes of the shared state, and what
it announces. -/
inductive Moves (events : List (ι × Event)) (i : ι) (w : World δ) : Event → World δ → Prop
  | register : Moves events i w (.registered Defaults.databaseService) (w.putService (mysql w))
  | database {e : DatabaseService.Event} {s : DatabaseService} {d : δ}
      (h : DatabaseService.Moves (databaseEvents events) i (mysql w) e s) :
      Moves events i w (.database Defaults.databaseService e) { w.putService s with outside := d }
  | lock {schema : String} (h : (Defaults.databaseService, schema) ∉ w.locks) :
      Moves events i w (.locked Defaults.databaseService schema)
        { w with locks := (Defaults.databaseService, schema) :: w.locks }
  | unlock {schema : String} :
      Moves events i w (.unlocked Defaults.databaseService schema)
        { w with locks := w.locks.erase (Defaults.databaseService, schema) }
  | work {e : Event} {files : FileSystem} {d : δ} (h : e.OfTask) :
      Moves events i w e { w with files, outside := d }

/-- What holds between any two steps. -/
structure Inv (events : List (ι × Event)) (w : World δ) : Prop where
  services : OnlyMysql w
  database : DatabaseService.Inv (databaseEvents events) (mysql w)
  ledger : DatabaseService.Ledger (databaseEvents events) (mysql w)
  underway : DatabaseService.Underway (databaseEvents events) (mysql w)
  locks : w.locks.Nodup
  /-- Whatever is locked, somebody has locked it. -/
  held : ∀ schema, (Defaults.databaseService, schema) ∈ w.locks →
    ∃ i, holder schema events = some i

theorem inv_start (files : FileSystem) (d : δ) : Inv ([] : List (ι × Event)) (World.start files d) where
  services := Or.inl rfl
  database := DatabaseService.inv_start _
  ledger := DatabaseService.ledger_start _
  underway := DatabaseService.underway_start _
  locks := List.nodup_nil
  held _ h := nomatch h

variable {events : List (ι × Event)} {w w' : World δ} {i : ι} {e : Event}

/-- A step that is not about the database keeps what is known of it. -/
theorem Inv.extend (h : Inv events w) (hdatabase : e.database? = none) (hmysql : mysql w' = mysql w)
    (hservices : OnlyMysql w') (hlocks : w'.locks.Nodup)
    (hholder : ∀ schema, (Defaults.databaseService, schema) ∈ w'.locks →
      ∃ j, e.holderAfter schema i (holder schema events) = some j) :
    Inv (events ++ [(i, e)]) w' := by
  have hevents : databaseEvents (events ++ [(i, e)]) = databaseEvents events := by
    rw [databaseEvents_append, hdatabase, Option.map_none, Option.toList_none, List.append_nil]
  refine ⟨hservices, ?_, ?_, ?_, hlocks, fun schema hschema ↦ ?_⟩
  · rw [hevents, hmysql]
    exact h.database
  · rw [hevents, hmysql]
    exact h.ledger
  · rw [hevents, hmysql]
    exact h.underway
  · rw [holder_append]
    exact hholder schema hschema

/-- **Every step keeps the invariant.** -/
theorem Inv.step (h : Inv events w) (hstep : Moves events i w e w') :
    Inv (events ++ [(i, e)]) w' := by
  cases hstep with
  | register =>
    have hservices := services_putService h.services (name_mysql h.services)
    exact h.extend rfl (mysql_of_services hservices)
      (Or.inr ⟨_, hservices, name_mysql h.services⟩) h.locks h.held
  | @database e s d hmoves =>
    have hname : s.name = Defaults.databaseService := hmoves.name_eq.trans (name_mysql h.services)
    have hservices := services_putService h.services hname
    have hmysql : mysql { w.putService s with outside := d } = s := mysql_of_services hservices
    have hevents : databaseEvents (events ++ [(i, .database Defaults.databaseService e)]) =
        databaseEvents events ++ [(i, e)] := databaseEvents_append ..
    refine ⟨Or.inr ⟨s, hservices, hname⟩, ?_, ?_, ?_, h.locks, fun schema hschema ↦ ?_⟩
    · rw [hmysql, hevents]
      exact h.database.step hmoves
    · rw [hmysql, hevents]
      exact h.ledger.step h.database hmoves
    · rw [hmysql, hevents]
      exact h.underway.step hmoves
    · rw [holder_append]
      exact h.held schema hschema
  | @lock schema hfree =>
    refine h.extend rfl rfl h.services (List.nodup_cons.2 ⟨hfree, h.locks⟩) fun schema' hmem ↦ ?_
    by_cases heq : schema = schema'
    · exact ⟨i, if_pos ⟨rfl, heq⟩⟩
    · obtain ⟨j, hj⟩ := h.held schema' (List.mem_of_ne_of_mem (by simp [Ne.symm heq]) hmem)
      exact ⟨j, (if_neg fun hsame ↦ heq hsame.2).trans hj⟩
  | @unlock schema =>
    refine h.extend rfl rfl h.services (h.locks.erase _) fun schema' hmem ↦ ?_
    obtain ⟨hne, hmem⟩ := (h.locks.mem_erase_iff).1 hmem
    obtain ⟨j, hj⟩ := h.held schema' hmem
    exact ⟨j, (if_neg fun hsame ↦ hne (by rw [hsame.2])).trans hj⟩
  | @work e files d hwork =>
    have hdatabase : e.database? = none := by
      cases e <;> first | rfl | cases hwork
    refine h.extend hdatabase rfl h.services h.locks fun schema hmem ↦ ?_
    have hholder : e.holderAfter schema i (holder schema events) = holder schema events := by
      cases e <;> first | rfl | cases hwork
    rw [hholder]
    exact h.held schema hmem

/-! ### Terms -/

open Program

/-- A step of a party. -/
def MovesBy (i : ι) (c d : Course ι Event (World δ)) : Prop :=
  ∃ e, Moves c.events i c.state e d.state ∧ d.events = c.events ++ [(i, e)]

/-- All tasks take the steps that there are. -/
def terms (i : ι) : Terms ι Event (World δ) where
  rely c d := ∃ j, j ≠ i ∧ MovesBy j c d
  guarantee c d := MovesBy i c d
  wait _ := True

/-- Between two steps. -/
def Between (c : Course ι Event (World δ)) : Prop := Inv c.events c.state

theorem stable_between (i : ι) : (terms (δ := δ) i).Stable Between := by
  rintro c d ⟨j, -, e, hstep, hevents⟩ hc
  rw [Between, hevents]
  exact hc.step hstep

/-- Tasks that take the steps that there are keep the terms. -/
theorem abides_of_moves {α : Type} {i : ι} {p : Operation δ α}
    (h : p.Always fun x ↦ ∀ events : List (ι × Event), Inv events x.before →
      Moves events i x.before x.event x.after) : Abides (terms i) i p Between fun _ ↦ Between := by
  refine abides_of_always (stable_between i) (fun _ ↦ trivial) (fun c e w hc hmoves ↦ ?_) h
  have hstep := hmoves c.events hc
  exact ⟨⟨e, hstep, rfl⟩, hc.step hstep⟩

/-- What those see of a build who acquire its database. -/
def view (c : Course ι Event (World δ)) :
    Course ι DatabaseService.Event (DatabaseService × δ) :=
  ⟨databaseEvents c.events, (mysql c.state, c.state.outside)⟩

/-- A step of a task is one on the database, or elsewhere. -/
theorem rely_view {i j : ι} (hji : j ≠ i) {c d : Course ι Event (World δ)} (hc : Between c)
    (hstep : MovesBy j c d) : (DatabaseService.terms i).rely (view c) (view d) := by
  obtain ⟨e, hstep, hevents⟩ := hstep
  have helsewhere (he : e.database? = none) (hmysql : mysql d.state = mysql c.state) :
      DatabaseService.Elsewhere (view c) (view d) := by
    refine ⟨hmysql, ?_⟩
    rw [view, hevents, databaseEvents_append, he, Option.map_none, Option.toList_none,
      List.append_nil]
    rfl
  generalize hw : d.state = w at hstep helsewhere
  cases hstep with
  | register =>
    have hservices := services_putService hc.services (name_mysql hc.services)
    exact Or.inr (helsewhere rfl (mysql_of_services hservices))
  | @database e s x hmoves =>
    have hname := hmoves.name_eq.trans (name_mysql hc.services)
    refine Or.inl ⟨j, hji, e, ?_, ?_⟩
    · have hmysql : mysql d.state = s := by
        rw [hw]
        exact mysql_of_services (services_putService hc.services hname)
      show DatabaseService.Moves _ j (mysql c.state) e (mysql d.state)
      rw [hmysql]
      exact hmoves
    · rw [view, hevents, databaseEvents_append]
      rfl
  | lock | unlock => exact Or.inr (helsewhere rfl rfl)
  | @work e files x hwork =>
    refine Or.inr (helsewhere ?_ rfl)
    cases e <;> first | rfl | cases hwork

/-- A task that acquires the database keeps the terms. -/
theorem abides_acquire (b : Backend δ) (i : ι) :
    Abides (terms i) i (acquire b Defaults.databaseService) Between fun _ ↦ Between := by
  refine Abides.bind (abides_of_moves (always_perform fun w events hw ↦ .register)) fun _ ↦ ?_
  have hacquire := DatabaseService.abides_acquire (ι := ι) b.toProvisioner Defaults.databaseService i
  refine ((Abides.zoom view Between (fun _ ↦ rfl) ?_ (fun _ _ _ ↦ trivial) ?_
    hacquire).strengthen fun c hc ↦ ⟨hc, hc.database, trivial⟩).weaken fun _ _ h ↦ h.1
  · rintro c d hc ⟨j, hji, hstep⟩
    refine ⟨stable_between i c d ⟨j, hji, hstep⟩ hc, .single (rely_view hji hc hstep)⟩
  · rintro c e ⟨s, x⟩ hc ⟨e', hmoves, hevents⟩
    obtain rfl : e = e' := by
      have hlast := List.append_cancel_left hevents
      exact congrArg Prod.snd (List.singleton_inj.1 hlast)
    have hname : s.name = Defaults.databaseService := hmoves.name_eq.trans (name_mysql hc.services)
    have hs : { s with name := Defaults.databaseService } = s := by rw [← hname]
    have hstep : Moves c.events i c.state (.database Defaults.databaseService e)
        { c.state.putService { s with name := Defaults.databaseService } with outside := x } := by
      rw [hs]
      exact .database hmoves
    refine ⟨⟨_, hstep, rfl⟩, hc.step hstep, ?_⟩
    have hmysql : mysql { c.state.putService { s with name := Defaults.databaseService } with
        outside := x } = s := by
      rw [hs]
      exact mysql_of_services (services_putService hc.services hname)
    rw [view, Course.extend_events, Course.extend_state, hmysql, databaseEvents_append]
    rfl

end Build

end SchemaForge
