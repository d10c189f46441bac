import Mathlib.Data.List.Perm.Subperm
import SchemaForge.Proofs.Build.Shutdown
import SchemaForge.Proofs.DatabaseService.Idle
import SchemaForge.Proofs.Names
import SchemaForge.Rehearsal.Databases

/-!
# The databases of a build, call by call

Databases are asked for by name, acquired and shut down, one call after the other, in any order
(`Build.conduct`). What each call has answered and announced is written down in a log, and what is
known of a database is read off the log.

Between two calls every database is idle (`Build.Idle`). A call on one database leaves all
others as they are (`Build.Idle.run_onService`), and a shutdown releases the databases that there
are in ascending order of their names, whatever becomes of each (`Build.Idle.run_releaseEach`).
-/

namespace SchemaForge

namespace Program

variable {ι ε α : Type} [DecidableEq ι] [DecidableEq α]

/-- Who has announced a thing is counted for each party on its own. -/
theorem count_own (i : ι) (f : ε → Option α) (a : α) (events : List (ι × ε)) :
    ((own i events).filterMap f).count a =
      ((events.filter fun x ↦ f x.2 == some a).map Prod.fst).count i := by
  induction events with
  | nil => rfl
  | cons x events ih =>
    obtain ⟨j, e⟩ := x
    by_cases hj : j = i
    · rw [hj, own_cons_self, List.filterMap_cons, List.filter_cons]
      cases hf : f e with
      | none => simpa using ih
      | some a' => by_cases ha : a' = a <;> simp [ha, ih]
    · rw [own_cons_of_ne hj, ih, List.filter_cons]
      split <;> simp [hj]

/-- What no party has announced more often than another thing is not more often announced. -/
theorem count_le_of_own {f g : ε → Option α} {a : α} {events : List (ι × ε)}
    (h : ∀ i, ((own i events).filterMap f).count a ≤ ((own i events).filterMap g).count a) :
    (events.filterMap fun x ↦ f x.2).count a ≤ (events.filterMap fun x ↦ g x.2).count a := by
  -- both sides as lists of parties: a thing and its party are counted together
  have hparties : ((events.filter fun x ↦ f x.2 == some a).map Prod.fst).Subperm
      ((events.filter fun x ↦ g x.2 == some a).map Prod.fst) :=
    List.subperm_ext_iff.2 fun i _ ↦ by simpa only [count_own] using h i
  have hlength := hparties.length_le
  rw [List.length_map, List.length_map, ← List.countP_eq_length_filter,
    ← List.countP_eq_length_filter] at hlength
  rwa [List.count_filterMap, List.count_filterMap]

end Program

namespace Build

open Program

variable {δ : Type}

/-! ### Calls -/

/-- A call on what the tasks of a build share. -/
inductive Call where
  /-- A database is asked for. -/
  | database (name : String)
  /-- A database is asked for and acquired. If it was asked for before, doing so once more makes no
  difference (`Build.Idle.run_register_known`). -/
  | acquire (name : String)
  | shutdown
  deriving DecidableEq

/-- What a call does. Only the one that acquires answers with a handle. -/
def Call.program (b : Backend δ) : Call → Operation δ (Except Error (Option DatabaseHandle))
  | .database name => do
    register name
    return .ok none
  | .acquire name => return (← Build.acquire b name).map some
  | .shutdown => return (← Build.shutdown b).map fun _ ↦ none

/-- What is written down of a call. -/
structure Entry where
  call : Call
  answer : Except Error (Option DatabaseHandle)
  events : List Event

/-- Calls one after the other, with the log of them; `none` if one has to wait for others. -/
def conduct (b : Backend δ) : List Call → World δ → Option (List Entry × World δ)
  | [], w => some ([], w)
  | call :: calls, w =>
    ((call.program b).run w).bind fun r ↦
      (conduct b calls r.state).map fun rest ↦ (⟨call, r.answer, r.events⟩ :: rest.1, rest.2)

/-- A call asks for the database of a name. -/
def Registered (name : String) (calls : List Call) : Prop :=
  .database name ∈ calls ∨ .acquire name ∈ calls

/-- A shutdown comes after a call that asks for the database of a name. -/
def Covered (name : String) (calls : List Call) : Prop :=
  ∃ front back, calls = front ++ .shutdown :: back ∧ Registered name front

theorem not_registered_nil (name : String) : ¬Registered name [] := fun h ↦ h.elim nofun nofun

theorem not_covered_nil (name : String) : ¬Covered name [] := by
  rintro ⟨front, back, hcalls, -⟩
  cases front <;> cases hcalls

theorem registered_append_singleton {name : String} {calls : List Call} {call : Call} :
    Registered name (calls ++ [call]) ↔
      Registered name calls ∨ call = .database name ∨ call = .acquire name := by
  simp only [Registered, List.mem_append, List.mem_singleton, eq_comm (b := call)]
  tauto

theorem covered_append_singleton {name : String} {calls : List Call} {call : Call} :
    Covered name (calls ++ [call]) ↔
      Covered name calls ∨ call = .shutdown ∧ Registered name calls := by
  constructor
  · rintro ⟨front, back, hcalls, hfront⟩
    rcases List.eq_nil_or_concat back with rfl | ⟨back, last, rfl⟩
    · obtain ⟨rfl, hcall⟩ := List.append_inj' hcalls rfl
      exact Or.inr ⟨(List.cons.inj hcall).1, hfront⟩
    · rw [List.concat_eq_append, ← List.cons_append, ← List.append_assoc] at hcalls
      exact Or.inl ⟨front, back, (List.append_inj' hcalls rfl).1, hfront⟩
  · rintro (⟨front, back, rfl, hfront⟩ | ⟨rfl, hregistered⟩)
    · exact ⟨front, back ++ [call], by simp, hfront⟩
    · exact ⟨calls, [], rfl, hregistered⟩

/-! ### What is read off events -/

/-- What happened to a database, with its name, if the event tells of that. -/
def Event.step? : Event → Option (String × DatabaseService.Event)
  | .database name e => some (name, e)
  | _ => none

/-- What happened to the database of a name. -/
def history (name : String) (events : List Event) : List DatabaseService.Event :=
  own name (events.filterMap Event.step?)

/-- What the starts under a name have come to. -/
def starts (name : String) (events : List Event) : List (Except Error Instance) :=
  (history name events).filterMap DatabaseService.Event.start?

/-- The instances that were stopped under a name. -/
def stops (name : String) (events : List Event) : List Instance :=
  (history name events).filterMap DatabaseService.Event.stop?

/-- What stops under a name have failed with. -/
def failures (name : String) (events : List Event) : List Error :=
  (history name events).filterMap DatabaseService.Event.failure?

/-- The instances that starts have come to, under whatever name. -/
def started (events : List Event) : List Instance :=
  (events.filterMap Event.step?).filterMap fun x ↦ x.2.start?.bind Except.toOption

/-- The instances that were stopped, under whatever name. -/
def stopped (events : List Event) : List Instance :=
  (events.filterMap Event.step?).filterMap fun x ↦ x.2.stop?

theorem history_append (name : String) (front back : List Event) :
    history name (front ++ back) = history name front ++ history name back := by
  rw [history, List.filterMap_append, own_append]
  rfl

theorem history_database (name : String) (events : List DatabaseService.Event) :
    history name (events.map (.database name)) = events := by
  induction events with
  | nil => rfl
  | cons e events ih => exact (own_cons_self name e _).trans (congrArg (e :: ·) ih)

theorem history_database_of_ne {name other : String} (h : name ≠ other)
    (events : List DatabaseService.Event) : history other (events.map (.database name)) = [] := by
  induction events with
  | nil => rfl
  | cons e events ih => exact (own_cons_of_ne h e _).trans ih

/-! ### The world between two calls -/

theorem service_putService (w : World δ) (s : DatabaseService) (name : String) :
    (w.putService s).service name = if s.name = name then s else w.service name := by
  rw [World.service, World.putService, Names.find?_insert]
  split <;> rfl

/-- Nobody is in the middle of a call, after what has been done; `known` tells which databases were
asked for, and `closed` which were released. -/
structure Idle (events : List Event) (known closed : String → Prop) (w : World δ) : Prop where
  ascending : Names.Ascending w.services
  known : ∀ name, name ∈ w.services.map Prod.fst ↔ known name
  name : ∀ name, (w.service name).name = name
  service : ∀ name, DatabaseService.Idle (history name events) (closed name) (w.service name)

variable {b : Backend δ} {events : List Event} {known closed : String → Prop} {w : World δ}

/-- To ask for a database makes it known, and does nothing to it. -/
theorem Idle.run_register (h : Idle events known closed w) (name : String) :
    ∃ w', (register name).run w = some ⟨(), [.registered name], w'⟩ ∧
      Idle (events ++ [.registered name]) (fun n ↦ known n ∨ n = name) closed w' := by
  have hservice (n : String) : (w.putService (w.service name)).service n = w.service n := by
    rw [service_putService, h.name]
    split
    · rename_i hn
      rw [hn]
    · rfl
  refine ⟨w.putService (w.service name), rfl, Names.ascending_insert h.ascending, fun n ↦ ?_,
    fun n ↦ ?_, fun n ↦ ?_⟩
  · rw [World.putService, Names.mem_map_fst_insert, h.known, h.name, or_comm]
  · rw [hservice, h.name]
  · rw [hservice, history_append]
    exact (h.service n).append_quiet rfl rfl

/-- To ask once more for a database makes no difference. -/
theorem Idle.run_register_known (h : Idle events known closed w) {name : String}
    (hname : known name) : (register name).run w = some ⟨(), [.registered name], w⟩ := by
  obtain ⟨s, hs⟩ := Names.mem_map_fst_iff.1 ((h.known name).2 hname)
  have hservice : w.service name = s := by rw [World.service, hs, Option.getD_some]
  have hkept : w.putService (w.service name) = w := by
    rw [World.putService, h.name, hservice, Names.insert_of_find? h.ascending hs]
  exact congrArg (fun t ↦ some (Run.mk () [Event.registered name] t)) hkept

/-- The one is as the other, the database of a name apart. -/
structure AgreesBut (name : String) (w w' : World δ) : Prop where
  ascending : Names.Ascending w'.services
  names : ∀ n, n ∈ w'.services.map Prod.fst ↔ n ∈ w.services.map Prod.fst
  service : ∀ n, n ≠ name → w'.service n = w.service n

theorem AgreesBut.putService {name : String} {w' : World δ} (h : AgreesBut name w w')
    (hname : name ∈ w.services.map Prod.fst) {s : DatabaseService} (hs : s.name = name) (d : δ) :
    AgreesBut name w { w'.putService s with outside := d } where
  ascending := Names.ascending_insert h.ascending
  names n := by
    rw [World.putService, Names.mem_map_fst_insert, h.names, or_iff_right_of_imp]
    rintro rfl
    exact hs.symm ▸ hname
  service n hn := by
    refine (service_putService w' s n).trans ?_
    rw [if_neg fun h ↦ hn (h.symm.trans hs), h.service n hn]

/-- A call on one database leaves all others as they are. -/
theorem Idle.run_onService (h : Idle events known closed w) {name : String} (hname : known name)
    {α : Type} {p : DatabaseService.Operation δ α}
    (hp : p.Always fun x ↦ x.after.1.name = x.before.1.name)
    {r : Run DatabaseService.Event (DatabaseService × δ) α}
    (hr : p.run (w.service name, w.outside) = some r) (closed' : String → Prop)
    (hclosed : ∀ n, n ≠ name → (closed' n ↔ closed n))
    (hrest : DatabaseService.Idle (history name events ++ r.events) (closed' name) r.state.1) :
    ∃ w', (onService name p).run w = some ⟨r.answer, r.events.map (.database name), w'⟩ ∧
      Idle (events ++ r.events.map (.database name)) known closed' w' := by
  have hzoom : ∃ w', (onService name p).run w = some ⟨r.answer, r.events.map (.database name), w'⟩ ∧
      (AgreesBut name w w' ∧ (w'.service name).name = name) ∧
      (w'.service name, w'.outside) = r.state := by
    refine run_zoom (I := fun w' ↦ AgreesBut name w w' ∧ (w'.service name).name = name)
      (J := fun s ↦ s.1.name = name) ?_ (hp.imp fun _ hx hbefore ↦ hx.trans hbefore)
      ⟨⟨h.ascending, fun _ ↦ Iff.rfl, fun _ _ ↦ rfl⟩, h.name name⟩ (h.name name) hr
    rintro ⟨s, d⟩ w' ⟨hw', -⟩ hs
    -- the name that is written with each step is the one that is there
    have hs' : { s with name := name } = s := by rw [← hs]
    have hservice : (w'.putService s).service name = s := by rw [service_putService, if_pos hs]
    rw [hs']
    exact ⟨⟨hw'.putService ((h.known name).2 hname) hs d, (congrArg _ hservice).trans hs⟩,
      Prod.ext hservice rfl⟩
  obtain ⟨w', hrun, ⟨hagrees, hname'⟩, hend⟩ := hzoom
  rw [← hend] at hrest
  refine ⟨w', hrun, hagrees.ascending, fun n ↦ (hagrees.names n).trans (h.known n), fun n ↦ ?_,
    fun n ↦ ?_⟩
  · by_cases hn : n = name
    · rw [hn, hname']
    · rw [hagrees.service n hn, h.name]
  · by_cases hn : n = name
    · rw [hn, history_append, history_database]
      exact hrest
    · rw [history_append, history_database_of_ne (Ne.symm hn), List.append_nil,
        hagrees.service n hn, hclosed n hn]
      exact h.service n

/-! ### The failure that comes first -/

/-- The answer tells of the failure that comes first in the order of the names, and of success if
there is none. -/
def AnswersFirst {α : Type} (failed : String → List Error) : Except Error α → Prop
  | .ok _ => ∀ name, failed name = []
  | .error e => ∃ name, failed name = [e] ∧ ∀ other < name, failed other = []

/-- A name before all that have failed comes first, if it has failed as well. -/
theorem AnswersFirst.cons {failed failed' : String → List Error} {first rest : Except Error Unit}
    (h : AnswersFirst failed rest) (name : String) (hbefore : ∀ n, ¬name < n → failed n = [])
    (herror : ∀ e, first = .error e → failed' name = [e]) (hok : first = .ok () → failed' name = [])
    (hothers : ∀ n, n ≠ name → failed' n = failed n) :
    AnswersFirst failed' (first.bind fun _ ↦ rest) := by
  cases first with
  | error e =>
    refine ⟨name, herror e rfl, fun other hlt ↦ ?_⟩
    rw [hothers other (String.ne_of_lt hlt), hbefore other (String.lt_asymm hlt)]
  | ok _ =>
    have heq : failed' = failed := by
      funext n
      by_cases hn : n = name
      · rw [hn, hok rfl, hbefore name (String.lt_irrefl name)]
      · exact hothers n hn
    rw [heq]
    exact h

/-! ### One call -/

/-- A call that acquires a database is refused if it was released. -/
theorem Idle.run_acquire (h : Idle events known closed w) (b : Backend δ) (name : String) :
    ∃ r, (acquire b name).run w = some r ∧
      Idle (events ++ r.events) (fun n ↦ known n ∨ n = name) closed r.state ∧
      (closed name → r.answer = .error (DatabaseService.releasedError name)) := by
  obtain ⟨w₁, hregister, h₁⟩ := h.run_register name
  obtain ⟨q, hq, hrest, hrefused⟩ := (h₁.service name).run_acquire b.toProvisioner name w₁.outside
  obtain ⟨w₂, hrun, h₂⟩ := h₁.run_onService (Or.inr rfl)
    ((DatabaseService.always_acquire _ name).imp fun _ h ↦ h.2) hq closed (fun _ _ ↦ Iff.rfl) hrest
  refine ⟨⟨q.answer, .registered name :: q.events.map (.database name), w₂⟩, ?_, ?_, hrefused⟩
  · rw [acquire, run_bind, hregister, Option.bind_some, hrun]
    rfl
  · rw [List.append_assoc] at h₂
    exact h₂

theorem run_releaseEach_cons {name : String} {names : List String}
    {first rest : Run Event (World δ) (Except Error Unit)}
    (hfirst : (onService name (DatabaseService.release b.toProvisioner)).run w = some first)
    (hrest : (releaseEach b names).run first.state = some rest) :
    (releaseEach b (name :: names)).run w = some ⟨first.answer.bind fun _ ↦ rest.answer,
      first.events ++ rest.events, rest.state⟩ := by
  rw [releaseEach, run_bind, hfirst, Option.bind_some, run_bind, hrest, Option.bind_some]
  have hevents : first.events ++ (rest.events ++ []) = first.events ++ rest.events := by
    rw [List.append_nil]
  cases first.answer <;> exact congrArg some (congrArg (Run.mk _ · rest.state) hevents)

/-- Each database is released, whatever becomes of the ones before it. -/
theorem Idle.run_releaseEach (b : Backend δ) {names : List String}
    (hnames : names.Pairwise (· < ·)) (hknown : ∀ n ∈ names, known n)
    (h : Idle events known closed w) :
    ∃ r, (releaseEach b names).run w = some r ∧
      Idle (events ++ r.events) known (fun n ↦ closed n ∨ n ∈ names) r.state ∧
      (∀ n, n ∉ names → history n r.events = []) ∧
      AnswersFirst (failures · r.events) r.answer := by
  induction names generalizing events closed w with
  | nil =>
    refine ⟨⟨.ok (), [], w⟩, rfl, ?_, fun _ _ ↦ rfl, fun _ ↦ rfl⟩
    simpa only [List.append_nil, List.not_mem_nil, or_false] using h
  | cons name names ih =>
    obtain ⟨hfirst, hnames⟩ := List.pairwise_cons.1 hnames
    obtain ⟨hname, hknown⟩ := List.forall_mem_cons.1 hknown
    obtain ⟨q, hq, hclosed, herror, hok⟩ := (h.service name).run_release b.toProvisioner w.outside
    obtain ⟨w₁, hrun, h₁⟩ := h.run_onService hname (DatabaseService.always_release _) hq
      (fun n ↦ closed n ∨ n = name) (fun n hn ↦ or_iff_left hn) (by simpa using hclosed)
    obtain ⟨r, hr, h₂, hquiet, hanswer⟩ := ih hnames hknown h₁
    -- all that is released after this one has a later name
    have hbefore (n : String) (hn : ¬name < n) : history n r.events = [] :=
      hquiet n fun hmem ↦ hn (hfirst n hmem)
    have hown : history name (q.events.map (.database name) ++ r.events) = q.events := by
      rw [history_append, history_database, hbefore name (String.lt_irrefl name),
        List.append_nil]
    have hothers (n : String) (hn : n ≠ name) :
        history n (q.events.map (.database name) ++ r.events) = history n r.events := by
      rw [history_append, history_database_of_ne hn.symm, List.nil_append]
    refine ⟨_, run_releaseEach_cons hrun hr, ?_, fun n hn ↦ ?_, ?_⟩
    · simpa only [List.append_assoc, List.mem_cons, or_assoc] using h₂
    · exact (hothers n (List.ne_of_not_mem_cons hn)).trans
        (hquiet n (List.not_mem_of_not_mem_cons hn))
    · refine hanswer.cons name (fun n hn ↦ ?_) (fun e he ↦ ?_) (fun ha ↦ ?_) fun n hn ↦ ?_
      · exact (congrArg (List.filterMap _) (hbefore n hn)).trans List.filterMap_nil
      · exact (congrArg (List.filterMap _) hown).trans (herror e he)
      · exact (congrArg (List.filterMap _) hown).trans (hok ha)
      · exact congrArg (List.filterMap _) (hothers n hn)

/-- A shutdown releases every database that was asked for. -/
theorem Idle.run_shutdown (h : Idle events known closed w) (b : Backend δ) :
    ∃ r, (shutdown b).run w = some r ∧
      Idle (events ++ r.events) known (fun n ↦ closed n ∨ known n) r.state ∧
      AnswersFirst (failures · r.events) r.answer := by
  have hcounted : Idle (events ++ [.counted (w.services.map Prod.fst)]) known closed w :=
    { h with
      service := fun n ↦ by
        rw [history_append]
        exact (h.service n).append_quiet rfl rfl }
  obtain ⟨r, hr, hafter, -, hanswer⟩ := hcounted.run_releaseEach b (List.pairwise_map.2 h.ascending)
    fun n hn ↦ (h.known n).1 hn
  refine ⟨{ r with events := .counted (w.services.map Prod.fst) :: r.events },
    congrArg (Option.map _) hr, ?_, hanswer⟩
  simp only [List.append_assoc, h.known] at hafter
  exact hafter

/-! ### Any number of calls -/

/-- What happened in the course of the calls of a log. -/
def trace (log : List Entry) : List Event := log.flatMap Entry.events

/-- What a call does among others: `before` is the log of the calls that came before it. -/
structure Fits (before : List Entry) (entry : Entry) : Prop where
  /-- The first shutdown after a database was asked for stops what was started, once. -/
  stops : entry.call = .shutdown → ∀ name, Registered name (before.map Entry.call) →
    ¬Covered name (before.map Entry.call) → ∀ r, .ok r ∈ starts name (trace before) →
      stops name entry.events = [r]
  answers : entry.call = .shutdown → AnswersFirst (failures · entry.events) entry.answer
  /-- A database that was shut down is acquired no more. -/
  refuses : ∀ name, entry.call = .acquire name → Covered name (before.map Entry.call) →
    entry.answer = .error (DatabaseService.releasedError name)

/-- Between two calls, with the log of those before. -/
def Holds (log : List Entry) (w : World δ) : Prop :=
  Idle (trace log) (fun n ↦ Registered n (log.map Entry.call))
    (fun n ↦ Covered n (log.map Entry.call)) w

theorem holds_start (files : FileSystem) (d : δ) : Holds [] (World.start files d) where
  ascending := List.Pairwise.nil
  known name := iff_of_false List.not_mem_nil (not_registered_nil name)
  name _ := rfl
  service name := by
    rw [List.map_nil, eq_false (not_covered_nil name)]
    exact DatabaseService.idle_start name

theorem holds_append {log : List Entry} {entry : Entry}
    (h : Idle (trace log ++ entry.events) known closed w)
    (hknown : ∀ n, known n ↔ Registered n (log.map Entry.call ++ [entry.call]))
    (hclosed : ∀ n, closed n ↔ Covered n (log.map Entry.call ++ [entry.call])) :
    Holds (log ++ [entry]) w := by
  obtain rfl : known = fun n ↦ Registered n (log.map Entry.call ++ [entry.call]) :=
    funext fun n ↦ propext (hknown n)
  obtain rfl : closed = fun n ↦ Covered n (log.map Entry.call ++ [entry.call]) :=
    funext fun n ↦ propext (hclosed n)
  rw [Holds, trace, List.flatMap_append, List.flatMap_singleton, List.map_append]
  exact h

/-- **One call.** -/
theorem Holds.run_call {log : List Entry} (h : Holds log w) (b : Backend δ) (call : Call) :
    ∃ r, (call.program b).run w = some r ∧
      Holds (log ++ [⟨call, r.answer, r.events⟩]) r.state ∧
      Fits log ⟨call, r.answer, r.events⟩ := by
  cases call with
  | database name =>
    obtain ⟨w', hrun, hafter⟩ := Idle.run_register h name
    refine ⟨⟨.ok none, [.registered name], w'⟩, ?_, ?_, nofun, nofun, nofun⟩
    · rw [Call.program, run_bind, hrun]
      rfl
    · refine holds_append hafter (fun n ↦ ?_) fun n ↦ ?_
      · simp [registered_append_singleton, eq_comm]
      · simp [covered_append_singleton]
  | acquire name =>
    obtain ⟨r, hrun, hafter, hrefused⟩ := Idle.run_acquire h b name
    refine ⟨⟨r.answer.map some, r.events, r.state⟩, ?_, ?_, nofun, nofun, ?_⟩
    · rw [Call.program, run_bind, hrun]
      exact congrArg some (congrArg (Run.mk _ · _) (List.append_nil _))
    · refine holds_append hafter (fun n ↦ ?_) fun n ↦ ?_
      · simp [registered_append_singleton, eq_comm]
      · simp [covered_append_singleton]
    · rintro name ⟨⟩ hcovered
      exact congrArg (Except.map some) (hrefused hcovered)
  | shutdown =>
    obtain ⟨r, hrun, hafter, hanswer⟩ := Idle.run_shutdown h b
    refine ⟨⟨r.answer.map fun _ ↦ none, r.events, r.state⟩, ?_, ?_,
      fun _ name hregistered hcovered i hstarted ↦ ?_, fun _ ↦ ?_, nofun⟩
    · rw [Call.program, run_bind, hrun]
      exact congrArg some (congrArg (Run.mk _ · _) (List.append_nil _))
    · refine holds_append hafter (fun n ↦ ?_) fun n ↦ ?_
      · simp [registered_append_singleton]
      · simp [covered_append_singleton]
    · -- nothing was stopped before, and now all that was started is
      have hservice := hafter.service name
      rw [history_append] at hservice
      exact (h.service name).stops_eq hcovered hservice (Or.inr hregistered) hstarted
    · cases hr : r.answer <;> rw [hr] at hanswer <;> exact hanswer

/-- **Any number of calls, one after the other.** -/
theorem Holds.conduct {log : List Entry} (h : Holds log w) (b : Backend δ) (calls : List Call) :
    ∃ later w', conduct b calls w = some (later, w') ∧ later.map Entry.call = calls ∧
      Holds (log ++ later) w' ∧
      ∀ before entry after, later = before ++ entry :: after → Fits (log ++ before) entry := by
  induction calls generalizing log w with
  | nil => exact ⟨[], w, rfl, rfl, (List.append_nil log).symm ▸ h, by simp⟩
  | cons call calls ih =>
    obtain ⟨r, hr, hafter, hfits⟩ := h.run_call b call
    obtain ⟨later, w', hrun, hcalls, hend, hlater⟩ := ih hafter
    refine ⟨⟨call, r.answer, r.events⟩ :: later, w', ?_, congrArg (call :: ·) hcalls, ?_, ?_⟩
    · rw [Build.conduct, hr, Option.bind_some, hrun]
      rfl
    · rw [List.append_cons]
      exact hend
    · intro before entry after hsplit
      cases before with
      | nil =>
        obtain ⟨rfl, -⟩ := List.cons.inj hsplit
        rw [List.append_nil]
        exact hfits
      | cons first before =>
        obtain ⟨rfl, hrest⟩ := List.cons.inj hsplit
        rw [List.append_cons]
        exact hlater before entry after hrest

/-- What is found in the log of calls that came one after the other. -/
structure Orderly (log : List Entry) : Prop where
  /-- A database is started at most once, whether that succeeds or not. -/
  starts : ∀ name, (starts name (trace log)).length ≤ 1
  /-- What is stopped under a name was started under it. -/
  stops : ∀ name, (stops name (trace log)).Sublist
    (DatabaseService.instances (Build.starts name (trace log)))
  /-- Nothing is stopped more often than it was started, under whatever names. -/
  stopped : ∀ r, (stopped (trace log)).count r ≤ (started (trace log)).count r
  fits : ∀ before entry after, log = before ++ entry :: after → Fits before entry

/-- **Every database is started and stopped at most once, whoever asks for it and however often the
build is shut down.** -/
theorem conduct_orderly (b : Backend δ) (files : FileSystem) (d : δ) (calls : List Call) :
    ∃ log w, conduct b calls (World.start files d) = some (log, w) ∧
      log.map Entry.call = calls ∧ Orderly log := by
  obtain ⟨log, w, hrun, hcalls, hend, hfits⟩ := (holds_start files d).conduct b calls
  rw [List.nil_append] at hend
  refine ⟨log, w, hrun, hcalls, fun name ↦ ?_, fun name ↦ ?_, fun r ↦ ?_, hfits⟩
  · exact (hend.service name).length_starts
  · exact (hend.service name).stops_sublist
  · have hcount (name : String) : (Build.stops name (trace log)).count r ≤
        ((history name (trace log)).filterMap fun e ↦ e.start?.bind Except.toOption).count r := by
      rw [← List.filterMap_filterMap]
      exact (hend.service name).stops_sublist.count_le r
    exact count_le_of_own hcount

/-- The stop of one database fails, and the other is stopped all the same. -/
example (files : FileSystem) (handle : DatabaseHandle) :
    (conduct Rehearsal.backend [.acquire "b", .acquire "a", .shutdown, .shutdown]
      (World.start files
        { handleOf := fun _ ↦ handle, rules := { stop := some (.provisioning "busy") } })).map
      (fun r ↦ (stopped (trace r.1)).map Instance.number) = some [2, 1] := by
  cbv

end Build

end SchemaForge
