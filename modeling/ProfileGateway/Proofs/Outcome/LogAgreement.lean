import ProfileGateway.Collaborator.Store
import ProfileGateway.Deadline.Settings
import ProfileGateway.Proofs.Operation.Calls
import ProfileGateway.Proofs.Operation.Likeness
import ProfileGateway.Proofs.Script.Recording
/-!
# What the log says of an answer

A failure is logged where it is noticed, and which code a call fails with can be told from its log: whatever raises an
alarm ends the call with the status that goes with it, so there is one alarm at most, and it is about the answer that
came last (`Script.Reports.run`). The failure itself is logged last of all (`Occasion.log_agrees`).
-/
namespace ProfileGateway

open Operation

/-! ## Alarms -/

/-- Events that say nothing of how a call ends. -/
inductive Event.Quiet : Event → Prop
  | noSecondaryData (source : String) (ids : Nat) : Quiet (.noSecondaryData source ids)
  | profileUpdated (id : String) (user : Uuid) (version : Int64) : Quiet (.ofCall id (.profileUpdated user version))

/-- Failures that raise no alarm. -/
def Status.Quiet (s : Status) : Prop := s.code ≠ .internal ∧ s.code ≠ .aborted ∧ s.code ≠ .deadlineExceeded

/-- A refusal needs no event to go with it. -/
theorem Refusal.quiet_status (r : Refusal) : r.status.Quiet := ⟨nofun, nofun, nofun⟩

/-- What is logged of an answer that fails a call, and the status that the call fails with. -/
inductive Alarm : Answered → Event → Status → Prop
  | rejected {c : Call} (primary : c.source.secondary = false) (message : String) :
    Alarm ⟨c, .error ⟨.versionConflict, message⟩⟩ (.writeRejected message) .versionConflict
  | broken {c : Call} (primary : c.source.secondary = false) (message : String) :
    Alarm ⟨c, .error ⟨.internal, message⟩⟩ (.collaboratorFailed message) .internalError
  | lookup {c : Call} (secondary : c.source.secondary = true) {kind : FailureKind} (failed : kind ≠ .notFound)
    (message : String) :
    Alarm ⟨c, .error ⟨kind, message⟩⟩ (.lookupFailed c.source.name kind message) (.lookupFailed c.source.name)

/-- The verdict on an answer tells of it: a lookup that fails raises an alarm, and no other. -/
def Verdict.Reports {β : Type} (a : Answered) (verdict : Verdict β) : Prop :=
  match verdict.result with
  | .ok _ => ∀ e ∈ verdict.events, e.Quiet
  | .error s => ∃ e, verdict.events = [e] ∧ Alarm a e s

def Branch.Reports {β : Type} : Branch β → Prop
  | ready _ => True
  | ask c settle => ∀ reply, (settle reply).Reports ⟨c, reply⟩

/-- The script raises an alarm for nothing but the answer that came last, and then it fails. -/
inductive Script.Reports {α : Type} : Option Answered → Script α → Prop
  | done {last} (a) : Reports last (.done a)
  | fail {last s} (quiet : s.Quiet) : Reports last (.fail s)
  | alarm {a e s} (alarm : Alarm a e s) : Reports (some a) (.log e (.fail s))
  | log {last e next} (quiet : e.Quiet) (rest : Reports last next) : Reports last (.log e next)
  | wait {last d next} (rest : Reports last next) : Reports last (.wait d next)
  | ask {last c next} (rest : ∀ reply, Reports (some ⟨c, reply⟩) (next reply)) : Reports last (.ask c next)
  | both {last} {β γ : Type} {left : Branch β} {right : Branch γ} {next} (first : left.Reports)
    (second : right.Reports) (rest : ∀ x y, Reports none (next x y)) : Reports last (.both left right next)

/-! ## Runs that are recorded -/

section Runs

variable {σ α β γ : Type}

/-- The last answer in the record, if one is given. -/
def World.Heard (last : Option Answered) (w : World (σ × List Answered)) : Prop :=
  ∀ a, last = some a → w.store.2.getLast? = some a

/-- What is logged between two worlds: nothing but quiet events, or after them an alarm about the last answer. -/
inductive World.Told (w w' : World (σ × List Answered)) : Finish α → Prop
  | quiet {finish notes} (quiet : ∀ e ∈ notes, Event.Quiet e) (log : w'.log = w.log ++ notes)
    (calm : ∀ s, finish = .failed s → s.Quiet) : Told w w' finish
  | alarm {notes e s a} (quiet : ∀ e ∈ notes, Event.Quiet e) (log : w'.log = w.log ++ (notes ++ [e]))
    (last : w'.store.2.getLast? = some a) (alarm : Alarm a e s) : Told w w' (.failed s)

/-- The step tells of what it is answered. Before it and after it the record ends as is said. -/
def Timed.Tells (before : Option Answered) (after : α → Option Answered) (m : Timed (σ × List Answered) α) : Prop :=
  ∀ w, w.Heard before → w.Told (m w).2 (m w).1 ∧ ∀ a, (m w).1 = .returned a → (m w).2.Heard (after a)

theorem World.heard_none (w : World (σ × List Answered)) : w.Heard none := nofun

/-- Where nothing is logged, nothing may fail that should be told. -/
theorem World.told_of_silent {w w' : World (σ × List Answered)} {finish : Finish α} (log : w'.log = w.log)
    (calm : ∀ s, finish = .failed s → s.Quiet) : w.Told w' finish := by
  have none : w'.log = w.log ++ [] := log.trans (List.append_nil _).symm
  exact .quiet (List.forall_mem_nil _) none calm

namespace Timed

variable {last : Option Answered}

/-- What is told of two steps, one after the other. -/
theorem Tells.bind {after : α → Option Answered} {after' : β → Option Answered} {m : Timed (σ × List Answered) α}
    {k : α → Timed (σ × List Answered) β} (first : m.Tells last after) (rest : ∀ a, (k a).Tells (after a) after') :
    (m >>= k).Tells last after' := by
  intro w heard
  obtain ⟨told, heard'⟩ := first w heard
  rw [bind_apply]
  cases finish : (m w).1 with
  | failed s =>
    rw [finish] at told
    refine ⟨?_, nofun⟩
    cases told with
    | quiet quiet log calm => exact .quiet quiet log fun s' h => calm s' (by cases h; rfl)
    | alarm quiet log last alarm => exact .alarm quiet log last alarm
  | cut =>
    rw [finish] at told
    refine ⟨?_, nofun⟩
    cases told with
    | quiet quiet log calm => exact .quiet quiet log nofun
  | returned a =>
    rw [finish] at told
    obtain ⟨told', heard''⟩ := rest a _ (heard' a finish)
    refine ⟨?_, heard''⟩
    dsimp only
    cases told with
    | @quiet _ notes quiet log _ =>
      have all {more : List Event} (quiet' : ∀ e ∈ more, e.Quiet) : ∀ e ∈ notes ++ more, e.Quiet := by
        intro e there
        exact (List.mem_append.1 there).elim (quiet e) (quiet' e)
      generalize (k a (m w).2).1 = finish' at told'
      cases told' with
      | quiet quiet' log' calm =>
        exact .quiet (all quiet') (by rw [log', log, List.append_assoc]) calm
      | alarm quiet' log' last alarm =>
        exact .alarm (all quiet') (by rw [log', log]; simp only [List.append_assoc]) last alarm

/-- The last answer may be forgotten. -/
theorem Tells.forget {after : α → Option Answered} {m : Timed (σ × List Answered) α} (tells : m.Tells last after) :
    m.Tells last fun _ => none := fun w heard => ⟨(tells w heard).1, fun _ _ => World.heard_none _⟩

/-- A value needs no event. -/
theorem tells_pure (a : α) : (pure a : Timed (σ × List Answered) α).Tells last fun _ => none :=
  fun _ _ => ⟨World.told_of_silent rfl nofun, fun _ _ => World.heard_none _⟩

/-- A quiet failure needs no event. -/
theorem tells_fail {s : Status} (quiet : s.Quiet) {after : α → Option Answered} :
    (fail s : Timed (σ × List Answered) α).Tells last after :=
  fun _ _ => ⟨World.told_of_silent rfl fun _ h => by cases h; exact quiet, nofun⟩

/-- Quiet events tell of nothing. -/
theorem tells_log {events : List Event} (quiet : ∀ e ∈ events, e.Quiet) :
    (modify fun w : World (σ × List Answered) => w.logged events).Tells last fun _ => last :=
  fun _ heard => ⟨.quiet quiet rfl nofun, fun _ _ => heard⟩

/-- Asking tells of nothing yet. -/
theorem tells_called (ctx : Context) (c : Call) :
    (modify fun w : World (σ × List Answered) => w.called ctx c).Tells last fun _ => last :=
  fun _ heard => ⟨World.told_of_silent rfl nofun, fun _ _ => heard⟩

/-- A wait tells of nothing, and neither does its cut as yet: that is logged when the run is over. -/
theorem tells_sleep (deadline : Option Instant) (d : Duration) :
    (sleep (σ := σ × List Answered) deadline d).Tells last fun _ => last := by
  intro w heard
  by_cases ends : InTime deadline w.now (w.now.add d)
  · rw [sleep_of_inTime ends]
    exact ⟨World.told_of_silent rfl nofun, fun _ _ => heard⟩
  · obtain ⟨t, -, slept, -⟩ := sleep_of_late ends
    rw [slept]
    exact ⟨World.told_of_silent rfl nofun, nofun⟩

/-- After an answer it is what is to be told. -/
theorem tells_answer (b : Backend σ) (c : Call) : (answer b.recording c).Tells last fun reply => some ⟨c, reply⟩ := by
  intro w _
  refine ⟨World.told_of_silent rfl nofun, ?_⟩
  rintro _ ⟨⟩ _ ⟨⟩
  exact List.getLast?_concat

/-- An alarm, and the failure that goes with it. -/
theorem tells_alarm {a : Answered} {e : Event} {s : Status} (alarm : Alarm a e s) {after : α → Option Answered} :
    (modify (fun w : World (σ × List Answered) => w.logged [e]) >>= fun _ => fail s).Tells (some a) after := by
  intro w heard
  have log : (w.logged [e]).log = w.log ++ ([] ++ [e]) := rfl
  exact ⟨.alarm (List.forall_mem_nil _) log (heard a rfl) alarm, nofun⟩

end Timed

variable {b : Backend σ} {ctx : Context} {last : Option Answered}

/-- A branch that begins tells of nothing. -/
theorem Branch.begin_tells (branch : Branch β) :
    (branch.begin (σ := σ × List Answered) ctx).Tells last fun _ => none := by
  cases branch with
  | ready v => exact Timed.tells_pure ()
  | ask c verdict => exact (Timed.tells_called ctx c).forget

/-- A branch that reports its answer leaves nothing to be told. -/
theorem Branch.Reports.settle {branch : Branch β} (reports : branch.Reports) :
    (branch.settle b.recording).Tells last fun _ => none := by
  cases branch with
  | ready v => exact Timed.tells_pure v
  | ask c verdict =>
    rw [settle_ask]
    refine (Timed.tells_answer b c).bind fun reply => ?_
    have verdicts := reports reply
    unfold Verdict.Reports at verdicts
    cases result : (verdict reply).result with
    | ok v =>
      rw [result] at verdicts
      exact (Timed.tells_log verdicts).bind fun _ => Timed.tells_pure v
    | error s =>
      rw [result] at verdicts
      obtain ⟨e, events, alarm⟩ := verdicts
      rw [events]
      exact Timed.tells_alarm alarm

/-- A branch that waits first reports its answer as well. -/
theorem Branch.Reports.settleAfter {branch : Branch β} (reports : branch.Reports) (deadline : Option Instant)
    (d : Duration) : (branch.settleAfter b.recording deadline d).Tells last fun _ => none :=
  (Timed.tells_sleep deadline d).bind fun _ => reports.settle

/-- Two lookups report the first failure of either, whichever is settled first. -/
theorem runBoth_tells {left : Branch β} {right : Branch γ} (first : left.Reports) (second : right.Reports) :
    (runBoth b.recording ctx left right).Tells last fun _ => none := by
  refine left.begin_tells.bind fun _ => ?_
  split
  · refine first.settle.bind fun x => right.begin_tells.bind fun _ => ?_
    exact (second.settleAfter _ _).bind fun y => Timed.tells_pure (x, y)
  · refine right.begin_tells.bind fun _ => ?_
    split
    · refine (first.settleAfter _ _).bind fun x => ?_
      exact (second.settleAfter _ _).bind fun y => Timed.tells_pure (x, y)
    · refine (second.settleAfter _ _).bind fun y => ?_
      exact (first.settleAfter _ _).bind fun x => Timed.tells_pure (x, y)

/-- **A run** raises one alarm at most, about the last answer, and fails with the status of that alarm. -/
theorem Script.Reports.run {script : Script α} (reports : script.Reports last) :
    (script.run b.recording ctx).Tells last fun _ => none := by
  induction reports with
  | done a => exact Timed.tells_pure a
  | fail quiet => exact Timed.tells_fail quiet
  | alarm alarm => exact Timed.tells_alarm alarm
  | log quiet _ ih =>
    refine (Timed.tells_log fun e there => ?_).bind fun _ => ih
    rwa [List.mem_singleton.1 there]
  | wait _ ih => exact (Timed.tells_sleep _ _).bind fun _ => ih
  | ask _ ih =>
    rw [run_ask]
    refine (Timed.tells_called ctx _).bind fun _ => (Timed.tells_sleep _ _).bind fun _ => ?_
    exact (Timed.tells_answer b _).bind ih
  | both first second _ ih => exact (runBoth_tells first second).bind fun v => ih v.1 v.2

end Runs

/-! ## Ways to build scripts -/

namespace Script

variable {α β : Type} {last : Option Answered}

/-- A script that needs no answer before it may follow one. -/
theorem Reports.forget {script : Script α} (reports : script.Reports none) : script.Reports last := by
  generalize heard : (none : Option Answered) = before at reports
  induction reports with
  | done a => exact .done a
  | fail quiet => exact .fail quiet
  | alarm _ => cases heard
  | log quiet _ ih => exact .log quiet (ih heard)
  | wait _ ih => exact .wait (ih heard)
  | ask rest _ => exact .ask rest
  | both first second rest _ => exact .both first second rest

/-- Scripts that report, one after the other. -/
theorem Reports.bind {script : Script α} {next : α → Script β} (reports : script.Reports last)
    (rest : ∀ a, (next a).Reports none) : (script >>= next).Reports last := by
  change (script.bind next).Reports last
  induction reports with
  | done a => exact (rest a).forget
  | fail quiet => exact .fail quiet
  | alarm alarm => exact .alarm alarm
  | log quiet _ ih => exact .log quiet ih
  | wait _ ih => exact .wait ih
  | ask _ ih => exact .ask ih
  | both first second _ ih => exact .both first second ih

/-- An input that is refused is reported by its status alone. -/
theorem reports_accept (x : Except Refusal α) : (accept x).Reports last := by
  cases x with
  | ok a => exact .done a
  | error r => exact .fail r.quiet_status

/-- Quiet events before a script change nothing of what it reports. -/
theorem reports_logging {events : List Event} (quiet : ∀ e ∈ events, e.Quiet) {next : Script α}
    (rest : next.Reports last) : (logging events next).Reports last := by
  induction events with
  | nil => exact rest
  | cons e es ih =>
    obtain ⟨first, others⟩ := List.forall_mem_cons.1 quiet
    exact .log first (ih others)

/-- A call to a primary source raises an alarm for failures of two kinds. -/
theorem reports_call {c : Call} (primary : c.source.secondary = false) : (call c).Reports last := by
  refine .ask fun reply => ?_
  rcases reply with ⟨kind, message⟩ | reply
  · cases kind with
    | notFound | unsupportedInput => exact .fail ⟨nofun, nofun, nofun⟩
    | versionConflict => exact .alarm (.rejected primary message)
    | internal => exact .alarm (.broken primary message)
  · exact .done reply

/-- A lookup reports what its branch reports. -/
theorem reports_lookup {branch : Branch α} (reports : branch.Reports) : (lookup branch).Reports last := by
  cases branch with
  | ready v => exact .done v
  | ask c settle =>
    refine .ask fun reply => ?_
    have verdicts := reports reply
    unfold Verdict.Reports at verdicts
    dsimp only
    cases result : (settle reply).result with
    | ok v =>
      rw [result] at verdicts
      exact reports_logging verdicts (.done v)
    | error s =>
      rw [result] at verdicts
      obtain ⟨e, events, alarm⟩ := verdicts
      rw [events]
      exact .alarm alarm

/-- Two lookups that are joined report what either branch reports. -/
theorem reports_joined {left : Branch α} {right : Branch β} (first : left.Reports) (second : right.Reports) :
    (joined left right).Reports last := .both first second fun x y => .done (x, y)

/-- An operation that asks once reports the answer of its primary source. -/
theorem reports_single {ω : Type} (accepted : Except Refusal ω) {call : ω → Call}
    (primary : ∀ w, (call w).source.secondary = false) {respond : (w : ω) → (call w).Reply → List Event × α}
    (quiet : ∀ w reply, ∀ e ∈ (respond w reply).1, e.Quiet) : (single accepted call respond).Reports last :=
  (reports_accept accepted).bind fun w => (reports_call (primary w)).bind fun reply =>
    reports_logging (quiet w reply) (.done _)

end Script

section Lookups

variable {β γ ρ : Type} [Row ρ]

/-- It does not matter what is made of the value of a branch. -/
theorem Branch.Reports.map {branch : Branch β} (reports : branch.Reports) (f : β → γ) : (branch.map f).Reports := by
  cases branch with
  | ready v => trivial
  | ask c settle =>
    intro reply
    have verdicts := reports reply
    unfold Verdict.Reports at verdicts ⊢
    dsimp only
    cases result : (settle reply).result with
    | ok v => rwa [result] at verdicts
    | error s => rwa [result] at verdicts

/-- A lookup of a batch reports the failure of its source, unless that has no data. -/
theorem batchLookup_reports {source : Source} {asked : IdSet} {fetch : List Uuid → Ask (List ρ)}
    (same : (fetch asked.ids).call.source = source) (secondary : source.secondary = true) :
    (batchLookup source.name asked fetch).Reports := by
  subst same
  unfold batchLookup
  split
  · trivial
  · rintro (⟨kind, message⟩ | reply)
    · by_cases none : kind = .notFound
      · subst none
        exact List.forall_mem_singleton.2 (.noSecondaryData _ _)
      · change Verdict.Reports _ (settleLookup _ _ (.error ⟨kind, message⟩))
        rw [settleLookup_of_failed _ asked none]
        exact ⟨_, rfl, .lookup secondary none message⟩
    · exact List.forall_mem_nil _

end Lookups

/-! ## The operations -/

namespace Operation

theorem projectionLookup_reports (asked : IdSet) : (projectionLookup asked).Reports :=
  batchLookup_reports rfl rfl

theorem statsLookup_reports (asked : IdSet) : (statsLookup asked).Reports := batchLookup_reports rfl rfl

theorem favoritesLookup_reports (user : Uuid) (asked : IdSet) : (favoritesLookup user asked).Reports :=
  batchLookup_reports rfl rfl

theorem statsLookupIf_reports (wanted : Bool) (asked : IdSet) : (statsLookupIf wanted asked).Reports := by
  cases wanted with
  | false => trivial
  | true => exact (statsLookup_reports asked).map some

/-- **No operation** raises an alarm but for the answer that fails it. -/
theorem script_reports (ctx : Context) (op : Operation) : (op.script ctx).Reports none := by
  cases op with
  | getProfile r =>
    rw [script_getProfile]
    exact Script.reports_single _ (fun _ => rfl) fun _ _ => List.forall_mem_nil _
  | updateProfile r =>
    rw [script_updateProfile]
    exact Script.reports_single _ (fun _ => rfl) fun _ _ => List.forall_mem_singleton.2 (.profileUpdated _ _ _)
  | deleteProfile r => exact .fail ⟨nofun, nofun, nofun⟩
  | addEngagement r =>
    rw [script_addEngagement]
    exact Script.reports_single _ (fun _ => rfl) fun _ _ => List.forall_mem_nil _
  | removeEngagement r =>
    rw [script_removeEngagement]
    exact Script.reports_single _ (fun _ => rfl) fun _ _ => List.forall_mem_nil _
  | listFavorites r =>
    refine (Script.reports_accept _).bind ?_
    rintro ⟨user, window⟩
    refine (Script.reports_call rfl).bind fun rows => (Script.reports_accept _).bind fun page => ?_
    exact (Script.reports_joined (projectionLookup_reports _) (statsLookup_reports _)).bind fun _ => .done _
  | listWatchHistory r =>
    refine (Script.reports_accept _).bind ?_
    rintro ⟨user, window⟩
    refine (Script.reports_call rfl).bind fun rows => (Script.reports_accept _).bind fun page => ?_
    exact (Script.reports_lookup (projectionLookup_reports _)).bind fun _ => .done _
  | batchGetFavorites r =>
    refine (Script.reports_accept _).bind fun user => (Script.reports_accept _).bind fun ids => ?_
    exact (Script.reports_joined (favoritesLookup_reports user _) (statsLookupIf_reports _ _)).bind fun _ => .done _

end Operation

/-! ## Answers and their logs -/

/-- The call fails with this code. -/
def Answer.Fails {σ α : Type} (a : Answer σ α) (code : Code) : Prop := ∃ s, a.result = .error s ∧ s.code = code

/-- The log has one such event if the call fails with this code, and none if it does not. -/
structure Answer.Announces {σ α : Type} (a : Answer σ α) (code : Code) (such : Event → Bool) : Prop where
  one_iff : a.Fails code ↔ (a.log.countP fun r => such r.event) = 1
  none : ¬a.Fails code → ∀ r ∈ a.log, such r.event = false

namespace Event

def isError (e : Event) : Bool := e.level = .error

def warns (message : String) (e : Event) : Bool := e.level = .warn ∧ e.message = message

/-- The event says that the call failed. -/
def closes (e : Event) : Bool := "call failed: ".toList.isPrefixOf e.message.toList

end Event

namespace Occasion

variable {σ : Type}

section Recording

variable (x : Occasion σ) (op : Operation)

/-- The same occasion, with a record of the answers. -/
def recording : Occasion (σ × List Answered) := { x with backend := x.backend.recording, store := (x.store, []) }

/-- The answers that a call gets, in the order in which it gets them. -/
def answers : List Answered := (x.recording.serve op).store.2

/-- The record changes nothing. -/
theorem run_recording : x.run op = ((x.recording.run op).1, (x.recording.run op).2.viewed Prod.fst) :=
  (op.script (x.context op)).run_viewed x.backend.recording_extends (.start x.now (x.store, []))

/-- The last answer of all is this failure, and the status is the one that it stands for: at a primary source that of
its kind, at a secondary source that of a failed lookup. -/
def DecidedBy (f : Failure) (s : Status) : Prop := ∃ c : Call, (x.answers op).getLast? = some ⟨c, .error f⟩ ∧
  s = if c.source.secondary then .lookupFailed c.source.name else f.status

/-- The alarm of a call that ends so: none, or that of its last answer, or that its time is up. -/
inductive Alarms : Except Status op.Response → List Event → Prop
  | none {result} (calm : ∀ s, result = .error s → s.Quiet) : Alarms result []
  | failure {a e s} (last : (x.answers op).getLast? = some a) (alarm : Alarm a e s) : Alarms (.error s) [e]
  | overrun : Alarms (.error .deadlineExceeded) [(x.context op).event (.deadlineExceeded op.kind)]

/-- The answer to a call and its log agree. -/
structure LogAgrees : Prop where
  internal : (x.serve op).Announces .internal Event.isError
  /-- An error tells what the collaborator said whose failure decided the response. -/
  detail : ∀ r ∈ (x.serve op).log, r.event.isError = true → ∃ f s, (x.serve op).result = .error s ∧
    x.DecidedBy op f s ∧ r.event.fields.lookup "detail" = some (.text f.message)
  aborted : (x.serve op).Announces .aborted (Event.warns "conditional write rejected")
  deadlineExceeded : (x.serve op).Announces .deadlineExceeded
    (Event.warns ("deadline exceeded for " ++ op.kind.name ++ " call"))
  failed : ∀ s, (x.serve op).result = .error s → ∃ before event,
    (x.serve op).log = before ++ [⟨some (op.span x.call), event⟩] ∧ event.level = .debug ∧
      event.message = "call failed: " ++ s.render ∧
      event.fields = [("request_id", .text x.call.context.requestId)] ∧ ∀ r ∈ before, r.event.closes = false
  succeeded : ∀ response, (x.serve op).result = .ok response → ∀ r ∈ (x.serve op).log, r.event.closes = false

/-- The log of a call: notes, an alarm maybe, and last of all its failure. -/
theorem serve_events (x : Occasion σ) (op : Operation) : ∃ notes alarms, (∀ e ∈ notes, Event.Quiet e) ∧
    x.Alarms op (x.serve op).result alarms ∧
    (x.serve op).log = (notes ++ alarms ++ closing x.call (x.serve op).result).map
      fun e => ⟨some (op.span x.call), e⟩ := by
  have told : World.Told (.start x.now (x.store, [])) (x.recording.run op).2 (x.recording.run op).1 :=
    ((op.script_reports (x.context op)).run _ (World.heard_none _)).1
  have finish := congrArg Prod.fst (x.run_recording op)
  have log := congrArg (fun r => r.2.log) (x.run_recording op)
  have answers : x.answers op = (x.recording.run op).2.store.2 := congrArg Prod.snd (x.recording.serve_store op)
  change (x.run op).2.log = (x.recording.run op).2.log at log
  rw [serve_log, serve_result, log]
  change (x.run op).1 = (x.recording.run op).1 at finish
  rw [← finish] at told
  generalize (x.run op).1 = ending at told
  cases told with
  | @quiet _ notes quiet log calm =>
    cases ending with
    | returned a => exact ⟨notes, [], quiet, .none nofun, by rw [log]; rfl⟩
    | failed s =>
      refine ⟨notes, [], quiet, .none fun s' h => calm s' ?_, by rw [log]; rfl⟩
      cases h
      rfl
    | cut => exact ⟨notes, _, quiet, .overrun, by rw [log]; rfl⟩
  | @alarm notes e s a quiet log last alarm =>
    refine ⟨notes, [e], quiet, .failure (answers ▸ last) alarm, ?_⟩
    rw [log]
    change (([] ++ (notes ++ [e])) ++ [] ++ _).map _ = _
    rw [List.nil_append, List.append_nil]

end Recording

/-! ## Counting -/

section Counting

variable {x : Occasion σ} {op : Operation} {such : Event → Bool} {code : Code}

/-- The events of an alarm are such events exactly if the call fails with this code. -/
structure Marks (op : Operation) (such : Event → Bool) (code : Code) : Prop where
  loud : ∀ s : Status, s.Quiet → s.code ≠ code
  quiet : ∀ e : Event, e.Quiet → such e = false
  closing : ∀ id s, such (.ofCall id (.failed s)) = false
  alarm : ∀ a e s, Alarm a e s → (such e = true ↔ s.code = code)
  overrun : ∀ id, such (.ofCall id (.deadlineExceeded op.kind)) = true ↔ Code.deadlineExceeded = code

/-- The alarms of a call have just one event of a mark if the call fails with its code, and none if not. -/
theorem Marks.count (marks : Marks op such code) {result : Except Status op.Response} {alarms : List Event}
    (raised : x.Alarms op result alarms) :
    (∃ s, result = .error s ∧ s.code = code) ∧ alarms.countP such = 1 ∨
      ¬(∃ s, result = .error s ∧ s.code = code) ∧ ∀ e ∈ alarms, such e = false := by
  have one {s : Status} {e : Event} (same : such e = true ↔ s.code = code) :
      (∃ s', (.error s : Except Status op.Response) = .error s' ∧ s'.code = code) ∧ [e].countP such = 1 ∨
        ¬(∃ s', (.error s : Except Status op.Response) = .error s' ∧ s'.code = code) ∧
          ∀ e' ∈ [e], such e' = false := by
    by_cases h : such e = true
    · exact .inl ⟨⟨s, rfl, same.1 h⟩, by simp [h]⟩
    · refine .inr ⟨?_, by simpa using h⟩
      rintro ⟨s', failed, is⟩
      cases failed
      exact h (same.2 is)
  cases raised with
  | none calm =>
    refine .inr ⟨?_, List.forall_mem_nil _⟩
    rintro ⟨s, failed, is⟩
    exact marks.loud s (calm s failed) is
  | failure last alarm => exact one (marks.alarm _ _ _ alarm)
  | overrun => exact one (marks.overrun _)

/-- **A mark** is logged once by a call that fails with its code, and never by any other. -/
theorem Marks.announces (marks : Marks op such code) : (x.serve op).Announces code such := by
  obtain ⟨notes, alarms, quiet, raised, log⟩ := x.serve_events op
  have closings : ∀ e ∈ Operation.closing x.call (x.serve op).result, such e = false := by
    intro e there
    cases result : (x.serve op).result with
    | ok response => rw [result] at there; cases there
    | error s =>
      rw [result] at there
      rw [List.mem_singleton.1 there]
      exact marks.closing _ s
  have count : ((x.serve op).log.countP fun r => such r.event) = alarms.countP such := by
    rw [log, List.countP_map, List.countP_append, List.countP_append]
    have notes' : notes.countP such = 0 := List.countP_eq_zero.2 fun e there => by simp [marks.quiet e (quiet e there)]
    have closings' : (Operation.closing x.call (x.serve op).result).countP such = 0 :=
      List.countP_eq_zero.2 fun e there => by simp [closings e there]
    change notes.countP such + alarms.countP such + (Operation.closing x.call (x.serve op).result).countP such = _
    omega
  rcases marks.count raised with ⟨fails, one⟩ | ⟨fails, silent⟩
  · exact ⟨⟨fun _ => count.trans one, fun _ => fails⟩, fun other => absurd fails other⟩
  · have zero : alarms.countP such = 0 := List.countP_eq_zero.2 fun e there => by simp [silent e there]
    refine ⟨⟨fun h => absurd h fails, fun h => by omega⟩, fun _ r there => ?_⟩
    exact Bool.eq_false_iff.2 (List.countP_eq_zero.1 (count.trans zero) r there)

end Counting

/-- The two warnings are told apart. -/
theorem overrun_ne_rejected (kind : OperationKind) :
    "deadline exceeded for " ++ kind.name ++ " call" ≠ "conditional write rejected" := by
  cases kind <;> decide

/-- Errors mark internal failures. -/
theorem marks_internal (op : Operation) : Marks op Event.isError .internal where
  loud s quiet := quiet.1
  quiet e quiet := by cases quiet <;> rfl
  closing _ _ := rfl
  alarm a e s alarm := by
    cases alarm with
    | rejected => exact iff_of_false nofun nofun
    | broken | lookup => exact iff_of_true rfl rfl
  overrun _ := iff_of_false nofun nofun

/-- The warning of a rejected write marks conflicts. -/
theorem marks_aborted (op : Operation) : Marks op (Event.warns "conditional write rejected") .aborted where
  loud s quiet := quiet.2.1
  quiet e quiet := by cases quiet <;> exact decide_eq_false fun h => nomatch h.1
  closing _ _ := decide_eq_false fun h => nomatch h.1
  alarm a e s alarm := by
    cases alarm with
    | rejected => exact iff_of_true (decide_eq_true ⟨rfl, rfl⟩) rfl
    | broken | lookup => exact iff_of_false (fun h => nomatch (of_decide_eq_true h).1) nofun
  overrun _ := iff_of_false (fun h => overrun_ne_rejected op.kind (of_decide_eq_true h).2) nofun

/-- The warning of the kind of operation marks calls that were cut. -/
theorem marks_deadlineExceeded (op : Operation) :
    Marks op (Event.warns ("deadline exceeded for " ++ op.kind.name ++ " call")) .deadlineExceeded where
  loud s quiet := quiet.2.2
  quiet e quiet := by cases quiet <;> exact decide_eq_false fun h => nomatch h.1
  closing _ _ := decide_eq_false fun h => nomatch h.1
  alarm a e s alarm := by
    cases alarm with
    | rejected => exact iff_of_false (fun h => overrun_ne_rejected op.kind (of_decide_eq_true h).2.symm) nofun
    | broken | lookup => exact iff_of_false (fun h => nomatch (of_decide_eq_true h).1) nofun
  overrun _ := iff_of_true (decide_eq_true ⟨rfl, rfl⟩) rfl

/-! ## Closings -/

theorem head_append {s t : String} {c : Char} {rest : List Char} (head : s.toList = c :: rest) :
    (s ++ t).toList = c :: (rest ++ t.toList) := by
  rw [String.toList_append, head, List.cons_append]

/-- A message that begins with another letter does not close a call. -/
theorem closes_of_head {e : Event} {c : Char} {rest : List Char} (message : e.message.toList = c :: rest)
    (other : c ≠ 'c') : e.closes = false := by
  have mark : "call failed: ".toList = 'c' :: "all failed: ".toList := by decide
  rw [Event.closes, message, mark, List.isPrefixOf_cons_cons, beq_false_of_ne other.symm, Bool.false_and]

theorem closes_of_message {e : Event} {text : String} (message : e.message = text)
    (other : "call failed: ".toList.isPrefixOf text.toList = false) : e.closes = false := by
  rw [Event.closes, message, other]

/-- No quiet event closes a call. -/
theorem quiet_not_closes {e : Event} (quiet : e.Quiet) : e.closes = false := by
  cases quiet with
  | noSecondaryData source ids =>
    exact closes_of_message (rfl : _ = "secondary source has no data for batch") (by decide)
  | profileUpdated id user version =>
    have head : "profile ".toList = 'p' :: "rofile ".toList := by decide
    exact closes_of_head (head_append (head_append (head_append head))) (by decide)

/-- No alarm closes a call. -/
theorem alarm_not_closes {x : Occasion σ} {op : Operation} {result : Except Status op.Response} {alarms : List Event}
    (raised : x.Alarms op result alarms) : ∀ e ∈ alarms, e.closes = false := by
  cases raised with
  | none => exact List.forall_mem_nil _
  | failure last alarm =>
    rw [List.forall_mem_singleton]
    cases alarm with
    | rejected => exact closes_of_message (rfl : _ = "conditional write rejected") (by decide)
    | broken => exact closes_of_message (rfl : _ = "collaborator failure") (by decide)
    | lookup => exact closes_of_message (rfl : _ = "secondary lookup failed") (by decide)
  | overrun =>
    have head : "deadline exceeded for ".toList = 'd' :: "eadline exceeded for ".toList := by decide
    rw [List.forall_mem_singleton]
    exact closes_of_head (head_append (head_append head)) (by decide)

/-! ## The law -/

/-- Nothing that is logged before the end says that the call failed. -/
theorem not_closes {x : Occasion σ} {op : Operation} {notes alarms : List Event} (quiet : ∀ e ∈ notes, Event.Quiet e)
    (raised : x.Alarms op (x.serve op).result alarms) {span : Span} :
    ∀ r ∈ (notes ++ alarms).map fun e => (⟨some span, e⟩ : LogRecord), r.event.closes = false := by
  intro r there
  obtain ⟨e, mem, rfl⟩ := List.mem_map.1 there
  rcases List.mem_append.1 mem with mem | mem
  · exact quiet_not_closes (quiet e mem)
  · exact alarm_not_closes raised e mem

/-- An alarm about an answer tells what the collaborator said that failed. -/
theorem detail_of_alarm {x : Occasion σ} {op : Operation} {a : Answered} {e : Event} {s : Status}
    (last : (x.answers op).getLast? = some a) (alarm : Alarm a e s) (loud : e.isError = true) :
    ∃ f, x.DecidedBy op f s ∧ e.fields.lookup "detail" = some (.text f.message) := by
  cases alarm with
  | rejected => cases loud
  | broken primary message => exact ⟨_, ⟨_, last, by rw [primary]; rfl⟩, rfl⟩
  | lookup secondary failed message => exact ⟨_, ⟨_, last, by rw [secondary]; rfl⟩, rfl⟩

/-- **The log agrees** with the answer, whatever fails and whenever it does. -/
theorem log_agrees (x : Occasion σ) (op : Operation) : x.LogAgrees op := by
  obtain ⟨notes, alarms, quiet, raised, log⟩ := x.serve_events op
  constructor
  case internal => exact (marks_internal op).announces
  case aborted => exact (marks_aborted op).announces
  case deadlineExceeded => exact (marks_deadlineExceeded op).announces
  case detail =>
    intro r there loud
    rw [log] at there
    obtain ⟨e, mem, rfl⟩ := List.mem_map.1 there
    have marks := marks_internal op
    rcases List.mem_append.1 mem with mem | mem
    · rcases List.mem_append.1 mem with mem | mem
      · cases loud.symm.trans (marks.quiet e (quiet e mem))
      · generalize result : (x.serve op).result = ending at raised
        cases raised with
        | none => cases mem
        | failure last alarm =>
          cases List.mem_singleton.1 mem
          obtain ⟨f, decided, detail⟩ := detail_of_alarm last alarm loud
          exact ⟨f, _, rfl, decided, detail⟩
        | overrun =>
          cases List.mem_singleton.1 mem
          cases loud
    · cases result : (x.serve op).result with
      | ok response => rw [result] at mem; cases mem
      | error s =>
        rw [result] at mem
        cases List.mem_singleton.1 mem
        cases loud
  case failed =>
    intro s failed
    rw [failed, closing, List.map_append] at log
    exact ⟨_, _, log, rfl, rfl, rfl, not_closes quiet raised⟩
  case succeeded =>
    intro response success
    rw [log, success, closing, List.append_nil]
    exact not_closes quiet raised

end Occasion
end ProfileGateway
