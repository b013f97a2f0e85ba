import ProfileGateway.Proofs.Deadline.Law
import ProfileGateway.Proofs.Operation.Likeness
import ProfileGateway.Proofs.Script.Steps
/-!
# Enforcing a deadline

Any operation may be run under a policy, not only those of the gateway. It is handed the context of its kind and comes
to its course if there is time for that, until the timer of its deadline goes off; if there is not, it is cut when that
happens, and one warning says so (`GuardedCall.deadline_enforced`). The timer counts whole milliseconds, so that a
deadline between two of them leaves time to the later one (`GuardedCall.finished_between_ticks`).
-/
namespace ProfileGateway

/-- Ends with a result. -/
def Script.ending {α : Type} : Except Status α → Script α
  | .ok a => .done a
  | .error s => .fail s

/-- Waits and then ends with a result. -/
def Script.waiting {α : Type} (time : Duration) (result : Except Status α) : Script α := .wait time (.ending result)

/-- What waits and then ends takes its time and does nothing else. -/
theorem Script.course_waiting {σ α : Type} (b : Backend σ) (time : Duration) (result : Except Status α) (s : σ) :
    (waiting time result).course b s = ⟨result, time, s, [], []⟩ := by
  cases result <;> rfl

/-- An operation that is run under a policy: what runs it, under which context and with which headers, and the world
that it begins in. -/
structure GuardedCall (σ α : Type) where
  policy : TimeoutPolicy
  backend : Backend σ
  parent : Context
  headers : List (String × String)
  kind : OperationKind
  operation : Context → Script α
  world : World σ

namespace GuardedCall

variable {σ α : Type} (x : GuardedCall σ α)

def metadata : Metadata := .ofHeaders (.ofList x.headers)

/-- The context that the policy makes when the call begins. -/
def context : Context := x.policy.contextFor x.world.now x.parent x.metadata x.kind

def report : Report σ α := x.policy.run x.backend x.parent x.metadata x.kind x.operation x.world

/-- The time that the call took. -/
def elapsed : Duration := x.report.world.now.since x.world.now

/-- What the operation comes to in the context of its kind if nothing cuts it. -/
def course : Course σ α := (x.operation x.context).course x.backend x.world.store

/-- The time that is left when the call begins: until the timer of its deadline goes off. -/
def left? : Option Duration := x.context.deadline.map fun d => d.dueIn x.world.now

/-- What is logged when the operation is cut. -/
def warning : Event := x.context.event (.deadlineExceeded x.kind)

/-! ## The run and the report of it -/

/-- How the run of the operation ends, and the world after it. -/
def ran : Finish α × World σ := (x.operation x.context).run x.backend x.context x.world

/-- The report of a call says how its run ended. -/
theorem report_spec : x.report.result = x.ran.1.result ∧ (x.report.finished = true ↔ x.ran.1 ≠ .cut) ∧
    x.report.world.now = x.ran.2.now ∧ x.report.world.store = x.ran.2.store ∧
      x.report.world.calls = x.ran.2.calls := TimeoutPolicy.run_of rfl

/-- The log of a call is that of its run, and a warning if that was cut. -/
theorem log_report : x.report.world.log = x.ran.2.log ++ x.ran.1.events x.context x.kind := TimeoutPolicy.run_log rfl

/-- The report names the context that was handed to the operation. -/
theorem context_report : x.report.context = x.context := by
  unfold report TimeoutPolicy.run
  dsimp only
  split <;> rfl

/-- The run comes to the course of the operation or is cut. -/
theorem runs : RunsTo x.context x.world x.course x.ran := (x.operation x.context).runs x.backend x.context x.world

/-! ## The context -/

/-- The deadline is the earlier of that of the parent and the end of the timeout. -/
theorem deadline_context : x.context.deadline =
    Option.merge Instant.earliest x.parent.deadline (timeoutEnd? x.world.now (x.policy.forKind x.kind)) :=
  TimeoutPolicy.deadline_contextFor x.world.now x.parent x.policy x.metadata x.kind

/-- The context has the request id of its parent. -/
theorem requestId_context : x.context.requestId = x.parent.requestId :=
  (Derivation.underPolicy x.policy x.metadata x.kind).requestId_apply x.world.now x.parent

/-! ## The law -/

/-- On a whole millisecond of the clock, what the context has remaining is left, rounded up to whole milliseconds. -/
theorem left?_of_tick (whole : x.world.now.tick = x.world.now) :
    x.left? = (x.context.remaining x.world.now).map Duration.roundedUp := by
  rw [left?, Context.remaining, Option.map_map]
  exact Option.map_congr fun d _ => Instant.dueIn_of_tick whole d

/-- There is time for all that the operation does. -/
def Affords : Prop :=
  x.context.deadline = none ∨ x.course.elapsed = .zero ∨
    ∃ left, x.left? = some left ∧ x.course.elapsed.nanos ≤ left.nanos

variable {x}

/-- What there is time for ends in time. -/
theorem Affords.inTime (affords : x.Affords) :
    InTime x.context.deadline x.world.now (x.world.now.add x.course.elapsed) := by
  rw [inTime_add]
  intro left some
  obtain unlimited | atOnce | ⟨left', some', enough⟩ := affords
  · rw [unlimited] at some
    cases some
  · rw [atOnce]
    exact Nat.zero_le _
  · cases some.symm.trans some'
    exact enough

/-- What there is too little time for does not end in time. -/
theorem not_inTime {left : Duration} (some : x.left? = some left) (less : left.nanos < x.course.elapsed.nanos) :
    ¬InTime x.context.deadline x.world.now (x.world.now.add x.course.elapsed) := by
  rw [inTime_add]
  intro enough
  exact absurd (enough left some) (Nat.not_le.2 less)

variable (x)

/-- What a policy makes of an operation. -/
structure Enforced : Prop where
  /-- The operation is run in the context that the policy makes when the call begins. -/
  handed : x.report.context = x.context
  /-- Its deadline is the earlier of the deadline that was there and the end of the timeout, if that is one. -/
  limit : x.context.deadline =
    Option.merge Instant.earliest x.parent.deadline (timeoutEnd? x.world.now (x.policy.forKind x.kind))
  /-- A deadline on a whole millisecond of the clock leaves just what the context has remaining. -/
  onTick : ∀ d, x.context.deadline = some d → d.tick = d → x.left? = x.context.remaining x.world.now
  /-- From a whole millisecond on, any deadline leaves what the context has remaining, rounded up to whole
  milliseconds. -/
  rounded : x.world.now.tick = x.world.now → x.left? = (x.context.remaining x.world.now).map Duration.roundedUp
  /-- If there is time for it, the operation comes to its course. -/
  inTime : x.Affords → x.report.result = x.course.result ∧ x.report.finished = true ∧
    x.elapsed = x.course.elapsed ∧ x.report.world.store = x.course.store ∧
      x.report.world.calls.map CallRecord.call = x.world.calls.map CallRecord.call ++ x.course.calls ∧
        x.report.world.log = x.world.log ++ x.course.log
  /-- If there is not, it is cut when the time is over, and that is logged after what it has logged by then. -/
  late : ∀ left, x.left? = some left → left.nanos < x.course.elapsed.nanos →
    x.report.result = .error ⟨.deadlineExceeded, "deadline exceeded"⟩ ∧ x.report.finished = false ∧
      x.elapsed = left ∧ ∃ events, events <+: x.course.log ∧ x.report.world.log = x.world.log ++ events ++ [x.warning]
  /-- What is logged then is a warning under the request id of the call. -/
  stamped : x.warning.level = .warn ∧ x.warning.message = "deadline exceeded for " ++ x.kind.name ++ " call" ∧
    x.warning.fields = [("request_id", .text x.parent.requestId)]

/-- **An operation under a policy** comes to its course or is cut at its deadline; one that waits and then ends with a
result, each as the context says, has just that as its course. -/
theorem deadline_enforced : x.Enforced ∧ ∀ (time : Context → Duration) (result : Context → Except Status α),
    x.operation = (fun ctx => .waiting (time ctx) (result ctx)) →
      x.course = ⟨result x.context, time x.context, x.world.store, [], []⟩ := by
  obtain ⟨result, finished, now, store, calls⟩ := x.report_spec
  refine ⟨⟨x.context_report, x.deadline_context, ?onTick, ?rounded, ?inTime, ?late, ?stamped⟩, ?waiting⟩
  case onTick =>
    intro d imposed whole
    rw [left?, Context.remaining, imposed, Option.map_some, Option.map_some, Instant.dueIn, whole]
  case rounded =>
    exact x.left?_of_tick
  case inTime =>
    intro affords
    obtain ⟨finish, world⟩ := x.runs.inTime affords.inTime
    have asked := congrArg (fun w : World σ => w.calls.map CallRecord.call) world
    rw [World.calls_untimed, World.calls_after, World.calls_untimed] at asked
    refine ⟨?_, finished.2 (x.runs.uncut_iff.2 affords.inTime), ?_, ?_, ?_, ?_⟩
    · rw [result, finish, Finish.result_ofExcept]
    · rw [elapsed, now]
      exact (congrArg (fun w : World σ => w.now.since x.world.now) world).trans (x.world.now.since_add _)
    · rw [store]
      exact congrArg World.store world
    · rw [calls]
      exact asked
    · rw [log_report, finish, Finish.events_ofExcept, List.append_nil]
      exact congrArg World.log world
  case late =>
    intro left some less
    obtain ⟨cut, ⟨d, imposed, reached⟩, part⟩ := x.runs.late (not_inTime some less)
    refine ⟨?_, Bool.eq_false_iff.2 (mt finished.1 (not_not_intro cut)), ?_, ?_⟩
    · rw [result, cut]
      rfl
    · rw [elapsed, now, reached, Instant.since_latest]
      rw [left?, imposed] at some
      exact Option.some.inj some
    · obtain ⟨events, added⟩ := ((x.operation x.context).run_grows x.backend x.context x.world).log
      have within : x.world.log ++ events <+: x.world.log ++ x.course.log := added ▸ part.log
      refine ⟨events, (List.prefix_append_right_inj _).1 within, ?_⟩
      rw [log_report, cut, added]
      rfl
  case stamped =>
    refine ⟨rfl, rfl, ?_⟩
    show [("request_id", FieldValue.text x.context.requestId)] = _
    rw [requestId_context]
  case waiting =>
    intro time result waits
    rw [course, waits]
    exact Script.course_waiting x.backend _ _ _

/-! ## A wait that ends at the deadline, and one that comes after it -/

/-- The call begins at 7 ms. Its operation waits, the longer of two waits if the context carries metadata, and fails. -/
def punctual (deadline timeout : Duration) (headers : List (String × String)) : GuardedCall Unit Nat where
  policy := ⟨timeout, .zero, .zero⟩
  backend := ⟨fun _ => .zero, fun _ s => (.error ⟨.internal, ""⟩, s)⟩
  parent := (Context.root "punctual").endingBy (Instant.start.add deadline)
  headers := headers
  kind := .command
  operation := fun ctx => .waiting (.ofMillis (if ctx.metadata.isSome then 5 else 4)) (.error ⟨.notFound, "nothing"⟩)
  world := .start (Instant.start.add (.ofMillis 7)) ()

/-- A wait that ends at its deadline, one that is cut, and one that begins after its deadline. -/
theorem deadline_enforced_punctual :
    let onTime := punctual (.ofMillis 20) (.ofMillis 5) [("Idempotency-Key", "k")]
    let tooLong := punctual (.ofMillis 11) .zero [("Idempotency-Key", "k")]
    let past := punctual (.ofMillis 3) (.ofMillis 9) [("Idempotency-Key", " ")]
    onTime.report.result = .error ⟨.notFound, "nothing"⟩ ∧ onTime.elapsed = .ofMillis 5 ∧
      tooLong.report.result = .error ⟨.deadlineExceeded, "deadline exceeded"⟩ ∧ tooLong.elapsed = .ofMillis 4 ∧
        past.elapsed = .zero ∧ past.report.world.log = [past.warning] := by
  intro onTime tooLong past
  have enough : onTime.Affords := .inr (.inr ⟨.ofMillis 5, by decide +kernel, by decide +kernel⟩)
  obtain ⟨result, -, elapsed, -⟩ := onTime.deadline_enforced.1.inTime enough
  have course := onTime.deadline_enforced.2 _ _ rfl
  obtain ⟨cut, -, elapsed', -⟩ :=
    tooLong.deadline_enforced.1.late (.ofMillis 4) (by decide +kernel) (by decide +kernel)
  obtain ⟨-, -, atOnce, events, before, log⟩ :=
    past.deadline_enforced.1.late .zero (by decide +kernel) (by decide +kernel)
  have silent : past.course.log = [] := congrArg Course.log (past.deadline_enforced.2 _ _ rfl)
  rw [silent, List.prefix_nil] at before
  rw [before] at log
  exact ⟨result.trans (congrArg Course.result course), elapsed.trans (by decide +kernel), cut, elapsed', atOnce, log⟩

/-- An operation that waits for 2 ms comes to its end with 1.5 ms remaining. -/
theorem finished_between_ticks :
    let between : GuardedCall Unit Nat :=
      { policy := ⟨.zero, ⟨1500000⟩, .zero⟩
        backend := ⟨fun _ => .zero, fun _ s => (.error ⟨.internal, ""⟩, s)⟩
        parent := .root "between"
        headers := []
        kind := .query
        operation := fun _ => .waiting (.ofMillis 2) (.ok 7)
        world := .start .start () }
    between.context.remaining between.world.now = some ⟨1500000⟩ ∧ between.report.result = .ok 7 ∧
      between.report.finished = true ∧ between.elapsed = .ofMillis 2 ∧ between.report.world.log = [] := by
  decide +kernel

end GuardedCall
end ProfileGateway
