import ProfileGateway.Collaborator.Store
import ProfileGateway.Proofs.Deadline.FreeTime
import ProfileGateway.Proofs.Deadline.Lineage
import ProfileGateway.Proofs.Operation.Calls
/-!
# Deadlines

An operation under a deadline is what it would be without one if there is time for that; if there is not it fails
exactly when the time is over (`Occasion.deadline_law`). The deadline is the earlier of the one that the call brings
and the end of the timeout of its kind, and time is over when its timer goes off. That is at the deadline itself if
it stands on a whole millisecond of the clock, and else at the next one: what takes until then is not cut
(`Occasion.uncut_between_ticks`).
-/
namespace ProfileGateway

open Operation

namespace Instant

/-- After a duration it is that long ago. -/
theorem since_add (t : Instant) (d : Duration) : (t.add d).since t = d := by
  apply Duration.ext
  change t.nanos + d.nanos - t.nanos = d.nanos
  omega

/-- Up to the later of two instants it is as long as to the other one, if there is any time at all. -/
theorem since_latest (t d : Instant) : (t.latest d).since t = d.since t := by
  apply Duration.ext
  change (t.latest d).nanos - t.nanos = d.nanos - t.nanos
  rw [nanos_latest]
  omega

/-- An instant lies beyond all others exactly if its seconds do. -/
theorem add?_eq_none {t : Instant} {d : Duration} :
    t.add? d = none ↔ secondsLimit ≤ (t.nanos + d.nanos) / Duration.nanosPerSecond := by
  unfold add?
  split
  · next inside => exact ⟨nofun, fun beyond => absurd inside (Nat.not_lt.2 beyond)⟩
  · next beyond => exact ⟨fun _ => Nat.le_of_not_lt beyond, fun _ => rfl⟩

/-- What ends at an instant is shorter than what ends beyond all of them. -/
theorem lt_of_add?_eq_none {t finish : Instant} {d limit : Duration} (ends : t.add? d = some finish)
    (endless : t.add? limit = none) : d.nanos < limit.nanos := by
  refine Nat.lt_of_not_le fun order => ?_
  have later : (t.nanos + limit.nanos) / Duration.nanosPerSecond ≤ (t.nanos + d.nanos) / Duration.nanosPerSecond :=
    Nat.div_le_div_right (Nat.add_le_add_left order _)
  have none : t.add? d = none := add?_eq_none.2 (Nat.le_trans (add?_eq_none.1 endless) later)
  cases none.symm.trans ends

end Instant

namespace Occasion

variable {σ : Type} (x : Occasion σ) (op : Operation)

/-! ## How much time there is -/

/-- The end of the timeout of the operation's kind; zero is no timeout, nor is one that ends beyond all instants. -/
def timeoutEnd? : Option Instant := (TimeoutPolicy.limit? (x.policy.forKind op.kind)).bind x.now.add?

/-- The earlier of the deadline that the call brings and the end of the timeout. -/
def deadline? : Option Instant :=
  match x.call.context.deadline, x.timeoutEnd? op with
  | some brought, some own => some (brought.earliest own)
  | some brought, none => some brought
  | none, own => own

/-- The time that is left when the operation begins: until the timer of its deadline goes off, and none at all after
that. -/
def timeLeft? : Option Duration := (x.deadline? op).map fun d => d.dueIn x.now

/-- On a whole millisecond of the clock, the time to the deadline is left, rounded up to whole milliseconds. -/
theorem timeLeft?_of_tick (whole : x.now.tick = x.now) :
    x.timeLeft? op = (x.deadline? op).map fun d => (d.since x.now).roundedUp :=
  Option.map_congr fun d _ => Instant.dueIn_of_tick whole d

/-- The context of an operation ends at its deadline. -/
theorem deadline_context : (x.context op).deadline = x.deadline? op := by
  unfold context TimeoutPolicy.contextFor Context.endingWithin deadline? timeoutEnd? TimeoutPolicy.limit?
  by_cases zero : (x.policy.forKind op.kind).isZero
  · simp only [zero, if_true, Option.bind_none, Context.deadline_carrying]
    cases x.call.context.deadline <;> rfl
  · simp only [zero, if_false, Bool.false_eq_true, Option.bind_some]
    cases x.now.add? (x.policy.forKind op.kind) with
    | none =>
      simp only [Context.deadline_carrying]
      cases x.call.context.deadline <;> rfl
    | some own =>
      simp only [Context.endingBy, Context.deadline_carrying]
      cases x.call.context.deadline <;> rfl

/-- A call is not cut exactly if there is as much time as it takes. -/
theorem uncut_iff_timeLeft : x.Uncut op ↔ ∀ left, x.timeLeft? op = some left → (x.freeTime op).nanos ≤ left.nanos := by
  rw [uncut_iff, elapsed_course, deadline_context, inTime_add]
  rfl

/-! ## Without a deadline -/

/-- The call as it would be without a deadline: it brings none, and nothing has a timeout. -/
def undeadlined : Occasion σ :=
  { x with policy := ⟨.zero, .zero, .zero⟩, call := ⟨x.call.context.unbounded, x.call.metadata⟩ }

/-- A timeout changes nothing of a context but its deadline. -/
theorem unbounded_endingWithin (ctx : Context) (now : Instant) (timeout : Duration) :
    (ctx.endingWithin now timeout).unbounded = ctx.unbounded := by
  unfold Context.endingWithin
  split
  · rfl
  · split <;> rfl

theorem carrying_unbounded (ctx : Context) (m : Metadata) : ctx.unbounded.carrying m = (ctx.carrying m).unbounded := by
  unfold Context.carrying
  split <;> rfl

/-- Without a deadline the context is the same apart from that. -/
theorem context_undeadlined : x.undeadlined.context op = (x.context op).unbounded := by
  have none : x.undeadlined.policy.forKind op.kind = .zero := by
    cases op.kind <;> rfl
  unfold context TimeoutPolicy.contextFor
  rw [unbounded_endingWithin, none]
  exact carrying_unbounded x.call.context x.call.metadata

/-- What an operation does is not told by its deadline. -/
theorem script_unbounded (ctx : Context) : op.script ctx.unbounded = op.script ctx := by
  cases op <;> rfl

/-- Without a deadline the course is the same. -/
theorem course_undeadlined : x.undeadlined.course op = x.course op := by
  unfold course
  rw [context_undeadlined, script_unbounded]
  rfl

/-- Without a deadline nothing is cut. -/
theorem uncut_undeadlined : x.undeadlined.Uncut op := by
  apply uncut_of_unlimited
  rw [context_undeadlined]
  rfl

/-! ## Too late -/

variable {x op}

/-- A call that is not cut takes as long as its course. -/
theorem elapsed_of_uncut (uncut : x.Uncut op) : (x.serve op).elapsed = (x.course op).elapsed := by
  unfold Answer.elapsed
  rw [(serve_uncut uncut).2.2.2]
  exact x.now.since_add (x.course op).elapsed

/-- A call that is cut has taken all the time that was left. -/
theorem elapsed_of_cut (cut : ¬x.Uncut op) : x.timeLeft? op = some (x.serve op).elapsed := by
  obtain ⟨-, ⟨d, imposed, now⟩, -⟩ := (x.runs op).late (mt (x.uncut_iff op).2 cut)
  rw [deadline_context] at imposed
  -- The run is cut when the timer goes off, or where it began if that was over by then.
  have elapsed : (x.serve op).elapsed = (x.now.latest d.tick).since x.now := by
    rw [Answer.elapsed, serve_finishedAt, now]
    rfl
  rw [timeLeft?, imposed, Option.map_some, elapsed, Instant.since_latest, Instant.dueIn]

/-- An operation that asks once and is cut has not been answered, and so has changed nothing. -/
theorem single_store_of_cut {ω : Type} {accepted : Except Refusal ω} {call : ω → Call}
    {respond : (w : ω) → (call w).Reply → List Event × op.Response}
    (shape : op.script (x.context op) = .single accepted call respond) (cut : ¬x.Uncut op) :
    (x.serve op).store = x.store := by
  rcases single_cases shape with ⟨e, -, -, -, store⟩ | ⟨w, valid, -⟩
  · exact store
  · exact (single_of_cut shape valid cut).2

/-- A write that is cut has not come to the store. -/
theorem store_of_cut (writes : op.writesTo? ≠ none) (cut : ¬x.Uncut op) : (x.serve op).store = x.store := by
  cases op with
  | updateProfile r => exact single_store_of_cut (script_updateProfile _ r) cut
  | addEngagement r => exact single_store_of_cut (script_addEngagement _ r) cut
  | removeEngagement r => exact single_store_of_cut (script_removeEngagement _ r) cut
  | _ => exact absurd rfl writes

/-! ## The law -/

/-- What deadlines do to an operation. -/
structure DeadlineLaw (x : Occasion σ) (op : Operation) : Prop where
  /-- A deadline on a whole millisecond of the clock leaves just the time to it. -/
  onTick : ∀ d, x.deadline? op = some d → d.tick = d → x.timeLeft? op = some (d.since x.now)
  /-- From a whole millisecond on, any deadline leaves the time to it rounded up to whole milliseconds. -/
  rounded : x.now.tick = x.now → x.timeLeft? op = (x.deadline? op).map fun d => (d.since x.now).roundedUp
  /-- Without a deadline the operation takes its time. -/
  free : (x.undeadlined.serve op).elapsed = x.freeTime op
  /-- If there is as much time as that, it comes to the same and takes as long. -/
  inTime : (∀ left, x.timeLeft? op = some left → (x.freeTime op).nanos ≤ left.nanos) →
    (x.serve op).result = (x.undeadlined.serve op).result ∧ (x.serve op).elapsed = x.freeTime op ∧
      (x.serve op).store = (x.undeadlined.serve op).store ∧ (x.serve op).asked = (x.undeadlined.serve op).asked
  /-- If there is less, it fails when that is over, having made a first part of its calls. -/
  late : ∀ left, x.timeLeft? op = some left → left.nanos < (x.freeTime op).nanos →
    (x.serve op).result = .error ⟨.deadlineExceeded, "deadline exceeded"⟩ ∧ (x.serve op).elapsed = left ∧
      (x.serve op).asked <+: (x.undeadlined.serve op).asked ∧
      (op.writesTo? ≠ none → (x.serve op).store = x.store)
  /-- A timeout whose end is no instant is longer than whatever ends at an instant. -/
  beyond : ∀ finish, x.now.add? (x.freeTime op) = some finish → x.now.add? (x.policy.forKind op.kind) = none →
    (x.freeTime op).nanos < (x.policy.forKind op.kind).nanos

/-- **An operation under a deadline** is what it would be without one, or fails exactly when its time is over. -/
theorem deadline_law (x : Occasion σ) (op : Operation) : x.DeadlineLaw op := by
  have free := serve_uncut (x.uncut_undeadlined op)
  rw [course_undeadlined] at free
  constructor
  case onTick =>
    intro d imposed whole
    rw [timeLeft?, imposed, Option.map_some, Instant.dueIn, whole]
  case rounded =>
    exact x.timeLeft?_of_tick op
  case free =>
    rw [elapsed_of_uncut (x.uncut_undeadlined op), course_undeadlined, elapsed_course]
  case inTime =>
    intro enough
    have uncut := (x.uncut_iff_timeLeft op).2 enough
    obtain ⟨result, store, asked, -⟩ := serve_uncut uncut
    refine ⟨result.trans free.1.symm, ?_, store.trans free.2.1.symm, asked.trans free.2.2.1.symm⟩
    rw [elapsed_of_uncut uncut, elapsed_course]
  case late =>
    intro left some less
    have cut : ¬x.Uncut op := fun uncut => Nat.not_le.2 less ((x.uncut_iff_timeLeft op).1 uncut left some)
    obtain ⟨result, asked⟩ := serve_cut cut
    refine ⟨result, ?_, ?_, fun writes => store_of_cut writes cut⟩
    · exact Option.some.inj ((elapsed_of_cut cut).symm.trans some)
    · rw [free.2.2.1]
      exact asked
  case beyond =>
    intro finish ends endless
    exact Instant.lt_of_add?_eq_none ends endless

/-! ## A listing that ends at its deadline -/

/-- The primary source waits 2 ms and returns one favorite, then the projection source waits 3 ms and the stats source
1 ms. The call brings a deadline. -/
def racing (deadline : Duration) : Occasion Store where
  backend := Conditions.backend {
    delay := fun s =>
      if s = .listEngagements then .ofMillis 2 else if s = .projection then .ofMillis 3 else .ofMillis 1
    failure := fun _ => none
    rows := { RowOverrides.none with engagements := some [⟨.ofNat 1, .ofNat 5, .favorite, 30⟩] } }
  policy := .standard
  call := ⟨(Context.root "racing").endingBy (Instant.start.add deadline), .empty⟩
  now := .start
  store := ⟨.empty, [], [], .empty, .empty, 0⟩

/-- A listing that ends just at its deadline, and one that would end a millisecond after it. -/
theorem deadline_law_racing :
    let list : Operation := .listFavorites ⟨some (Uuid.ofNat 1).print, 0, ""⟩
    let onTime := racing (.ofMillis 5)
    let tooLate := racing (.ofMillis 4)
    (onTime.serve list).result = (onTime.undeadlined.serve list).result ∧
      (onTime.serve list).elapsed = .ofMillis 5 ∧
      (tooLate.serve list).result = .error ⟨.deadlineExceeded, "deadline exceeded"⟩ ∧
      (tooLate.serve list).elapsed = .ofMillis 4 := by
  intro list onTime tooLate
  have time : onTime.freeTime list = .ofMillis 5 := by decide +kernel
  have left : onTime.timeLeft? list = some (.ofMillis 5) := by decide +kernel
  have enough : ∀ d, onTime.timeLeft? list = some d → (onTime.freeTime list).nanos ≤ d.nanos := by
    rintro d h
    cases left.symm.trans h
    exact Nat.le_of_eq (congrArg Duration.nanos time)
  obtain ⟨result, elapsed, -⟩ := (onTime.deadline_law list).inTime enough
  obtain ⟨failed, cut, -⟩ := (tooLate.deadline_law list).late (.ofMillis 4) (by decide +kernel) (by decide +kernel)
  exact ⟨result, elapsed.trans time, failed, cut⟩

/-- A deadline half a millisecond before the end of the listing does not cut it: the timer goes off on the next whole
millisecond, and what ends then comes first. -/
theorem uncut_between_ticks :
    let list : Operation := .listFavorites ⟨some (Uuid.ofNat 1).print, 0, ""⟩
    let between := racing ⟨4500000⟩
    (between.deadline? list).map (fun d => d.since between.now) = some ⟨4500000⟩ ∧
      between.freeTime list = .ofMillis 5 ∧ (between.serve list).result.isOk = true ∧
        (between.serve list).elapsed = .ofMillis 5 := by
  decide +kernel

end Occasion
end ProfileGateway
