import ProfileGateway.Proofs.Deadline.Cut
/-!
# Runs that look alike

Two runs are compared through a veil, which says what is not to be told apart: request ids, what events show, and
failures of one source. Two scripts are alike if they do the same as long as they are answered alike, and then
alike runs of them end the same way in worlds that look alike (`Script.Like.run`). What a failure of a source comes to
is read in two places, the status of a call that fails and the verdict on a lookup that fails, and a veil hides no
more than both of them forget.
-/
namespace ProfileGateway

/-- The source is asked for rows to join to ids that are already there, all of them in one lookup. -/
def Source.secondary : Source → Bool
  | favorites | stats | projection => true
  | _ => false

/-- What is not told apart in two runs. -/
structure Veil where
  requestId : String → String
  event : Event → Event
  /-- Two failures with which a source may answer in place of one another. -/
  failure : Source → Failure → Failure → Prop
  failure_refl : ∀ source f, failure source f f
  event_ofCall : ∀ {id id' : String} (e : CallEvent), requestId id = requestId id' →
    event (.ofCall id e) = event (.ofCall id' e)
  /-- A call that fails tells no more of the failure than its status. -/
  failed : ∀ {source : Source} {f f' : Failure}, source.secondary = false → failure source f f' →
    f.status = f'.status ∧ f.events.map event = f'.events.map event
  /-- A lookup that fails tells no more than whether there was nothing to be found. -/
  settled : ∀ {source : Source} {f f' : Failure}, source.secondary = true → failure source f f' →
    (f.kind = .notFound ↔ f'.kind = .notFound) ∧
      ∀ name, event (.lookupFailed name f.kind f.message) = event (.lookupFailed name f'.kind f'.message)

namespace Veil

variable (v : Veil)

/-- A call as it looks through the veil. -/
def record (r : CallRecord) : CallRecord := { r with requestId := v.requestId r.requestId }

/-- The same reply, or failures that are not told apart. -/
inductive Replies (source : Source) {ρ : Type} : Except Failure ρ → Except Failure ρ → Prop
  | ok (reply : ρ) : Replies source (.ok reply) (.ok reply)
  | error {f f' : Failure} (alike : v.failure source f f') : Replies source (.error f) (.error f')

end Veil

/-! ## What is alike -/

section Alike

variable {σ α β : Type}

/-- Contexts that those who are called in them do not tell apart. -/
structure Context.Like (v : Veil) (ctx ctx' : Context) : Prop where
  requestId : v.requestId ctx.requestId = v.requestId ctx'.requestId
  caller : ctx.metadata.bind Metadata.callerId = ctx'.metadata.bind Metadata.callerId
  deadline : ctx.deadline = ctx'.deadline

structure World.Like (v : Veil) (w w' : World σ) : Prop where
  now : w.now = w'.now
  store : w.store = w'.store
  calls : w.calls.map v.record = w'.calls.map v.record
  log : w.log.map v.event = w'.log.map v.event

/-- Collaborators that take the same time, do the same to the store and reply alike. -/
structure Backend.Like (v : Veil) (b b' : Backend σ) : Prop where
  delay : ∀ c, b.delay c = b'.delay c
  reply : ∀ c s, v.Replies c.source (b.answer c s).1 (b'.answer c s).1
  store : ∀ c s, (b.answer c s).2 = (b'.answer c s).2

inductive Finish.Like (R : α → β → Prop) : Finish α → Finish β → Prop
  | returned {a b} (values : R a b) : Like R (.returned a) (.returned b)
  | failed (s) : Like R (.failed s) (.failed s)
  | cut : Like R .cut .cut

/-- Steps that take worlds that look alike to worlds that look alike, and to values of a relation. -/
def Timed.Like (v : Veil) (R : α → β → Prop) (m : Timed σ α) (m' : Timed σ β) : Prop :=
  ∀ w w' : World σ, w.Like v w' → Finish.Like R (m w).1 (m' w').1 ∧ (m w).2.Like v (m' w').2

structure Verdict.Like (v : Veil) (verdict verdict' : Verdict β) : Prop where
  result : verdict.result = verdict'.result
  events : verdict.events.map v.event = verdict'.events.map v.event

inductive Branch.Like (v : Veil) : Branch β → Branch β → Prop
  | ready (value : β) : Like v (.ready value) (.ready value)
  | ask (c : Call) {settle settle' : Except Failure c.Reply → Verdict β}
    (verdicts : ∀ reply reply', v.Replies c.source reply reply' → (settle reply).Like v (settle' reply')) :
    Like v (.ask c settle) (.ask c settle')

/-- Scripts that do the same as long as they are answered alike. -/
inductive Script.Like (v : Veil) : Script α → Script α → Prop
  | done (a) : Like v (.done a) (.done a)
  | fail (s) : Like v (.fail s) (.fail s)
  | log {e e' next next'} (event : v.event e = v.event e') (rest : Like v next next') :
    Like v (.log e next) (.log e' next')
  | wait (d) {next next'} (rest : Like v next next') : Like v (.wait d next) (.wait d next')
  | ask (c) {next next'}
    (rest : ∀ reply reply', v.Replies c.source reply reply' → Like v (next reply) (next' reply')) :
    Like v (.ask c next) (.ask c next')
  | both {δ ε : Type} {left left' : Branch δ} {right right' : Branch ε} {next next'} (first : left.Like v left')
    (second : right.Like v right') (rest : ∀ x y, Like v (next x y) (next' x y)) :
    Like v (.both left right next) (.both left' right' next')

end Alike

/-! ## Steps -/

section Steps

variable {σ α α' β β' : Type} {v : Veil}

/-- Contexts that are alike log alike events. -/
theorem Context.Like.event {ctx ctx' : Context} (alike : ctx.Like v ctx') (e : CallEvent) :
    v.event (ctx.event e) = v.event (ctx'.event e) := v.event_ofCall e alike.requestId

theorem Veil.replies_refl (source : Source) {ρ : Type} (reply : Except Failure ρ) : v.Replies source reply reply := by
  cases reply with
  | ok reply => exact .ok reply
  | error f => exact .error (v.failure_refl source f)

/-- Sources are like themselves. -/
theorem Backend.like_refl (b : Backend σ) : b.Like v b :=
  ⟨fun _ => rfl, fun c s => v.replies_refl c.source (b.answer c s).1, fun _ _ => rfl⟩

/-- Worlds stay alike when alike events are logged in them. -/
theorem World.Like.logged {w w' : World σ} (alike : w.Like v w') {events events' : List Event}
    (same : events.map v.event = events'.map v.event) : (w.logged events).Like v (w'.logged events') := by
  refine { alike with log := ?_ }
  simp only [World.logged, List.map_append, alike.log, same]

/-- Worlds stay alike when one call is made in both under contexts that are alike. -/
theorem World.Like.called {w w' : World σ} (alike : w.Like v w') {ctx ctx' : Context} (contexts : ctx.Like v ctx')
    (c : Call) : (w.called ctx c).Like v (w'.called ctx' c) := by
  refine { alike with calls := ?_ }
  simp only [World.called, List.map_append, alike.calls, List.map_cons, List.map_nil, Veil.record, contexts.requestId,
    contexts.caller, Context.remaining, contexts.deadline, alike.now]

namespace Timed

/-- Steps that are alike, one after the other, are alike. -/
theorem Like.bind {R : α → α' → Prop} {S : β → β' → Prop} {m : Timed σ α} {m' : Timed σ α'} {k : α → Timed σ β}
    {k' : α' → Timed σ β'} (first : m.Like v R m') (rest : ∀ a a', R a a' → (k a).Like v S (k' a')) :
    (m >>= k).Like v S (m' >>= k') := by
  intro w w' worlds
  obtain ⟨finish, after⟩ := first w w' worlds
  rw [bind_apply, bind_apply]
  generalize (m w).1 = end₁, (m' w').1 = end₂ at finish
  cases finish with
  | returned values => exact rest _ _ values _ _ after
  | failed s => exact ⟨.failed s, after⟩
  | cut => exact ⟨.cut, after⟩

/-- Values that are alike are alike as steps. -/
theorem like_pure {R : α → α' → Prop} {a : α} {a' : α'} (values : R a a') :
    (pure a : Timed σ α).Like v R (pure a') := fun _ _ worlds => ⟨.returned values, worlds⟩

theorem like_fail {R : α → α' → Prop} (s : Status) : (fail s : Timed σ α).Like v R (fail s) :=
  fun _ _ worlds => ⟨.failed s, worlds⟩

/-- A result is like itself. -/
theorem like_ofExcept (x : Except Status α) : (ofExcept x : Timed σ α).Like v Eq (ofExcept x) := by
  cases x with
  | ok a => exact like_pure rfl
  | error s => exact like_fail s

/-- Logging alike events is alike. -/
theorem like_log {events events' : List Event} (same : events.map v.event = events'.map v.event) :
    (modify fun w : World σ => w.logged events).Like v Eq (modify fun w => w.logged events') :=
  fun _ _ worlds => ⟨.returned rfl, worlds.logged same⟩

/-- Asking the same under contexts that are alike is alike. -/
theorem like_called {ctx ctx' : Context} (contexts : ctx.Like v ctx') (c : Call) :
    (modify fun w : World σ => w.called ctx c).Like v Eq (modify fun w => w.called ctx' c) :=
  fun _ _ worlds => ⟨.returned rfl, worlds.called contexts c⟩

/-- Waits under one deadline are alike: both end, or both are cut. -/
theorem like_sleep (deadline : Option Instant) (d : Duration) :
    (sleep (σ := σ) deadline d).Like v Eq (sleep deadline d) := by
  intro w w' worlds
  -- Both sleeps end in time, or both are cut at one instant.
  by_cases ends : InTime deadline w.now (w.now.add d)
  · have ends' : InTime deadline w'.now (w'.now.add d) := worlds.now ▸ ends
    rw [sleep_of_inTime ends, sleep_of_inTime ends']
    exact ⟨.returned rfl, { worlds with now := congrArg (fun t => t.add d) worlds.now }⟩
  · have late : ¬InTime deadline w'.now (w'.now.add d) := worlds.now ▸ ends
    obtain ⟨t, imposed, slept, -⟩ := sleep_of_late ends
    obtain ⟨t', imposed', slept', -⟩ := sleep_of_late late
    cases imposed.symm.trans imposed'
    rw [slept, slept']
    exact ⟨.cut, { worlds with now := congrArg (fun now => now.latest t.tick) worlds.now }⟩

/-- Answers of sources that are alike are alike. -/
theorem like_answer {b b' : Backend σ} (backends : b.Like v b') (c : Call) :
    (answer b c).Like v (v.Replies c.source) (answer b' c) := by
  intro w w' worlds
  unfold answer World.answer
  rw [worlds.store]
  exact ⟨.returned (backends.reply c w'.store), { worlds with store := backends.store c w'.store }⟩

end Timed
end Steps

/-! ## Runs -/

section Runs

variable {σ α β γ : Type} {v : Veil} {b b' : Backend σ} {ctx ctx' : Context}

/-- Branches that are alike wait as long. -/
theorem Branch.Like.delay {branch branch' : Branch β} (alike : branch.Like v branch') (backends : b.Like v b') :
    branch.delay b = branch'.delay b' := by
  cases alike with
  | ready value => rfl
  | ask c verdicts => exact backends.delay c

/-- Branches that are alike begin alike. -/
theorem Branch.Like.begin {branch branch' : Branch β} (alike : branch.Like v branch') (contexts : ctx.Like v ctx') :
    (branch.begin (σ := σ) ctx).Like v Eq (branch'.begin ctx') := by
  cases alike with
  | ready value => exact Timed.like_pure rfl
  | ask c verdicts => exact Timed.like_called contexts c

/-- Branches that are alike are settled alike, though their answers may differ. -/
theorem Branch.Like.settle {branch branch' : Branch β} (alike : branch.Like v branch') (backends : b.Like v b') :
    (branch.settle b).Like v Eq (branch'.settle b') := by
  cases alike with
  | ready value => exact Timed.like_pure rfl
  | @ask c settle settle' verdicts =>
    rw [settle_ask, settle_ask]
    refine (Timed.like_answer backends c).bind fun reply reply' replies => ?_
    have same := verdicts reply reply' replies
    refine (Timed.like_log same.events).bind fun _ _ _ => ?_
    rw [same.result]
    exact Timed.like_ofExcept (settle' reply').result

/-- Branches that are alike wait and are settled alike. -/
theorem Branch.Like.settleAfter {branch branch' : Branch β} (alike : branch.Like v branch') (backends : b.Like v b')
    (deadline : Option Instant) (d : Duration) :
    (branch.settleAfter b deadline d).Like v Eq (branch'.settleAfter b' deadline d) :=
  (Timed.like_sleep deadline d).bind fun _ _ _ => alike.settle backends

/-- Two pairs of lookups that are alike run alike: their delays decide the order, and those are the same. -/
theorem runBoth_like {left left' : Branch β} {right right' : Branch γ} (first : left.Like v left')
    (second : right.Like v right') (backends : b.Like v b') (contexts : ctx.Like v ctx') :
    (runBoth b ctx left right).Like v Eq (runBoth b' ctx' left' right') := by
  -- The delays are the same, and so the branches settle in the same order in both runs.
  simp only [runBoth, first.delay backends, second.delay backends, contexts.deadline]
  refine (first.begin contexts).bind fun _ _ _ => ?_
  split
  · refine (first.settle backends).bind ?_
    rintro x _ rfl
    refine (second.begin contexts).bind fun _ _ _ => ?_
    refine (second.settleAfter backends _ _).bind ?_
    rintro y _ rfl
    exact Timed.like_pure rfl
  · refine (second.begin contexts).bind fun _ _ _ => ?_
    split
    · refine (first.settleAfter backends _ _).bind ?_
      rintro x _ rfl
      refine (second.settleAfter backends _ _).bind ?_
      rintro y _ rfl
      exact Timed.like_pure rfl
    · refine (second.settleAfter backends _ _).bind ?_
      rintro y _ rfl
      refine (first.settleAfter backends _ _).bind ?_
      rintro x _ rfl
      exact Timed.like_pure rfl

/-- **Runs of scripts that are alike** end the same way, in worlds that look alike. -/
theorem Script.Like.run {script script' : Script α} (alike : script.Like v script') (backends : b.Like v b')
    (contexts : ctx.Like v ctx') : (script.run b ctx).Like v Eq (script'.run b' ctx') := by
  induction alike with
  | done a => exact Timed.like_pure rfl
  | fail s => exact Timed.like_fail s
  | log event _ ih =>
    have events : [_].map v.event = [_].map v.event := congrArg (fun e => [e]) event
    exact (Timed.like_log events).bind fun _ _ _ => ih
  | wait d _ ih =>
    simp only [Script.run, contexts.deadline]
    exact (Timed.like_sleep _ d).bind fun _ _ _ => ih
  | ask c _ ih =>
    rw [run_ask, run_ask, backends.delay c, contexts.deadline]
    refine (Timed.like_called contexts c).bind fun _ _ _ => ?_
    refine (Timed.like_sleep _ (b'.delay c)).bind fun _ _ _ => ?_
    exact (Timed.like_answer backends c).bind ih
  | both first second _ ih =>
    refine (runBoth_like first second backends contexts).bind ?_
    rintro ⟨x, y⟩ _ rfl
    exact ih x y

end Runs

/-! ## Ways to build scripts -/

namespace Script

variable {α β : Type} {v : Veil}

/-- Scripts that are alike, one after the other, are alike. -/
theorem Like.bind {script script' : Script α} {next next' : α → Script β} (alike : script.Like v script')
    (rest : ∀ a, (next a).Like v (next' a)) : (script >>= next).Like v (script' >>= next') := by
  change (script.bind next).Like v (script'.bind next')
  induction alike with
  | done a => exact rest a
  | fail s => exact .fail s
  | log event _ ih => exact .log event ih
  | wait d _ ih => exact .wait d ih
  | ask c _ ih => exact .ask c ih
  | both first second _ ih => exact .both first second ih

theorem like_accept (x : Except Refusal α) : (accept x).Like v (accept x) := by
  cases x with
  | ok a => exact .done a
  | error r => exact .fail r.status

/-- Scripts that log alike events and go on alike are alike. -/
theorem like_logging {events events' : List Event} (same : events.map v.event = events'.map v.event)
    {next next' : Script α} (rest : next.Like v next') : (logging events next).Like v (logging events' next') := by
  induction events generalizing events' with
  | nil =>
    cases List.map_eq_nil_iff.1 same.symm
    exact rest
  | cons e es ih =>
    cases events' with
    | nil => cases same
    | cons e' es' =>
      obtain ⟨event, others⟩ := List.cons.inj same
      exact .log event (ih others)

/-- A call of a primary source is like itself. -/
theorem like_call {c : Call} (primary : c.source.secondary = false) : (call c).Like v (call c) := by
  refine .ask c ?_
  rintro _ _ (reply | alike)
  · exact .done reply
  · obtain ⟨status, events⟩ := v.failed primary alike
    dsimp only
    rw [status]
    exact like_logging events (.fail _)

/-- Lookups of branches that are alike are alike. -/
theorem like_lookup {branch branch' : Branch α} (alike : branch.Like v branch') :
    (lookup branch).Like v (lookup branch') := by
  cases alike with
  | ready value => exact .done value
  | @ask c settle settle' verdicts =>
    refine .ask c fun reply reply' replies => ?_
    have same := verdicts reply reply' replies
    refine like_logging same.events ?_
    rw [same.result]
    cases (settle' reply').result with
    | ok a => exact .done a
    | error s => exact .fail s

/-- Pairs of lookups that are alike are alike when they are joined. -/
theorem like_joined {left left' : Branch α} {right right' : Branch β} (first : left.Like v left')
    (second : right.Like v right') : (joined left right).Like v (joined left' right') :=
  .both first second fun x y => .done (x, y)

end Script

section Lookups

variable {β γ ρ : Type} [Row ρ] {v : Veil}

/-- Branches stay alike when the same is made of their values. -/
theorem Branch.Like.map {branch branch' : Branch β} (alike : branch.Like v branch') (f : β → γ) :
    (branch.map f).Like v (branch'.map f) := by
  cases alike with
  | ready value => exact .ready (f value)
  | ask c verdicts =>
    refine .ask c fun reply reply' replies => ?_
    have same := verdicts reply reply' replies
    exact ⟨congrArg (Except.map f) same.result, same.events⟩

/-- Any failure of a secondary source but that it has no data means the same. -/
theorem settleLookup_of_failed (name : String) (asked : IdSet) {f : Failure} (failed : f.kind ≠ .notFound) :
    settleLookup (ρ := ρ) name asked (.error f) =
      ⟨[.lookupFailed name f.kind f.message], .error (.lookupFailed name)⟩ := by
  unfold settleLookup
  cases h : f.kind <;> simp_all

/-- A lookup forgets all that the veil hides of a failure at a secondary source. -/
theorem settleLookup_like {source : Source} (secondary : source.secondary = true) (name : String) (asked : IdSet)
    {reply reply' : Except Failure (List ρ)} (replies : v.Replies source reply reply') :
    (settleLookup name asked reply).Like v (settleLookup name asked reply') := by
  cases replies with
  | ok rows => exact ⟨rfl, rfl⟩
  | @error f f' alike =>
    obtain ⟨notFound, event⟩ := v.settled secondary alike
    by_cases none : f.kind = .notFound
    · have none' := notFound.1 none
      simp only [settleLookup, none, none']
      exact ⟨rfl, rfl⟩
    · rw [settleLookup_of_failed name asked none, settleLookup_of_failed name asked (mt notFound.2 none)]
      exact ⟨rfl, congrArg (fun e => [e]) (event name)⟩

/-- A lookup of a batch is like itself, whatever the failure of its source. -/
theorem batchLookup_like {name : String} {asked : IdSet} {fetch : List Uuid → Ask (List ρ)}
    (secondary : (fetch asked.ids).call.source.secondary = true) :
    (batchLookup name asked fetch).Like v (batchLookup name asked fetch) := by
  unfold batchLookup
  split
  · exact .ready _
  · refine .ask _ fun reply reply' replies => settleLookup_like secondary name asked ?_
    cases replies with
    | ok rows => exact .ok _
    | error alike => exact .error alike

end Lookups
end ProfileGateway
