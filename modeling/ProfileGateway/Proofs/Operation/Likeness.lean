import ProfileGateway.Proofs.Deadline.Lineage
import ProfileGateway.Proofs.Operation.SingleCall
import ProfileGateway.Proofs.Script.Likeness
/-!
# Answers that look alike

An operation that reads the same input in two contexts makes scripts that are alike (`Operation.script_like`), and so it
is answered alike on two occasions that a veil does not tell apart (`Occasion.serve_like`). The comparison of two runs
is made here once, whatever is hidden in it.
-/
namespace ProfileGateway

open Operation

/-! ## Scripts -/

namespace Operation

/-- The operation reads the same input in two contexts. -/
def SameInput (ctx ctx' : Context) : Operation → Prop
  | getProfile r => ActingUser.resolve r.userId ctx.metadata = ActingUser.resolve r.userId ctx'.metadata
  | updateProfile r => profileChange ctx r = profileChange ctx' r
  | deleteProfile _ => True
  | addEngagement r | removeEngagement r => engagementChange ctx r = engagementChange ctx' r
  | listFavorites r => listing ctx r.userId r.pageSize r.pageToken = listing ctx' r.userId r.pageSize r.pageToken
  | listWatchHistory r => listing ctx r.userId r.pageSize r.pageToken = listing ctx' r.userId r.pageSize r.pageToken
  | batchGetFavorites r => ActingUser.resolve r.userId ctx.metadata = ActingUser.resolve r.userId ctx'.metadata

theorem sameInput_refl (ctx : Context) (op : Operation) : op.SameInput ctx ctx := by
  cases op <;> trivial

section Scripts

variable {v : Veil}

/-- Operations of one call are alike if their responses are, and their events up to what the veil covers. -/
theorem single_like {ω α : Type} (accepted : Except Refusal ω) {call : ω → Call}
    (primary : ∀ w, (call w).source.secondary = false) {respond respond' : (w : ω) → (call w).Reply → List Event × α}
    (response : ∀ w reply, (respond w reply).2 = (respond' w reply).2)
    (events : ∀ w reply, (respond w reply).1.map v.event = (respond' w reply).1.map v.event) :
    (Script.single accepted call respond).Like v (.single accepted call respond') := by
  refine (Script.like_accept accepted).bind fun w => (Script.like_call (primary w)).bind fun reply => ?_
  refine Script.like_logging (events w reply) ?_
  rw [response w reply]
  exact .done _

theorem projectionLookup_like (asked : IdSet) : (projectionLookup asked).Like v (projectionLookup asked) :=
  batchLookup_like rfl

theorem statsLookup_like (asked : IdSet) : (statsLookup asked).Like v (statsLookup asked) := batchLookup_like rfl

theorem favoritesLookup_like (user : Uuid) (asked : IdSet) :
    (favoritesLookup user asked).Like v (favoritesLookup user asked) := batchLookup_like rfl

theorem statsLookupIf_like (wanted : Bool) (asked : IdSet) :
    (statsLookupIf wanted asked).Like v (statsLookupIf wanted asked) := by
  cases wanted with
  | false => exact .ready none
  | true => exact (statsLookup_like asked).map some

/-- **The scripts of an operation** are alike in two contexts that it reads the same input in. -/
theorem script_like {ctx ctx' : Context} (contexts : ctx.Like v ctx') {op : Operation} (same : op.SameInput ctx ctx') :
    (op.script ctx).Like v (op.script ctx') := by
  cases op with
  | getProfile r =>
    have acting : ActingUser.resolve r.userId ctx.metadata = ActingUser.resolve r.userId ctx'.metadata := same
    rw [script_getProfile, script_getProfile, acting]
    exact single_like _ (fun _ => rfl) (fun _ _ => rfl) (fun _ _ => rfl)
  | updateProfile r =>
    have change : profileChange ctx r = profileChange ctx' r := same
    rw [script_updateProfile, script_updateProfile, change]
    refine single_like _ (fun _ => rfl) (fun _ _ => rfl) fun _ profile => ?_
    exact congrArg (fun e => [e]) (contexts.event (.profileUpdated profile.userId profile.version))
  | deleteProfile r => exact .fail _
  | addEngagement r =>
    have change : engagementChange ctx r = engagementChange ctx' r := same
    rw [script_addEngagement, script_addEngagement, change]
    exact single_like _ (fun _ => rfl) (fun _ _ => rfl) (fun _ _ => rfl)
  | removeEngagement r =>
    have change : engagementChange ctx r = engagementChange ctx' r := same
    rw [script_removeEngagement, script_removeEngagement, change]
    exact single_like _ (fun _ => rfl) (fun _ _ => rfl) (fun _ _ => rfl)
  | listFavorites r =>
    have asks : listing ctx r.userId r.pageSize r.pageToken = listing ctx' r.userId r.pageSize r.pageToken := same
    simp only [script, runListFavorites, asks]
    apply (Script.like_accept _).bind
    rintro ⟨user, window⟩
    refine (Script.like_call rfl).bind fun rows => (Script.like_accept _).bind fun page => ?_
    exact (Script.like_joined (projectionLookup_like _) (statsLookup_like _)).bind fun _ => .done _
  | listWatchHistory r =>
    have asks : listing ctx r.userId r.pageSize r.pageToken = listing ctx' r.userId r.pageSize r.pageToken := same
    simp only [script, runListWatchHistory, asks]
    apply (Script.like_accept _).bind
    rintro ⟨user, window⟩
    refine (Script.like_call rfl).bind fun rows => (Script.like_accept _).bind fun page => ?_
    exact (Script.like_lookup (projectionLookup_like _)).bind fun _ => .done _
  | batchGetFavorites r =>
    have acting : ActingUser.resolve r.userId ctx.metadata = ActingUser.resolve r.userId ctx'.metadata := same
    simp only [script, runBatchGetFavorites, acting]
    refine (Script.like_accept _).bind fun user => (Script.like_accept _).bind fun ids => ?_
    exact (Script.like_joined (favoritesLookup_like user _) (statsLookupIf_like _ _)).bind fun _ => .done _

end Scripts
end Operation

/-! ## Answers -/

namespace Veil

/-- A log record as it looks through the veil. -/
def logRecord (v : Veil) (r : LogRecord) : LogRecord :=
  ⟨r.span.map fun span => { span with requestId := v.requestId span.requestId }, v.event r.event⟩

end Veil

/-- Answers that a client cannot tell apart at all, nor those who run the gateway but for what the veil hides. -/
structure Answer.Like {σ α : Type} (v : Veil) (a a' : Answer σ α) : Prop where
  result : a.result = a'.result
  startedAt : a.startedAt = a'.startedAt
  finishedAt : a.finishedAt = a'.finishedAt
  store : a.store = a'.store
  calls : a.calls.map v.record = a'.calls.map v.record
  log : a.log.map v.logRecord = a'.log.map v.logRecord

namespace Answer.Like

variable {σ α : Type} {v : Veil} {a a' : Answer σ α}

/-- Answers that are alike took the same time. -/
theorem elapsed (alike : a.Like v a') : a.elapsed = a'.elapsed := by
  rw [Answer.elapsed, Answer.elapsed, alike.startedAt, alike.finishedAt]

/-- No veil hides what is asked. -/
theorem asked (alike : a.Like v a') : a.asked = a'.asked := by
  have calls := congrArg (List.map CallRecord.call) alike.calls
  simpa [Answer.asked, Veil.record, Function.comp_def] using calls

end Answer.Like

/-- What is logged of the end of a run: that its deadline cut it. -/
def Finish.events {α : Type} (ctx : Context) (kind : OperationKind) : Finish α → List Event
  | .cut => [ctx.event (.deadlineExceeded kind)]
  | .returned _ | .failed _ => []

/-- Nothing is logged of what ends with a result. -/
theorem Finish.events_ofExcept {α : Type} (ctx : Context) (kind : OperationKind) (x : Except Status α) :
    (ofExcept x).events ctx kind = [] := by
  cases x <;> rfl

/-- The log of a guarded run: what was logged before, and then the events of the run. -/
theorem TimeoutPolicy.run_log {σ α : Type} {p : TimeoutPolicy} {b : Backend σ} {parent : Context} {metadata : Metadata}
    {kind : OperationKind} {op : Context → Script α} {w : World σ} {r : Finish α × World σ}
    (h : (op (p.contextFor w.now parent metadata kind)).run b (p.contextFor w.now parent metadata kind) w = r) :
    (p.run b parent metadata kind op w).world.log =
      r.2.log ++ r.1.events (p.contextFor w.now parent metadata kind) kind := by
  unfold TimeoutPolicy.run
  dsimp only
  rcases r with ⟨_ | _ | _, u⟩ <;> simp [h, Finish.events, World.logged]

namespace Occasion

variable {σ : Type} (x : Occasion σ) (op : Operation)

theorem requestId_context : (x.context op).requestId = x.call.context.requestId :=
  (Derivation.underPolicy x.policy x.call.metadata op.kind).requestId_apply x.now x.call.context

theorem serve_calls : (x.serve op).calls = (x.run op).2.calls := (TimeoutPolicy.run_of rfl).2.2.2.2

/-- The log: what the script says, whether it was cut, and last of all its failure. -/
theorem serve_log : (x.serve op).log =
    ((x.run op).2.log ++ (x.run op).1.events (x.context op) op.kind ++
      closing x.call (x.serve op).result).map fun e => ⟨some (op.span x.call), e⟩ := by
  have log : (x.policy.run x.backend x.call.context x.call.metadata op.kind (fun ctx => op.script ctx)
      (.start x.now x.store)).world.log = (x.run op).2.log ++ (x.run op).1.events (x.context op) op.kind :=
    TimeoutPolicy.run_log rfl
  rw [← log]
  rfl

/-- Veiling the records of a span veils the events and the request id, and nothing else. -/
theorem veiled_records (v : Veil) (call : Arrival) (events : List Event) :
    (events.map fun e => ⟨some (op.span call), e⟩).map v.logRecord =
      (events.map v.event).map fun e => ⟨some ⟨v.requestId call.context.requestId, op.name, op.kind⟩, e⟩ := by
  simp [Veil.logRecord, Operation.span]

variable {x op} {x' : Occasion σ} {v : Veil}

/-- **Occasions that are not told apart** are answered alike. -/
theorem serve_like (contexts : (x.context op).Like v (x'.context op)) (backends : x.backend.Like v x'.backend)
    (now : x.now = x'.now) (store : x.store = x'.store) (same : op.SameInput (x.context op) (x'.context op)) :
    (x.serve op).Like v (x'.serve op) := by
  have start : (World.start x.now x.store).Like v (.start x'.now x'.store) := ⟨now, store, rfl, rfl⟩
  obtain ⟨finish, worlds⟩ := (Operation.script_like contexts same).run backends contexts _ _ start
  change Finish.Like Eq (x.run op).1 (x'.run op).1 at finish
  change (x.run op).2.Like v (x'.run op).2 at worlds
  have ends : (x.run op).1 = (x'.run op).1 := by
    generalize (x.run op).1 = end₁, (x'.run op).1 = end₂ at finish
    cases finish with
    | returned values => rw [values]
    | failed s => rfl
    | cut => rfl
  have result : (x.serve op).result = (x'.serve op).result := by rw [serve_result, serve_result, ends]
  refine ⟨result, now, ?_, ?_, ?_, ?_⟩
  · rw [serve_finishedAt, serve_finishedAt, worlds.now]
  · rw [serve_store, serve_store, worlds.store]
  · rw [serve_calls, serve_calls, worlds.calls]
  · have ids := contexts.requestId
    rw [requestId_context, requestId_context] at ids
    have closings : (closing x.call (x.serve op).result).map v.event =
        (closing x'.call (x'.serve op).result).map v.event := by
      rw [result]
      cases (x'.serve op).result with
      | ok response => rfl
      | error s => exact congrArg (fun e => [e]) (v.event_ofCall (.failed s) ids)
    have endings : ((x.run op).1.events (x.context op) op.kind).map v.event =
        ((x'.run op).1.events (x'.context op) op.kind).map v.event := by
      rw [ends]
      cases (x'.run op).1 with
      | returned _ | failed _ => rfl
      | cut => exact congrArg (fun e => [e]) (contexts.event (.deadlineExceeded op.kind))
    rw [serve_log, serve_log, veiled_records, veiled_records, ids]
    simp only [List.map_append, worlds.log, endings, closings]

end Occasion
end ProfileGateway
