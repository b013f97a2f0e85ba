import ProfileGateway.Collaborator.Store
import ProfileGateway.Proofs.Caller.Acting
import ProfileGateway.Proofs.Operation.Likeness
/-!
# What headers can do

Headers act through the caller that they name, through whether they name an unusable one, and for some operations
through an idempotency key and an `If-Match`. Headers that agree on what an operation heeds of them are answered alike,
but for request ids (`Occasion.headers_act`). Whether any metadata is attached at all is no matter, since nothing that
is read off absent metadata differs from what is read off empty metadata.
-/
namespace ProfileGateway

/-! ## What is heeded -/

/-- Two metadata agree on what an operation heeds of them: writes heed the idempotency key, and an update that expects
no version of its own heeds `If-Match`. -/
structure Operation.Agrees (op : Operation) (m m' : Metadata) : Prop where
  callerId : m.callerId = m'.callerId
  identityInvalid : m.identityInvalid = m'.identityInvalid
  idempotencyKey : op.kind = .command → m.idempotencyKey = m'.idempotencyKey
  ifMatch : ∀ r, op = .updateProfile r → r.expectedVersion = none → m.ifMatch = m'.ifMatch

/-- No operation reads the header of this name, other than to make a request id of it. -/
def Headers.Unread (name : String) : Prop :=
  ∀ read ∈ [identityName, idempotencyKeyName, ifMatchName], Text.lower name ≠ Text.lower read

instance (name : String) : Decidable (Headers.Unread name) := inferInstanceAs (Decidable (∀ _ ∈ _, _))

/-- Another header has no influence on what is read. -/
theorem Headers.getTrimmed?_insert {name read : String} (other : Text.lower name ≠ Text.lower read) (h : Headers)
    (value : String) : (h.insert name value).getTrimmed? read = h.getTrimmed? read := by
  rw [getTrimmed?, get?_insert, if_neg other, getTrimmed?]

/-- Headers that are not read change nothing that an operation heeds. -/
theorem Operation.agrees_insert {op : Operation} {m : Metadata} {h : Headers} (agrees : op.Agrees m (.ofHeaders h))
    {name : String} (unread : Headers.Unread name) (value : String) :
    op.Agrees m (.ofHeaders (h.insert name value)) := by
  have identity := Headers.getTrimmed?_insert (unread Headers.identityName (by simp)) h value
  have key := Headers.getTrimmed?_insert (unread Headers.idempotencyKeyName (by simp)) h value
  have ifMatch := Headers.getTrimmed?_insert (unread Headers.ifMatchName (by simp)) h value
  constructor
  case callerId => simpa only [Metadata.ofHeaders, identity] using agrees.callerId
  case identityInvalid => simpa only [Metadata.ofHeaders, identity] using agrees.identityInvalid
  case idempotencyKey => simpa only [Metadata.ofHeaders, key] using agrees.idempotencyKey
  case ifMatch => simpa only [Metadata.ofHeaders, ifMatch] using agrees.ifMatch

/-- An event without the request id of its call. -/
def Event.withoutRequestId : Event → Event
  | ofCall _ e => .ofCall "" e
  | e => e

/-- Request ids are not told apart, and otherwise everything is. -/
def Veil.requestIds : Veil where
  requestId := fun _ => ""
  event := Event.withoutRequestId
  failure := fun _ => Eq
  failure_refl := fun _ _ => rfl
  event_ofCall := fun _ _ => rfl
  failed := by
    rintro source f _ - rfl
    exact ⟨rfl, rfl⟩
  settled := by
    rintro source f _ - rfl
    exact ⟨Iff.rfl, fun _ => rfl⟩

/-! ## Metadata, attached or not -/

section Carried

variable {call : Arrival} {h : Headers}

/-- The caller is that of the headers, whether or not the context carries them. -/
theorem caller_carried (brings : call.Brings h) :
    ActingUser.caller call.carried = ActingUser.caller (some (.ofHeaders h)) := by
  rcases carried_cases brings with carried | ⟨carried, nothing⟩
  · rw [carried]
  · rw [carried, nothing]
    rfl

end Carried

/-- The caller depends on two fields of the metadata alone. -/
theorem caller_congr {m m' : Metadata} (callerId : m.callerId = m'.callerId)
    (invalid : m.identityInvalid = m'.identityInvalid) : ActingUser.caller (some m) = ActingUser.caller (some m') := by
  simp only [ActingUser.caller, callerId, invalid]

/-- Who is acted for depends on the request and the caller alone. -/
theorem resolve_congr {metadata metadata' : Option Metadata}
    (callers : ActingUser.caller metadata = ActingUser.caller metadata') (requested : Option String) :
    ActingUser.resolve requested metadata = ActingUser.resolve requested metadata' := by
  cases requested with
  | none => exact callers
  | some raw => simp only [ActingUser.resolve, callers]

/-- A version in the request leaves `If-Match` unread, even one that is malformed. -/
theorem precondition_congr {metadata metadata' : Option Metadata} {expectedVersion : Option Int64}
    (ifMatch : expectedVersion = none → metadata.bind Metadata.ifMatch = metadata'.bind Metadata.ifMatch) :
    Precondition.ofRequest expectedVersion metadata = Precondition.ofRequest expectedVersion metadata' := by
  cases expectedVersion with
  | none => simp only [Precondition.ofRequest, ifMatch rfl]
  | some v => rfl

/-! ## Two arrivals of one operation -/

section Arrivals

variable {ctx ctx' : Context} {call call' : Arrival} {h h' : Headers} {op : Operation}

/-- What an operation reads of two contexts is the same if their headers agree on what it heeds. -/
theorem Operation.sameInput_of_agrees (brings : call.Brings h) (brings' : call'.Brings h')
    (carried : ctx.metadata = call.carried) (carried' : ctx'.metadata = call'.carried)
    (agrees : op.Agrees (.ofHeaders h) (.ofHeaders h')) : op.SameInput ctx ctx' := by
  have callers : ActingUser.caller ctx.metadata = ActingUser.caller ctx'.metadata := by
    rw [carried, carried', caller_carried brings, caller_carried brings']
    exact caller_congr agrees.callerId agrees.identityInvalid
  have acting := resolve_congr callers
  have key : op.kind = .command →
      ctx.metadata.bind Metadata.idempotencyKey = ctx'.metadata.bind Metadata.idempotencyKey := by
    intro writes
    rw [carried, carried', carried_bind brings rfl, carried_bind brings' rfl]
    exact agrees.idempotencyKey writes
  cases op with
  | getProfile r | batchGetFavorites r => exact acting r.userId
  | deleteProfile r => exact trivial
  | updateProfile r =>
    have precondition : Precondition.ofRequest r.expectedVersion ctx.metadata =
        Precondition.ofRequest r.expectedVersion ctx'.metadata := by
      refine precondition_congr fun unversioned => ?_
      rw [carried, carried', carried_bind brings rfl, carried_bind brings' rfl]
      exact agrees.ifMatch r rfl unversioned
    simp only [SameInput, profileChange, acting, precondition, key rfl]
  | addEngagement r | removeEngagement r => simp only [SameInput, engagementChange, acting, key rfl]
  | listFavorites r | listWatchHistory r => simp only [SameInput, listing, acting]

end Arrivals

namespace Occasion

variable {σ : Type} (x : Occasion σ)

/-- The same occasion with another call. -/
def receiving (call : Arrival) : Occasion σ := { x with call }

/-- Other headers change no deadline. -/
theorem deadline_receiving {call : Arrival} (deadline : x.call.context.deadline = call.context.deadline)
    (op : Operation) : (x.context op).deadline = ((x.receiving call).context op).deadline := by
  have own := (Derivation.underPolicy x.policy x.call.metadata op.kind).deadline_apply x.now x.call.context
  have own' := (Derivation.underPolicy x.policy call.metadata op.kind).deadline_apply x.now call.context
  refine own.trans (Eq.trans ?_ own'.symm)
  simp only [Derivation.deadline?, Context.endingBy, deadline]

variable {x} {op : Operation} {call : Arrival} {h h' : Headers}

/-- Whoever is called sees the same caller and the same time left. -/
theorem context_receiving (brings : x.call.Brings h) (brings' : call.Brings h')
    (deadline : x.call.context.deadline = call.context.deadline)
    (agrees : op.Agrees (.ofHeaders h) (.ofHeaders h')) :
    (x.context op).Like .requestIds ((x.receiving call).context op) where
  requestId := rfl
  caller := by
    rw [metadata_context, metadata_context, carried_bind brings rfl, receiving, carried_bind brings' rfl]
    exact agrees.callerId
  deadline := x.deadline_receiving deadline op

/-- **Headers act** through what an operation heeds of them, and through nothing else: two calls that bring headers
which agree on it, and the same deadline, are answered alike but for their request ids. -/
theorem headers_act (x : Occasion σ) (op : Operation) {call : Arrival} {h h' : Headers} (brings : x.call.Brings h)
    (brings' : call.Brings h') (deadline : x.call.context.deadline = call.context.deadline)
    (agrees : op.Agrees (.ofHeaders h) (.ofHeaders h')) :
    let answer := x.serve op
    let answer' := (x.receiving call).serve op
    answer.result = answer'.result ∧ answer.elapsed = answer'.elapsed ∧ answer.store = answer'.store ∧
      answer.asked = answer'.asked ∧
      answer.calls.map (fun c => (c.caller, c.remaining)) = answer'.calls.map (fun c => (c.caller, c.remaining)) ∧
      answer.log.map (fun r => (r.span.map fun s => (s.operation, s.kind), r.event.withoutRequestId)) =
        answer'.log.map (fun r => (r.span.map fun s => (s.operation, s.kind), r.event.withoutRequestId)) ∧
      Metadata.eventsOf h = Metadata.eventsOf h' ∧
      ∀ name value, Headers.Unread name → op.Agrees (.ofHeaders h) (.ofHeaders (h'.insert name value)) := by
  have contexts := context_receiving brings brings' deadline agrees
  have same := Operation.sameInput_of_agrees brings brings' (x.metadata_context op)
    ((x.receiving call).metadata_context op) agrees
  have answers := serve_like contexts x.backend.like_refl rfl rfl same
  refine ⟨answers.result, answers.elapsed, answers.store, answers.asked, ?_, ?_, ?_, ?_⟩
  · have calls := congrArg (List.map fun c : CallRecord => (c.caller, c.remaining)) answers.calls
    simpa [Veil.record, Function.comp_def] using calls
  · have log := congrArg (List.map fun r : LogRecord => (r.span.map fun s => (s.operation, s.kind), r.event))
      answers.log
    simpa [Veil.logRecord, Veil.requestIds, Function.comp_def] using log
  · rw [Metadata.eventsOf, Metadata.eventsOf, agrees.identityInvalid]
  · intro name value unread
    exact Operation.agrees_insert agrees unread value

/-! ## Unlike headers -/

/-- An update that names its user and expects a version of its own. -/
def newName : UpdateProfileRequest := ⟨some (Uuid.ofNat 1).print, some "new", none, none, [], some 3⟩

/-- The user `1` has a profile, and the call brings these headers. -/
def bringing (h : Headers) : Occasion Store where
  backend := Conditions.normal.backend
  policy := .standard
  call := .ofHeaders h "fresh"
  now := .start
  store := ⟨.ofList [(.ofNat 1, ⟨.ofNat 1, "old", "", "", 3⟩)], [], [], .empty, .empty, 0⟩

theorem headers_act_unlike :
    let h := Headers.ofList
      [("X-Request-Id", "one"), ("If-Match", "no tag"), ("If-None-Match", "*"), ("X-Identity-Claims", "?")]
    let h' := Headers.ofList [("x-identity-claims", "no token")]
    ((bringing h).call.context.requestId, (bringing h').call.context.requestId) = ("one", "fresh") ∧
      (Operation.updateProfile newName).Agrees (.ofHeaders h) (.ofHeaders (h'.insert "Accept" "*/*")) ∧
      (((bringing h).receiving (.ofHeaders h' "fresh")).serve (.updateProfile newName)).result =
        .ok ⟨⟨.ofNat 1, "new", "", "", 4⟩, "\"4\""⟩ := by
  intro h h'
  have agrees : (Operation.updateProfile newName).Agrees (.ofHeaders h) (.ofHeaders h') := by
    refine ⟨by decide +kernel, by decide +kernel, fun _ => by decide +kernel, ?_⟩
    rintro r ⟨⟩ ⟨⟩
  obtain ⟨result, -, -, -, -, -, -, unread⟩ :=
    (bringing h).headers_act (.updateProfile newName) (brings_ofHeaders h "fresh") (brings_ofHeaders h' "fresh")
      (Eq.refl (none : Option Instant)) agrees
  exact ⟨by decide +kernel, unread "Accept" "*/*" (by decide +kernel), result.symm.trans (by decide +kernel)⟩

end Occasion
end ProfileGateway
