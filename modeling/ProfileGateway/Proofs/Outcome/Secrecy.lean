import ProfileGateway.Collaborator.Store
import ProfileGateway.Proofs.Operation.Calls
import ProfileGateway.Proofs.Operation.Likeness
/-!
# What collaborators say of their failures

A client learns of a failure what its kind stands for, and of most kinds nothing that the collaborator said. Two
failures with other messages, and at a secondary source also of other kinds, are answered alike by every operation
(`Occasion.confidential`). The messages that do reach the client come from primary sources, and they reach it as they
are.
-/
namespace ProfileGateway

/-! ## Failures that are not told apart -/

/-- Two failures of a source that come to the same for a client. -/
inductive Failure.Indistinct : Source → Failure → Failure → Prop
  | same (source : Source) (f : Failure) : Indistinct source f f
  /-- At a primary source: internal failures, and rejected writes. -/
  | unshown {source : Source} {kind : FailureKind} (primary : source.secondary = false)
    (hidden : kind = .internal ∨ kind = .versionConflict) (message message' : String) :
    Indistinct source ⟨kind, message⟩ ⟨kind, message'⟩
  /-- At a secondary source: it has nothing. -/
  | noData {source : Source} (secondary : source.secondary = true) (message message' : String) :
    Indistinct source ⟨.notFound, message⟩ ⟨.notFound, message'⟩
  /-- At a secondary source: anything else, of one kind or of another. -/
  | lookupFailed {source : Source} {kind kind' : FailureKind} (secondary : source.secondary = true)
    (fails : kind ≠ .notFound) (fails' : kind' ≠ .notFound) (message message' : String) :
    Indistinct source ⟨kind, message⟩ ⟨kind', message'⟩

/-- A code that stands for none of the kinds that collaborators name. -/
def FailureKind.Unrecognised (code : String) : Prop := ∀ kind : FailureKind, kind.name = code → kind = .internal

/-- A failure of a code that is not known is an internal one. -/
theorem ofCode_of_unrecognised {code : String} (unknown : FailureKind.Unrecognised code) (message : String) :
    Failure.ofCode code message = ⟨.internal, message⟩ := by
  have other : ∀ kind : FailureKind, kind ≠ .internal → ¬code = kind.name :=
    fun kind named h => named (unknown kind h.symm)
  simp only [Failure.ofCode, FailureKind.ofCode, other .notFound nofun, other .versionConflict nofun,
    other .unsupportedInput nofun, if_false]

/-- An event without what a collaborator said. -/
def Event.withoutDetail : Event → Event
  | writeRejected _ => .writeRejected ""
  | collaboratorFailed _ => .collaboratorFailed ""
  | lookupFailed source _ _ => .lookupFailed source .internal ""
  | e => e

/-- What collaborators say of their failures is not told apart, and otherwise everything is. -/
def Veil.details : Veil where
  requestId := id
  event := Event.withoutDetail
  failure := Failure.Indistinct
  failure_refl := .same
  event_ofCall := by
    rintro id _ e rfl
    rfl
  failed := by
    intro source f f' primary alike
    cases alike with
    | same => exact ⟨rfl, rfl⟩
    | unshown _ hidden message message' => rcases hidden with rfl | rfl <;> exact ⟨rfl, rfl⟩
    | noData secondary => exact nomatch primary.symm.trans secondary
    | lookupFailed secondary => exact nomatch primary.symm.trans secondary
  settled := by
    intro source f f' secondary alike
    cases alike with
    | same => exact ⟨Iff.rfl, fun _ => rfl⟩
    | unshown primary => exact nomatch primary.symm.trans secondary
    | noData => exact ⟨Iff.rfl, fun _ => rfl⟩
    | lookupFailed _ fails fails' => exact ⟨iff_of_false fails fails', fun _ => rfl⟩

@[simp] theorem record_details : Veil.details.record = id := rfl

/-! ## Failures of primary sources -/

namespace Script

variable {σ α β : Type} {b : Backend σ}

/-- A call to a primary source that fails ends the script, and its status is the result. -/
def Surfaces (b : Backend σ) (script : Script α) : Prop :=
  ∀ s, ∀ c ∈ (script.course b s).calls, c.source.secondary = false → ∀ f, (b.answer c s).1 = .error f →
    (script.course b s).result = .error f.status

/-- A script that asks secondary sources only has no failure that could surface. -/
theorem surfaces_of_secondary {script : Script α} (asks : script.Asks fun c => c.source.secondary = true) :
    script.Surfaces b := by
  intro s c asked primary
  exact nomatch primary.symm.trans (asks.of_mem_calls asked)

/-- The failure of a call surfaces as its status. -/
theorem surfaces_call (c : Call) : (call c).Surfaces b := by
  intro s c' asked primary f failed
  rw [course_call] at asked ⊢
  cases List.mem_singleton.1 asked
  simp [failed]

/-- Checking an input first changes nothing of what surfaces. -/
theorem surfaces_accept_bind {x : Except Refusal α} {next : α → Script β} (rest : ∀ a, (next a).Surfaces b) :
    (accept x >>= next).Surfaces b := by
  cases x with
  | ok a => exact rest a
  | error r => exact fun s c asked => nomatch asked

/-- A failure surfaces if no primary source is asked after the first. -/
theorem Surfaces.bind {script : Script α} {next : α → Script β} (first : script.Surfaces b)
    (rest : ∀ a, (next a).Asks fun c => c.source.secondary = true) : (script >>= next).Surfaces b := by
  intro s c asked primary f failed
  rw [course_bind, Course.calls_bind] at asked
  -- What comes after asks secondary sources only, so the call that failed was made in the first part.
  have early : c ∈ (script.course b s).calls := by
    rcases List.mem_append.1 asked with early | late
    · exact early
    · cases result : (script.course b s).result with
      | error e => simp [result] at late
      | ok a =>
        rw [result] at late
        exact nomatch primary.symm.trans ((rest a).of_mem_calls late)
  rw [course_bind, Course.bind_of_error (first s c early primary f failed)]

/-- The failure of the one call that is made surfaces as its status. -/
theorem surfaces_single {ω : Type} (accepted : Except Refusal ω) (call : ω → Call)
    (respond : (w : ω) → (call w).Reply → List Event × α) : (single accepted call respond).Surfaces b := by
  apply surfaces_accept_bind
  intro w
  exact (surfaces_call (call w)).bind fun reply => asks_logging (respond w reply).1 trivial

end Script

/-- A failure of a primary source surfaces in every operation. -/
theorem Operation.script_surfaces {σ : Type} (b : Backend σ) (ctx : Context) (op : Operation) :
    (op.script ctx).Surfaces b := by
  cases op with
  | getProfile r =>
    rw [script_getProfile]
    exact Script.surfaces_single _ _ _
  | updateProfile r =>
    rw [script_updateProfile]
    exact Script.surfaces_single _ _ _
  | deleteProfile r => exact fun s c asked => nomatch asked
  | addEngagement r =>
    rw [script_addEngagement]
    exact Script.surfaces_single _ _ _
  | removeEngagement r =>
    rw [script_removeEngagement]
    exact Script.surfaces_single _ _ _
  | listFavorites r =>
    apply Script.surfaces_accept_bind
    rintro ⟨user, window⟩
    refine (Script.surfaces_call (.listEngagements user .favorite window.offset window.fetchSize)).bind fun rows => ?_
    refine Script.asks_accept_bind fun page _ => (Script.asks_joined fun c h => ?_).bind fun _ => trivial
    rcases List.mem_append.1 h with h | h
    · rw [projectionLookup_calls h, Call.source, Source.secondary]
    · rw [statsLookup_calls h, Call.source, Source.secondary]
  | listWatchHistory r =>
    apply Script.surfaces_accept_bind
    rintro ⟨user, window⟩
    refine (Script.surfaces_call (.listWatchHistory user window.offset window.fetchSize)).bind fun rows => ?_
    refine Script.asks_accept_bind fun page _ => (Script.asks_lookup fun c h => ?_).bind fun _ => trivial
    rw [projectionLookup_calls h, Call.source, Source.secondary]
  | batchGetFavorites r =>
    apply Script.surfaces_accept_bind
    intro user
    apply Script.surfaces_accept_bind
    intro ids
    refine Script.surfaces_of_secondary ((Script.asks_joined fun c h => ?_).bind fun _ => trivial)
    rcases List.mem_append.1 h with h | h
    · rw [favoritesLookup_calls h, Call.source, Source.secondary]
    · rw [statsLookupIf_calls h, Call.source, Source.secondary]

/-! ## What is kept from clients, and what is not -/

namespace Occasion

variable {σ : Type}

/-- The same occasion before other collaborators. -/
def before (x : Occasion σ) (b : Backend σ) : Occasion σ := { x with backend := b }

/-- The answer to an operation keeps what collaborators say of their failures, but for what it is to tell. -/
structure Confidential (x : Occasion σ) (op : Operation) : Prop where
  /-- Failures that are not told apart are answered alike, and show in nothing but the details of the log. -/
  unseen : ∀ b, x.backend.Like .details b →
    let answer := x.serve op
    let answer' := (x.before b).serve op
    answer'.result = answer.result ∧ answer'.elapsed = answer.elapsed ∧ answer'.store = answer.store ∧
      answer'.calls = answer.calls ∧
      answer'.log.map (fun r => (r.span, r.event.withoutDetail)) =
        answer.log.map (fun r => (r.span, r.event.withoutDetail))
  /-- All codes that stand for no kind make the same failure. -/
  recoded : ∀ code code' message, FailureKind.Unrecognised code → FailureKind.Unrecognised code' →
    (Failure.ofCode code message).kind = .internal ∧ Failure.ofCode code message = Failure.ofCode code' message
  /-- Of a primary source that fails in time two kinds of messages are returned, as they are. -/
  told : ∀ c ∈ (x.serve op).asked, c.source.secondary = false → ∀ f, (x.backend.answer c x.store).1 = .error f →
    x.Uncut op →
    (f.kind = .notFound → (x.serve op).result = .error ⟨.notFound, f.message⟩) ∧
      (f.kind = .unsupportedInput → (x.serve op).result = .error ⟨.invalidArgument, f.message⟩)

/-- **What collaborators say** does not reach clients, but for the messages that are meant for them. -/
theorem confidential (x : Occasion σ) (op : Operation) : x.Confidential op where
  unseen b alike := by
    have contexts : (x.context op).Like .details ((x.before b).context op) := ⟨rfl, rfl, rfl⟩
    have answers := serve_like contexts alike rfl rfl (op.sameInput_refl (x.context op))
    refine ⟨answers.result.symm, answers.elapsed.symm, answers.store.symm, ?_, ?_⟩
    · have calls := answers.calls
      rw [record_details, List.map_id, List.map_id] at calls
      exact calls.symm
    · have log := congrArg (List.map fun r : LogRecord => (r.span, r.event)) answers.log
      simpa [Veil.logRecord, Veil.details, Function.comp_def] using log.symm
  recoded code code' message unknown unknown' := by
    rw [ofCode_of_unrecognised unknown, ofCode_of_unrecognised unknown']
    exact ⟨rfl, rfl⟩
  told c asked primary f failed uncut := by
    obtain ⟨result, -, calls, -⟩ := serve_uncut uncut
    rw [calls] at asked
    have surfaces := op.script_surfaces x.backend (x.context op) x.store c asked primary f failed
    rw [result, course, surfaces]
    exact ⟨fun kind => by rw [Failure.status, kind], fun kind => by rw [Failure.status, kind]⟩

/-! ## The same failures in other words -/

/-- Sources that are made to fail otherwise answer alike if the failures are not told apart. -/
theorem conditions_like {v : Veil} (c : Conditions) {failure : Source → Option Failure}
    (alike : ∀ source, Option.Rel (v.failure source) (c.failure source) (failure source)) :
    c.backend.Like v (Conditions.backend { c with failure }) := by
  have answers : ∀ (call : Call) (s : Store),
      v.Replies call.source (c.backend.answer call s).1 ((Conditions.backend { c with failure }).answer call s).1 ∧
        (c.backend.answer call s).2 = ((Conditions.backend { c with failure }).answer call s).2 := by
    intro call s
    have same := alike call.source
    simp only [Conditions.backend]
    generalize c.failure call.source = f, failure call.source = f' at same
    cases same with
    | none => exact ⟨v.replies_refl call.source _, rfl⟩
    | some failures => exact ⟨.error failures, rfl⟩
  exact ⟨fun _ => rfl, fun call s => (answers call s).1, fun call s => (answers call s).2⟩

/-- Sources that fail as they are told to, and nothing else is amiss. -/
def faulty (failure : Source → Option Failure) : Occasion Store where
  backend := Conditions.backend { Conditions.normal with failure }
  policy := .standard
  call := ⟨Context.root "faulty", .empty⟩
  now := .start
  store := ⟨.empty, [], [], .empty, .empty, 0⟩

/-- Internal failures may be worded otherwise; what was not found is told as it was said. -/
theorem confidential_reworded :
    let failure (internal lookup : Failure) : Source → Option Failure
      | .getProfile => some (.notFound "no such profile")
      | .listEngagements => some internal
      | .favorites => some lookup
      | _ => none
    let x := faulty (failure (.ofCode "disk_full" "disk 3 is full") ⟨.versionConflict, "shard 1"⟩)
    let y := faulty (failure (.ofCode "" "key expired") ⟨.unsupportedInput, "shard 2"⟩)
    let user := some (Uuid.ofNat 1).print
    (y.serve (.listFavorites ⟨user, 0, ""⟩)).result = .error .internalError ∧
      (y.serve (.batchGetFavorites ⟨user, [(Uuid.ofNat 5).print], false⟩)).result =
        .error (.lookupFailed "favorites") ∧
      Failure.ofCode "disk_full" "disk 3 is full" = Failure.ofCode "" "disk 3 is full" ∧
      (x.serve (.getProfile ⟨user⟩)).result = .error ⟨.notFound, "no such profile"⟩ := by
  intro failure x y user
  have unknown : FailureKind.Unrecognised "disk_full" := by
    intro kind
    cases kind <;> simp [FailureKind.name]
  have unknown' : FailureKind.Unrecognised "" := by
    intro kind
    cases kind <;> simp [FailureKind.name]
  have alike : x.backend.Like .details y.backend := by
    refine conditions_like _ fun source => ?_
    cases source with
    | getProfile => exact .some (.same _ _)
    | listEngagements =>
      refine .some ?_
      rw [ofCode_of_unrecognised unknown, ofCode_of_unrecognised unknown']
      exact .unshown rfl (.inl rfl) _ _
    | favorites => exact .some (.lookupFailed rfl (by decide) (by decide) _ _)
    | _ => exact .none
  have listing := (x.confidential (.listFavorites ⟨user, 0, ""⟩)).unseen y.backend alike
  have batch := (x.confidential (.batchGetFavorites ⟨user, [(Uuid.ofNat 5).print], false⟩)).unseen y.backend alike
  have profile := (x.confidential (.getProfile ⟨user⟩)).told (.getProfile (.ofNat 1)) (by decide +kernel) rfl
    (.notFound "no such profile") rfl (by decide +kernel)
  have recoded := (x.confidential (.getProfile ⟨user⟩)).recoded _ _ "disk 3 is full" unknown unknown'
  exact ⟨listing.1.trans (by decide +kernel), batch.1.trans (by decide +kernel), recoded.2, profile.1 rfl⟩

end Occasion
end ProfileGateway
