import ProfileGateway.Proofs.Operation.SingleCall
/-!
# The inputs of the operations

An operation checks its inputs in a fixed order (`Operation.checks`). If one of them is invalid it fails for the first
such input before it does anything else (`Operation.script_of_refused`).
-/
namespace ProfileGateway

open Operation

/-! ## Inputs and their order -/

/-- Why an input is refused, if it is. -/
def refusalOf {α : Type} : Except Refusal α → Option Refusal
  | .ok _ => none
  | .error e => some e

namespace Operation

/-- The ids that the entries of a batch name, as far as they name any. -/
def namedIds (raw : List String) : List Uuid := raw.filterMap fun entry => Uuid.parse? (Text.trim entry)

/-- The inputs of an operation in the order in which they are checked, each with the reason why it is refused. -/
def checks (metadata : Option Metadata) : Operation → List (Option Refusal)
  | getProfile r => [refusalOf (ActingUser.resolve r.userId metadata)]
  | updateProfile r =>
    [refusalOf (ActingUser.resolve r.userId metadata), refusalOf (UpdateMask.ofPaths maskPaths r.updateMask),
      refusalOf (Precondition.ofRequest r.expectedVersion metadata)]
  | deleteProfile _ => []
  | addEngagement r | removeEngagement r =>
    [refusalOf (ActingUser.resolve r.userId metadata), refusalOf (Uuid.ofField "video_id" r.videoId),
      refusalOf (EngagementKind.parse r.kind)]
  | listFavorites r => [refusalOf (ActingUser.resolve r.userId metadata), refusalOf (Page.readToken r.pageToken)]
  | listWatchHistory r => [refusalOf (ActingUser.resolve r.userId metadata), refusalOf (Page.readToken r.pageToken)]
  | batchGetFavorites r =>
    refusalOf (ActingUser.resolve r.userId metadata) ::
      (r.videoIds.map fun entry => refusalOf (Uuid.ofField "video_ids" entry)) ++
      [if batchLimit < (firsts (namedIds r.videoIds)).length then some (.tooManyIds batchLimit) else none]

/-- What an operation is refused for: the first of its inputs that is invalid. -/
def refusal? (op : Operation) (metadata : Option Metadata) : Option Refusal := (op.checks metadata).findSome? id

end Operation

/-! ## Refusals -/

section Refusals

variable {α β : Type}

theorem refusalOf_eq_some {x : Except Refusal α} {e : Refusal} : refusalOf x = some e ↔ x = .error e := by
  cases x <;> simp [refusalOf]

/-- Of the entries of a batch the first that is no id is refused. -/
theorem refusalOf_parseIds (field : String) (raw : List String) :
    refusalOf (parseIds field raw) = (raw.map fun entry => refusalOf (Uuid.ofField field entry)).findSome? id := by
  induction raw with
  | nil => rfl
  | cons entry rest ih =>
    rw [List.map_cons, List.findSome?_cons, ← ih, parseIds]
    cases Uuid.ofField field entry with
    | error e => rfl
    | ok u => cases parseIds field rest <;> rfl

/-- Entries that are all read give the ids they name. -/
theorem parseIds_of_ok {field : String} {raw : List String} {ids : List Uuid} (h : parseIds field raw = .ok ids) :
    ids = namedIds raw := by
  induction raw generalizing ids with
  | nil => exact (Except.ok.inj h).symm
  | cons entry rest ih =>
    rw [parseIds, Uuid.ofField] at h
    cases named : Uuid.parse? (Text.trim entry) with
    | none => simp [named, bind, Except.bind] at h
    | some u =>
      cases others : parseIds field rest with
      | error e => simp [named, others, bind, Except.bind] at h
      | ok us =>
        rw [named, others] at h
        rw [namedIds, List.filterMap_cons, named, ← Except.ok.inj h, ih others]
        rfl

/-- A batch is refused for its first entry that names nothing, and then for its size. -/
theorem refusalOf_batchIds (raw : List String) : refusalOf (batchIds raw) =
    ((raw.map fun entry => refusalOf (Uuid.ofField "video_ids" entry)).findSome? id).or
      (if batchLimit < (firsts (namedIds raw)).length then some (.tooManyIds batchLimit) else none) := by
  rw [← refusalOf_parseIds, batchIds]
  cases named : parseIds "video_ids" raw with
  | error e => rfl
  | ok ids =>
    rw [← parseIds_of_ok named]
    change refusalOf (if _ then _ else _) = _
    split <;> rfl

end Refusals

/-! ## Scripts of refused operations -/

section Scripts

variable {ctx : Context}

/-- An update is refused for its user, its mask or its version, whichever fails first. -/
theorem refusalOf_profileChange (r : UpdateProfileRequest) : refusalOf (profileChange ctx r) =
    [refusalOf (ActingUser.resolve r.userId ctx.metadata), refusalOf (UpdateMask.ofPaths maskPaths r.updateMask),
      refusalOf (Precondition.ofRequest r.expectedVersion ctx.metadata)].findSome? id := by
  unfold profileChange
  cases ActingUser.resolve r.userId ctx.metadata with
  | error e => rfl
  | ok user =>
    cases UpdateMask.ofPaths maskPaths r.updateMask with
    | error e => rfl
    | ok mask => cases Precondition.ofRequest r.expectedVersion ctx.metadata <;> rfl

/-- An engagement is refused for its user, its video or its kind, whichever fails first. -/
theorem refusalOf_engagementChange (r : EngagementRequest) : refusalOf (engagementChange ctx r) =
    [refusalOf (ActingUser.resolve r.userId ctx.metadata), refusalOf (Uuid.ofField "video_id" r.videoId),
      refusalOf (EngagementKind.parse r.kind)].findSome? id := by
  unfold engagementChange
  cases ActingUser.resolve r.userId ctx.metadata with
  | error e => rfl
  | ok user =>
    cases Uuid.ofField "video_id" r.videoId with
    | error e => rfl
    | ok video => cases EngagementKind.parse r.kind <;> rfl

/-- A listing is refused for its user or its token, whichever fails first. -/
theorem refusalOf_listing (userId : Option String) (pageSize : Int32) (pageToken : String) :
    refusalOf (listing ctx userId pageSize pageToken) =
      [refusalOf (ActingUser.resolve userId ctx.metadata), refusalOf (Page.readToken pageToken)].findSome? id := by
  unfold listing Window.ofRequest
  cases ActingUser.resolve userId ctx.metadata with
  | error e => rfl
  | ok user => cases Page.readToken pageToken <;> rfl

/-- An operation with an invalid input fails before it does anything else. -/
theorem script_of_refused {op : Operation} {e : Refusal} (refused : op.refusal? ctx.metadata = some e) :
    op.script ctx = .fail e.status := by
  cases op with
  | getProfile r =>
    have acting : ActingUser.resolve r.userId ctx.metadata = .error e := by
      simpa [refusal?, checks, refusalOf_eq_some] using refused
    rw [script_getProfile, Script.single_of_refused acting]
  | updateProfile r =>
    have change := refusalOf_eq_some.1 ((refusalOf_profileChange r).trans refused)
    rw [script_updateProfile, Script.single_of_refused change]
  | deleteProfile r => cases refused
  | addEngagement r =>
    have change := refusalOf_eq_some.1 ((refusalOf_engagementChange r).trans refused)
    rw [script_addEngagement, Script.single_of_refused change]
  | removeEngagement r =>
    have change := refusalOf_eq_some.1 ((refusalOf_engagementChange r).trans refused)
    rw [script_removeEngagement, Script.single_of_refused change]
  | listFavorites r =>
    have asks := refusalOf_eq_some.1 ((refusalOf_listing r.userId r.pageSize r.pageToken).trans refused)
    simp only [script, runListFavorites, asks]
    rfl
  | listWatchHistory r =>
    have asks := refusalOf_eq_some.1 ((refusalOf_listing r.userId r.pageSize r.pageToken).trans refused)
    simp only [script, runListWatchHistory, asks]
    rfl
  | batchGetFavorites r =>
    simp only [refusal?, checks, List.cons_append, List.findSome?_cons, id] at refused
    cases acting : ActingUser.resolve r.userId ctx.metadata with
    | error e' =>
      rw [acting] at refused
      cases refused
      simp only [script, runBatchGetFavorites, acting]
      rfl
    | ok user =>
      rw [acting] at refused
      have names : batchIds r.videoIds = .error e := by
        rw [← refusalOf_eq_some, refusalOf_batchIds, ← refused]
        simp [refusalOf, List.findSome?_append]
      simp only [script, runBatchGetFavorites, acting, names]
      rfl

end Scripts

end ProfileGateway
