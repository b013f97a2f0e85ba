import ProfileGateway.Proofs.Collaborator.Frames
import ProfileGateway.Proofs.Operation.Engagements
import ProfileGateway.Proofs.Write.Turns
/-!
# All of a write or nothing

A call that fails leaves the store as it was, however it fails, and a read always does. A write that succeeds changes
the one profile or the engagements of the one key that it is about (`Setting.serve_moves`). So over a whole run the
store stays as it was wherever no turn has written (`failure_atomicity`).
-/
namespace ProfileGateway

open Operation

/-- An operation that does not write asks for no write. -/
theorem Operation.MayAsk.reads {ctx : Context} {op : Operation} {c : Call} (h : op.MayAsk ctx c)
    (reads : op.writesTo? = none) : c.writes = false := by
  cases h with
  | update | add | remove => cases reads
  | _ => rfl

/-- A call that reads leaves the store as it is. -/
theorem Store.Moves.of_read {s s' : Store} {c : Call} (moves : s.Moves c s') (reads : c.writes = false) : s' = s := by
  cases moves with
  | update | add | remove => cases reads
  | read => rfl

/-- After a removal no engagement of its key is left. -/
theorem Store.Moves.of_remove {s s' : Store} {write : EngagementChange} (moves : s.Moves (.removeEngagement write) s') :
    s'.engagementsAt write.key = [] := by
  cases moves with
  | remove => exact s.engagementsAt_without write.key
  | read reads => cases reads

/-! ## What operations make of the store -/

namespace Setting

/-- What comes of an operation. -/
def serve (x : Setting) (op : Operation) (s : Store) : Answer Store op.Response := (x.occasion s).serve op

/-- The request is about the engagements of this key. -/
structure Names (x : Setting) (r : EngagementRequest) (key : EngagementKey) : Prop where
  acting : ActingUser.resolve r.userId x.call.carried = .ok key.userId
  video : Uuid.ofField "video_id" r.videoId = .ok key.videoId
  kind : EngagementKind.parse r.kind = .ok key.kind

/-- What an operation that succeeds makes of the store. -/
inductive Moves (x : Setting) (s : Store) : Operation → Store → Prop
  | update {r u} (p : Profile) (concerns : x.Concerns r u) : Moves x s (.updateProfile r) (s.withProfile u p)
  | add {r e} (names : x.Names r e.key) : Moves x s (.addEngagement r) (s.withEngagement e)
  | remove {r key} (names : x.Names r key) : Moves x s (.removeEngagement r) (s.without key)
  | read {op} (reads : op.writesTo? = none) : Moves x s op s

variable {x : Setting} {s : Store} {op : Operation}

/-- A request names one key. -/
theorem Names.unique {r : EngagementRequest} {key key' : EngagementKey} (h : x.Names r key) (h' : x.Names r key') :
    key = key' := by
  obtain ⟨user, video, kind⟩ := key
  cases Except.ok.inj (h.acting.symm.trans h'.acting)
  cases Except.ok.inj (h.video.symm.trans h'.video)
  cases Except.ok.inj (h.kind.symm.trans h'.kind)
  rfl

/-- An update that succeeds touches the profile it concerns, and nothing else. -/
theorem Moves.of_update {r : UpdateProfileRequest} {s' : Store} (moves : x.Moves s (.updateProfile r) s') :
    ∃ u, x.Concerns r u ∧ s.OnlyProfile u s' := by
  cases moves with
  | @update _ u p concerns => exact ⟨u, concerns, s.onlyProfile_withProfile u p⟩
  | read reads => cases reads

/-- An addition touches the engagements of the key it names, and nothing else. -/
theorem Moves.of_add {r : EngagementRequest} {s' : Store} (moves : x.Moves s (.addEngagement r) s') :
    ∃ key, x.Names r key ∧ s.OnlyEngagements key s' := by
  cases moves with
  | @add _ e names => exact ⟨e.key, names, s.onlyEngagements_withEngagement e⟩
  | read reads => cases reads

/-- So does a removal, and it leaves none of them. -/
theorem Moves.of_remove {r : EngagementRequest} {s' : Store} (moves : x.Moves s (.removeEngagement r) s') :
    ∃ key, x.Names r key ∧ s.OnlyEngagements key s' ∧ s'.engagementsAt key = [] := by
  cases moves with
  | @remove _ key names => exact ⟨key, names, s.onlyEngagements_without key, s.engagementsAt_without key⟩
  | read reads => cases reads

/-- The key an operation hands on is the one its request names. -/
theorem Names.of_accepted {r : EngagementRequest} {write : EngagementChange}
    (accepted : engagementChange ((x.occasion s).context op) r = .ok write) : x.Names r write.key := by
  obtain ⟨acting, video, kind⟩ := engagementChange_spec accepted
  rw [Occasion.metadata_context] at acting
  exact ⟨acting, video, kind⟩

theorem store_of_reads (reads : op.writesTo? = none) : (x.serve op s).store = s := by
  refine Occasion.serve_keeps (x := x.occasion s) (P := fun s' => s' = s) ?_ rfl
  intro c asks s' same
  rw [← same]
  rcases x.conditions.answer_moves c s' with ⟨f, -, store⟩ | ⟨reply, -, moves⟩
  · exact store
  · exact moves.of_read (asks.reads reads)

/-- An operation that asks once fails and leaves the store as it is, or does what it asks for. -/
theorem single_moves {ω : Type} {accepted : Except Refusal ω} {call : ω → Call}
    {respond : (w : ω) → (call w).Reply → List Event × op.Response}
    (shape : op.script ((x.occasion s).context op) = .single accepted call respond) :
    (∃ e, (x.serve op s).result = .error e ∧ (x.serve op s).store = s) ∨
      ∃ w response, accepted = .ok w ∧ (x.serve op s).result = .ok response ∧
        s.Moves (call w) (x.serve op s).store := by
  rcases Occasion.single_cases shape with ⟨e, -, result, -, store⟩ | ⟨w, valid, -, ⟨-, result, store⟩ | ⟨result, store⟩⟩
  · exact .inl ⟨_, result, store⟩
  · exact .inl ⟨_, result, store⟩
  · change (x.serve op s).result = ((x.conditions.backend.answer (call w) s).1.mapError Failure.status).map _ at result
    change (x.serve op s).store = (x.conditions.backend.answer (call w) s).2 at store
    rcases x.conditions.answer_moves (call w) s with ⟨f, failed, same⟩ | ⟨reply, answered, moves⟩
    · rw [failed] at result
      exact .inl ⟨f.status, result, store.trans same⟩
    · rw [answered] at result
      rw [← store] at moves
      exact .inr ⟨w, (respond w reply).2, valid, result, moves⟩

/-- **An operation** fails and leaves the store as it is, or changes what it is about and nothing else. -/
theorem serve_moves (x : Setting) (op : Operation) (s : Store) :
    (∃ e, (x.serve op s).result = .error e ∧ (x.serve op s).store = s) ∨
      ∃ response, (x.serve op s).result = .ok response ∧ x.Moves s op (x.serve op s).store := by
  cases op with
  | updateProfile r =>
    refine (single_moves (script_updateProfile _ r)).imp_right ?_
    rintro ⟨change, response, accepted, result, moves⟩
    refine ⟨response, result, ?_⟩
    generalize (x.serve (.updateProfile r) s).store = s' at moves ⊢
    cases moves with
    | update p => exact .update p (Occasion.change_spec (x := x.occasion s) accepted).1
    | read reads => cases reads
  | addEngagement r =>
    refine (single_moves (script_addEngagement _ r)).imp_right ?_
    rintro ⟨write, response, accepted, result, moves⟩
    refine ⟨response, result, ?_⟩
    generalize (x.serve (.addEngagement r) s).store = s' at moves ⊢
    cases moves with
    | add key => exact .add (key ▸ Names.of_accepted accepted)
    | read reads => cases reads
  | removeEngagement r =>
    refine (single_moves (script_removeEngagement _ r)).imp_right ?_
    rintro ⟨write, response, accepted, result, moves⟩
    refine ⟨response, result, ?_⟩
    generalize (x.serve (.removeEngagement r) s).store = s' at moves ⊢
    cases moves with
    | remove => exact .remove (Names.of_accepted accepted)
    | read reads => cases reads
  | _ =>
    -- The other operations may succeed or fail, their calls leave the store as it is either way.
    rw [store_of_reads rfl]
    generalize (Setting.serve x _ s).result = result
    cases result with
    | error e => exact .inl ⟨e, rfl, rfl⟩
    | ok response => exact .inr ⟨response, rfl, .read rfl⟩

/-- An operation that succeeds moves the store as its kind says. -/
theorem moves_of_ok {response : op.Response} (success : (x.serve op s).result = .ok response) :
    x.Moves s op (x.serve op s).store := by
  rcases x.serve_moves op s with ⟨e, failed, -⟩ | ⟨-, -, moves⟩
  · cases success.symm.trans failed
  · exact moves

end Setting

/-! ## What turns make of the store -/

namespace Turn

/-- The turn ends with an error. -/
def Fails (s : Store) : Turn → Prop
  | serve op x => ∃ e, (x.serve op s).result = .error e
  | answer conditions c _ => ∃ f, (conditions.backend.answer c s).1 = .error f

/-- The turn is one of an operation that does not write, or answers a call that does not. -/
def Reads : Turn → Prop
  | serve op _ => op.writesTo? = none
  | answer _ c _ => c.writes = false

/-- The turn adds an engagement of this key. -/
def Adds (key : EngagementKey) (s : Store) : Turn → Prop
  | serve (.addEngagement r) x => x.Names r key ∧ ∃ response, (x.serve (.addEngagement r) s).result = .ok response
  | answer conditions (.addEngagement write) _ =>
    write.key = key ∧ ∃ e, (conditions.backend.answer (.addEngagement write) s).1 = .ok e
  | _ => False

/-- The turn removes the engagements of this key. -/
def Removes (key : EngagementKey) (s : Store) : Turn → Prop
  | serve (.removeEngagement r) x => x.Names r key ∧ ∃ u, (x.serve (.removeEngagement r) s).result = .ok u
  | answer conditions (.removeEngagement write) _ =>
    write.key = key ∧ ∃ u, (conditions.backend.answer (.removeEngagement write) s).1 = .ok u
  | _ => False

/-- What a turn makes of the store, and what it has done for that. -/
inductive Step (s : Store) (t : Turn) : Store → Prop
  | still : Step s t s
  | update {u} (p : Profile) (updates : t.updates u s = true) : Step s t (s.withProfile u p)
  | add {e : Engagement} (adds : t.Adds e.key s) : Step s t (s.withEngagement e)
  | remove {key} (removes : t.Removes key s) : Step s t (s.without key)

/-- Serving an operation is a step of the store: either it succeeded and did what its kind says, or nothing changed. -/
theorem serve_step (op : Operation) (x : Setting) (s : Store) : (serve op x).Step s (x.serve op s).store := by
  rcases x.serve_moves op s with ⟨e, -, store⟩ | ⟨response, result, moves⟩
  · rw [store]
    exact .still
  · generalize (x.serve op s).store = s' at moves ⊢
    cases moves with
    | @update r u p concerns =>
      have succeeds : x.Succeeds r s := by
        change (x.serve (.updateProfile r) s).result.isOk = true
        rw [result]
        rfl
      exact .update p (decide_eq_true ⟨concerns, succeeds⟩)
    | add names => exact .add ⟨names, response, result⟩
    | remove names => exact .remove ⟨names, response, result⟩
    | read => exact .still

/-- So is a call that a collaborator answers by itself. -/
theorem answer_step (conditions : Conditions) (c : Call) (other : c.source ≠ .updateProfile) (s : Store) :
    (answer conditions c other).Step s (conditions.backend.answer c s).2 := by
  rcases conditions.answer_moves c s with ⟨f, -, store⟩ | ⟨reply, answered, moves⟩
  · rw [store]
    exact .still
  · generalize (conditions.backend.answer c s).2 = s' at moves ⊢
    cases moves with
    | update => exact absurd rfl other
    | add key => exact .add ⟨key.symm, reply, answered⟩
    | remove => exact .remove ⟨rfl, reply, answered⟩
    | read => exact .still

/-- **A turn** leaves the store as it is, or writes what it is about. -/
theorem next_step (t : Turn) (s : Store) : t.Step s (t.next s) := by
  cases t with
  | serve op x => exact serve_step op x s
  | answer conditions c other => exact answer_step conditions c other s

/-- A turn that ends with an error leaves the store as it is. -/
theorem next_of_fails {t : Turn} {s : Store} (fails : t.Fails s) : t.next s = s := by
  cases t with
  | serve op x =>
    obtain ⟨e, failed⟩ := fails
    rcases x.serve_moves op s with ⟨-, -, store⟩ | ⟨response, result, -⟩
    · exact store
    · cases failed.symm.trans result
  | answer conditions c other =>
    obtain ⟨f, failed⟩ := fails
    rcases conditions.answer_moves c s with ⟨-, -, store⟩ | ⟨reply, answered, -⟩
    · exact store
    · cases failed.symm.trans answered

theorem next_of_reads {t : Turn} {s : Store} (reads : t.Reads) : t.next s = s := by
  cases t with
  | serve op x => exact Setting.store_of_reads reads
  | answer conditions c other =>
    rcases conditions.answer_moves c s with ⟨-, -, store⟩ | ⟨-, -, moves⟩
    · exact store
    · exact moves.of_read reads

theorem engagementsAt_of_removes {t : Turn} {s : Store} {key : EngagementKey} (removes : t.Removes key s) :
    (t.next s).engagementsAt key = [] := by
  cases t with
  | serve op x =>
    cases op with
    | removeEngagement r =>
      obtain ⟨names, u, success⟩ := removes
      obtain ⟨key', names', -, none⟩ := (Setting.moves_of_ok success).of_remove
      cases names.unique names'
      exact none
    | _ => cases removes
  | answer conditions c other =>
    cases c with
    | removeEngagement write =>
      obtain ⟨rfl, u, success⟩ := removes
      change (conditions.backend.answer (.removeEngagement write) s).2.engagementsAt write.key = []
      rcases conditions.answer_moves (.removeEngagement write) s with ⟨f, failed, -⟩ | ⟨-, -, moves⟩
      · cases success.symm.trans failed
      · exact moves.of_remove
    | _ => cases removes

namespace Step

variable {s s' : Store} {t : Turn}

/-- What no operation writes outlasts every turn. -/
theorem sameRest (step : t.Step s s') : s.SameRest s' := by
  cases step <;> exact ⟨rfl, rfl, rfl, rfl⟩

/-- A profile outlasts each turn that does not update it with success. -/
theorem profile {u : Uuid} (step : t.Step s s') (quiet : t.updates u s = false) :
    s'.profiles.get? u = s.profiles.get? u := by
  cases step with
  | @update u' p updates =>
    refine (s.onlyProfile_withProfile u' p).profiles u ?_
    rintro rfl
    cases updates.symm.trans quiet
  | still | add | remove => rfl

/-- The engagements of a key outlast each turn that neither adds nor removes one of them. -/
theorem engagementsAt {key : EngagementKey} (step : t.Step s s') (adds : ¬t.Adds key s) (removes : ¬t.Removes key s) :
    s'.engagementsAt key = s.engagementsAt key := by
  cases step with
  | still | update => rfl
  | @add e added =>
    refine (s.onlyEngagements_withEngagement e).engagementsAt ?_
    rintro rfl
    exact adds added
  | @remove key' removed =>
    refine (s.onlyEngagements_without key').engagementsAt ?_
    rintro rfl
    exact removes removed

/-- Engagements that are not there come only by being added. -/
theorem engagementsAt_nil {key : EngagementKey} (step : t.Step s s') (adds : ¬t.Adds key s)
    (none : s.engagementsAt key = []) : s'.engagementsAt key = [] := by
  cases step with
  | still | update => exact none
  | @add e added =>
    have other : key ≠ e.key := by
      rintro rfl
      exact adds added
    rw [(s.onlyEngagements_withEngagement e).engagementsAt other, none]
  | @remove key' removed =>
    by_cases same : key = key'
    · rw [same, Store.engagementsAt_without]
    · rw [(s.onlyEngagements_without key').engagementsAt same, none]

end Step
end Turn

/-! ## What runs make of the store -/

/-- No turn of the run does this. -/
def Never (does : Store → Turn → Prop) : Store → List Turn → Prop
  | _, [] => True
  | s, t :: run => ¬does s t ∧ Never does (t.next s) run

section Runs

variable {s : Store} {run : List Turn}

/-- What no operation writes outlasts every run. -/
theorem Store.sameRest_after (s : Store) (run : List Turn) : s.SameRest (s.after run) := by
  induction run generalizing s with
  | nil => exact .refl s
  | cons t run ih => exact (t.next_step s).sameRest.trans (ih (t.next s))

/-- A profile that no turn of a run updates is the same after it. -/
theorem Store.profile_after {u : Uuid} (quiet : successes u s run = 0) :
    (s.after run).profiles.get? u = s.profiles.get? u := by
  induction run generalizing s with
  | nil => rfl
  | cons t run ih =>
    rw [successes, Nat.add_eq_zero_iff] at quiet
    have still : t.updates u s = false := by simpa using quiet.1
    exact (ih quiet.2).trans ((t.next_step s).profile still)

/-- The engagements of a key that no turn of a run adds or removes are the same after it. -/
theorem Store.engagementsAt_after {key : EngagementKey} (adds : Never (Turn.Adds key) s run)
    (removes : Never (Turn.Removes key) s run) : (s.after run).engagementsAt key = s.engagementsAt key := by
  induction run generalizing s with
  | nil => rfl
  | cons t run ih => exact (ih adds.2 removes.2).trans ((t.next_step s).engagementsAt adds.1 removes.1)

/-- A key without engagements has none after a run that adds none of it, whatever it removes. -/
theorem Store.engagementsAt_after_nil {key : EngagementKey} (adds : Never (Turn.Adds key) s run)
    (none : s.engagementsAt key = []) : (s.after run).engagementsAt key = [] := by
  induction run generalizing s with
  | nil => exact none
  | cons t run ih => exact ih adds.2 ((t.next_step s).engagementsAt_nil adds.1 none)

end Runs

/-! ## The law -/

/-- What holds at all points of all runs that begin here. -/
structure FailureAtomicity (s : Store) : Prop where
  /-- A turn that ends with an error leaves the whole store as it is. -/
  failed : ∀ run (t : Turn), t.Fails (s.after run) → s.after (run ++ [t]) = s.after run
  /-- Reads and deletions never change the store. -/
  reads : ∀ run (t : Turn), t.Reads → s.after (run ++ [t]) = s.after run
  /-- An update that succeeds changes the profile of its user only. -/
  updates : ∀ run (x : Setting) r view, (x.serve (.updateProfile r) (s.after run)).result = .ok view →
    ∃ u, x.Concerns r u ∧ (s.after run).OnlyProfile u (s.after (run ++ [.serve (.updateProfile r) x]))
  /-- An addition that succeeds changes the engagements of its user, video and kind only. -/
  adds : ∀ run (x : Setting) r response, (x.serve (.addEngagement r) (s.after run)).result = .ok response →
    ∃ key, x.Names r key ∧ (s.after run).OnlyEngagements key (s.after (run ++ [.serve (.addEngagement r) x]))
  /-- A removal that succeeds does too, and leaves none of them. -/
  removes : ∀ run (x : Setting) r, (x.serve (.removeEngagement r) (s.after run)).result = .ok () →
    ∃ key, x.Names r key ∧ (s.after run).OnlyEngagements key (s.after (run ++ [.serve (.removeEngagement r) x])) ∧
      (s.after (run ++ [.serve (.removeEngagement r) x])).engagementsAt key = []
  /-- The watch log, the projections, the stats and the time stay as they are. -/
  rest : ∀ run, s.SameRest (s.after run)
  /-- A profile stays as it is until an update of it succeeds. -/
  profiles : ∀ run u, successes u s run = 0 → (s.after run).profiles.get? u = s.profiles.get? u
  /-- The engagements of a key stay as they are until one is added or they are removed. -/
  engagements : ∀ run key, Never (Turn.Adds key) s run → Never (Turn.Removes key) s run →
    (s.after run).engagementsAt key = s.engagementsAt key
  /-- Engagements that have been removed are gone until one is added again. -/
  gone : ∀ run (t : Turn) later key, t.Removes key (s.after run) →
    Never (Turn.Adds key) (s.after (run ++ [t])) later → (s.after (run ++ t :: later)).engagementsAt key = []

theorem Store.after_concat (s : Store) (run : List Turn) (t : Turn) : s.after (run ++ [t]) = t.next (s.after run) :=
  s.after_append run [t]

/-- **All of a write or nothing**, and nothing but what the write is about, whatever fails, waits or is cut. -/
theorem failure_atomicity (s : Store) : FailureAtomicity s := by
  constructor
  case failed =>
    intro run t fails
    rw [s.after_concat]
    exact Turn.next_of_fails fails
  case reads =>
    intro run t reads
    rw [s.after_concat]
    exact Turn.next_of_reads reads
  case updates =>
    intro run x r view success
    rw [s.after_concat]
    exact (Setting.moves_of_ok success).of_update
  case adds =>
    intro run x r response success
    rw [s.after_concat]
    exact (Setting.moves_of_ok success).of_add
  case removes =>
    intro run x r success
    rw [s.after_concat]
    exact (Setting.moves_of_ok success).of_remove
  case rest =>
    intro run
    exact s.sameRest_after run
  case profiles =>
    intro run u quiet
    exact Store.profile_after quiet
  case engagements =>
    intro run key adds removes
    exact Store.engagementsAt_after adds removes
  case gone =>
    intro run t later key removes adds
    rw [List.append_cons, s.after_append]
    refine Store.engagementsAt_after_nil adds ?_
    rw [s.after_concat]
    exact Turn.engagementsAt_of_removes removes

/-! ## A removal that comes too late, and again in time -/

/-- A store with two favorites of one user. -/
def twoFavorites : Store where
  profiles := .empty
  engagements := [⟨.ofNat 1, .ofNat 5, .favorite, 30⟩, ⟨.ofNat 1, .ofNat 6, .favorite, 20⟩]
  watchLog := []
  projections := .empty
  stats := .empty
  clockMs := 40

/-- A call under the standard policy, before sources that wait so long. -/
def patient (delay : Duration) : Setting :=
  ⟨.standard, { Conditions.normal with delay := fun _ => delay }, ⟨.root "patient", .empty⟩, .start⟩

/-- A removal that comes too late changes nothing; in time it takes away the engagement it names, and only that one. -/
theorem failure_atomicity_removal :
    let r : EngagementRequest := ⟨some (Uuid.ofNat 1).print, (Uuid.ofNat 5).print, " Favorite "⟩
    let late : Turn := .serve (.removeEngagement r) (patient (.ofSeconds 6))
    let removal : Turn := .serve (.removeEngagement r) (patient (.ofSeconds 5))
    twoFavorites.after [late] = twoFavorites ∧
      (twoFavorites.after [late, removal]).engagementsAt ⟨.ofNat 1, .ofNat 5, .favorite⟩ = [] ∧
      (twoFavorites.after [late, removal]).engagementsAt ⟨.ofNat 1, .ofNat 6, .favorite⟩ =
        [⟨.ofNat 1, .ofNat 6, .favorite, 20⟩] := by
  intro r late removal
  have law := failure_atomicity twoFavorites
  have same : twoFavorites.after [late] = twoFavorites := law.failed [] late ⟨.deadlineExceeded, by decide +kernel⟩
  have success : ((patient (.ofSeconds 5)).serve (.removeEngagement r) (twoFavorites.after [late])).result = .ok () := by
    rw [same]
    decide +kernel
  have names : (patient (.ofSeconds 5)).Names r ⟨.ofNat 1, .ofNat 5, .favorite⟩ :=
    ⟨by decide +kernel, by decide +kernel, by decide +kernel⟩
  obtain ⟨key, names', only, none⟩ := law.removes [late] _ r success
  cases names.unique names'
  refine ⟨same, none, ?_⟩
  rw [List.singleton_append] at only
  rw [only.engagementsAt (by decide +kernel), same]
  decide +kernel

end ProfileGateway
