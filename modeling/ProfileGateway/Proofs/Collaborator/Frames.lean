import ProfileGateway.Proofs.Collaborator.Versions
/-!
# What calls change in the store

A call that fails changes nothing, and neither does a read. A write that succeeds changes the profile of one user, or
the engagements of one key (`Conditions.answer_moves`); everything else stays as it was.
-/
namespace ProfileGateway

/-- What an engagement is told apart by. -/
structure EngagementKey where
  userId : Uuid
  videoId : Uuid
  kind : EngagementKind
deriving DecidableEq, Repr

def Engagement.key (e : Engagement) : EngagementKey := ⟨e.userId, e.videoId, e.kind⟩

def EngagementChange.key (w : EngagementChange) : EngagementKey := ⟨w.userId, w.videoId, w.kind⟩

/-- The call asks for a write. -/
def Call.writes : Call → Bool
  | updateProfile _ | addEngagement _ | removeEngagement _ => true
  | getProfile _ | listEngagements .. | favoritesAmong .. | listWatchHistory .. | stats _ | projections _ => false

/-- A change concerns the engagements of its key. -/
theorem EngagementChange.concerns_iff {w : EngagementChange} {e : Engagement} :
    w.concerns e = true ↔ e.key = w.key := by
  simp [concerns, Engagement.key, key]

namespace Store

/-! ## Frames -/

/-- The engagements of one key. -/
def engagementsAt (s : Store) (key : EngagementKey) : List Engagement := s.engagements.filter fun e => e.key = key

/-- The store has the same watch log, the same projections and stats, and the same time. -/
structure SameRest (s s' : Store) : Prop where
  watchLog : s'.watchLog = s.watchLog
  projections : s'.projections = s.projections
  stats : s'.stats = s.stats
  clockMs : s'.clockMs = s.clockMs

/-- Nothing differs but the profile of this user. -/
structure OnlyProfile (u : Uuid) (s s' : Store) : Prop extends SameRest s s' where
  profiles : ∀ u', u' ≠ u → s'.profiles.get? u' = s.profiles.get? u'
  engagements : s'.engagements = s.engagements

/-- Nothing differs but the engagements of this key; all others are there, in the order that they had. -/
structure OnlyEngagements (key : EngagementKey) (s s' : Store) : Prop extends SameRest s s' where
  profiles : s'.profiles = s.profiles
  engagements : (s'.engagements.filter fun e => e.key ≠ key) = s.engagements.filter fun e => e.key ≠ key

theorem SameRest.refl (s : Store) : s.SameRest s := ⟨rfl, rfl, rfl, rfl⟩

theorem SameRest.trans {s s' s'' : Store} (h : s.SameRest s') (h' : s'.SameRest s'') : s.SameRest s'' :=
  ⟨h'.watchLog.trans h.watchLog, h'.projections.trans h.projections, h'.stats.trans h.stats,
    h'.clockMs.trans h.clockMs⟩

/-- The engagements of a key are among those of all keys but another one. -/
theorem OnlyEngagements.engagementsAt {key key' : EngagementKey} {s s' : Store} (only : OnlyEngagements key s s')
    (other : key' ≠ key) : s'.engagementsAt key' = s.engagementsAt key' := by
  -- The key is another one, so leaving that one out first takes none of its engagements away.
  have among : ∀ s : Store, s.engagementsAt key' =
      (s.engagements.filter fun e => e.key ≠ key).filter fun e => e.key = key' := by
    intro s
    rw [List.filter_filter, Store.engagementsAt]
    refine List.filter_congr fun e _ => ?_
    by_cases h : e.key = key' <;> simp [h, other]
  rw [among, among, only.engagements]

/-! ## Writes -/

/-- The store with one more engagement. -/
def withEngagement (s : Store) (e : Engagement) : Store := { s with engagements := s.engagements ++ [e] }

/-- The store without the engagements of a key. -/
def without (s : Store) (key : EngagementKey) : Store :=
  { s with engagements := s.engagements.filter fun e => e.key ≠ key }

/-- Storing a profile touches only this one. -/
theorem onlyProfile_withProfile (s : Store) (u : Uuid) (p : Profile) : OnlyProfile u s (s.withProfile u p) where
  toSameRest := ⟨rfl, rfl, rfl, rfl⟩
  profiles u' other := by
    rw [withProfile, Table.get?_insert, if_neg other.symm]
  engagements := rfl

/-- Storing an engagement touches only those of its key. -/
theorem onlyEngagements_withEngagement (s : Store) (e : Engagement) :
    OnlyEngagements e.key s (s.withEngagement e) where
  toSameRest := ⟨rfl, rfl, rfl, rfl⟩
  profiles := rfl
  engagements := by simp [withEngagement]

/-- Removing a key touches only its engagements. -/
theorem onlyEngagements_without (s : Store) (key : EngagementKey) : OnlyEngagements key s (s.without key) where
  toSameRest := ⟨rfl, rfl, rfl, rfl⟩
  profiles := rfl
  engagements := by simp [without]

@[simp] theorem engagementsAt_without (s : Store) (key : EngagementKey) : (s.without key).engagementsAt key = [] := by
  simp [engagementsAt, without]

/-- What a call that succeeds makes of the store. -/
inductive Moves (s : Store) : Call → Store → Prop
  | update {change} (p : Profile) : Moves s (.updateProfile change) (s.withProfile change.userId p)
  | add {write e} (key : e.key = write.key) : Moves s (.addEngagement write) (s.withEngagement e)
  | remove {write} : Moves s (.removeEngagement write) (s.without write.key)
  | read {c : Call} (reads : c.writes = false) : Moves s c s

/-- This answer to a call is a failure and leaves the store as it is, or it is all that the call asks for. -/
def AllOrNone (s : Store) (c : Call) (answer : Except Failure c.Reply × Store) : Prop :=
  (∃ f, answer.1 = .error f ∧ answer.2 = s) ∨ ∃ reply, answer.1 = .ok reply ∧ s.Moves c answer.2

/-- An update fails and changes nothing, or it stores the profile it answers with. -/
theorem updateProfile_moves (s : Store) (change : ProfileChange) :
    s.AllOrNone (.updateProfile change) (s.updateProfile change) := by
  rcases s.updateProfile_cases change with ⟨-, answer⟩ | ⟨v, -, ⟨n, -, -, answer⟩ | ⟨p, -, -, answer⟩⟩ <;> rw [answer]
  · exact .inl ⟨_, rfl, rfl⟩
  · exact .inl ⟨_, rfl, rfl⟩
  · exact .inr ⟨p, rfl, .update p⟩

/-- A removal fails and changes nothing, or it takes every engagement of its key. -/
theorem removeEngagement_moves (s : Store) (write : EngagementChange) :
    s.AllOrNone (.removeEngagement write) (s.removeEngagement write) := by
  unfold removeEngagement
  split
  · have rest : (s.engagements.filter fun e => !write.concerns e) =
        s.engagements.filter fun e => e.key ≠ write.key := by
      refine List.filter_congr fun e _ => ?_
      rw [Bool.eq_iff_iff]
      simp [← EngagementChange.concerns_iff]
    rw [rest]
    exact .inr ⟨(), rfl, .remove⟩
  · exact .inl ⟨_, rfl, rfl⟩

/-- **Whatever the store is asked**, it fails and is as it was, or does what it is asked. -/
theorem answer_moves (c : Call) (s : Store) : s.AllOrNone c (answer c s) := by
  cases c with
  | getProfile user =>
    change s.AllOrNone (.getProfile user) (s.profile user, s)
    cases s.profile user with
    | error f => exact .inl ⟨f, rfl, rfl⟩
    | ok p => exact .inr ⟨p, rfl, .read rfl⟩
  | updateProfile change => exact s.updateProfile_moves change
  | addEngagement write => exact .inr ⟨_, rfl, .add rfl⟩
  | removeEngagement write => exact s.removeEngagement_moves write
  | listEngagements | favoritesAmong | listWatchHistory | stats | projections => exact .inr ⟨_, rfl, .read rfl⟩

end Store

/-- A call under conditions fails and the store is as it was, or it does what it asks for. -/
theorem Conditions.answer_moves (conditions : Conditions) (c : Call) (s : Store) :
    s.AllOrNone c (conditions.backend.answer c s) := by
  simp only [backend]
  split
  · exact .inl ⟨_, rfl, rfl⟩
  · split
    · next given =>
      have reads : c.writes = false := by
        cases c with
        | updateProfile | addEngagement | removeEngagement => cases given
        | _ => rfl
      exact .inr ⟨_, rfl, .read reads⟩
    · exact Store.answer_moves c s

end ProfileGateway
