import ProfileGateway.Proofs.Operation.SingleCall
/-!
# Writes of engagements

The write of an engagement names the user, the video and the kind that its request names, each of them checked.
-/
namespace ProfileGateway

open Operation

variable {ctx : Context} {r : EngagementRequest}

/-- An accepted engagement is of the acting user and of the video and the kind that were named. -/
theorem engagementChange_spec {write : EngagementChange} (h : engagementChange ctx r = .ok write) :
    ActingUser.resolve r.userId ctx.metadata = .ok write.userId ∧
      Uuid.ofField "video_id" r.videoId = .ok write.videoId ∧ EngagementKind.parse r.kind = .ok write.kind := by
  unfold engagementChange at h
  cases acting : ActingUser.resolve r.userId ctx.metadata with
  | error e => simp [acting, bind, Except.bind] at h
  | ok user =>
    cases video : Uuid.ofField "video_id" r.videoId with
    | error e => simp [acting, video, bind, Except.bind] at h
    | ok v =>
      cases kind : EngagementKind.parse r.kind with
      | error e => simp [acting, video, kind, bind, Except.bind] at h
      | ok k =>
        rw [acting, video, kind] at h
        cases h
        exact ⟨rfl, rfl, rfl⟩

end ProfileGateway
