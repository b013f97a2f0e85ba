import Mathlib.Data.List.Forall2
import ProfileGateway.Proofs.Listing.AllOrNothing
import ProfileGateway.Proofs.Listing.FavoriteReads
import ProfileGateway.Proofs.Operation.Validation
import ProfileGateway.Proofs.Uuid
/-!
# Batches

A batch is given as entries that are to name ids, and it is answered with the ids that they name, each once and in
the order in which they come first. How an entry spells its id and how often an id is named make no difference
(`Occasion.batch_answers`). The order of the request is not the one in which the sources are asked.
-/
namespace ProfileGateway

open Operation

/-! ## The ids of a batch -/

/-- The ids that entries name. -/
def Uuid.NamedBy (entries : List String) (ids : List Uuid) : Prop := List.Forall₂ (fun entry u => u.Names entry) entries ids

/-- The same entry, or another spelling of the id that it names. -/
def Respells (entry entry' : String) : Prop := entry' = entry ∨ ∃ u : Uuid, u.Names entry ∧ u.Names entry'

/-- These are the ids without repetitions, in the order in which they come first. -/
structure FirstOccurrences (ids us : List Uuid) : Prop where
  nodup : us.Nodup
  mem_iff : ∀ u, u ∈ us ↔ u ∈ ids
  inOrder : us.Pairwise fun u v => ids.idxOf u < ids.idxOf v

/-- What is kept of a list is each of its members once, in the order of the first occurrences. -/
theorem firstOccurrences_firsts (ids : List Uuid) : FirstOccurrences ids (firsts ids) := by
  induction ids with
  | nil => exact ⟨.nil, fun _ => Iff.rfl, .nil⟩
  | cons v vs ih =>
    constructor
    · rw [firsts, List.nodup_cons]
      exact ⟨by simp, ih.nodup.filter _⟩
    · intro u
      by_cases same : u = v <;> simp [firsts, same, ih.mem_iff]
    · rw [firsts, List.pairwise_cons]
      constructor
      · intro u later
        have other : u ≠ v := by simpa using (List.mem_filter.1 later).2
        rw [List.idxOf_cons_self, List.idxOf_cons_ne _ other.symm]
        exact Nat.succ_pos _
      · refine (ih.inOrder.filter _).imp_of_mem fun {u w} first second before => ?_
        have other : u ≠ v := by simpa using (List.mem_filter.1 first).2
        have other' : w ≠ v := by simpa using (List.mem_filter.1 second).2
        rw [List.idxOf_cons_ne _ other.symm, List.idxOf_cons_ne _ other'.symm]
        exact Nat.succ_lt_succ before

/-- An id that has been named before is passed over. -/
theorem firsts_concat (ids : List Uuid) (u : Uuid) :
    firsts (ids ++ [u]) = if u ∈ ids then firsts ids else firsts ids ++ [u] := by
  induction ids with
  | nil => rfl
  | cons v vs ih =>
    rw [List.cons_append, firsts, ih, firsts]
    by_cases named : u ∈ vs
    · simp [named]
    · by_cases same : u = v
      · subst same
        simp [named, List.filter_append]
      · simp [named, same, List.filter_append]

/-! ## Reading the entries -/

section Entries

variable {raw raw' : List String}

/-- Entries that name ids are read as these ids. -/
theorem parseIds_of_named (field : String) {ids : List Uuid} (named : Uuid.NamedBy raw ids) :
    parseIds field raw = .ok ids := by
  refine parseIds_eq_ok field ?_
  induction named with
  | nil => rfl
  | cons names _ ih => rw [List.map_cons, List.map_cons, Uuid.parse?_trim_eq_some.2 names, ih]

/-- One entry that names nothing is enough for a refusal. -/
theorem parseIds_of_malformed {field : String} (malformed : ∃ entry ∈ raw, ∀ u : Uuid, ¬u.Names entry) :
    parseIds field raw = .error (.notUuid field) := by
  obtain ⟨bad, there, nameless⟩ := malformed
  have unread : Uuid.parse? (Text.trim bad) = none :=
    Option.eq_none_iff_forall_ne_some.2 fun u read => nameless u (Uuid.parse?_trim_eq_some.1 read)
  induction raw with
  | nil => cases there
  | cons entry rest ih =>
    rw [parseIds]
    cases read : Uuid.parse? (Text.trim entry) with
    | none =>
      rw [ofField_eq_error read]
      rfl
    | some u =>
      rcases List.mem_cons.1 there with rfl | there
      · cases unread.symm.trans read
      · rw [ofField_eq_ok.2 read, ih there]
        rfl

/-- Entries that are spelled otherwise are read alike. -/
theorem parseIds_respelled (field : String) (respelled : List.Forall₂ Respells raw raw') :
    parseIds field raw' = parseIds field raw := by
  induction respelled with
  | nil => rfl
  | @cons entry entry' _ _ same _ ih =>
    have read : Uuid.ofField field entry' = Uuid.ofField field entry := by
      rcases same with rfl | ⟨u, names, names'⟩
      · rfl
      · rw [ofField_eq_ok.2 (Uuid.parse?_trim_eq_some.2 names), ofField_eq_ok.2 (Uuid.parse?_trim_eq_some.2 names')]
    rw [parseIds, parseIds, read, ih]

theorem batchIds_respelled (respelled : List.Forall₂ Respells raw raw') : batchIds raw' = batchIds raw := by
  rw [batchIds, batchIds, parseIds_respelled _ respelled]

theorem parseIds_concat {field entry : String} {u : Uuid} (names : u.Names entry) :
    parseIds field (raw ++ [entry]) = (parseIds field raw).map (· ++ [u]) := by
  induction raw with
  | nil =>
    rw [List.nil_append, parseIds, parseIds, ofField_eq_ok.2 (Uuid.parse?_trim_eq_some.2 names)]
    rfl
  | cons first rest ih =>
    rw [List.cons_append, parseIds, parseIds, ih]
    cases Uuid.ofField field first with
    | error e => rfl
    | ok v => cases parseIds field rest <;> rfl

/-- An id that was there before adds nothing to a batch, however it is spelled. -/
theorem batchIds_repeated {entry entry' : String} {u : Uuid} (there : entry ∈ raw) (names : u.Names entry)
    (names' : u.Names entry') : batchIds (raw ++ [entry']) = batchIds raw := by
  rw [batchIds, batchIds, parseIds_concat names']
  cases read : parseIds "video_ids" raw with
  | error e => rfl
  | ok ids =>
    have named : u ∈ ids := by
      rw [parseIds_of_ok read, namedIds, List.mem_filterMap]
      exact ⟨entry, there, Uuid.parse?_trim_eq_some.2 names⟩
    change (if _ then _ else _) = (if _ then _ else _)
    rw [firsts_concat, if_pos named]

end Entries

/-! ## The answer -/

namespace Occasion

variable {σ : Type} {x : Occasion σ} {r : BatchGetFavoritesRequest} {user : Uuid}

/-- Nothing of the entries matters but the ids that they are read as. -/
theorem batch_congr {raw : List String} (same : batchIds raw = batchIds r.videoIds) :
    x.serve (.batchGetFavorites { r with videoIds := raw }) = x.serve (.batchGetFavorites r) := by
  have scripts : (fun ctx => runBatchGetFavorites ctx { r with videoIds := raw }) =
      fun ctx => runBatchGetFavorites ctx r := by
    funext ctx
    rw [runBatchGetFavorites, runBatchGetFavorites, same]
  dsimp only [serve, Operation.serve, Operation.script, Operation.kind, span, Operation.name]
  rw [scripts]

/-- What the favorites source and the stats source answer when they are asked for these ids; a source that is not to be
asked has no rows. -/
def batchAnswers (x : Occasion σ) (user : Uuid) (includeStats : Bool) (ids : List Uuid) :
    Except Failure (List Uuid) × Except Failure (List VideoStats) :=
  if includeStats then x.batchReplies user ids
  else ((x.backend.answer (.favoritesAmong user ids) x.store).1, .ok [])

/-- What comes of a batch with these distinct ids, for which its sources are asked in this order. -/
structure AnswersBatch (x : Occasion σ) (r : BatchGetFavoritesRequest) (user : Uuid) (distinct asked : List Uuid) :
    Prop where
  tooMany : 100 < distinct.length → (x.serve (.batchGetFavorites r)).result =
    .error ⟨.invalidArgument, "video_ids accepts at most 100 distinct ids"⟩ ∧
      (x.serve (.batchGetFavorites r)).asked = []
  served : distinct.length ≤ 100 → x.Uncut (.batchGetFavorites r) →
    let answers := x.batchAnswers user r.includeStats asked
    ¬HardFails answers.1 → ¬HardFails answers.2 →
    (x.serve (.batchGetFavorites r)).result = .ok ⟨distinct.map fun u =>
      ⟨u, decide (u ∈ rowsOf answers.1), if r.includeStats then some (lastRow (rowsOf answers.2) u) else none⟩⟩
  asks : (x.serve (.batchGetFavorites r)).asked <+:
    if distinct = [] then [] else .favoritesAmong user asked :: if r.includeStats then [.stats asked] else []

/-- What a batch for this user comes to. -/
structure BatchAnswers (x : Occasion σ) (r : BatchGetFavoritesRequest) (user : Uuid) : Prop where
  /-- Every entry must name an id, however many there are. -/
  malformed : (∃ entry ∈ r.videoIds, ∀ u : Uuid, ¬u.Names entry) → (x.serve (.batchGetFavorites r)).result =
    .error ⟨.invalidArgument, "video_ids must be a valid UUID"⟩ ∧ (x.serve (.batchGetFavorites r)).asked = []
  /-- The first occurrences of the ids are answered, and asked for in ascending order. -/
  named : ∀ ids, Uuid.NamedBy r.videoIds ids → ∃ distinct asked, FirstOccurrences ids distinct ∧
    AscendingIds asked ids ∧ x.AnswersBatch r user distinct asked
  respelled : ∀ raw, List.Forall₂ Respells r.videoIds raw →
    x.serve (.batchGetFavorites { r with videoIds := raw }) = x.serve (.batchGetFavorites r)
  repeated : ∀ (u : Uuid), ∀ entry ∈ r.videoIds, u.Names entry → ∀ entry', u.Names entry' →
    x.serve (.batchGetFavorites { r with videoIds := r.videoIds ++ [entry'] }) = x.serve (.batchGetFavorites r)

/-- A batch is refused before anyone is asked. -/
theorem batch_of_refused {e : Refusal} (acting : ActingUser.resolve r.userId x.call.carried = .ok user)
    (refused : batchIds r.videoIds = .error e) :
    (x.serve (.batchGetFavorites r)).result = .error e.status ∧ (x.serve (.batchGetFavorites r)).asked = [] := by
  apply serve_of_refused
  rw [refusal?, checks, List.cons_append, List.findSome?_cons, acting]
  have ids := refusalOf_batchIds r.videoIds
  rw [refused] at ids
  simpa [List.findSome?_append, refusalOf] using ids.symm

/-- Lookups that come to nothing but rows. -/
theorem ReadsBatch.served {ids : List Uuid} (reads : x.ReadsBatch r user ids) :
    let answers := x.batchAnswers user r.includeStats (IdSet.ofList ids).ids
    ¬HardFails answers.1 → ¬HardFails answers.2 →
    (x.course (.batchGetFavorites r)).result = .ok ⟨favoriteStates (.ofRows (rowsOf answers.1))
      (if r.includeStats then some (.ofRows (rowsOf answers.2)) else none) ids⟩ := by
  intro answers soft soft'
  cases blank : (IdSet.ofList ids).isEmpty with
  | true =>
    cases IdSet.isEmpty_ofList.1 blank
    rw [reads.course.1]
    cases r.includeStats <;> rfl
  | false =>
    have filled : ids ≠ [] := fun none => by rw [none] at blank; cases blank
    by_cases stats : r.includeStats = true
    · have replies : answers = x.batchReplies user (IdSet.ofList ids).ids := if_pos stats
      rw [replies] at soft soft' ⊢
      rw [reads.result filled stats, settleLookup_soft soft, settleLookup_soft soft', if_pos stats]
      rfl
    · have replies : answers = ((x.backend.answer (.favoritesAmong user (IdSet.ofList ids).ids) x.store).1, .ok []) :=
        if_neg stats
      rw [replies] at soft ⊢
      rw [reads.course.1, favoritesLookup_of_ne blank, statsLookupIf, if_neg stats, if_neg stats,
        Course.both_ready_result, Branch.reply, settleLookup_soft soft]
      rfl

/-- States, seen from the rows they are joined with. -/
theorem favoriteStates_ofRows (favorites : List Uuid) (stats : List VideoStats) (wanted : Bool) (ids : List Uuid) :
    favoriteStates (.ofRows favorites) (if wanted then some (.ofRows stats) else none) ids =
      ids.map fun u => ⟨u, decide (u ∈ favorites), if wanted then some (lastRow stats u) else none⟩ := by
  refine List.map_congr_left fun u _ => ?_
  have favorited : (RowsById.ofRows favorites).contains u = decide (u ∈ favorites) := by
    rw [Bool.eq_iff_iff, Store.contains_ofRows, decide_eq_true_eq]
  rw [favorited]
  cases wanted with
  | false => rfl
  | true => simp only [if_true, Option.map_some, RowsById.attach_ofRows]

/-- The sources are asked for the ids of the batch, if it has some. -/
theorem ReadsBatch.asks {ids : List Uuid} (reads : x.ReadsBatch r user ids) :
    (x.serve (.batchGetFavorites r)).asked <+: if ids = [] then [] else
      .favoritesAmong user (IdSet.ofList ids).ids ::
        if r.includeStats then [.stats (IdSet.ofList ids).ids] else [] := by
  refine asked_within.trans ?_
  rw [reads.course.2]
  split
  · next blank =>
    subst blank
    cases r.includeStats <;> exact List.prefix_rfl
  · next filled =>
    have named := IdSet.isEmpty_eq_false filled
    refine (Course.both_calls _ _ _ _).trans ?_
    rw [favoritesLookup_of_ne named]
    cases r.includeStats with
    | false => exact List.prefix_rfl
    | true =>
      rw [statsLookupIf_of_ne named]
      exact List.prefix_rfl

/-- A batch of ids is answered for their first occurrences. -/
theorem answersBatch_of_named {ids : List Uuid} (acting : ActingUser.resolve r.userId x.call.carried = .ok user)
    (named : Uuid.NamedBy r.videoIds ids) : x.AnswersBatch r user (firsts ids) (IdSet.ofList (firsts ids)).ids := by
  have read : batchIds r.videoIds =
      if batchLimit < (firsts ids).length then .error (.tooManyIds batchLimit) else .ok (firsts ids) := by
    rw [batchIds, parseIds_of_named _ named]
    rfl
  by_cases many : batchLimit < (firsts ids).length
  · rw [if_pos many] at read
    obtain ⟨result, asked⟩ := batch_of_refused acting read
    exact ⟨fun _ => ⟨result, asked⟩, fun few => absurd many (Nat.not_lt.2 few), asked ▸ List.nil_prefix⟩
  · rw [if_neg many] at read
    have reads : x.ReadsBatch r user (firsts ids) := ⟨acting, read⟩
    refine ⟨fun more => absurd more many, fun _ uncut => ?_, reads.asks⟩
    intro answers soft soft'
    rw [(serve_uncut uncut).1, reads.served soft soft', favoriteStates_ofRows]

/-- **A batch** is answered by the ids that its entries name, whichever way they are written. -/
theorem batch_answers (acting : ActingUser.resolve r.userId x.call.carried = .ok user) : x.BatchAnswers r user := by
  constructor
  case malformed =>
    intro malformed
    have refused : batchIds r.videoIds = .error (.notUuid "video_ids") := by
      rw [batchIds, parseIds_of_malformed malformed]
      rfl
    exact batch_of_refused acting refused
  case named =>
    intro ids named
    have first := firstOccurrences_firsts ids
    have asked : AscendingIds (IdSet.ofList (firsts ids)).ids ids :=
      ⟨(IdSet.ascendingIds _).ascending, fun u => ((IdSet.ascendingIds _).mem_iff u).trans (first.mem_iff u)⟩
    exact ⟨_, _, first, asked, answersBatch_of_named acting named⟩
  case respelled => exact fun raw respelled => batch_congr (batchIds_respelled respelled)
  case repeated =>
    intro u entry there names entry' names'
    exact batch_congr (batchIds_repeated there names names')

end Occasion

/-! ## One id in three spellings -/

theorem batch_answers_spelled :
    let x := unhurried.occasion twoAndALike
    let batch (entries : List String) := Operation.batchGetFavorites ⟨some (Uuid.ofNat 1).print, entries, true⟩
    (x.serve (batch ["00000000000000000000000000000009", "URN:uuid:00000000-0000-0000-0000-000000000005",
        " \x7b00000000-0000-0000-0000-000000000009\x7d\t"])).result =
      .ok ⟨[⟨.ofNat 9, false, some (.zero (.ofNat 9))⟩, ⟨.ofNat 5, true, some ⟨.ofNat 5, 7, 2⟩⟩]⟩ ∧
    (x.serve (batch [(Uuid.ofNat 9).print, "nine"])).result =
      .error ⟨.invalidArgument, "video_ids must be a valid UUID"⟩ := by
  intro x batch
  have acting : ActingUser.resolve (some (Uuid.ofNat 1).print) x.call.carried = .ok (.ofNat 1) := by decide +kernel
  have law (entries : List String) :=
    Occasion.batch_answers (x := x) (r := ⟨some (Uuid.ofNat 1).print, entries, true⟩) acting
  have names {n : Nat} {entry : String} (read : Uuid.parse? (Text.trim entry) = some (.ofNat n)) :
      (Uuid.ofNat n).Names entry := Uuid.parse?_trim_eq_some.1 read
  have nine : (Uuid.ofNat 9).Names (Uuid.ofNat 9).print := names (by decide +kernel)
  have five : (Uuid.ofNat 5).Names (Uuid.ofNat 5).print := names (by decide +kernel)
  have plain := (law [(Uuid.ofNat 9).print, (Uuid.ofNat 5).print]).repeated (.ofNat 9) _ (by simp) nine _ nine
  have spelled := (law [(Uuid.ofNat 9).print, (Uuid.ofNat 5).print, (Uuid.ofNat 9).print]).respelled
    ["00000000000000000000000000000009", "URN:uuid:00000000-0000-0000-0000-000000000005",
      " \x7b00000000-0000-0000-0000-000000000009\x7d\t"]
    (.cons (.inr ⟨_, nine, names (by decide +kernel)⟩) (.cons (.inr ⟨_, five, names (by decide +kernel)⟩)
      (.cons (.inr ⟨_, nine, names (by decide +kernel)⟩) .nil)))
  constructor
  · refine (congrArg Answer.result (spelled.trans plain)).trans ?_
    decide +kernel
  · refine ((law [(Uuid.ofNat 9).print, "nine"]).malformed ⟨"nine", by simp, fun u named => ?_⟩).1
    have read := Uuid.parse?_trim_eq_some.2 named
    rw [show Uuid.parse? (Text.trim "nine") = none by decide +kernel] at read
    cases read

end ProfileGateway
