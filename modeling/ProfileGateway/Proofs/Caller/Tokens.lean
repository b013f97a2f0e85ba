import ProfileGateway.Caller.Claims
import ProfileGateway.Proofs.Caller.Base64
/-!
# Tokens in several encodings

The subject of a token is that of the bytes it encodes, in whichever of the schemes it is written
(`Claims.subject_of_encodings`). The schemes are tried one after the other, but never two of them accept a token for
different bytes, so their order is of no account.
-/
namespace ProfileGateway.Claims

open Base64

/-- The bytes of a token are those that any of the schemes reads. -/
theorem tokenBytes?_eq_some {token : String} {bytes : List UInt8} :
    tokenBytes? token = some bytes ↔ ∃ s ∈ schemes, s.decode? token.toList = some bytes := by
  constructor
  · intro h
    exact List.exists_of_findSome?_eq_some h
  · rintro ⟨s, known, reads⟩
    have accepted : tokenBytes? token ≠ none := by
      intro refused
      rw [List.findSome?_eq_none_iff.1 refused s known] at reads
      cases reads
    obtain ⟨bytes', found⟩ := Option.ne_none_iff_exists'.1 accepted
    obtain ⟨s', -, reads'⟩ := List.exists_of_findSome?_eq_some found
    rw [found, Scheme.decode?_agree reads' reads]

/-- Any order of the schemes finds the same bytes. -/
theorem findSome?_of_perm {order : List Scheme} (perm : order.Perm schemes) (token : String) :
    order.findSome? (fun s => s.decode? token.toList) = tokenBytes? token := by
  cases found : order.findSome? (fun s => s.decode? token.toList) with
  | none =>
    refine Eq.symm (List.findSome?_eq_none_iff.2 fun s known => ?_)
    exact List.findSome?_eq_none_iff.1 found s (perm.mem_iff.2 known)
  | some bytes =>
    obtain ⟨s, listed, reads⟩ := List.exists_of_findSome?_eq_some found
    exact (tokenBytes?_eq_some.2 ⟨s, perm.mem_iff.1 listed, reads⟩).symm

/-- A token of bytes has their subject, whatever scheme they are encoded in. -/
theorem subjectOfToken?_encode {s : Scheme} (known : s ∈ schemes) (bytes : List UInt8) :
    subjectOfToken? (String.ofList (s.encode bytes)) = ((textOf? bytes).bind ofText?).bind subjectOf? := by
  have reads : s.decode? (String.ofList (s.encode bytes)).toList = some bytes := by
    rw [String.toList_ofList, s.decode?_encode]
  have found := tokenBytes?_eq_some.2 ⟨s, known, reads⟩
  simp only [subjectOfToken?, found, Option.bind_eq_bind, Option.bind_some, Option.bind_assoc]

/-- **Tokens are independent of their encoding.** Every scheme leads from bytes to the subject of the claims that the
bytes are, schemes that accept one token agree on its bytes, and so no order of the schemes is better than another. -/
theorem subject_of_encodings :
    (∀ (bytes : List UInt8), ∀ s ∈ schemes,
      subjectOfToken? (String.ofList (s.encode bytes)) = ((textOf? bytes).bind ofText?).bind subjectOf?) ∧
    (∀ (token : String) (bytes bytes' : List UInt8), ∀ s ∈ schemes, ∀ s' ∈ schemes,
      s.decode? token.toList = some bytes → s'.decode? token.toList = some bytes' → bytes = bytes') ∧
    ∀ (token : String) (order : List Scheme), order.Perm schemes →
      order.findSome? (fun s => s.decode? token.toList) = tokenBytes? token := by
  refine ⟨?_, ?_, ?_⟩
  · intro bytes s known
    exact subjectOfToken?_encode known bytes
  · intro token bytes bytes' s _ s' _ reads reads'
    exact Scheme.decode?_agree reads reads'
  · intro token order perm
    exact findSome?_of_perm perm token

/-- The claims `{"sub":"user-?>?>","pad":"x"}`, whose encodings differ both in letters and in padding. -/
def awkwardClaims : List UInt8 :=
  [123, 34, 115, 117, 98, 34, 58, 34, 117, 115, 101, 114, 45, 63, 62, 63, 62, 34, 44, 34, 112, 97, 100, 34, 58, 34,
    120, 34, 125]

theorem subject_of_encodings_awkward :
    String.ofList (Scheme.encode ⟨.urlSafe, false⟩ awkwardClaims) = "eyJzdWIiOiJ1c2VyLT8-Pz4iLCJwYWQiOiJ4In0" ∧
      subjectOfToken? "eyJzdWIiOiJ1c2VyLT8-Pz4iLCJwYWQiOiJ4In0" = some "user-?>?>" ∧
      subjectOfToken? "eyJzdWIiOiJ1c2VyLT8-Pz4iLCJwYWQiOiJ4In0=" = some "user-?>?>" ∧
      subjectOfToken? "eyJzdWIiOiJ1c2VyLT8+Pz4iLCJwYWQiOiJ4In0=" = some "user-?>?>" ∧
      [Scheme.mk .standard true, ⟨.urlSafe, true⟩, ⟨.urlSafe, false⟩].findSome?
        (fun s => s.decode? "Pz4/".toList) = some [63, 62, 63] := by
  have subject : ((textOf? awkwardClaims).bind ofText?).bind subjectOf? = some "user-?>?>" := by decide +kernel
  have bare : String.ofList (Scheme.encode ⟨.urlSafe, false⟩ awkwardClaims) =
    "eyJzdWIiOiJ1c2VyLT8-Pz4iLCJwYWQiOiJ4In0" := by decide +kernel
  have padded : String.ofList (Scheme.encode ⟨.urlSafe, true⟩ awkwardClaims) =
    "eyJzdWIiOiJ1c2VyLT8-Pz4iLCJwYWQiOiJ4In0=" := by decide +kernel
  have standard : String.ofList (Scheme.encode ⟨.standard, true⟩ awkwardClaims) =
    "eyJzdWIiOiJ1c2VyLT8+Pz4iLCJwYWQiOiJ4In0=" := by decide +kernel
  obtain ⟨law, -, order⟩ := subject_of_encodings
  refine ⟨bare, ?_, ?_, ?_, ?_⟩
  · rw [← bare, law awkwardClaims _ (by decide), subject]
  · rw [← padded, law awkwardClaims _ (by decide), subject]
  · rw [← standard, law awkwardClaims _ (by decide), subject]
  · rw [order "Pz4/" _ (by decide)]
    decide +kernel

end ProfileGateway.Claims
