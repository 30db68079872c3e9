import AuthzKit.Service.Middleware
import AuthzKit.Text.Delimited

/-!
Which requests share an entry of the idempotency cache.

* `credentialPayload_eq_iff`: two requests have one payload when their credentials are equal
  or one reads as the other across a field marker.
* `cache_partitioned`: requests that share an entry have equal credentials, paths and
  idempotency keys, except those whose values are shifted across a marker.
-/

namespace AuthzKit

open Delimited

namespace HttpRequest

/-- The credentials of a request; an absent one reads as the empty one. -/
def credentials (request : HttpRequest) : String × String × String :=
  (request.xApiKey.getD "", request.authorization.getD "", request.sessionCookie.getD "")

/-- The path and the idempotency key. -/
def target (request : HttpRequest) : String × String :=
  (request.path, request.idempotencyKey.getD "")

/-- The payload up to the session cookie. -/
def headerPayload (request : HttpRequest) : String :=
  request.xApiKey.getD "" ++ "|a=" ++ request.authorization.getD ""

/-- A value of `request` goes on with a marker, and `request'` has what follows the marker in
its next value: the API key with `|a=` or the bearer with `|s=`. -/
def CredentialsContinue (request request' : HttpRequest) : Prop :=
  request.sessionCookie.getD "" = request'.sessionCookie.getD "" ∧
      StringContinues "|a=" (request'.xApiKey.getD "") (request'.authorization.getD "")
        (request.xApiKey.getD "") (request.authorization.getD "") ∨
    StringContinues "|s=" request'.headerPayload (request'.sessionCookie.getD "")
      request.headerPayload (request.sessionCookie.getD "")

/-- The path of `request` goes on with a colon, and `request'` has what follows it in its
idempotency key. -/
def TargetContinues (request request' : HttpRequest) : Prop :=
  StringContinues ":" request'.path (request'.idempotencyKey.getD "") request.path
    (request.idempotencyKey.getD "")

/-- Values shifted across a marker between the credentials. -/
def CredentialsShifted (request request' : HttpRequest) : Prop :=
  request.CredentialsContinue request' ∨ request'.CredentialsContinue request

/-- Values shifted across the colon between the path and the idempotency key. -/
def TargetShifted (request request' : HttpRequest) : Prop :=
  request.TargetContinues request' ∨ request'.TargetContinues request

/-- Values of the requests are shifted across a marker, and all others are equal. -/
def Shifted (request request' : HttpRequest) : Prop :=
  (request.CredentialsShifted request' ∧
      (request.target = request'.target ∨ request.TargetShifted request')) ∨
    request.credentials = request'.credentials ∧ request.TargetShifted request'

end HttpRequest

variable {request request' : HttpRequest}

lemma unbordered_authorizationMarker : Unbordered "|a=".toList := ⟨'|', ['a', '='], rfl, by decide⟩

lemma unbordered_cookieMarker : Unbordered "|s=".toList := ⟨'|', ['s', '='], rfl, by decide⟩

lemma unbordered_colon : Unbordered ":".toList := ⟨':', [], rfl, by decide⟩

/-- **When two requests have one payload.** -/
theorem credentialPayload_eq_iff :
    credentialPayload request = credentialPayload request' ↔
      request.credentials = request'.credentials ∨ request.CredentialsShifted request' := by
  have hpayload : ∀ r : HttpRequest,
      credentialPayload r = "x=" ++ (r.headerPayload ++ "|s=" ++ r.sessionCookie.getD "") := by
    intro r
    simp only [credentialPayload, HttpRequest.headerPayload, String.append_assoc]
  have hheader : request.headerPayload = request'.headerPayload ↔ _ :=
    string_append_marker_eq_iff unbordered_authorizationMarker
  rw [hpayload, hpayload, String.append_right_inj, string_append_marker_eq_iff
    unbordered_cookieMarker, hheader]
  simp only [HttpRequest.credentials, Prod.mk.injEq, HttpRequest.CredentialsShifted,
    HttpRequest.CredentialsContinue, eq_comm (a := request'.sessionCookie.getD "")]
  constructor
  · rintro (⟨⟨hkey, hauth⟩ | h | h, hsession⟩ | h | h)
    · exact Or.inl ⟨hkey, hauth, hsession⟩
    · exact Or.inr (Or.inr (Or.inl ⟨hsession, h⟩))
    · exact Or.inr (Or.inl (Or.inl ⟨hsession, h⟩))
    · exact Or.inr (Or.inr (Or.inr h))
    · exact Or.inr (Or.inl (Or.inr h))
  · rintro (⟨hkey, hauth, hsession⟩ | (⟨hsession, h⟩ | h) | ⟨hsession, h⟩ | h)
    · exact Or.inl ⟨Or.inl ⟨hkey, hauth⟩, hsession⟩
    · exact Or.inl ⟨Or.inr (Or.inr h), hsession⟩
    · exact Or.inr (Or.inr h)
    · exact Or.inl ⟨Or.inr (Or.inl h), hsession⟩
    · exact Or.inr (Or.inl h)

/-- When two requests have one path and key behind the partition. -/
lemma target_eq_iff :
    request.path ++ ":" ++ request.idempotencyKey.getD "" =
        request'.path ++ ":" ++ request'.idempotencyKey.getD "" ↔
      request.target = request'.target ∨ request.TargetShifted request' := by
  rw [string_append_marker_eq_iff unbordered_colon, HttpRequest.target, HttpRequest.target,
    Prod.mk.injEq, HttpRequest.TargetShifted, or_comm (a := HttpRequest.TargetContinues _ _)]
  rfl

/-- Credentials that continue others are different. -/
lemma HttpRequest.CredentialsContinue.ne (h : request.CredentialsContinue request') :
    request.credentials ≠ request'.credentials := by
  intro heq
  rw [HttpRequest.credentials, HttpRequest.credentials, Prod.mk.injEq, Prod.mk.injEq] at heq
  obtain ⟨hkey, hauth, -⟩ := heq
  rcases h with ⟨-, hcontinues⟩ | hcontinues
  · exact hcontinues.ne (by decide) hkey.symm
  · refine hcontinues.ne (by decide) ?_
    rw [headerPayload, headerPayload, hkey, hauth]

/-- Shifted values are different values. -/
lemma HttpRequest.Shifted.ne (h : request.Shifted request') :
    ¬(request.credentials = request'.credentials ∧ request.target = request'.target) := by
  rintro ⟨hcredentials, htarget⟩
  rcases h with ⟨hshifted | hshifted, -⟩ | ⟨-, hshifted | hshifted⟩
  · exact hshifted.ne hcredentials
  · exact hshifted.ne hcredentials.symm
  · exact hshifted.ne (by decide) (congrArg Prod.fst htarget).symm
  · exact hshifted.ne (by decide) (congrArg Prod.fst htarget)

/-- Both requests are looked up in the cache. -/
def HttpRequest.Idempotent (request : HttpRequest) : Prop :=
  request.method = "POST" ∧ request.idempotencyKey.getD "" ≠ ""

/-- When two requests share an entry. -/
lemma shares_entry_iff {digest : String → String}
    (hlength : ∀ payload, (digest payload).length = 32)
    (hcollision : digest (credentialPayload request) = digest (credentialPayload request') →
      credentialPayload request = credentialPayload request') :
    (∃ key, idempotencyCacheKey digest request = some key ∧
        idempotencyCacheKey digest request' = some key) ↔
      request.Idempotent ∧ request'.Idempotent ∧
        (request.credentials = request'.credentials ∨ request.CredentialsShifted request') ∧
          (request.target = request'.target ∨ request.TargetShifted request') := by
  simp only [idempotencyCacheKey_eq_some, ← target_eq_iff, ← credentialPayload_eq_iff,
    credentialPartition]
  constructor
  · rintro ⟨key, ⟨hpost, hkey, rfl⟩, hpost', hkey', heq⟩
    have hsplit : (digest (credentialPayload request')).toList
          ++ (":" ++ (request'.path ++ ":" ++ request'.idempotencyKey.getD "")).toList =
        (digest (credentialPayload request)).toList
          ++ (":" ++ (request.path ++ ":" ++ request.idempotencyKey.getD "")).toList := by
      simpa only [String.toList_append, List.append_assoc] using congrArg String.toList heq
    have hsame := List.append_inj hsplit (by rw [String.length_toList, String.length_toList,
      hlength, hlength])
    refine ⟨⟨hpost, hkey⟩, ⟨hpost', hkey'⟩, hcollision (String.toList_inj.mp hsame.1).symm, ?_⟩
    exact (String.append_right_inj _).mp (String.toList_inj.mp hsame.2).symm
  · rintro ⟨⟨hpost, hkey⟩, ⟨hpost', hkey'⟩, hpayload, htarget⟩
    refine ⟨_, ⟨hpost, hkey, rfl⟩, hpost', hkey', ?_⟩
    simp only [String.append_assoc] at htarget ⊢
    rw [hpayload, htarget]

/-- **The cache is partitioned by credential, path and key**: when the digests of the two
payloads do not collide, requests that share an entry agree on all three, exactly when their
values are not shifted across a marker. -/
theorem cache_partitioned (digest : String → String) (request request' : HttpRequest)
    (hlength : ∀ payload, (digest payload).length = 32)
    (hcollision : digest (credentialPayload request) = digest (credentialPayload request') →
      credentialPayload request = credentialPayload request') :
    ((∃ key, idempotencyCacheKey digest request = some key ∧
        idempotencyCacheKey digest request' = some key) →
      request.credentials = request'.credentials ∧ request.target = request'.target) ↔
    ¬(request.Idempotent ∧ request'.Idempotent ∧ request.Shifted request') := by
  rw [shares_entry_iff hlength hcollision]
  have hne : request.Shifted request' → ¬_ := HttpRequest.Shifted.ne
  rw [HttpRequest.Shifted] at hne ⊢
  constructor
  · rintro h ⟨hi, hi', hshifted⟩
    refine hne hshifted (h ⟨hi, hi', ?_⟩)
    rcases hshifted with ⟨hcredentials, htarget⟩ | ⟨hcredentials, htarget⟩
    · exact ⟨Or.inr hcredentials, htarget⟩
    · exact ⟨Or.inl hcredentials, Or.inr htarget⟩
  · rintro hnot ⟨hi, hi', hcredentials | hcredentials, htarget⟩
    · rcases htarget with htarget | htarget
      · exact ⟨hcredentials, htarget⟩
      · exact absurd ⟨hi, hi', Or.inr ⟨hcredentials, htarget⟩⟩ hnot
    · exact absurd ⟨hi, hi', Or.inl ⟨hcredentials, htarget⟩⟩ hnot

section Examples

/-- A POST with an API key and a bearer. -/
def retried (apiKey bearer : String) : HttpRequest :=
  ⟨"POST", "/v1/tenants", some apiKey, some bearer, none, some "k1", none, [], ""⟩

/-- The digests of the payloads of two keys. -/
def sampleDigest (payload : String) : String :=
  if payload = "x=azk_runtime|a=|s=" then "bc55b5516d428662b5b4d564d5ce4368"
  else "6fb492cf07db9c67452e30775c16bf25"

/-- The entries of two ordinary keys are apart, for their values are not shifted. -/
theorem cache_partitioned_twoKeys :
    ((∃ key, idempotencyCacheKey sampleDigest (retried "azk_runtime" "") = some key ∧
        idempotencyCacheKey sampleDigest (retried "azk_admin" "") = some key) →
      (retried "azk_runtime" "").credentials = (retried "azk_admin" "").credentials ∧
        (retried "azk_runtime" "").target = (retried "azk_admin" "").target) ↔
    ¬((retried "azk_runtime" "").Idempotent ∧ (retried "azk_admin" "").Idempotent ∧
      (retried "azk_runtime" "").Shifted (retried "azk_admin" "")) := by
  refine cache_partitioned sampleDigest _ _ (fun payload => ?_) (by decide)
  rw [sampleDigest]
  split_ifs <;> rfl

/-- Two requests with different API keys and one payload, so one entry. -/
theorem marker_in_apiKey_shares_entry :
    ∃ key, idempotencyCacheKey sampleDigest (retried "p|a=q" "r") = some key ∧
      idempotencyCacheKey sampleDigest (retried "p" "q|a=r") = some key ∧
      (retried "p|a=q" "r").credentials ≠ (retried "p" "q|a=r").credentials :=
  ⟨_, rfl, rfl, by decide⟩

end Examples

end AuthzKit
