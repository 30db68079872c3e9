import AuthzKit.Service.TokenEndpoint
import AuthzKit.Text.Base64

/-!
The header of `POST /oauth/token` (`_parse_basic_auth` of `authz_service/api/oauth.py`).

* `parseBasicAuth`: the credentials of a header; `parseBasicAuth_eq_some_iff` says which headers
  have some.
* `basicHeader`: the header of a client; `tokenEndpoint_basicHeader` says that it is answered like
  the form with the same credentials.
-/

namespace AuthzKit

open Text

/-- The byte of `b":"`. -/
def colon : UInt8 := UInt8.ofNat (':').toNat

/-- `_parse_basic_auth`. -/
def parseBasicAuth (header : Option String) : Option (String × String) :=
  match header.filter (· ≠ "") with
  | none => none
  | some header =>
      if (header.toList.take 6).map Char.toLower = "basic ".toList then
        -- `header.split(None, 1)[1].strip()`
        let payload := strip (String.ofList (header.toList.drop 6))
        if payload = "" then none
        else
          match Base64.decode? payload.toList with
          | none => none
          | some raw =>
              if colon ∉ raw then none
              else
                match ofUtf8? (raw.takeWhile (· ≠ colon)),
                  ofUtf8? (raw.dropWhile (· ≠ colon)).tail with
                | some cid, some secret => some (cid, secret)
                | _, _ => none
      else none

/-- The header that a client sends. -/
def basicHeader (clientId clientSecret : String) : String :=
  "Basic " ++ String.ofList (Base64.encode (utf8 (clientId ++ ":" ++ clientSecret)))

variable {header clientId clientSecret : String} {raw : List UInt8}

/-! ### Credentials as bytes -/

lemma utf8_credentials :
    utf8 (clientId ++ ":" ++ clientSecret) = utf8 clientId ++ colon :: utf8 clientSecret := by
  have hcolon : utf8 ":" = [colon] := by decide +kernel
  rw [utf8_append, utf8_append, hcolon, List.append_assoc, List.singleton_append]

lemma colon_mem_utf8 : colon ∈ utf8 clientId ↔ ':' ∈ clientId.toList :=
  mem_utf8_iff (by decide)

/-- The parts at the first colon. -/
lemma partition_colon {before : List UInt8} (after : List UInt8) (h : colon ∉ before) :
    (before ++ colon :: after).takeWhile (· ≠ colon) = before ∧
      ((before ++ colon :: after).dropWhile (· ≠ colon)).tail = after := by
  have hall : ∀ b ∈ before, decide (b ≠ colon) = true := by
    intro b hb
    exact decide_eq_true fun heq => h (heq ▸ hb)
  rw [List.takeWhile_append_of_pos hall, List.dropWhile_append_of_pos hall]
  simp

/-- **Which bytes are credentials.** -/
lemma credentials_iff :
    colon ∈ raw ∧ ofUtf8? (raw.takeWhile (· ≠ colon)) = some clientId ∧
        ofUtf8? (raw.dropWhile (· ≠ colon)).tail = some clientSecret ↔
      raw = utf8 (clientId ++ ":" ++ clientSecret) ∧ ':' ∉ clientId.toList := by
  rw [utf8_credentials, ← colon_mem_utf8]
  constructor
  · rintro ⟨hcolon, hid, hsecret⟩
    obtain ⟨before, after, rfl, hbefore⟩ := List.eq_append_cons_of_mem hcolon
    obtain ⟨htake, hdrop⟩ := partition_colon after hbefore
    rw [htake] at hid
    rw [hdrop] at hsecret
    rw [utf8_of_ofUtf8? hid, utf8_of_ofUtf8? hsecret]
    exact ⟨rfl, hbefore⟩
  · rintro ⟨rfl, hid⟩
    obtain ⟨htake, hdrop⟩ := partition_colon (utf8 clientSecret) hid
    rw [htake, hdrop, ofUtf8?_utf8, ofUtf8?_utf8]
    exact ⟨List.mem_append_right _ List.mem_cons_self, rfl, rfl⟩

/-! ### Headers -/

/-- The text of a header after its scheme. -/
def basicPayload (header : String) : List Char :=
  (strip (String.ofList (header.toList.drop 6))).toList

/-- **Which headers have credentials**: those of the scheme whose payload is the Base64 of a client
id without a colon, a colon, and a secret. -/
theorem parseBasicAuth_eq_some_iff :
    parseBasicAuth (some header) = some (clientId, clientSecret) ↔
      (header.toList.take 6).map Char.toLower = "basic ".toList ∧
        Base64.decode? (basicPayload header) =
          some (utf8 (clientId ++ ":" ++ clientSecret)) ∧
        ':' ∉ clientId.toList := by
  rw [parseBasicAuth]
  constructor
  · intro h
    split at h
    · cases h
    rename_i header' hheader
    obtain rfl : header = header' := Option.some.inj (Option.filter_eq_some_iff.mp hheader).1
    split_ifs at h with hscheme
    dsimp only at h
    split_ifs at h with hempty
    split at h
    · cases h
    rename_i raw hraw
    split_ifs at h with hcolon
    split at h
    · rename_i cid secret hcid hsecret
      obtain ⟨rfl, rfl⟩ := Prod.mk.inj (Option.some.inj h)
      obtain ⟨rfl, hid⟩ := credentials_iff.mp ⟨hcolon, hcid, hsecret⟩
      exact ⟨hscheme, hraw, hid⟩
    · cases h
  · rintro ⟨hscheme, hraw, hid⟩
    obtain ⟨hcolon, hcid, hsecret⟩ := @credentials_iff clientId clientSecret _ |>.mpr ⟨rfl, hid⟩
    have hheader : header ≠ "" := by
      rintro rfl
      exact absurd hscheme (by decide)
    have hpayload : strip (String.ofList (header.toList.drop 6)) ≠ "" := by
      intro hempty
      rw [basicPayload, hempty, utf8_credentials] at hraw
      exact absurd (Option.some.inj hraw) (by simp)
    rw [Option.filter_some, if_pos (decide_eq_true hheader)]
    dsimp only
    rw [basicPayload] at hraw
    rw [if_pos hscheme, if_neg hpayload, hraw]
    dsimp only
    rw [if_neg (not_not.mpr hcolon), hcid, hsecret]

lemma strip_of_no_space {s : String} (h : ∀ c ∈ s.toList, isSpace c = false) : strip s = s := by
  have hdrop : s.toList.dropWhile isSpace = s.toList := by
    rw [List.dropWhile_eq_self_iff]
    intro hlength
    rw [h _ (List.getElem_mem _)]
    exact Bool.false_ne_true
  rw [strip, hdrop, List.rdropWhile_eq_self_iff.mpr, String.ofList_toList]
  intro hne
  rw [h _ (List.getLast_mem hne)]
  exact Bool.false_ne_true

/-- A header is read back, unless the client id has a colon. -/
lemma parseBasicAuth_basicHeader (h : ':' ∉ clientId.toList) :
    parseBasicAuth (some (basicHeader clientId clientSecret)) = some (clientId, clientSecret) := by
  have hletters : (basicHeader clientId clientSecret).toList =
      "Basic ".toList ++ Base64.encode (utf8 (clientId ++ ":" ++ clientSecret)) := by
    rw [basicHeader, String.toList_append]
    exact congrArg ("Basic ".toList ++ ·) String.toList_ofList
  have hspace : ∀ c ∈ Base64.encode (utf8 (clientId ++ ":" ++ clientSecret)),
      isSpace c = false := by
    have hall : Base64.alphabet.all (fun c => !isSpace c) = true := by decide +kernel
    have halphabet : ∀ c ∈ Base64.alphabet, isSpace c = false := by simpa using hall
    intro c hc
    rcases Base64.mem_of_mem_encode hc with hc | rfl
    · exact halphabet c hc
    · rfl
  have hscheme : "Basic ".toList.length = 6 := by decide
  refine parseBasicAuth_eq_some_iff.mpr ⟨?_, ?_, h⟩
  · rw [hletters]
    rfl
  · rw [basicPayload, hletters, List.drop_left' hscheme, strip_of_no_space, String.toList_ofList,
      Base64.decode?_encode]
    rw [String.toList_ofList]
    exact hspace

/-! ### The endpoint -/

/-- A request with a header. -/
def TokenRequest.withHeader (request : TokenRequest) (header : Option String) : TokenRequest :=
  { request with basic := parseBasicAuth header }

/-- A request with the credentials in its form. -/
def TokenRequest.withForm (request : TokenRequest) (clientId clientSecret : String) :
    TokenRequest :=
  { request with clientId := some clientId, clientSecret := some clientSecret, basic := none }

/-- **The header of a client is answered like the form with its credentials**, whatever else the
form says, and leaves the same clients. -/
theorem tokenEndpoint_basicHeader {settings : Settings} {sources : TokenSources}
    {table : OAuthClientTable} {now : ℕ} {request : TokenRequest} (h : ':' ∉ clientId.toList) :
    tokenEndpoint settings sources table now
        (request.withHeader (some (basicHeader clientId clientSecret))) =
      tokenEndpoint settings sources table now (request.withForm clientId clientSecret) := by
  have hcredentials :
      (request.withHeader (some (basicHeader clientId clientSecret))).credentials =
        (request.withForm clientId clientSecret).credentials := by
    rw [TokenRequest.credentials, TokenRequest.withHeader, parseBasicAuth_basicHeader h]
    rfl
  rw [tokenEndpoint, tokenEndpoint, hcredentials]
  rfl

open TokenEndpoint in
/-- A client with a header has its token. -/
theorem tokenEndpoint_basicHeader_pep :
    (tokenEndpoint issuing (signing (signedClaims "runtime" none))
      ⟨[registered "runtime" none], List.nodup_singleton _⟩ 100
      (allScopes.withHeader (some (basicHeader "oc_1" "secret")))).1 =
      .granted "token" 900 "runtime" :=
  (congrArg Prod.fst (tokenEndpoint_basicHeader (by decide))).trans (by decide +kernel)

end AuthzKit
