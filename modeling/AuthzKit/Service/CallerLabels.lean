import AuthzKit.Service.Callers
import AuthzKit.Service.Management
import AuthzKit.Text.Delimited

/-!
What a caller label says about the caller (`authz_service/management.py`).

* `SameIdentity`: two callers that are one.
* `Ambiguous`: two callers whose labels are equal although they are not; `label_eq_iff` says
  that there are no others.
* `ownClient_selfIssued`: whose label is `client:<id>`.
* `callerLabel_identifies`: when labels tell callers apart.
-/

namespace AuthzKit

open Delimited

/-! ### Identities -/

/-- Who a token speaks for. -/
inductive TokenIdentity where
  | client (clientId : String)
  | subject (subject : String)
deriving DecidableEq, Repr

/-- `principal.client_id`, or else the subject. -/
def TokenPrincipal.identity (principal : TokenPrincipal) : TokenIdentity :=
  match principal.clientId.filter fun c => c ≠ "" with
  | some client => .client client
  | none => .subject principal.subject

/-- `principal.client_id or principal.subject`. -/
def TokenIdentity.name : TokenIdentity → String
  | .client name | .subject name => name

/-- The same kind of principal, and the same identity. -/
def SameIdentity : Caller → Caller → Prop
  | .apiKey record, .apiKey record' => record.id = record'.id
  | .session p, .session p' => p.issuer = p'.issuer ∧ p.subject = p'.subject
  | .token p, .token p' => p.issuer = p'.issuer ∧ p.identity = p'.identity
  | _, _ => False

/-- `caller_label`. -/
def Caller.label (oauthIssuer : String) (caller : Caller) : String :=
  callerLabel oauthIssuer caller.principal

/-- The token names a client of the issuer that this service is configured as. -/
def TokenPrincipal.OwnClient (oauthIssuer : String) (principal : TokenPrincipal) : Prop :=
  oauthIssuer ≠ "" ∧ principal.issuer = oauthIssuer ∧
    ∃ clientId, principal.identity = .client clientId

/-- Two callers with one label: sessions of one subject at two issuers; and tokens, none of an
own client, whose client is named like the other's subject, or whose name continues the other's
issuer. -/
def Ambiguous (oauthIssuer : String) : Caller → Caller → Prop
  | .session p, .session p' => p.subject = p'.subject ∧ p.issuer ≠ p'.issuer
  | .token p, .token p' => ¬p.OwnClient oauthIssuer ∧ ¬p'.OwnClient oauthIssuer ∧
      ((p.issuer = p'.issuer ∧ p.identity.name = p'.identity.name ∧ p.identity ≠ p'.identity) ∨
        StringContinues "#" p.issuer p.identity.name p'.issuer p'.identity.name ∨
        StringContinues "#" p'.issuer p'.identity.name p.issuer p.identity.name)
  | _, _ => False

variable {oauthIssuer : String} {p p' : TokenPrincipal} {caller caller' : Caller}

/-! ### Labels -/

namespace Caller

/-- The label of a client of the own issuer. -/
lemma label_ownClient (h : p.OwnClient oauthIssuer) :
    (Caller.token p).label oauthIssuer = "client:" ++ p.identity.name := by
  obtain ⟨hne, hissuer, clientId, hidentity⟩ := h
  rw [TokenPrincipal.identity] at hidentity ⊢
  rw [Caller.label, Caller.principal, callerLabel]
  cases hclient : p.clientId.filter fun c => c ≠ "" with
  | none =>
      rw [hclient] at hidentity
      cases hidentity
  | some client => exact if_pos ⟨hne, hissuer⟩

/-- The label of any other token. -/
lemma label_token (h : ¬p.OwnClient oauthIssuer) :
    (Caller.token p).label oauthIssuer = "token:" ++ (p.issuer ++ "#" ++ p.identity.name) := by
  rw [TokenPrincipal.OwnClient, TokenPrincipal.identity] at h
  rw [Caller.label, Caller.principal, callerLabel, TokenPrincipal.identity]
  cases hclient : p.clientId.filter fun c => c ≠ "" with
  | none => simp only [TokenIdentity.name, String.append_assoc]
  | some client =>
      rw [hclient] at h
      have hother : ¬(oauthIssuer ≠ "" ∧ p.issuer = oauthIssuer) := by
        rintro ⟨hne, hissuer⟩
        exact h ⟨hne, hissuer, client, rfl⟩
      simp only [if_neg hother, TokenIdentity.name, String.append_assoc]

lemma label_ownClient_eq_iff (h : p.OwnClient oauthIssuer) (h' : p'.OwnClient oauthIssuer) :
    (Caller.token p).label oauthIssuer = (Caller.token p').label oauthIssuer ↔
      p.issuer = p'.issuer ∧ p.identity = p'.identity := by
  rw [label_ownClient h, label_ownClient h', String.append_right_inj]
  obtain ⟨-, hissuer, clientId, hidentity⟩ := h
  obtain ⟨-, hissuer', clientId', hidentity'⟩ := h'
  rw [hissuer, hissuer', hidentity, hidentity', TokenIdentity.name, TokenIdentity.name,
    TokenIdentity.client.injEq, eq_self_iff_true, true_and]

lemma label_token_eq_iff (h : ¬p.OwnClient oauthIssuer) (h' : ¬p'.OwnClient oauthIssuer) :
    (Caller.token p).label oauthIssuer = (Caller.token p').label oauthIssuer ↔
      (p.issuer = p'.issuer ∧ p.identity = p'.identity) ∨
        Ambiguous oauthIssuer (.token p) (.token p') := by
  have hmarker : Unbordered "#".toList := ⟨'#', [], rfl, List.not_mem_nil⟩
  rw [label_token h, label_token h', String.append_right_inj,
    string_append_marker_eq_iff hmarker, Ambiguous]
  constructor
  · rintro (⟨hissuer, hname⟩ | hcontinues)
    · by_cases hidentity : p.identity = p'.identity
      · exact Or.inl ⟨hissuer, hidentity⟩
      · exact Or.inr ⟨h, h', Or.inl ⟨hissuer, hname, hidentity⟩⟩
    · exact Or.inr ⟨h, h', Or.inr hcontinues⟩
  · rintro (⟨hissuer, hidentity⟩ | ⟨-, -, ⟨hissuer, hname, -⟩ | hcontinues⟩)
    · exact Or.inl ⟨hissuer, congrArg TokenIdentity.name hidentity⟩
    · exact Or.inl ⟨hissuer, hname⟩
    · exact Or.inr hcontinues

lemma head_append {a : String} {c : Char} (h : a.toList.head? = some c) (s : String) :
    (a ++ s).toList.head? = some c := by
  rw [String.toList_append, List.head?_append, h, Option.some_or]

lemma head_apiKey (record : ApiKeyRecord) :
    ((Caller.apiKey record).label oauthIssuer).toList.head? = some 'a' := head_append rfl _

lemma head_session (p : SessionPrincipal) :
    ((Caller.session p).label oauthIssuer).toList.head? = some 's' := head_append rfl _

lemma head_ownClient (h : p.OwnClient oauthIssuer) :
    ((Caller.token p).label oauthIssuer).toList.head? = some 'c' := by
  rw [label_ownClient h]
  exact head_append rfl _

lemma head_token (h : ¬p.OwnClient oauthIssuer) :
    ((Caller.token p).label oauthIssuer).toList.head? = some 't' := by
  rw [label_token h]
  exact head_append rfl _

lemma label_ne {c d : Char} (h : (caller.label oauthIssuer).toList.head? = some c)
    (h' : (caller'.label oauthIssuer).toList.head? = some d) (hcd : c ≠ d) :
    caller.label oauthIssuer ≠ caller'.label oauthIssuer := by
  intro heq
  rw [heq] at h
  exact hcd (Option.some.inj (h.symm.trans h'))

/-- The label of a token begins like no other. -/
lemma label_token_ne (h' : (caller'.label oauthIssuer).toList.head? = some 'a' ∨
    (caller'.label oauthIssuer).toList.head? = some 's') :
    (Caller.token p).label oauthIssuer ≠ caller'.label oauthIssuer := by
  by_cases hown : p.OwnClient oauthIssuer
  · rcases h' with h' | h'
    · exact label_ne (head_ownClient hown) h' (by decide)
    · exact label_ne (head_ownClient hown) h' (by decide)
  · rcases h' with h' | h'
    · exact label_ne (head_token hown) h' (by decide)
    · exact label_ne (head_token hown) h' (by decide)

/-- **Which callers have one label**: those that are one, and the ambiguous ones. -/
theorem label_eq_iff (caller caller' : Caller) :
    caller.label oauthIssuer = caller'.label oauthIssuer ↔
      SameIdentity caller caller' ∨ Ambiguous oauthIssuer caller caller' := by
  have hfalse : ∀ {c c' : Caller}, c.label oauthIssuer ≠ c'.label oauthIssuer →
      (c.label oauthIssuer = c'.label oauthIssuer ↔ False ∨ False) := fun h =>
    ⟨fun heq => absurd heq h, fun h => absurd h (or_self False).mp⟩
  cases caller with
  | apiKey record =>
      cases caller' with
      | apiKey record' =>
          have hlabel : (Caller.apiKey record).label oauthIssuer =
              (Caller.apiKey record').label oauthIssuer ↔ record.id = record'.id :=
            String.append_right_inj _
          exact hlabel.trans (or_iff_left id).symm
      | session p' => exact hfalse (label_ne (head_apiKey record) (head_session p') (by decide))
      | token p' => exact hfalse (label_token_ne (Or.inl (head_apiKey record))).symm
  | session p =>
      cases caller' with
      | apiKey record' => exact hfalse (label_ne (head_session p) (head_apiKey record') (by decide))
      | session p' =>
          have hlabel : (Caller.session p).label oauthIssuer =
              (Caller.session p').label oauthIssuer ↔ p.subject = p'.subject :=
            String.append_right_inj _
          rw [hlabel, SameIdentity, Ambiguous]
          constructor
          · intro hsubject
            by_cases hissuer : p.issuer = p'.issuer
            · exact Or.inl ⟨hissuer, hsubject⟩
            · exact Or.inr ⟨hsubject, hissuer⟩
          · rintro (⟨-, hsubject⟩ | ⟨hsubject, -⟩)
            · exact hsubject
            · exact hsubject
      | token p' => exact hfalse (label_token_ne (Or.inr (head_session p))).symm
  | token p =>
      cases caller' with
      | apiKey record' => exact hfalse (label_token_ne (Or.inl (head_apiKey record')))
      | session p' => exact hfalse (label_token_ne (Or.inr (head_session p')))
      | token p' =>
          have howns : p.issuer = p'.issuer ∧ p.identity = p'.identity →
              (p.OwnClient oauthIssuer ↔ p'.OwnClient oauthIssuer) := by
            rintro ⟨hissuer, hidentity⟩
            rw [TokenPrincipal.OwnClient, TokenPrincipal.OwnClient, hissuer, hidentity]
          by_cases hown : p.OwnClient oauthIssuer
          · by_cases hown' : p'.OwnClient oauthIssuer
            · rw [label_ownClient_eq_iff hown hown']
              exact (or_iff_left fun hambiguous => hambiguous.1 hown).symm
            · have hne := label_ne (head_ownClient hown) (head_token hown') (by decide)
              refine ⟨fun heq => absurd heq hne, ?_⟩
              rintro (hsame | hambiguous)
              · exact absurd ((howns hsame).mp hown) hown'
              · exact absurd hown hambiguous.1
          · by_cases hown' : p'.OwnClient oauthIssuer
            · have hne := label_ne (head_token hown) (head_ownClient hown') (by decide)
              refine ⟨fun heq => absurd heq hne, ?_⟩
              rintro (hsame | hambiguous)
              · exact absurd ((howns hsame).mpr hown') hown
              · exact absurd hown' hambiguous.2.1
            · exact label_token_eq_iff hown hown'

end Caller

/-- Ambiguous callers are two. -/
lemma Ambiguous.ne (h : Ambiguous oauthIssuer caller caller') : ¬SameIdentity caller caller' := by
  have hmarker : "#" ≠ "" := by decide
  cases caller with
  | apiKey record => exact h.elim
  | session p =>
      cases caller' with
      | apiKey record' => exact h.elim
      | session p' => exact fun hsame => h.2 hsame.1
      | token p' => exact h.elim
  | token p =>
      cases caller' with
      | apiKey record' => exact h.elim
      | session p' => exact h.elim
      | token p' =>
          obtain ⟨-, -, ⟨-, -, hidentity⟩ | hcontinues | hcontinues⟩ := h
          · exact fun hsame => hidentity hsame.2
          · exact fun hsame => hcontinues.ne hmarker hsame.1
          · exact fun hsame => hcontinues.ne hmarker hsame.1.symm

/-- An application that a caller manages is open to the callers with its label. -/
theorem check_managedBy {app : Application}
    (hmanaged : app.managedBy = some (caller'.label oauthIssuer)) :
    (∃ app', ManagementGuard.check (caller.label oauthIssuer) app = .ok app') ↔
      SameIdentity caller caller' ∨ Ambiguous oauthIssuer caller caller' := by
  rw [← Caller.label_eq_iff, ManagementGuard.check, hmanaged]
  dsimp only
  split_ifs with hsame
  · exact ⟨fun _ => hsame.symm, fun _ => ⟨app, rfl⟩⟩
  · refine ⟨?_, fun heq => absurd heq.symm hsame⟩
    rintro ⟨app', h⟩
    cases h

/-! ### Clients -/

/-- The token has been checked with the keys of this service's own authorization server. -/
def SelfIssued (settings : Settings) (sources : CallerSources) (caller : Caller) : Prop :=
  ∃ resolver principal, getJwtResolver settings sources.publicJwks = .ok (some resolver) ∧
    caller = .token principal ∧ JwtResolver.SelfIssued sources.jwt resolver principal

/-- A client of the issuer this service is configured as, while its own authorization server is
off. -/
def ForeignClient (settings : Settings) (caller : Caller) : Prop :=
  ∃ p, caller = .token p ∧ p.OwnClient settings.oauthIssuer ∧ settings.oauthAsEnabled = false

variable {settings : Settings} {sources : CallerSources} {table : ApiKeyTable} {now : ℕ}
  {request : HttpRequest}

lemma label_client {clientId : String}
    (h : caller.label oauthIssuer = "client:" ++ clientId) :
    ∃ p, caller = .token p ∧ p.OwnClient oauthIssuer := by
  have hhead : (caller.label oauthIssuer).toList.head? = some 'c' := by
    rw [h]
    exact Caller.head_append rfl clientId
  have hne : ∀ {c}, (caller.label oauthIssuer).toList.head? = some c → c = 'c' := fun hc =>
    Option.some.inj (hc.symm.trans hhead)
  cases caller with
  | apiKey record => exact absurd (hne (Caller.head_apiKey record)) (by decide)
  | session p => exact absurd (hne (Caller.head_session p)) (by decide)
  | token p =>
      by_cases hown : p.OwnClient oauthIssuer
      · exact ⟨p, rfl, hown⟩
      · exact absurd (hne (Caller.head_token hown)) (by decide)

/-- The resolver's own issuer and keys. -/
lemma getJwtResolver_fields {publicJwks : List Delegations.Jwk} {resolver : JwtResolver}
    (h : getJwtResolver settings publicJwks = .ok (some resolver)) :
    resolver.selfIssuer = settings.selfIssuer ∧
      (settings.oauthAsEnabled = false → resolver.selfJwks = []) := by
  rw [getJwtResolver] at h
  split_ifs at h with hnone hcollides hself
  · cases h
  · injection h with h
    obtain rfl := Option.some.inj h
    refine ⟨rfl, fun hoff => ?_⟩
    rw [Settings.selfIssuer, hoff] at hself
    cases hself
  · injection h with h
    obtain rfl := Option.some.inj h
    exact ⟨rfl, fun _ => rfl⟩

/-- **Whose label is `client:<id>`**: a token of this service, when it issues tokens, and never
one otherwise. -/
theorem ownClient_selfIssued
    (h : (requireCaller settings sources table now request).1 = .ok (.token p))
    (hown : p.OwnClient settings.oauthIssuer) :
    SelfIssued settings sources (.token p) ↔ settings.oauthAsEnabled = true := by
  constructor
  · rintro ⟨resolver, principal, hresolver, -, _, _, key, _, hkey, -⟩
    by_contra hoff
    rw [(getJwtResolver_fields hresolver).2 (Bool.eq_false_iff.mpr hoff)] at hkey
    cases hkey
  · intro hserver
    obtain ⟨_, heq⟩ | ⟨resolver, token, principal, hresolver, hresolve, heq⟩ | ⟨_, _, -, heq⟩ :=
      requireCaller_cases h
    · cases heq
    · obtain rfl := Caller.token.inj heq
      obtain ⟨issuer, config, claims, -, hconfig, hproject, hverified⟩ :=
        JwtResolver.resolve_eq_ok hresolve
      obtain ⟨hne, hissuer, -⟩ := hown
      have hconfig' : issuer.getD "" = settings.oauthIssuer := by
        rw [← (JwtResolver.config?_issuer hconfig).2, ← hissuer, hproject]
        rfl
      have hself : resolver.selfIssuer = some settings.oauthIssuer := by
        rw [(getJwtResolver_fields hresolver).1, Settings.selfIssuer, if_pos hserver]
      have hissuer' : issuer = some settings.oauthIssuer := by
        cases issuer with
        | none => exact absurd hconfig'.symm hne
        | some issuer => exact congrArg some hconfig'
      rw [if_pos ⟨by rw [hself]; rfl, hissuer'.trans hself.symm⟩] at hverified
      obtain ⟨key, hkey, hdecode⟩ := hverified
      exact ⟨resolver, p, hresolver, rfl, token, config, key, claims, hkey, hdecode, hproject⟩
    · cases heq

/-! ### What a label identifies -/

/-- **When a label identifies its caller**: two callers with one label are one, and a client is
one of this service, exactly when the two are not ambiguous and the first is no client of a
foreign server that has the issuer of this one. -/
theorem callerLabel_identifies
    (h : (requireCaller settings sources table now request).1 = .ok caller) :
    ((caller.label settings.oauthIssuer = caller'.label settings.oauthIssuer →
        SameIdentity caller caller') ∧
      ∀ clientId, caller.label settings.oauthIssuer = "client:" ++ clientId →
        SelfIssued settings sources caller) ↔
      ¬Ambiguous settings.oauthIssuer caller caller' ∧ ¬ForeignClient settings caller := by
  refine and_congr ?_ ?_
  · rw [Caller.label_eq_iff]
    constructor
    · exact fun hsame hambiguous => hambiguous.ne (hsame (Or.inr hambiguous))
    · exact fun hnot heq => heq.resolve_right hnot
  · constructor
    · rintro hclient ⟨p, rfl, hown, hoff⟩
      have hissued := hclient _ (Caller.label_ownClient hown)
      rw [(ownClient_selfIssued h hown).mp hissued] at hoff
      cases hoff
    · rintro hforeign clientId hlabel
      obtain ⟨p, rfl, hown⟩ := label_client hlabel
      rw [ownClient_selfIssued h hown]
      by_contra hoff
      exact hforeign ⟨p, rfl, hown, Bool.eq_false_iff.mpr hoff⟩

section Examples

namespace Caller

/-- A service that issues no tokens, and takes those of another issuer. -/
def resourceServer (oauthIssuer : String) : Settings :=
  ⟨false, [], false, oauthIssuer, "", 900,
    [⟨"https://idp", ["authz"], "scope", some ' ', [], none, ""⟩], true, false⟩

/-- A service that issues tokens. -/
def authorizationServer : Settings := ⟨false, [], true, "https://authz", "", 900, [], false, false⟩

/-- What a service reads when every token has these claims. -/
def readingClaims (claims : ClaimSet) : CallerSources where
  hash := id
  jwt :=
    { getUnverifiedHeader := fun _ => .ok ⟨some "JWT", some "kid"⟩
      unverified := fun _ => .ok claims
      validate := fun _ _ => .ok claims
      decode := fun _ _ _ => .ok claims }
  publicJwks := [⟨some "kid", ""⟩]
  session := fun _ => none

def machineClaims : ClaimSet :=
  [("iss", .str "https://idp"), ("sub", .str "service"), ("client_id", .str "alice")]

def userClaims : ClaimSet := [("iss", .str "https://idp"), ("sub", .str "alice")]

def machine : Caller := .token ⟨"https://idp", "service", some "alice", [], none⟩

def user : Caller := .token ⟨"https://idp", "alice", none, [], none⟩

def ownClient : Caller := .token ⟨"https://authz", "oc_1", some "oc_1", ["runtime"], none⟩

def bearer : HttpRequest :=
  ⟨"GET", "/v1/applications", none, some "Bearer a.b.c", none, none, none, [], ""⟩

end Caller

open Caller in
/-- A client of this service and a user of the same name. -/
theorem callerLabel_identifies_ownClient :
    (ownClient.label "https://authz" = user.label "https://authz" → SameIdentity ownClient user) ∧
      ∀ clientId, ownClient.label "https://authz" = "client:" ++ clientId →
        SelfIssued authorizationServer (readingClaims [("iss", .str "https://authz"),
          ("sub", .str "oc_1"), ("client_id", .str "oc_1"), ("scope", .str "runtime")])
          ownClient := by
  have hown : (TokenPrincipal.OwnClient "https://authz"
      ⟨"https://authz", "oc_1", some "oc_1", ["runtime"], none⟩) :=
    ⟨by decide, rfl, "oc_1", rfl⟩
  have hcaller : (requireCaller authorizationServer (readingClaims [("iss", .str "https://authz"),
      ("sub", .str "oc_1"), ("client_id", .str "oc_1"), ("scope", .str "runtime")])
      ApiKeyTable.empty 0 bearer).1 = .ok ownClient := by decide +kernel
  refine (callerLabel_identifies hcaller).mpr ⟨fun h => h.1 hown, ?_⟩
  rintro ⟨p, -, -, hoff⟩
  cases hoff

open Caller in
/-- A client and a user of another issuer have one label; and where this service has the name of
the other issuer, but issues no tokens, the client is labelled as its own. -/
theorem client_and_subject_share_label :
    (∃ settings sources sources',
      (requireCaller settings sources ApiKeyTable.empty 0 bearer).1 = .ok machine ∧
      (requireCaller settings sources' ApiKeyTable.empty 0 bearer).1 = .ok user ∧
      machine.label settings.oauthIssuer = user.label settings.oauthIssuer ∧
      ¬SameIdentity machine user) ∧
    ∃ settings sources,
      (requireCaller settings sources ApiKeyTable.empty 0 bearer).1 = .ok machine ∧
      machine.label settings.oauthIssuer = "client:" ++ "alice" ∧
      ¬SelfIssued settings sources machine := by
  have hmachine : ∀ oauthIssuer, (requireCaller (resourceServer oauthIssuer)
      (readingClaims machineClaims) ApiKeyTable.empty 0 bearer).1 = .ok machine := fun _ => rfl
  have hown : (TokenPrincipal.OwnClient "https://idp"
      ⟨"https://idp", "service", some "alice", [], none⟩) := ⟨by decide, rfl, "alice", rfl⟩
  refine ⟨⟨resourceServer "", readingClaims machineClaims, readingClaims userClaims, hmachine "",
      by decide +kernel, by decide +kernel, fun hsame => nomatch hsame.2⟩,
    resourceServer "https://idp", readingClaims machineClaims, hmachine _, by decide +kernel, ?_⟩
  rw [machine, ownClient_selfIssued (hmachine _) hown]
  exact Bool.false_ne_true

end Examples

end AuthzKit
