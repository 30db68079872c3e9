import Mathlib.Tactic

/-!
The shared POST loops of the four SDKs: `AuthzClient._request` of `authz_sdk/client.py`,
`Client.post` of `go/authz/client.go`, `AuthzClient.post` of `typescript/src/client.ts` and
`HttpTransport.SendRawAsync` of `csharp/src/Authz.Sdk/HttpTransport.cs`.

* `deciding`: the attempt a call should end with.
* `post_step`: on an outcome to be retried every client goes on.
* `post_at_deciding`: what each makes of the deciding attempt.
* `clients_alike_iff`: they end alike exactly on an ordinary deciding attempt.

Each client has a JSON decoder of its own, and they do not take the same texts: Python's reads
`NaN` and refuses a number of 5000 digits, `JSON.parse` does it the other way round.
-/

namespace AuthzKit

namespace Sdk

/-- What a request comes to: a transport error, or a status and the text of the body. -/
inductive Attempt where
  | transportError
  | response (status : ℕ) (text : String)
deriving DecidableEq

/-- How a call ends; `nothing` is Python's `None` and the `null` of C#. -/
inductive Ending (J : Type) where
  | decoded (body : J)
  | nothing
  | serviceError (status : ℕ)
  | otherError
deriving DecidableEq

/-- A call: how many requests it made and how it ended. -/
structure Call (J : Type) where
  requests : ℕ
  ending : Ending J
deriving DecidableEq

/-! ### The loops -/

section Loops

variable {J : Type} (decode : String → Option J) (maxRetries : ℕ) (script : ℕ → Attempt)

/-- The value of a decoder, or the exception it raises. -/
def decoded (text : String) : Ending J :=
  match decode text with
  | some body => .decoded body
  | none => .otherError

/-- `_request` of the Python client at the top of its loop, `sent` requests later. -/
def pythonRequest (attempts sent : ℕ) : Call J :=
  if attempts ≤ maxRetries then
    match script sent with
    | .transportError =>
        if attempts + 1 > maxRetries then ⟨sent + 1, .otherError⟩
        else pythonRequest (attempts + 1) (sent + 1)
    | .response status text =>
        if status ≥ 500 ∧ attempts < maxRetries then pythonRequest (attempts + 1) (sent + 1)
        else if status ≥ 400 then ⟨sent + 1, .serviceError status⟩
        else if status = 204 then ⟨sent + 1, .nothing⟩
        else ⟨sent + 1, decoded decode text⟩
  else ⟨sent, .otherError⟩
termination_by maxRetries + 1 - attempts

/-- `post` of the Go client; `out` is `json.Unmarshal` into the caller's variable, which fails
also on JSON of another form, and null where the caller wants no answer. -/
def goPost (out : Option (String → Option J)) (attempt sent : ℕ) : Call J :=
  if attempt ≤ maxRetries then
    match script sent with
    | .transportError =>
        if attempt < maxRetries then goPost out (attempt + 1) (sent + 1)
        else ⟨sent + 1, .otherError⟩
    | .response status text =>
        if status ≥ 500 ∧ attempt < maxRetries then goPost out (attempt + 1) (sent + 1)
        else if status ≥ 400 then ⟨sent + 1, .serviceError status⟩
        else
          match out with
          | none => ⟨sent + 1, .nothing⟩
          | some unmarshal =>
              if text.length > 0 then ⟨sent + 1, decoded unmarshal text⟩
              else ⟨sent + 1, .nothing⟩
  else ⟨sent, .otherError⟩
termination_by maxRetries + 1 - attempt

/-- The body of a fetch `Response`, which can be consumed once. -/
structure FetchBody where
  text : String
  bodyUsed : Bool

/-- `response.json()`: it throws on a consumed body and on one that is no JSON. -/
def FetchBody.json (body : FetchBody) : Option J × FetchBody :=
  if body.bodyUsed then (none, body) else (decode body.text, { body with bodyUsed := true })

/-- `response.text()`: it throws on a consumed body. -/
def FetchBody.readText (body : FetchBody) : Option String × FetchBody :=
  if body.bodyUsed then (none, body) else (some body.text, { body with bodyUsed := true })

/-- `post` of the TypeScript client; what the `try` block throws, a service error apart, ends in
the `catch` block that retries. -/
def typescriptPost (attempt sent : ℕ) : Call J :=
  if attempt ≤ maxRetries then
    let caught : Unit → Call J := fun _ =>
      if attempt + 1 > maxRetries then ⟨sent + 1, .otherError⟩
      else typescriptPost (attempt + 1) (sent + 1)
    match script sent with
    | .transportError => caught ()
    | .response status text =>
        if status ≥ 500 ∧ attempt < maxRetries then typescriptPost (attempt + 1) (sent + 1)
        else
          let body : FetchBody := ⟨text, false⟩
          if status ≥ 400 then
            match body.json decode with
            | (some _, _) => ⟨sent + 1, .serviceError status⟩
            | (none, body) =>
                match body.readText with
                | (some _, _) => ⟨sent + 1, .serviceError status⟩
                | (none, _) => caught ()
          else
            match body.json decode with
            | (some value, _) => ⟨sent + 1, .decoded value⟩
            | (none, _) => caught ()
  else ⟨sent, .otherError⟩
termination_by maxRetries + 1 - attempt

/-- `char.IsWhiteSpace`. -/
def isWhiteSpace (c : Char) : Bool :=
  (0x9 ≤ c.toNat && c.toNat ≤ 0xd) || c.toNat == 0x20 || c.toNat == 0x85 || c.toNat == 0xa0 ||
    c.toNat == 0x1680 || (0x2000 ≤ c.toNat && c.toNat ≤ 0x200a) || c.toNat == 0x2028 ||
    c.toNat == 0x2029 || c.toNat == 0x202f || c.toNat == 0x205f || c.toNat == 0x3000

/-- `string.IsNullOrWhiteSpace` of a string. -/
def isNullOrWhiteSpace (text : String) : Bool := text.toList.all isWhiteSpace

/-- `SendRawAsync` of the C# client, with retries. -/
def csharpSendRaw (attempt sent : ℕ) : Call J :=
  if attempt ≤ maxRetries then
    match script sent with
    | .transportError => csharpSendRaw (attempt + 1) (sent + 1)
    | .response status text =>
        if status ≥ 500 ∧ attempt < maxRetries then csharpSendRaw (attempt + 1) (sent + 1)
        else if ¬(200 ≤ status ∧ status ≤ 299) then ⟨sent + 1, .serviceError status⟩
        else if status = 204 ∨ isNullOrWhiteSpace text then ⟨sent + 1, .nothing⟩
        else ⟨sent + 1, decoded decode text⟩
  else ⟨sent, .otherError⟩
termination_by maxRetries + 1 - attempt

inductive Client where
  | python
  | go
  | typescript
  | csharp
deriving DecidableEq

/-- The POST of a client, with the decoder of each: `response.json()`, `json.Unmarshal` into the
variable of a caller who wants an answer, fetch's `json()` and `JsonDocument.Parse`. -/
def Client.post (decode : Client → String → Option J) : Client → Call J
  | .python => pythonRequest (decode .python) maxRetries script 0 0
  | .go => goPost maxRetries script (some (decode .go)) 0 0
  | .typescript => typescriptPost (decode .typescript) maxRetries script 0 0
  | .csharp => csharpSendRaw (decode .csharp) maxRetries script 0 0

end Loops

/-! ### The attempt that decides -/

/-- A transport error or a server error, which another attempt may cure. -/
def Attempt.transient : Attempt → Bool
  | .transportError => true
  | .response status _ => 500 ≤ status

/-- A success or an error of the service, with a body. -/
def Attempt.Proper : Attempt → Prop
  | .transportError => True
  | .response status text => (200 ≤ status ∧ status ≤ 299 ∨ 400 ≤ status ∧ status ≤ 599) ∧ text ≠ ""

variable {J : Type}

/-- How a call ends that this attempt decides; `json` says which texts are JSON, and what they
say. -/
def Attempt.ending (json : String → Option J) : Attempt → Ending J
  | .transportError => .otherError
  | .response status text => if 400 ≤ status then .serviceError status else decoded json text

/-- The attempt a call ends with: the last one allowed, or the first that is not transient. -/
def deciding (maxRetries : ℕ) (script : ℕ → Attempt) : ℕ :=
  Nat.find (p := fun k => k = maxRetries ∨ (script k).transient = false) ⟨maxRetries, Or.inl rfl⟩

/-- Two decoders make the same of a text exactly where they agree on it. -/
lemma decoded_inj {decode json : String → Option J} {text : String} :
    decoded decode text = decoded json text ↔ decode text = json text := by
  rw [decoded, decoded]
  cases decode text <;> cases json text <;> simp

lemma decoded_ne_nothing {json : String → Option J} {text : String} :
    .nothing ≠ decoded json text := by
  rw [decoded]
  cases json text <;> simp

variable {decode json : String → Option J} {maxRetries : ℕ} {script : ℕ → Attempt}

lemma deciding_spec : deciding maxRetries script = maxRetries ∨
    (script (deciding maxRetries script)).transient = false :=
  Nat.find_spec (p := fun k => k = maxRetries ∨ (script k).transient = false) _

lemma deciding_le : deciding maxRetries script ≤ maxRetries := Nat.find_min' _ (Or.inl rfl)

lemma transient_of_lt {k : ℕ} (hk : k < deciding maxRetries script) :
    k < maxRetries ∧ (script k).transient = true := by
  have h := Nat.find_min _ hk
  rw [not_or, Bool.not_eq_false] at h
  exact ⟨lt_of_lt_of_le hk deciding_le, h.2⟩

/-- A loop that goes on after transient attempts reaches the deciding one. -/
lemma eq_at_deciding {β : Type} (loop : ℕ → β)
    (hstep : ∀ k < maxRetries, (script k).transient = true → loop k = loop (k + 1)) :
    loop 0 = loop (deciding maxRetries script) := by
  have hreach : ∀ k ≤ deciding maxRetries script, loop 0 = loop k := by
    intro k
    induction k with
    | zero => exact fun _ => rfl
    | succ k ih =>
        intro hk
        obtain ⟨hlt, htransient⟩ := transient_of_lt (Nat.lt_of_succ_le hk)
        exact (ih (Nat.le_of_succ_le hk)).trans (hstep k hlt htransient)
  exact hreach _ le_rfl

/-! ### One pass of each loop -/

section Passes

variable {k : ℕ}

lemma pythonRequest_step (hk : k < maxRetries) (h : (script k).transient = true) :
    pythonRequest decode maxRetries script k k =
      pythonRequest decode maxRetries script (k + 1) (k + 1) := by
  rw [pythonRequest, if_pos hk.le]
  cases hscript : script k with
  | transportError => simp only [if_neg (not_lt.mpr (Nat.succ_le_of_lt hk))]
  | response status text =>
      rw [hscript, Attempt.transient, decide_eq_true_eq] at h
      simp only [if_pos (And.intro h hk)]

lemma goPost_step {out : Option (String → Option J)} (hk : k < maxRetries)
    (h : (script k).transient = true) :
    goPost maxRetries script out k k = goPost maxRetries script out (k + 1) (k + 1) := by
  rw [goPost, if_pos hk.le]
  cases hscript : script k with
  | transportError => simp only [if_pos hk]
  | response status text =>
      rw [hscript, Attempt.transient, decide_eq_true_eq] at h
      simp only [if_pos (And.intro h hk)]

lemma typescriptPost_step (hk : k < maxRetries) (h : (script k).transient = true) :
    typescriptPost decode maxRetries script k k =
      typescriptPost decode maxRetries script (k + 1) (k + 1) := by
  rw [typescriptPost, if_pos hk.le]
  cases hscript : script k with
  | transportError => simp only [if_neg (not_lt.mpr (Nat.succ_le_of_lt hk))]
  | response status text =>
      rw [hscript, Attempt.transient, decide_eq_true_eq] at h
      simp only [if_pos (And.intro h hk)]

lemma csharpSendRaw_step (hk : k < maxRetries) (h : (script k).transient = true) :
    csharpSendRaw decode maxRetries script k k =
      csharpSendRaw decode maxRetries script (k + 1) (k + 1) := by
  rw [csharpSendRaw, if_pos hk.le]
  cases hscript : script k with
  | transportError => rfl
  | response status text =>
      rw [hscript, Attempt.transient, decide_eq_true_eq] at h
      simp only [if_pos (And.intro h hk)]

/-- A call of the TypeScript client that still may send a request sends one. -/
lemma lt_requests_typescriptPost {attempt : ℕ} :
    ∀ sent, attempt ≤ maxRetries →
      sent < (typescriptPost decode maxRetries script attempt sent).requests := by
  induction hleft : maxRetries - attempt generalizing attempt with
  | zero =>
      intro sent hle
      have hlast : ¬ attempt < maxRetries := by omega
      have hover : attempt + 1 > maxRetries := by omega
      rw [typescriptPost, if_pos hle]
      simp only [if_pos hover, hlast, and_false, if_false]
      split
      · exact Nat.lt_succ_self sent
      · split_ifs <;> (repeat' split) <;> exact Nat.lt_succ_self sent
  | succ left ih =>
      intro sent hle
      have hmore : attempt + 1 ≤ maxRetries := by omega
      have hnext := Nat.lt_of_succ_lt (ih (by omega) (sent + 1) hmore)
      rw [typescriptPost, if_pos hle]
      simp only [if_neg (not_lt.mpr hmore)]
      split
      · exact hnext
      · split_ifs <;> (repeat' split) <;> first | exact hnext | exact Nat.lt_succ_self sent

variable (hk : k ≤ maxRetries)
  (hlast : k = maxRetries ∨ (script k).transient = false) (hproper : (script k).Proper)

include hk hlast

/-- A response that decides is not retried as a server error. -/
lemma not_retried {status : ℕ} {text : String} (hscript : script k = .response status text) :
    ¬ (status ≥ 500 ∧ k < maxRetries) := by
  rintro ⟨hstatus, hlt⟩
  rcases hlast with rfl | hfinal
  · exact lt_irrefl _ hlt
  · rw [hscript, Attempt.transient, decide_eq_false_iff_not] at hfinal
    exact hfinal hstatus

/-- A transport error that decides is the last attempt. -/
lemma eq_last (hscript : script k = .transportError) : k = maxRetries := by
  rcases hlast with rfl | hfinal
  · rfl
  · rw [hscript] at hfinal
    cases hfinal

lemma pythonRequest_at_iff :
    pythonRequest decode maxRetries script k k = ⟨k + 1, (script k).ending json⟩ ↔
      ∀ status text, script k = .response status text → status < 400 →
        status ≠ 204 ∧ decode text = json text := by
  rw [pythonRequest, if_pos hk]
  cases hscript : script k with
  | transportError =>
      have hover : k + 1 > maxRetries := by
        rw [eq_last hk hlast hscript]
        exact Nat.lt_succ_self _
      simp [hover, Attempt.ending]
  | response status text =>
      simp only [if_neg (not_retried hk hlast hscript), Attempt.ending, ge_iff_le,
        Attempt.response.injEq, and_imp]
      by_cases herror : 400 ≤ status
      · simp only [if_pos herror, true_iff]
        rintro status' text' rfl rfl hstatus
        exact absurd herror (not_le.mpr hstatus)
      · simp only [if_neg herror]
        by_cases hempty : status = 204
        · subst hempty
          simp only [if_true, Call.mk.injEq, true_and]
          refine ⟨fun h => absurd h decoded_ne_nothing, fun h => ?_⟩
          exact absurd rfl (h 204 text rfl rfl (by decide)).1
        · simp only [if_neg hempty, Call.mk.injEq, true_and, decoded_inj]
          refine ⟨fun h => ?_, fun h => (h status text rfl rfl (not_le.mp herror)).2⟩
          rintro status' text' rfl rfl -
          exact ⟨hempty, h⟩

lemma goPost_at_iff (hproper : (script k).Proper) :
    goPost maxRetries script (some decode) k k = ⟨k + 1, (script k).ending json⟩ ↔
      ∀ status text, script k = .response status text → status < 400 →
        decode text = json text := by
  rw [goPost, if_pos hk]
  cases hscript : script k with
  | transportError =>
      have hover : ¬ k < maxRetries := by
        rw [eq_last hk hlast hscript]
        exact lt_irrefl _
      simp [hover, Attempt.ending]
  | response status text =>
      rw [hscript] at hproper
      have hlength : text.length > 0 := by
        rw [gt_iff_lt, Nat.pos_iff_ne_zero]
        intro hzero
        exact hproper.2 (String.length_eq_zero_iff.mp hzero)
      simp only [if_neg (not_retried hk hlast hscript), Attempt.ending, ge_iff_le, if_pos hlength,
        Attempt.response.injEq, and_imp]
      by_cases herror : 400 ≤ status
      · simp only [if_pos herror, true_iff]
        rintro status' text' rfl rfl hstatus
        exact absurd herror (not_le.mpr hstatus)
      · simp only [if_neg herror, Call.mk.injEq, true_and, decoded_inj]
        refine ⟨fun h => ?_, fun h => h status text rfl rfl (not_le.mp herror)⟩
        rintro status' text' rfl rfl -
        exact h

lemma typescriptPost_at_iff :
    typescriptPost decode maxRetries script k k = ⟨k + 1, (script k).ending json⟩ ↔
      ∀ status text, script k = .response status text →
        (status < 400 → decode text = json text) ∧
          (decode text = none → status < 400 ∧ k = maxRetries) := by
  rw [typescriptPost, if_pos hk]
  cases hscript : script k with
  | transportError =>
      have hover : k + 1 > maxRetries := by
        rw [eq_last hk hlast hscript]
        exact Nat.lt_succ_self _
      simp [hover, Attempt.ending]
  | response status text =>
      simp only [if_neg (not_retried hk hlast hscript), Attempt.ending, ge_iff_le, FetchBody.json,
        FetchBody.readText, Bool.false_eq_true, if_false]
      cases hdecode : decode text with
      | some value =>
          have hvalue : Ending.decoded value = decoded decode text := by rw [decoded, hdecode]
          dsimp only
          rw [hvalue]
          by_cases herror : 400 ≤ status
          · simp only [if_pos herror, true_iff]
            rintro status' text' ⟨⟩
            exact ⟨fun hstatus => absurd herror (not_le.mpr hstatus), fun hnone => by
              rw [hdecode] at hnone
              cases hnone⟩
          · simp only [if_neg herror, Call.mk.injEq, true_and, decoded_inj]
            refine ⟨fun h => ?_, fun h => (h status text rfl).1 (not_le.mp herror)⟩
            rintro status' text' ⟨⟩
            exact ⟨fun _ => h, fun hnone => by
              rw [hdecode] at hnone
              cases hnone⟩
      | none =>
          have hfailed : Ending.otherError = decoded decode text := by rw [decoded, hdecode]
          dsimp only
          by_cases hover : k + 1 > maxRetries
          · have heq : k = maxRetries := le_antisymm hk (Nat.le_of_lt_succ hover)
            simp only [if_pos hover]
            by_cases herror : 400 ≤ status
            · simp only [if_pos herror]
              refine ⟨fun h => (by simp at h), fun h => ?_⟩
              exact absurd ((h status text rfl).2 hdecode).1 (not_lt.mpr herror)
            · simp only [if_neg herror, Call.mk.injEq, true_and]
              rw [hfailed, decoded_inj]
              refine ⟨fun h => ?_, fun h => (h status text rfl).1 (not_le.mp herror)⟩
              rintro status' text' ⟨⟩
              exact ⟨fun _ => h, fun _ => ⟨not_le.mp herror, heq⟩⟩
          · have hmore : k + 1 ≤ maxRetries := not_lt.mp hover
            have hsent : k + 1 < (typescriptPost decode maxRetries script (k + 1) (k + 1)).requests :=
              lt_requests_typescriptPost (k + 1) hmore
            simp only [if_neg hover, if_true, ite_self]
            refine ⟨fun h => ?_, fun h => ?_⟩
            · rw [h] at hsent
              exact absurd hsent (lt_irrefl _)
            · exact absurd ((h status text rfl).2 hdecode).2 (Nat.ne_of_lt hmore)

lemma csharpSendRaw_at_iff (hproper : (script k).Proper) :
    csharpSendRaw decode maxRetries script k k = ⟨k + 1, (script k).ending json⟩ ↔
      ∀ status text, script k = .response status text → status < 400 →
        (status ≠ 204 ∧ isNullOrWhiteSpace text = false) ∧ decode text = json text := by
  rw [csharpSendRaw, if_pos hk]
  cases hscript : script k with
  | transportError =>
      have hover : ¬ k + 1 ≤ maxRetries := by
        rw [eq_last hk hlast hscript]
        exact Nat.not_succ_le_self _
      rw [csharpSendRaw, if_neg hover]
      simp [Attempt.ending]
  | response status text =>
      rw [hscript] at hproper
      simp only [if_neg (not_retried hk hlast hscript), Attempt.ending, Attempt.response.injEq,
        and_imp]
      by_cases herror : 400 ≤ status
      · have hstatus : ¬ (200 ≤ status ∧ status ≤ 299) := by omega
        simp only [if_pos hstatus, if_pos herror, true_iff]
        rintro status' text' rfl rfl hlt
        exact absurd herror (not_le.mpr hlt)
      · have hstatus : 200 ≤ status ∧ status ≤ 299 :=
          hproper.1.resolve_right fun h => herror h.1
        simp only [not_true_eq_false, hstatus, and_self, if_false, if_neg herror]
        by_cases hblank : status = 204 ∨ isNullOrWhiteSpace text = true
        · simp only [if_pos hblank, Call.mk.injEq, true_and]
          refine ⟨fun h => absurd h decoded_ne_nothing, fun h => ?_⟩
          have hboth := (h status text rfl rfl (not_le.mp herror)).1
          rcases hblank with hempty | hblank
          · exact absurd hempty hboth.1
          · rw [hboth.2] at hblank
            cases hblank
        · simp only [if_neg hblank, Call.mk.injEq, true_and, decoded_inj]
          refine ⟨fun h => ?_, fun h => (h status text rfl rfl (not_le.mp herror)).2⟩
          rintro status' text' rfl rfl -
          rw [not_or, Bool.not_eq_true] at hblank
          exact ⟨hblank, h⟩

end Passes

/-! ### Four clients -/

/-- A response that every client takes the same way: no 204; a success that is not blank and
that every decoder reads as JSON says; and the fetch decoder reads it, unless it is a success on
the last attempt. -/
structure Ordinary (decode : Client → String → Option J) (json : String → Option J)
    (lastAttempt : Prop) (status : ℕ) (text : String) : Prop where
  notEmpty : status ≠ 204
  notBlank : status < 400 → isNullOrWhiteSpace text = false
  agrees : status < 400 → ∀ client, decode client text = json text
  decodes : decode .typescript text = none → status < 400 ∧ lastAttempt

/-- **The clients retry alike**, with one request up to the deciding attempt each and the ending
that attempt calls for, exactly where it is a transport error or an ordinary response. -/
theorem clients_alike_iff (decode : Client → String → Option J) (json : String → Option J)
    (maxRetries : ℕ) {script : ℕ → Attempt} (hscript : ∀ i, (script i).Proper) :
    (∀ client : Client,
      let call := client.post maxRetries script decode
      call.requests = deciding maxRetries script + 1 ∧ call.requests ≤ maxRetries + 1 ∧
        (∀ i, i + 1 < call.requests → (script i).transient = true) ∧
        call.ending = (script (deciding maxRetries script)).ending json) ↔
      ∀ status text, script (deciding maxRetries script) = .response status text →
        Ordinary decode json (deciding maxRetries script = maxRetries) status text := by
  have hle : deciding maxRetries script ≤ maxRetries := deciding_le
  have hlast : deciding maxRetries script = maxRetries ∨
      (script (deciding maxRetries script)).transient = false := deciding_spec
  have hproper := hscript (deciding maxRetries script)
  have hpython : Client.python.post maxRetries script decode =
      pythonRequest (decode .python) maxRetries script _ _ :=
    eq_at_deciding (fun k => pythonRequest (decode .python) maxRetries script k k)
      fun k => pythonRequest_step
  have hgo : Client.go.post maxRetries script decode =
      goPost maxRetries script (some (decode .go)) _ _ :=
    eq_at_deciding (fun k => goPost maxRetries script (some (decode .go)) k k)
      fun k => goPost_step
  have htypescript : Client.typescript.post maxRetries script decode =
      typescriptPost (decode .typescript) maxRetries script _ _ :=
    eq_at_deciding (fun k => typescriptPost (decode .typescript) maxRetries script k k)
      fun k => typescriptPost_step
  have hcsharp : Client.csharp.post maxRetries script decode =
      csharpSendRaw (decode .csharp) maxRetries script _ _ :=
    eq_at_deciding (fun k => csharpSendRaw (decode .csharp) maxRetries script k k)
      fun k => csharpSendRaw_step
  have hclient : ∀ client : Client,
      (let call := client.post maxRetries script decode
      call.requests = deciding maxRetries script + 1 ∧ call.requests ≤ maxRetries + 1 ∧
        (∀ i, i + 1 < call.requests → (script i).transient = true) ∧
        call.ending = (script (deciding maxRetries script)).ending json) ↔
      client.post maxRetries script decode =
        ⟨deciding maxRetries script + 1, (script (deciding maxRetries script)).ending json⟩ := by
    intro client
    dsimp only
    constructor
    · rintro ⟨hrequests, -, -, hending⟩
      rw [← hrequests, ← hending]
    · intro h
      rw [h]
      exact ⟨rfl, Nat.succ_le_succ hle, fun i hi => (transient_of_lt (Nat.lt_of_succ_lt_succ hi)).2,
        rfl⟩
  simp only [hclient]
  constructor
  · intro h status text hresponse
    have hp := h .python
    have hg := h .go
    have ht := h .typescript
    have hc := h .csharp
    rw [hpython, pythonRequest_at_iff hle hlast] at hp
    rw [hgo, goPost_at_iff hle hlast hproper] at hg
    rw [htypescript, typescriptPost_at_iff hle hlast] at ht
    rw [hcsharp, csharpSendRaw_at_iff hle hlast hproper] at hc
    refine
      { notEmpty := ?_
        notBlank := fun hstatus => (hc status text hresponse hstatus).1.2
        agrees := fun hstatus client => ?_
        decodes := (ht status text hresponse).2 }
    · rintro rfl
      exact (hp 204 text hresponse (by decide)).1 rfl
    · cases client with
      | python => exact (hp status text hresponse hstatus).2
      | go => exact hg status text hresponse hstatus
      | typescript => exact (ht status text hresponse).1 hstatus
      | csharp => exact (hc status text hresponse hstatus).2
  · intro h client
    cases client with
    | python =>
        rw [hpython, pythonRequest_at_iff hle hlast]
        intro status text hresponse hstatus
        have hordinary := h status text hresponse
        exact ⟨hordinary.notEmpty, hordinary.agrees hstatus .python⟩
    | go =>
        rw [hgo, goPost_at_iff hle hlast hproper]
        exact fun status text hresponse hstatus => (h status text hresponse).agrees hstatus .go
    | typescript =>
        rw [htypescript, typescriptPost_at_iff hle hlast]
        intro status text hresponse
        have hordinary := h status text hresponse
        exact ⟨fun hstatus => hordinary.agrees hstatus .typescript, hordinary.decodes⟩
    | csharp =>
        rw [hcsharp, csharpSendRaw_at_iff hle hlast hproper]
        intro status text hresponse hstatus
        have hordinary := h status text hresponse
        exact ⟨⟨hordinary.notEmpty, hordinary.notBlank hstatus⟩, hordinary.agrees hstatus .csharp⟩

section Examples

/-- A server that is busy once and then answers. -/
def busyOnce : ℕ → Attempt
  | 0 => .response 503 "busy"
  | 1 => .transportError
  | _ => .response 200 "1"

/-- A service that refuses, in plain words. -/
def plainRefusal : ℕ → Attempt := fun _ => .response 404 "not found"

/-- The only JSON text here is the number one. -/
def jsonOne (text : String) : Option ℕ := if text = "1" then some 1 else none

/-- The decoders read it alike, and Python's takes `NaN` besides. -/
def decodeOne : Client → String → Option ℕ
  | .python => fun text => if text = "NaN" then some 0 else jsonOne text
  | _ => jsonOne

theorem clients_alike_busyOnce :
    (∀ client : Client,
      let call := client.post 2 busyOnce decodeOne
      call.requests = deciding 2 busyOnce + 1 ∧ call.requests ≤ 2 + 1 ∧
        (∀ i, i + 1 < call.requests → (busyOnce i).transient = true) ∧
        call.ending = (busyOnce (deciding 2 busyOnce)).ending jsonOne) ↔
      ∀ status text, busyOnce (deciding 2 busyOnce) = .response status text →
        Ordinary decodeOne jsonOne (deciding 2 busyOnce = 2) status text := by
  refine clients_alike_iff decodeOne jsonOne 2 fun i => ?_
  match i with
  | 0 => exact ⟨by decide, by decide⟩
  | 1 => trivial
  | _ + 2 => exact ⟨by decide, by decide⟩

/-- A refusal whose body is no JSON ends three clients with its status after one request; the
TypeScript client reads the body twice, takes the second reading for a transport error and asks
three times. -/
theorem plain_refusal_retried :
    (∀ i, (plainRefusal i).Proper) ∧
      Client.python.post 2 plainRefusal decodeOne = ⟨1, .serviceError 404⟩ ∧
      Client.go.post 2 plainRefusal decodeOne = ⟨1, .serviceError 404⟩ ∧
      Client.csharp.post 2 plainRefusal decodeOne = ⟨1, .serviceError 404⟩ ∧
      Client.typescript.post 2 plainRefusal decodeOne = ⟨3, .otherError⟩ := by
  refine ⟨fun i => ⟨by decide, by decide⟩, ?_, ?_, ?_, ?_⟩
  · simp [Client.post, pythonRequest, plainRefusal]
  · simp [Client.post, goPost, plainRefusal]
  · simp [Client.post, csharpSendRaw, plainRefusal]
  · simp [Client.post, typescriptPost, plainRefusal, FetchBody.json, FetchBody.readText,
      decodeOne, jsonOne]

end Examples

end Sdk

end AuthzKit
