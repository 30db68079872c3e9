import AuthzKit.Security.KeyCalls

/-!
The life cycle of signing keys under `active_signing_key`, `generate_if_missing`, `rotate` and
`prune_retiring`, in every interleaving of their statements.

* `neverReused_iff`: no revoked key is published or given out to sign with exactly when no
  instance holds one.
* `noneHeld_step`: no instance comes to hold a revoked key while no prune revokes one that is
  held.
* `key_lifecycle`: in every run at most one key is active, there is always one once there was
  one, and a key only ever retires and is then revoked; it is never used again exactly in the
  runs that revoke no key an instance still holds.
-/

namespace AuthzKit

open Interleaving

section Runs

variable {ι : Type*} [DecidableEq ι] {rsa : Rsa} {hosts : ι → KeyHost}
  {c c' : Config (KeyBase ι) (ι × KeyCall)} {e : Event (ι × KeyCall) KeyInput}

lemma act_spec {base : KeyBase ι} {process : ι × KeyCall} (input : KeyInput)
    (hkeys : KeysSound base.keys) (h : process.2.Sound base.keys) :
    Evolves base.keys (KeyCall.act rsa hosts base process input).1.keys ∧
      (KeyCall.act rsa hosts base process input).2.2.Sound
        (KeyCall.act rsa hosts base process input).1.keys := by
  rw [KeyCall.act]
  split
  · exact ⟨Evolves.refl hkeys, trivial⟩
  · exact KeyCall.statement_spec (base.service process.1) hkeys h

/-- The constraints hold in every committed state, and every call is sound. -/
theorem keyCalls_sound (h : (keyCalls rsa hosts).machine.Reachable c) :
    KeysSound c.shared.keys ∧ ∀ process ∈ c.processes, process.2.Sound c.shared.keys := by
  refine rely_guarantee (J := fun base : KeyBase ι => KeysSound base.keys)
    (P := fun base process => process.2.Sound base.keys) ?_ ?_ ?_ h
  · exact fun base hinitial => hinitial.1
  · rintro base ⟨i, call⟩ harrives
    cases call <;> first | exact trivial | exact absurd harrives id
  · intro base process input hkeys hsound _
    obtain ⟨hevolves, hsound'⟩ := act_spec input hkeys hsound
    exact ⟨hevolves.sound, hsound', fun other hother => hother.evolves hevolves⟩

/-- One step of a run. -/
lemma step_evolves (h : (keyCalls rsa hosts).machine.Reachable c)
    (hstep : (keyCalls rsa hosts).machine.step c e c') : Evolves c.shared.keys c'.shared.keys := by
  obtain ⟨hkeys, hsound⟩ := keyCalls_sound h
  cases e with
  | arrive call =>
      obtain ⟨-, rfl⟩ := hstep
      exact Evolves.refl hkeys
  | act i input =>
      obtain ⟨process, hget, -, rfl⟩ := hstep
      exact (act_spec input hkeys (hsound process (List.mem_of_getElem? hget))).1

/-! ### Keys that are held -/

variable (rsa hosts)

/-- No instance holds a revoked key. -/
def NoneHeld (base : KeyBase ι) : Prop :=
  ∀ i kid, (hosts i).Holds rsa (base.caches i) kid → ¬Revoked base.keys kid

/-- A revoked key is in no JWKS, and no call returns it: neither one that is under way nor
one that begins. -/
structure NeverReused (c : Config (KeyBase ι) (ι × KeyCall)) : Prop where
  published : ∀ i jwks, (hosts i).allPublicJwks rsa (c.shared.service i) = some jwks →
    ∀ jwk ∈ jwks, ∀ kid, jwk.kid = some kid → ¬Revoked c.shared.keys kid
  returned : ∀ process input base i key, (process ∈ c.processes ∨ process.2.Arrives) →
    KeyCall.act rsa hosts c.shared process input = (base, i, .returned key) →
      ¬Revoked base.keys key.kid

/-- The condition on a step: a prune that commits revokes no key that an instance holds. -/
def RevokesUnheld (c : Config (KeyBase ι) (ι × KeyCall)) : Event (ι × KeyCall) KeyInput → Prop
  | .arrive _ => True
  | .act p input => ∀ i writes, c.processes[p]? = some (i, .commitRevoked writes) →
      input.fails = false → ∀ kid, .revoke kid ∈ writes →
        ∀ j, ¬(hosts j).Holds rsa (c.shared.caches j) kid

variable {rsa hosts}

/-- What a step caches or returns: a key the instance held before, or one that is active. -/
lemma act_active {base base' : KeyBase ι} {process : ι × KeyCall} {input : KeyInput} {i : ι}
    {call : KeyCall} {key : OAuthSigningKey} (hsound : process.2.Sound base.keys)
    (hact : KeyCall.act rsa hosts base process input = (base', i, call))
    (hkey : base'.caches process.1 = some key ∨ call = .returned key) :
    (hosts process.1).Holds rsa (base.caches process.1) key.kid ∨
      key ∈ base'.keys ∧ key.status = statusActive := by
  rw [KeyCall.act] at hact
  split at hact
  · obtain ⟨rfl, -, rfl⟩ := hact
    exact Or.inl (hkey.elim (fun h => Or.inl ⟨key, h, rfl⟩) (by rintro ⟨⟩))
  · obtain ⟨rfl, -, rfl⟩ := hact
    refine KeyCall.statement_holds (base.service process.1) input hsound
      (hkey.imp_left fun h => ?_)
    exact (Function.update_self process.1 _ base.caches).symm.trans h

/-- Only a prune that commits revokes. -/
lemma act_revoked {base base' : KeyBase ι} {process process' : ι × KeyCall} {input : KeyInput}
    {kid : String} (hsound : process.2.Sound base.keys)
    (hact : KeyCall.act rsa hosts base process input = (base', process'))
    (hrevoked : Revoked base'.keys kid) :
    Revoked base.keys kid ∨ input.fails = false ∧ process'.2 = .done ∧
      ∃ writes, process.2 = .commitRevoked writes ∧ KeyWrite.revoke kid ∈ writes := by
  rw [KeyCall.act] at hact
  split at hact
  · obtain ⟨rfl, -⟩ := Prod.mk.inj hact
    exact Or.inl hrevoked
  · rename_i hfails
    obtain ⟨rfl, rfl⟩ := Prod.mk.inj hact
    refine (KeyCall.statement_revoked (base.service process.1) hsound hrevoked).imp id ?_
    rintro ⟨writes, hcall, hmem⟩
    refine ⟨by simpa using hfails, ?_, writes, hcall, hmem⟩
    simp only [hcall, KeyCall.statement]
    split <;> rfl

/-- **Where a revoked key is used again**: exactly where an instance holds one. -/
lemma neverReused_iff (h : (keyCalls rsa hosts).machine.Reachable c) :
    NeverReused rsa hosts c ↔ NoneHeld rsa hosts c.shared := by
  obtain ⟨hkeys, hsound⟩ := keyCalls_sound h
  constructor
  · rintro hnever i kid (⟨key, hcached, rfl⟩ | ⟨henv, hload, rfl⟩)
    · have hact : KeyCall.act rsa hosts c.shared (i, .activeSigningKey) ⟨0, "", false⟩ =
          (c.shared.after i ⟨c.shared.keys, some key⟩, i, .returned key) := by
        simp [KeyCall.act, KeyCall.statement, KeyHost.lookup, KeyBase.service, hcached]
      have hreturned := hnever.returned (i, .activeSigningKey) _ _ _ _ (Or.inr trivial) hact
      exact hreturned
    · have hjwks : (hosts i).allPublicJwks rsa (c.shared.service i) =
          some ((hosts i).toKeyInstance.allPublicJwks rsa (c.shared.service i)) :=
        if_neg fun hnot => hnot.2 hload
      refine hnever.published i _ hjwks (rsa.jwk (hosts i).envPem) ?_ _ rfl
      rw [KeyInstance.allPublicJwks, if_pos henv]
      exact List.mem_cons_self
  · intro hnone
    refine ⟨fun i jwks hjwks jwk hjwk kid hkid => ?_, ?_⟩
    · rcases KeyHost.mem_allPublicJwks hjwks hjwk with
        ⟨henv, hload, rfl⟩ | ⟨row, hrow, hpublished, rfl⟩
      · exact hnone i kid (Or.inr ⟨henv, hload, Option.some.inj hkid⟩)
      · obtain rfl := Option.some.inj ((hkeys.named row hrow).symm.trans hkid)
        exact hkeys.not_revoked hrow hpublished
    · intro process input base i key hprocess hact hrevoked
      have hcall : process.2.Sound c.shared.keys := by
        rcases hprocess with hmem | harrives
        · exact hsound process hmem
        · obtain ⟨j, call⟩ := process
          cases call <;> first | exact trivial | exact absurd harrives id
      have hkeys' : KeysSound base.keys := by
        have hevolves : Evolves c.shared.keys (KeyCall.act rsa hosts c.shared process input).1.keys :=
          (act_spec input hkeys hcall).1
        rw [hact] at hevolves
        exact hevolves.sound
      rcases act_active hcall hact (Or.inr rfl) with hholds | ⟨hmem, hactive⟩
      · rcases act_revoked hcall hact hrevoked with hold | ⟨-, hover, -⟩
        · exact hnone _ _ hholds hold
        · cases hover
      · exact hkeys'.not_revoked hmem (Or.inl hactive) hrevoked

/-- A step of an instance leaves the caches of the others. -/
lemma act_caches {base base' : KeyBase ι} {process process' : ι × KeyCall} {input : KeyInput}
    (hact : KeyCall.act rsa hosts base process input = (base', process')) {j : ι}
    (hj : j ≠ process.1) : base'.caches j = base.caches j := by
  rw [KeyCall.act] at hact
  split at hact
  · rw [← (Prod.mk.inj hact).1]
  · rw [← (Prod.mk.inj hact).1]
    exact Function.update_of_ne hj _ _

/-- A step under the condition leaves no instance with a revoked key. -/
lemma noneHeld_step (h : (keyCalls rsa hosts).machine.Reachable c)
    (hstep : (keyCalls rsa hosts).machine.step c e c') (hunheld : RevokesUnheld rsa hosts c e)
    (hnone : NoneHeld rsa hosts c.shared) : NoneHeld rsa hosts c'.shared := by
  have hkeys' : KeysSound c'.shared.keys := (step_evolves h hstep).sound
  cases e with
  | arrive process =>
      obtain ⟨-, rfl⟩ := hstep
      exact hnone
  | act p input =>
      obtain ⟨⟨i, call⟩, hget, -, rfl⟩ := hstep
      have hsound := (keyCalls_sound h).2 _ (List.mem_of_getElem? hget)
      intro j kid hholds hrevoked
      have hbefore : (hosts j).Holds rsa (c.shared.caches j) kid := by
        by_cases hj : j = i
        · subst hj
          rcases hholds with ⟨key, hcached, rfl⟩ | henv
          · rcases act_active hsound rfl (Or.inl hcached) with hheld | ⟨hmem, hactive⟩
            · exact hheld
            · exact absurd hrevoked (hkeys'.not_revoked hmem (Or.inl hactive))
          · exact Or.inr henv
        · have hcaches : ((keyCalls rsa hosts).after c p (i, call) input).shared.caches j =
              c.shared.caches j := act_caches rfl hj
          rwa [hcaches] at hholds
      rcases act_revoked hsound rfl hrevoked with hold | ⟨hfails, -, writes, rfl, hmem⟩
      · exact hnone j kid hbefore hold
      · exact hunheld i writes hget hfails kid hmem j hbefore

/-- A step that leaves no instance with a revoked key meets the condition. -/
lemma revokesUnheld_of_noneHeld (h : (keyCalls rsa hosts).machine.Reachable c)
    (hstep : (keyCalls rsa hosts).machine.step c e c') (hnone : NoneHeld rsa hosts c'.shared) :
    RevokesUnheld rsa hosts c e := by
  cases e with
  | arrive process => trivial
  | act p input =>
      intro i writes hget hfails kid hmem j hholds
      obtain ⟨hkeys, hsounds⟩ := keyCalls_sound h
      obtain ⟨process, hget', -, rfl⟩ := hstep
      obtain rfl := Option.some.inj (hget.symm.trans hget')
      obtain ⟨kids, rfl, hpast⟩ : Prunes c.shared.keys writes :=
        hsounds _ (List.mem_of_getElem? hget)
      obtain ⟨kid, hkid, hwrite⟩ := List.mem_map.mp hmem
      obtain rfl := KeyWrite.revoke.inj hwrite
      have hafter : ((keyCalls rsa hosts).after c p (i, .commitRevoked (kids.map .revoke))
          input).shared = ⟨withWrites c.shared.keys (kids.map .revoke), c.shared.caches⟩ := by
        have hcommits := constraints_revoked hkeys.toKeyConstraints kids
        simp [after, keyCalls, KeyCall.act, hfails, KeyCall.statement, KeyBase.service, hcommits,
          KeyBase.after]
      rw [hafter] at hnone
      refine hnone j kid hholds ?_
      obtain ⟨k, hk, rfl, -⟩ := hpast kid hkid
      rw [withWrites_revoke]
      exact ⟨_, List.mem_map_of_mem hk, by rw [if_pos hkid], by rw [if_pos hkid]⟩

/-- **The life cycle of signing keys.** In every run at most one key is active; once a key is
active there is exactly one active key in every later state; and a commit moves the status of a
key from active to retiring, from retiring to revoked, or not at all. A revoked key is in no
JWKS and returned by no call, in all states of a run, exactly when no environment holds one at
first and no prune revokes a key that an instance holds in its cache or in its environment. -/
theorem key_lifecycle (rsa : Rsa) (hosts : ι → KeyHost)
    {states : ℕ → Config (KeyBase ι) (ι × KeyCall)} {n : ℕ}
    (h : (keyCalls rsa hosts).machine.Trace states n) :
    (∀ j ≤ n, ∀ a ∈ (states j).shared.keys, ∀ b ∈ (states j).shared.keys,
        a.status = statusActive → b.status = statusActive → a = b) ∧
      (∀ i j, i ≤ j → j ≤ n → HasActive (states i).shared.keys →
        ∃! k, k ∈ (states j).shared.keys ∧ k.status = statusActive) ∧
      (∀ j < n, ∀ k ∈ (states j).shared.keys, ∃ k' ∈ (states (j + 1)).shared.keys,
        k'.kid = k.kid ∧ StatusStep k.status k'.status) ∧
      ((∀ j ≤ n, NeverReused rsa hosts (states j)) ↔
        NoneHeld rsa hosts (states 0).shared ∧
          ∀ j < n, ∀ e, (keyCalls rsa hosts).machine.step (states j) e (states (j + 1)) →
            RevokesUnheld rsa hosts (states j) e) := by
  have hkeys : ∀ j ≤ n, KeysSound (states j).shared.keys := fun j hj =>
    (keyCalls_sound (h.reachable hj)).1
  have hstep : ∀ j < n, Evolves (states j).shared.keys (states (j + 1)).shared.keys := by
    intro j hj
    obtain ⟨e, he⟩ := h.step j hj
    exact step_evolves (h.reachable hj.le) he
  have hactive : ∀ i j, i ≤ j → j ≤ n → HasActive (states i).shared.keys →
      HasActive (states j).shared.keys := by
    intro i j hij hj hstart
    refine h.from_moment (P := fun _ c => HasActive c.shared.keys) hstart ?_ hij hj
    exact fun k _ _ hk hlater _ => (hstep k hk).active hlater
  refine ⟨fun j hj a ha b hb => (hkeys j hj).active_unique ha hb, fun i j hij hj hstart => ?_,
    fun j hj => (hstep j hj).rows, ?_, ?_⟩
  · obtain ⟨k, hk, hstatus⟩ := hactive i j hij hj hstart
    exact ⟨k, ⟨hk, hstatus⟩, fun k' hk' =>
      (hkeys j hj).active_unique hk'.1 hk hk'.2 hstatus⟩
  · intro hnever
    have hnone : ∀ j ≤ n, NoneHeld rsa hosts (states j).shared := fun j hj =>
      (neverReused_iff (h.reachable hj)).mp (hnever j hj)
    exact ⟨hnone 0 (Nat.zero_le n), fun j hj e he =>
      revokesUnheld_of_noneHeld (h.reachable hj.le) he (hnone (j + 1) hj)⟩
  · rintro ⟨hstart, hunheld⟩ j hj
    refine (neverReused_iff (h.reachable hj)).mpr ?_
    refine h.from_moment (P := fun _ c => NoneHeld rsa hosts c.shared) hstart ?_ (Nat.zero_le j) hj
    exact fun k e _ hk hnone he => noneHeld_step (h.reachable hk.le) he (hunheld k hk e he) hnone

end Runs

/-- Two instances without an environment key: a worker and the command line. -/
def keyHosts : Bool → KeyHost := fun _ => ⟨⟨"", false, "postgresql://db"⟩, .unreadable⟩

/-- A rotation reads the active key; another one goes through, and the key it retired is
revoked. Then the first one moves that key back to retiring, and its insertion fails. -/
def staleRotation : List (Event (Bool × KeyCall) KeyInput) :=
  [.arrive (true, .rotate), .act 0 ⟨0, "", false⟩, .arrive (false, .rotate),
    .act 1 ⟨0, "", false⟩, .act 1 ⟨0, "", false⟩, .act 1 ⟨0, "second", false⟩,
    .act 1 ⟨0, "", false⟩, .arrive (false, .pruneRetiring 1), .act 2 ⟨2000000, "", false⟩,
    .act 2 ⟨2000000, "", false⟩, .act 2 ⟨2000000, "", false⟩, .act 2 ⟨2000000, "", false⟩,
    .act 0 ⟨3000000, "", false⟩, .act 0 ⟨3000000, "third", false⟩]

/-- One active key, nothing cached and no call yet. -/
def oneActive : Config (KeyBase Bool) (Bool × KeyCall) :=
  ⟨⟨[SigningKeyService.newKey ⟨id, id⟩ 0 "first"], fun _ => none⟩, []⟩

/-- It is a state before every call. -/
lemma oneActive_initial : (keyCalls ⟨id, id⟩ keyHosts).machine.initial oneActive :=
  ⟨⟨⟨⟨by decide, by decide⟩, by decide⟩, fun _ => rfl⟩, rfl⟩

theorem key_lifecycle_staleRotation :
    let c := (keyCalls ⟨id, id⟩ keyHosts).run oneActive staleRotation
    (c.shared.keys.map fun k => (k.kid, k.status)) =
        [("first", statusRevoked), ("second", statusActive)] ∧
      ∃! k, k ∈ c.shared.keys ∧ k.status = statusActive := by
  refine ⟨by decide +kernel, ?_⟩
  have hruns : (keyCalls ⟨id, id⟩ keyHosts).Runs oneActive staleRotation := by decide +kernel
  have hlife := (key_lifecycle ⟨id, id⟩ keyHosts (trace_run oneActive_initial hruns)).2.1
    0 staleRotation.length (Nat.zero_le _) le_rfl ⟨_, List.mem_singleton_self _, rfl⟩
  rwa [List.take_length] at hlife

/-- The worker takes the key it signs with from the database; the command line rotates and,
after the grace period, prunes. -/
def staleKey : List (Event (Bool × KeyCall) KeyInput) :=
  [.arrive (true, .generateIfMissing), .act 0 ⟨0, "", false⟩, .arrive (false, .rotate),
    .act 1 ⟨0, "", false⟩, .act 1 ⟨0, "", false⟩, .act 1 ⟨0, "second", false⟩,
    .act 1 ⟨0, "", false⟩, .arrive (false, .pruneRetiring 1), .act 2 ⟨2000000, "", false⟩,
    .act 2 ⟨2000000, "", false⟩, .act 2 ⟨2000000, "", false⟩, .act 2 ⟨2000000, "", false⟩]

/-- The worker still gives the revoked key out to sign with. -/
theorem revoked_key_reused : ¬∀ c, (keyCalls ⟨id, id⟩ keyHosts).machine.Reachable c →
    NeverReused ⟨id, id⟩ keyHosts c := by
  intro h
  have hruns : (keyCalls ⟨id, id⟩ keyHosts).Runs oneActive staleKey := by decide +kernel
  have hreach := (trace_run oneActive_initial hruns).reachable (le_refl staleKey.length)
  rw [List.take_length] at hreach
  have hnever := (h _ hreach).returned (true, .generateIfMissing) ⟨3000000, "", false⟩ _ _ _
    (Or.inr trivial) rfl
  refine hnever ⟨_, List.mem_cons_self, ?_, ?_⟩
  · decide +kernel
  · decide +kernel

end AuthzKit
