import AuthzKit.Caching.History

/-!
Clients that keep answers under keys, whatever they evict and when.

* `CachedClient`: how a client answers a call from its entries and what an invalidation removes;
  `Lawful`: the entries are answers, and an invalidation goes by the keys.
* `Live`, `Off`: a client that remembers a first answer, and one that remembers none.
* `transparent_iff`: a live client answers as its server exactly where the keys separate the
  requests; `exact_iff`: it also invalidates exactly where the keys tell what is meant.
-/

namespace AuthzKit

namespace Caching

/-- A client with requests `ρ`, keys `κ`, entries `ν`, answers `α`, requests to the server `ω`,
circumstances of a call `τ` and invalidations `ι`. -/
structure CachedClient (ρ κ ν α ω τ ι : Type*) where
  key : ρ → κ
  wire : ρ → ω
  value : ν → α
  call : (ω → α) → ρ → τ → List (κ × ν) → α × List (κ × ν)
  invalidate : ι → List (κ × ν) → List (κ × ν)
  removes : ι → κ → Prop

namespace CachedClient

variable {ρ κ ν α ω τ ι : Type*}

/-- What a client is asked to do. -/
inductive Event (ρ τ ι : Type*) where
  | call (r : ρ) (t : τ)
  | invalidate (x : ι)

variable (C : CachedClient ρ κ ν α ω τ ι)

/-- A call answers an entry of its key or asks the server, and leaves no entries but old ones and
the answer of the server; an invalidation removes by the key. -/
structure Lawful : Prop where
  call_cases : ∀ serve r t c,
    ((∃ v, (C.key r, v) ∈ c ∧ (C.call serve r t c).1 = C.value v) ∨
      (C.call serve r t c).1 = serve (C.wire r)) ∧
    ∀ e ∈ (C.call serve r t c).2, e ∈ c ∨ e.1 = C.key r ∧ C.value e.2 = serve (C.wire r)
  mem_invalidate : ∀ x c e, e ∈ C.invalidate x c ↔ e ∈ c ∧ ¬ C.removes x e.1

/-- Under some circumstances a first answer is remembered and given again. -/
structure Live (t : τ) : Prop where
  remembers : ∀ serve r, ∃ v, C.value v = serve (C.wire r) ∧
    (C.call serve r t []).2 = [(C.key r, v)] ∧
    ∀ r', C.key r' = C.key r → (C.call serve r' t [(C.key r, v)]).1 = C.value v

/-- No answer is ever remembered. -/
structure Off : Prop where
  forgets : ∀ serve r t, C.call serve r t [] = (serve (C.wire r), [])

/-! ### Histories -/

def act (serve : ω → α) (c : List (κ × ν)) : Event ρ τ ι → List (κ × ν)
  | .call r t => (C.call serve r t c).2
  | .invalidate x => C.invalidate x c

/-- The entries of a new client after the first events. -/
def states (serve : ω → α) (events : ℕ → Event ρ τ ι) : ℕ → List (κ × ν) :=
  timeline (C.act serve) [] events

variable (Q : Set ρ) (X : Set ι)

/-- Every event is a call or an invalidation of the given ones. -/
def Within (events : ℕ → Event ρ τ ι) : Prop :=
  (∀ i r t, events i = .call r t → r ∈ Q) ∧ ∀ i x, events i = .invalidate x → x ∈ X

/-- Every call is answered as by the server. -/
def Transparent : Prop :=
  ∀ (serve : ω → α) (events : ℕ → Event ρ τ ι), Within Q X events →
    ∀ i r t, events i = .call r t →
      (C.call serve r t (C.states serve events i)).1 = serve (C.wire r)

/-- Every invalidation removes the entries of the requests it is meant for, those asked before whose
key the entry has, and keeps the others. -/
def Exact (meant : ι → ρ → Prop) : Prop :=
  ∀ (serve : ω → α) (events : ℕ → Event ρ τ ι), Within Q X events →
    ∀ i x, events i = .invalidate x →
      (∀ e ∈ C.states serve events (i + 1), e ∈ C.states serve events i) ∧
        ∀ e ∈ C.states serve events i, ∀ j < i, ∀ r t, events j = .call r t → C.key r = e.1 →
          (e ∈ C.states serve events (i + 1) ↔ ¬ meant x r)

variable {C Q X}

/-- The entries are answers to the requests of the history. -/
lemma states_answers (h : C.Lawful) {serve : ω → α} {events : ℕ → Event ρ τ ι}
    (hwithin : Within Q X events) (i : ℕ) :
    Answers C.key C.wire serve C.value Q (C.states serve events i) := by
  refine timeline_invariant (P := Answers C.key C.wire serve C.value Q) Answers.nil
    (fun j c hc => ?_) i
  cases hevent : events j with
  | call r t => exact hc.next (hwithin.1 j r t hevent) (h.call_cases serve r t c).2
  | invalidate x => exact hc.subset fun e he => ((h.mem_invalidate x c e).mp he).1

/-- Keys that separate the requests make the cache transparent. -/
theorem Lawful.transparent (h : C.Lawful) (hseparates : Separates C.key C.wire Q) :
    C.Transparent Q X := by
  intro serve events hwithin i r t hevent
  rcases (h.call_cases serve r t (C.states serve events i)).1 with ⟨v, hv, hanswer⟩ | hserved
  · rw [hanswer]
    exact (states_answers h hwithin i).eq_answer hseparates (hwithin.1 i r t hevent) hv
  · exact hserved

/-- A client that remembers nothing is transparent. -/
lemma Off.states_eq_nil (h : C.Off) (hlawful : C.Lawful) {serve : ω → α}
    {events : ℕ → Event ρ τ ι} (i : ℕ) : C.states serve events i = [] := by
  refine timeline_invariant (P := fun c : List (κ × ν) => c = []) rfl (fun j c hc => ?_) i
  subst hc
  cases events j with
  | call r t => exact congrArg Prod.snd (h.forgets serve r t)
  | invalidate x =>
      refine List.eq_nil_iff_forall_not_mem.mpr fun e he => ?_
      exact absurd ((hlawful.mem_invalidate x [] e).mp he).1 List.not_mem_nil

theorem Off.transparent (h : C.Off) (hlawful : C.Lawful) : C.Transparent Q X := by
  intro serve events _ i r t _
  rw [h.states_eq_nil hlawful, h.forgets]

theorem Off.exact (h : C.Off) (hlawful : C.Lawful) (meant : ι → ρ → Prop) :
    C.Exact Q X meant := by
  intro serve events _ i x _
  rw [h.states_eq_nil hlawful, h.states_eq_nil hlawful]
  exact ⟨fun e he => he, fun e he => absurd he List.not_mem_nil⟩

/-- **Transparency is separation**: a live client answers as its server exactly where requests with
one key are one request for the server. -/
theorem transparent_iff [Nontrivial α] [DecidableEq ω] (h : C.Lawful) {t : τ} (hlive : C.Live t) :
    C.Transparent Q X ↔ Separates C.key C.wire Q := by
  refine ⟨fun htransparent => ?_, h.transparent⟩
  by_contra hcollide
  simp only [Separates, not_forall] at hcollide
  obtain ⟨r, hr, r', hr', hkey, hne⟩ := hcollide
  -- a server that knows the two apart, asked for the one and then for the other
  obtain ⟨a, b, hab⟩ := exists_pair_ne α
  let serve : ω → α := fun w => if w = C.wire r then a else b
  let events : ℕ → Event ρ τ ι := fun i => if i = 0 then .call r t else .call r' t
  have hwithin : Within Q X events := by
    refine ⟨fun i r'' t' hevent => ?_, fun i x hevent => ?_⟩
    · simp only [events] at hevent
      split_ifs at hevent
      · exact (Event.call.inj hevent).1 ▸ hr
      · exact (Event.call.inj hevent).1 ▸ hr'
    · simp only [events] at hevent
      split_ifs at hevent
  obtain ⟨v, hvalue, hfirst, hsecond⟩ := hlive.remembers serve r
  have hstate : C.states serve events 1 = [(C.key r, v)] := hfirst
  have hanswer := htransparent serve events hwithin 1 r' t rfl
  rw [hstate, hsecond r' hkey.symm, hvalue] at hanswer
  simp only [serve, if_true, if_neg (Ne.symm hne)] at hanswer
  exact hab hanswer

/-- **Exactness is in the keys**: a live client invalidates exactly where its keys tell which
requests an invalidation is meant for. -/
theorem exact_iff [Nonempty α] (h : C.Lawful) {t : τ} (hlive : C.Live t)
    {meant : ι → ρ → Prop} :
    C.Exact Q X meant ↔ ∀ r ∈ Q, ∀ x ∈ X, C.removes x (C.key r) ↔ meant x r := by
  constructor
  · intro hexact r hr x hx
    obtain ⟨a⟩ := ‹Nonempty α›
    let serve : ω → α := fun _ => a
    let events : ℕ → Event ρ τ ι := fun i => if i = 0 then .call r t else .invalidate x
    have hwithin : Within Q X events := by
      refine ⟨fun i r'' t' hevent => ?_, fun i x' hevent => ?_⟩
      · simp only [events] at hevent
        split_ifs at hevent
        exact (Event.call.inj hevent).1 ▸ hr
      · simp only [events] at hevent
        split_ifs at hevent
        exact (Event.invalidate.inj hevent) ▸ hx
    obtain ⟨v, -, hfirst, -⟩ := hlive.remembers serve r
    have hstate : C.states serve events 1 = [(C.key r, v)] := hfirst
    have hmem : (C.key r, v) ∈ C.states serve events 1 := hstate ▸ List.mem_singleton.mpr rfl
    have hkept := (hexact serve events hwithin 1 x rfl).2 _ hmem 0 Nat.zero_lt_one r t rfl rfl
    have hnext : C.states serve events 2 = C.invalidate x (C.states serve events 1) := rfl
    rw [hnext, h.mem_invalidate, and_iff_right hmem] at hkept
    exact not_iff_not.mp hkept
  · intro hkeys serve events hwithin i x hevent
    have hnext : C.states serve events (i + 1) = C.invalidate x (C.states serve events i) := by
      rw [states, timeline_succ, hevent]
      rfl
    rw [hnext]
    refine ⟨fun e he => ((h.mem_invalidate x _ e).mp he).1, fun e he j _ r t' hcall hkey => ?_⟩
    rw [h.mem_invalidate, and_iff_right he, ← hkey,
      hkeys r (hwithin.1 j r t' hcall) x (hwithin.2 i x hevent)]

end CachedClient

end Caching

end AuthzKit
