import Ardents.Go.Run
import Ardents.Rpc.Idempotency

/-!
# A request with a key is dispatched at most once

A repetition that arrives while the first request is still being dispatched is dispatched too.
Where no execution looks the key up while another is between its lookup and the storing of its
response, the executions go through four stages: none has begun, one has missed the key, it has a
response, the response is stored. From then on everyone gets it, since within ten minutes no entry
expires and with fewer than 1024 other keys none is dropped.
-/

namespace Ardents.Rpc

open Go
open Crypto (Time)

/-! ## One key among others -/

variable {ρ : Type}

def InWindow (t₀ t : Time) : Prop := t₀ ≤ t ∧ t ≤ t₀ + rpcIdempotencyTTL

instance (t₀ t : Time) : Decidable (InWindow t₀ t) := inferInstanceAs (Decidable (_ ∧ _))

/-- Two executions have the rest of the request in common, but for its id. -/
structure Alike (e e' : Execution ρ) : Prop where
  jsonrpc : e.jsonrpc = e'.jsonrpc
  apiVersion : e.apiVersion = e'.apiVersion
  loopback : e.loopback = e'.loopback

/-- What other requests do happens in these ten minutes and to these keys. -/
def Event.Within (t₀ : Time) (others : Finset String) : Event ρ → Prop
  | .advance _ => True
  | .otherGet now => InWindow t₀ now
  | .otherSet cacheKey _ _ now _ => InWindow t₀ now ∧ cacheKey ∈ others

/-- An execution has looked the key up and has not stored its response. -/
def Phase.InFlight : Phase ρ → Prop
  | .missed => True
  | .ready _ => True
  | _ => False

/-- A key is looked up when no other execution is in flight, unless the request will not be
dispatched anyway. -/
def LooksUpAlone (S : Server) (q : Request) (execution : Nat → Execution ρ) (w : World ρ) :
    Event ρ → Prop
  | .advance i => w.phase i = .arrived →
      refusal q (execution i) ≠ none ∨ S.refuses q.method = true ∨ ∀ j, ¬ (w.phase j).InFlight
  | _ => True

def KeysIn (q : Request) (others : Finset String) (cache : RpcIdempotencyCache ρ) : Prop :=
  ∀ k, k ∈ cache → k = q.cacheKey ∨ k ∈ others

section

variable {S : Server} {q : Request} {execution : Nat → Execution ρ} {t₀ now : Time}
  {others : Finset String} {cache : RpcIdempotencyCache ρ} {w : World ρ}

theorem refusal_alike {e e' : Execution ρ} (h : Alike e e') : refusal q e = refusal q e' := by
  unfold refusal
  rw [h.jsonrpc, h.apiVersion, h.loopback]

theorem cacheKey_ne (h : trimSpace q.idempotencyKey ≠ "") : q.cacheKey ≠ "" := by
  simp_all [Request.cacheKey, rpcIdempotencyKey]

namespace RpcIdempotencyCache

theorem prune_none {k : String} (h : cache[k]? = none) : (prune cache now)[k]? = none := by
  cases hget : (prune cache now)[k]? with
  | none => rfl
  | some entry =>
    rw [get_of_filter hget] at h
    cases h

theorem prune_some {k : String} {entry : RpcIdempotencyEntry ρ} (h : cache[k]? = some entry)
    (hentry : InWindow t₀ entry.createdAt) (hnow : InWindow t₀ now) :
    (prune cache now)[k]? = some entry := by
  grind [InWindow, prune]

theorem keysIn_prune (h : KeysIn q others cache) (now : Time) :
    KeysIn q others (prune cache now) := by
  intro k hk
  obtain ⟨entry, hget⟩ := mem_iff_get.mp hk
  exact h k (mem_iff_get.mpr ⟨entry, get_of_filter hget⟩)

theorem keysIn_insert (h : KeysIn q others cache) {k : String}
    (hk : k = q.cacheKey ∨ k ∈ others) (entry : RpcIdempotencyEntry ρ) :
    KeysIn q others (cache.insert k entry) := by
  intro k' hk'
  obtain ⟨entry', hget⟩ := mem_iff_get.mp hk'
  rw [get_insert] at hget
  split at hget
  · rename_i heq
    exact heq ▸ hk
  · exact h k' (mem_iff_get.mpr ⟨entry', hget⟩)

theorem set_eq (h : KeysIn q others cache) (hothers : others.card < rpcIdempotencyMaxEntries)
    {k : String} (hk : k = q.cacheKey ∨ k ∈ others) (requestHash : String)
    (resp : RpcResponse ρ) (now : Time) (r : RangeOrder String (RpcIdempotencyEntry ρ)) :
    set cache k requestHash resp now r = (prune cache now).insert k ⟨requestHash, resp, now⟩ := by
  have hkeys := keysIn_insert (keysIn_prune h now) hk ⟨requestHash, resp, now⟩
  have hsize : ((prune cache now).insert k ⟨requestHash, resp, now⟩).size ≤
      rpcIdempotencyMaxEntries := by
    have hcard : ((prune cache now).insert k ⟨requestHash, resp, now⟩).size ≤
        (insert q.cacheKey others).card := by
      refine size_le_card Function.injective_id fun a ha => ?_
      rcases hkeys a ha with heq | hmem
      · exact Finset.mem_insert.mpr (.inl heq)
      · exact Finset.mem_insert.mpr (.inr hmem)
    have hinsert := Finset.card_insert_le q.cacheKey others
    omega
  exact if_pos hsize

end RpcIdempotencyCache

/-! ## What a step does -/

theorem lookUp_of_refusal {err : RpcError} {i : Nat} (h : refusal q (execution i) = some err) :
    lookUp S q execution w i = w.setPhase i (.answered ⟨(execution i).id, none, some err⟩) := by
  unfold lookUp
  dsimp only
  rw [h]

theorem lookUp_of_none (hkey : q.cacheKey ≠ "") {i : Nat}
    (hrefusal : refusal q (execution i) = none) (h : w.cache[q.cacheKey]? = none) :
    lookUp S q execution w i =
      { w with cache := RpcIdempotencyCache.prune w.cache (execution i).lookedUpAt
        }.setPhase i .missed := by
  grind [RpcIdempotencyCache.get, RpcIdempotencyCache.prune_none, lookUp]

theorem lookUp_of_some (hkey : q.cacheKey ≠ "") {i : Nat}
    (hrefusal : refusal q (execution i) = none) {entry : RpcIdempotencyEntry ρ}
    (h : w.cache[q.cacheKey]? = some entry) (hentry : InWindow t₀ entry.createdAt)
    (hnow : InWindow t₀ (execution i).lookedUpAt)
    (hhash : entry.requestHash = S.rpcRequestHash q.method q.params (execution i).apiVersion) :
    lookUp S q execution w i =
      { w with cache := RpcIdempotencyCache.prune w.cache (execution i).lookedUpAt
        }.setPhase i (.answered { entry.response with id := (execution i).id }) := by
  grind [RpcIdempotencyCache.get, RpcIdempotencyCache.prune_some, lookUp]

/-- Everything that is assumed of the executions: they are alike, what their clocks show lies in
these ten minutes, the key is not blank and few other keys are in use. -/
structure Setting (q : Request) (execution : Nat → Execution ρ) (t₀ : Time)
    (others : Finset String) : Prop where
  key : trimSpace q.idempotencyKey ≠ ""
  other : q.cacheKey ∉ others
  few : others.card < rpcIdempotencyMaxEntries
  lookedUpAt : ∀ i, InWindow t₀ (execution i).lookedUpAt
  storedAt : ∀ i, InWindow t₀ (execution i).storedAt
  alike : ∀ i j, Alike (execution i) (execution j)

theorem Setting.hash (h : Setting q execution t₀ others) (i : Nat) :
    S.rpcRequestHash q.method q.params (execution i).apiVersion =
      S.rpcRequestHash q.method q.params (execution 0).apiVersion := by
  rw [(h.alike i 0).apiVersion]

theorem Setting.refusal (h : Setting q execution t₀ others) (i : Nat) :
    Rpc.refusal q (execution i) = Rpc.refusal q (execution 0) := refusal_alike (h.alike i 0)

theorem step_other (h : Setting q execution t₀ others) {ev : Event ρ}
    (hev : ev.Within t₀ others) (hother : ∀ i, ev ≠ .advance i) (hkeys : KeysIn q others w.cache) :
    (step S q execution w ev).phase = w.phase ∧
      (step S q execution w ev).dispatched = w.dispatched ∧
      KeysIn q others (step S q execution w ev).cache ∧
      (w.cache[q.cacheKey]? = none → (step S q execution w ev).cache[q.cacheKey]? = none) ∧
      ∀ entry, w.cache[q.cacheKey]? = some entry → InWindow t₀ entry.createdAt →
        (step S q execution w ev).cache[q.cacheKey]? = some entry := by
  cases ev with
  | advance i => exact absurd rfl (hother i)
  | otherGet now =>
    exact ⟨rfl, rfl, RpcIdempotencyCache.keysIn_prune hkeys now,
      RpcIdempotencyCache.prune_none,
      fun entry hget hentry => RpcIdempotencyCache.prune_some hget hentry hev⟩
  | otherSet k requestHash response now r =>
    obtain ⟨hnow, hk⟩ := hev
    have hne : k ≠ q.cacheKey := fun heq => h.other (heq ▸ hk)
    have hset := RpcIdempotencyCache.set_eq hkeys h.few (.inr hk) requestHash response now r
    unfold step
    dsimp only
    rw [hset]
    refine ⟨rfl, rfl, ?_, fun hget => ?_, fun entry hget hentry => ?_⟩
    · exact RpcIdempotencyCache.keysIn_insert (RpcIdempotencyCache.keysIn_prune hkeys now)
        (.inr hk) _
    · rw [get_insert, if_neg hne]
      exact RpcIdempotencyCache.prune_none hget
    · rw [get_insert, if_neg hne]
      exact RpcIdempotencyCache.prune_some hget hentry hnow

/-! ## Requests that are dispatched -/

/-- How far the executions of a request have come that is dispatched when the key is not found. -/
inductive Stage (S : Server) (q : Request) (execution : Nat → Execution ρ) (t₀ : Time)
    (w : World ρ) : Prop where
  /-- None of them has begun. -/
  | fresh (hcache : w.cache[q.cacheKey]? = none) (hphase : ∀ j, w.phase j = .arrived)
      (hdispatched : w.dispatched = [])
  /-- One has not found the key. -/
  | missed (i : Nat) (hcache : w.cache[q.cacheKey]? = none) (hi : w.phase i = .missed)
      (hphase : ∀ j, j ≠ i → w.phase j = .arrived) (hdispatched : w.dispatched = [])
  /-- One has been dispatched. -/
  | ready (i : Nat) (response : RpcResponse ρ) (hcache : w.cache[q.cacheKey]? = none)
      (hi : w.phase i = .ready response) (hphase : ∀ j, j ≠ i → w.phase j = .arrived)
      (hdispatched : w.dispatched.length ≤ 1)
  /-- Its response is stored, and is the response of all that are through. -/
  | done (entry : RpcIdempotencyEntry ρ) (hcache : w.cache[q.cacheKey]? = some entry)
      (hentry : InWindow t₀ entry.createdAt)
      (hhash : entry.requestHash =
        S.rpcRequestHash q.method q.params (execution 0).apiVersion)
      (hphase : ∀ j, w.phase j = .arrived ∨ ∃ response, w.phase j = .answered response ∧
        response.result = entry.response.result ∧ response.error = entry.response.error)
      (hdispatched : w.dispatched.length ≤ 1)

theorem setPhase_self (w : World ρ) (i : Nat) (p : Phase ρ) : (w.setPhase i p).phase i = p :=
  if_pos rfl

theorem setPhase_other (w : World ρ) {i j : Nat} (h : j ≠ i) (p : Phase ρ) :
    (w.setPhase i p).phase j = w.phase j := if_neg h

theorem Stage.other (h : Setting q execution t₀ others) {ev : Event ρ}
    (hev : ev.Within t₀ others) (hother : ∀ i, ev ≠ .advance i)
    (hkeys : KeysIn q others w.cache) (hw : Stage S q execution t₀ w) :
    Stage S q execution t₀ (step S q execution w ev) := by
  obtain ⟨hphase, hdispatched, -, hnone, hsome⟩ := step_other (S := S) h hev hother hkeys
  cases hw with
  | fresh hcache hall hd =>
    exact .fresh (hnone hcache) (by rw [hphase]; exact hall) (hdispatched.trans hd)
  | missed i hcache hi hall hd =>
    exact .missed i (hnone hcache) (by rw [hphase]; exact hi) (by rw [hphase]; exact hall)
      (hdispatched.trans hd)
  | ready i response hcache hi hall hd =>
    exact .ready i response (hnone hcache) (by rw [hphase]; exact hi)
      (by rw [hphase]; exact hall) (by rw [hdispatched]; exact hd)
  | done entry hcache hentry hhash hall hd =>
    exact .done entry (hsome entry hcache hentry) hentry hhash (by rw [hphase]; exact hall)
      (by rw [hdispatched]; exact hd)

theorem Stage.lookUp (h : Setting q execution t₀ others)
    (hrefusal : refusal q (execution 0) = none) {i : Nat}
    (halone : ∀ j, ¬ (w.phase j).InFlight) (hw : Stage S q execution t₀ w) :
    Stage S q execution t₀ (lookUp S q execution w i) := by
  have hkey := cacheKey_ne h.key
  have hpass : Rpc.refusal q (execution i) = none := (h.refusal i).trans hrefusal
  cases hw with
  | fresh hcache hall hd =>
    rw [lookUp_of_none hkey hpass hcache]
    refine .missed i (RpcIdempotencyCache.prune_none hcache) (setPhase_self _ _ _) ?_ hd
    grind [setPhase_other]
  | missed k _ hk _ _ | ready k _ _ hk _ _ =>
    refine absurd ?_ (halone k)
    rw [hk]
    trivial
  | done entry hcache hentry hhash hall hd =>
    rw [lookUp_of_some hkey hpass hcache hentry (h.lookedUpAt i)
      (hhash.trans (h.hash i).symm)]
    refine .done entry
      (RpcIdempotencyCache.prune_some hcache hentry (h.lookedUpAt i)) hentry hhash ?_ hd
    grind [setPhase_self, setPhase_other]

theorem Stage.dispatch (hdispatches : S.refuses q.method = false) {i : Nat}
    (hi : w.phase i = .missed) (hw : Stage S q execution t₀ w) :
    Stage S q execution t₀ (dispatch S q execution w i) := by
  have hstep : Rpc.dispatch S q execution w i =
      { w with dispatched := w.dispatched ++ [i] }.setPhase i
        (.ready ⟨(execution i).id, (execution i).result, (execution i).error⟩) := by
    grind [Rpc.dispatch]
  rw [hstep]
  cases hw with
  | fresh _ hall _ =>
    rw [hall i] at hi
    cases hi
  | missed k hcache hk hall hd =>
    have hki : i = k := by
      grind
    subst hki
    refine .ready i _ hcache (setPhase_self _ _ _) (fun j hj => ?_) ?_
    · rw [setPhase_other _ hj]
      exact hall j hj
    · have hone : (w.dispatched ++ [i]).length = 1 := by rw [hd]; rfl
      exact hone.le
  | ready | done =>
    grind

theorem Stage.answer (h : Setting q execution t₀ others) {i : Nat} {response : RpcResponse ρ}
    (hi : w.phase i = .ready response) (hkeys : KeysIn q others w.cache)
    (hw : Stage S q execution t₀ w) :
    Stage S q execution t₀ (answer S q execution w i response) := by
  have hkey := cacheKey_ne h.key
  have hset := RpcIdempotencyCache.set_eq hkeys h.few (.inl rfl)
    (S.rpcRequestHash q.method q.params (execution i).apiVersion) response
    (execution i).storedAt (execution i).range
  unfold Rpc.answer
  dsimp only
  rw [if_neg hkey, hset]
  cases hw with
  | fresh _ hall _ =>
    rw [hall i] at hi
    cases hi
  | missed | done =>
    grind
  | ready k response' hcache hk hall hd =>
    have hki : i = k := by
      grind
    subst hki
    refine .done ⟨_, response, (execution i).storedAt⟩ ?_ (h.storedAt i) (h.hash i) ?_ hd
    · exact (get_insert _ _ _ _).trans (if_pos rfl)
    · grind [setPhase_self, setPhase_other]

theorem step_keysIn (h : Setting q execution t₀ others) {ev : Event ρ}
    (hev : ev.Within t₀ others) (hkeys : KeysIn q others w.cache) :
    KeysIn q others (step S q execution w ev).cache := by
  cases ev with
  | otherGet | otherSet =>
    exact (step_other (S := S) h hev (by simp) hkeys).2.2.1
  | advance i =>
    unfold step
    dsimp only
    cases w.phase i with
    | arrived =>
      dsimp only
      unfold Rpc.lookUp
      dsimp only
      split
      · exact hkeys
      · split
        · exact hkeys
        · have hcache : (RpcIdempotencyCache.get w.cache q.cacheKey
              (S.rpcRequestHash q.method q.params (execution i).apiVersion)
              (execution i).lookedUpAt).2 =
              RpcIdempotencyCache.prune w.cache (execution i).lookedUpAt := by
            grind [RpcIdempotencyCache.get]
          have hpruned := RpcIdempotencyCache.keysIn_prune hkeys (execution i).lookedUpAt
          rw [← hcache] at hpruned
          split
          · exact hpruned
          · exact hpruned
          · exact hpruned
    | missed =>
      dsimp only
      unfold Rpc.dispatch
      dsimp only
      split
      · exact hkeys
      · exact hkeys
    | ready response =>
      dsimp only
      unfold Rpc.answer
      dsimp only
      rw [if_neg (cacheKey_ne h.key), RpcIdempotencyCache.set_eq hkeys h.few (.inl rfl)]
      exact RpcIdempotencyCache.keysIn_insert
        (RpcIdempotencyCache.keysIn_prune hkeys _) (.inl rfl) _
    | answered response => exact hkeys

/-! ## Requests that are not dispatched -/

/-- A request gets this error without being dispatched: it is refused before the key is looked at,
or there is no service. -/
def Undispatched (S : Server) (q : Request) (e : Execution ρ) (err : RpcError) : Prop :=
  refusal q e = some err ∨
    refusal q e = none ∧ S.refuses q.method = true ∧ err = notInitialized

structure Uniform (S : Server) (q : Request) (execution : Nat → Execution ρ) (t₀ : Time)
    (err : RpcError) (w : World ρ) : Prop where
  missed : ∀ j, w.phase j = .missed → S.refuses q.method = true ∧ err = notInitialized
  ready : ∀ j response, w.phase j = .ready response →
    response.result = none ∧ response.error = some err
  answered : ∀ j response, w.phase j = .answered response →
    response.result = none ∧ response.error = some err
  cached : ∀ entry, w.cache[q.cacheKey]? = some entry → InWindow t₀ entry.createdAt ∧
    entry.requestHash = S.rpcRequestHash q.method q.params (execution 0).apiVersion ∧
    entry.response.result = none ∧ entry.response.error = some err
  dispatched : w.dispatched = []

theorem Uniform.setPhase {err : RpcError} (hw : Uniform S q execution t₀ err w) (i : Nat)
    {p : Phase ρ} {cache : RpcIdempotencyCache ρ}
    (hmissed : p = .missed → S.refuses q.method = true ∧ err = notInitialized)
    (hresponse : ∀ response, p = .ready response ∨ p = .answered response →
      response.result = none ∧ response.error = some err)
    (hcached : ∀ entry, cache[q.cacheKey]? = some entry → InWindow t₀ entry.createdAt ∧
      entry.requestHash = S.rpcRequestHash q.method q.params (execution 0).apiVersion ∧
      entry.response.result = none ∧ entry.response.error = some err) :
    Uniform S q execution t₀ err ({ w with cache := cache }.setPhase i p) where
  missed j hj := by
    by_cases hji : j = i
    · rw [hji, setPhase_self] at hj
      exact hmissed hj
    · rw [setPhase_other _ hji] at hj
      exact hw.missed j hj
  ready j response hj := by
    by_cases hji : j = i
    · rw [hji, setPhase_self] at hj
      exact hresponse response (.inl hj)
    · rw [setPhase_other _ hji] at hj
      exact hw.ready j response hj
  answered j response hj := by
    by_cases hji : j = i
    · rw [hji, setPhase_self] at hj
      exact hresponse response (.inr hj)
    · rw [setPhase_other _ hji] at hj
      exact hw.answered j response hj
  cached := hcached
  dispatched := hw.dispatched

theorem Uniform.cached_prune {err : RpcError} (hw : Uniform S q execution t₀ err w) (now : Time) :
    ∀ entry, (RpcIdempotencyCache.prune w.cache now)[q.cacheKey]? = some entry →
      InWindow t₀ entry.createdAt ∧
      entry.requestHash = S.rpcRequestHash q.method q.params (execution 0).apiVersion ∧
      entry.response.result = none ∧ entry.response.error = some err :=
  fun entry hget => hw.cached entry (get_of_filter hget)

theorem Uniform.lookUp {err : RpcError} (h : Setting q execution t₀ others)
    (herr : Undispatched S q (execution 0) err) (i : Nat) (hw : Uniform S q execution t₀ err w) :
    Uniform S q execution t₀ err (lookUp S q execution w i) := by
  rcases herr with hrefusal | ⟨hrefusal, hrefuses, herr⟩
  · rw [lookUp_of_refusal ((h.refusal i).trans hrefusal)]
    refine hw.setPhase i (by simp) (fun response hp => ?_) hw.cached
    grind
  · have hkey := cacheKey_ne h.key
    have hpass := (h.refusal i).trans hrefusal
    cases hcache : w.cache[q.cacheKey]? with
    | none =>
      rw [lookUp_of_none hkey hpass hcache]
      exact hw.setPhase i (fun _ => ⟨hrefuses, herr⟩)
        (fun response hp => hp.elim (fun hp => by cases hp) fun hp => by cases hp)
        (hw.cached_prune _)
    | some entry =>
      obtain ⟨hentry, hhash, hresult, herror⟩ := hw.cached entry hcache
      rw [lookUp_of_some hkey hpass hcache hentry (h.lookedUpAt i)
        (hhash.trans (h.hash i).symm)]
      refine hw.setPhase i (by simp) (fun response hp => ?_) (hw.cached_prune _)
      grind

theorem Uniform.dispatch {err : RpcError} {i : Nat} (hi : w.phase i = .missed)
    (hw : Uniform S q execution t₀ err w) :
    Uniform S q execution t₀ err (dispatch S q execution w i) := by
  obtain ⟨hrefuses, herr⟩ := hw.missed i hi
  unfold Rpc.dispatch
  rw [if_pos hrefuses]
  refine hw.setPhase i (by simp) (fun response hp => ?_) hw.cached
  grind

theorem Uniform.answer {err : RpcError} (h : Setting q execution t₀ others) {i : Nat}
    {response : RpcResponse ρ} (hi : w.phase i = .ready response)
    (hkeys : KeysIn q others w.cache) (hw : Uniform S q execution t₀ err w) :
    Uniform S q execution t₀ err (answer S q execution w i response) := by
  obtain ⟨hresult, herror⟩ := hw.ready i response hi
  unfold Rpc.answer
  dsimp only
  rw [if_neg (cacheKey_ne h.key), RpcIdempotencyCache.set_eq hkeys h.few (.inl rfl)]
  refine hw.setPhase i (by simp) (fun response' hp => ?_) (fun entry hget => ?_)
  · simp_all
  · rw [get_insert, if_pos rfl] at hget
    rw [← Option.some.inj hget]
    exact ⟨h.storedAt i, h.hash i, hresult, herror⟩

theorem Uniform.other {err : RpcError} (h : Setting q execution t₀ others) {ev : Event ρ}
    (hev : ev.Within t₀ others) (hother : ∀ i, ev ≠ .advance i)
    (hkeys : KeysIn q others w.cache) (hw : Uniform S q execution t₀ err w) :
    Uniform S q execution t₀ err (step S q execution w ev) := by
  obtain ⟨hphase, hdispatched, -, hnone, hsome⟩ := step_other (S := S) h hev hother hkeys
  refine ⟨by rw [hphase]; exact hw.missed, by rw [hphase]; exact hw.ready,
    by rw [hphase]; exact hw.answered, fun entry hget => ?_, hdispatched.trans hw.dispatched⟩
  grind [cases Uniform]

/-! ## At most once -/

/-- A request gets the same error every time without being dispatched, or it is dispatched once. -/
def Once (S : Server) (q : Request) (execution : Nat → Execution ρ) (t₀ : Time)
    (others : Finset String) (w : World ρ) : Prop :=
  KeysIn q others w.cache ∧
    ((∃ err, Undispatched S q (execution 0) err ∧ Uniform S q execution t₀ err w) ∨
      (refusal q (execution 0) = none ∧ S.refuses q.method = false ∧ Stage S q execution t₀ w))

/-- **One step keeps it so.** -/
theorem step_once (h : Setting q execution t₀ others) {ev : Event ρ}
    (hev : ev.Within t₀ others) (halone : LooksUpAlone S q execution w ev)
    (hw : Once S q execution t₀ others w) :
    Once S q execution t₀ others (step S q execution w ev) := by
  obtain ⟨hkeys, hw⟩ := hw
  refine ⟨step_keysIn h hev hkeys, ?_⟩
  rcases hw with ⟨err, herr, hw⟩ | ⟨hrefusal, hrefuses, hw⟩
  · refine .inl ⟨err, herr, ?_⟩
    cases ev with
    | otherGet | otherSet => exact hw.other h hev (by simp) hkeys
    | advance i =>
      unfold step
      dsimp only
      cases hi : w.phase i with
      | arrived => exact hw.lookUp h herr i
      | missed => exact hw.dispatch hi
      | ready response => exact hw.answer h hi hkeys
      | answered response => exact hw
  · refine .inr ⟨hrefusal, hrefuses, ?_⟩
    cases ev with
    | otherGet | otherSet => exact hw.other h hev (by simp) hkeys
    | advance i =>
      unfold step
      dsimp only
      cases hi : w.phase i with
      | arrived =>
        have hnone : ∀ j, ¬ (w.phase j).InFlight := by
          rcases halone hi with hsome | hyes | hnone
          · exact absurd ((h.refusal i).trans hrefusal) hsome
          · rw [hrefuses] at hyes
            cases hyes
          · exact hnone
        exact hw.lookUp h hrefusal hnone
      | missed => exact hw.dispatch hrefuses hi
      | ready response => exact hw.answer h hi hkeys
      | answered response => exact hw

theorem Once.responses (hw : Once S q execution t₀ others w) :
    w.dispatched.length ≤ 1 ∧ ∀ i j response response', w.phase i = .answered response →
      w.phase j = .answered response' →
      response.result = response'.result ∧ response.error = response'.error := by
  obtain ⟨-, ⟨err, -, hw⟩ | ⟨-, -, hw⟩⟩ := hw
  · grind [cases Uniform]
  · cases hw with
    | fresh _ hall hd =>
      simp_all
    | missed | ready | done =>
      grind

def World.start (cache : RpcIdempotencyCache ρ) : World ρ := ⟨cache, fun _ => .arrived, []⟩

/-- **Executions that look the key up one after the other are dispatched at most once** and answered
alike, whatever requests with other keys do to the cache meanwhile. -/
theorem dispatched_at_most_once (S : Server) (q : Request) (execution : Nat → Execution ρ)
    (t₀ : Time) (others : Finset String) (h : Setting q execution t₀ others)
    (cache : RpcIdempotencyCache ρ) (hcache : ∀ k, k ∈ cache → k ∈ others)
    (events : List (Event ρ)) (hwithin : ∀ ev ∈ events, ev.Within t₀ others)
    (halone : Along (step S q execution) (LooksUpAlone S q execution) (.start cache) events) :
    let w := run (step S q execution) (.start cache) events
    w.dispatched.length ≤ 1 ∧ ∀ i j response response', w.phase i = .answered response →
      w.phase j = .answered response' →
      response.result = response'.result ∧ response.error = response'.error := by
  have hkey : cache[q.cacheKey]? = none := by
    grind [cases Setting]
  have hstart : Once S q execution t₀ others (World.start cache) := by
    refine ⟨fun k hk => .inr (hcache k hk), ?_⟩
    have huniform : ∀ err, Uniform S q execution t₀ err (World.start cache) := by
      intro err
      refine ⟨fun j hj => (nomatch hj), fun j r hj => (nomatch hj), fun j r hj => (nomatch hj),
        fun entry hget => ?_, rfl⟩
      exact absurd (hkey.symm.trans hget) (by simp)
    cases hrefusal : refusal q (execution 0) with
    | some err => exact .inl ⟨err, .inl hrefusal, huniform err⟩
    | none =>
      cases hrefuses : S.refuses q.method with
      | true => exact .inl ⟨notInitialized, .inr ⟨hrefusal, hrefuses, rfl⟩, huniform _⟩
      | false => exact .inr ⟨rfl, rfl, .fresh hkey (fun _ => rfl) rfl⟩
  have hinside : Along (step S q execution) (fun _ ev => ev.Within t₀ others) (.start cache)
      events :=
    along_of_forall (fun _ ev hev => hwithin ev hev) _
  have hrun := along_run (fun w ev hw hev => step_once h hev.1 hev.2 hw) hstart
    (hinside.and halone)
  exact hrun.responses

end

/-! ## A request that is repeated -/

def aServer : Server := ⟨true, fun method params _ => method ++ params⟩

def createChannel : Request := ⟨"token", "idem-key-1", "channel.create", "[news]"⟩

def nthChannel (i : Nat) : Execution Nat where
  jsonrpc := "2.0"
  id := toString i
  apiVersion := none
  loopback := true
  lookedUpAt := 1
  result := some i
  error := none
  storedAt := 2
  range := .sorted

theorem createChannel_setting : Setting createChannel nthChannel 0 {"token|other"} where
  key := by decide
  other := by decide
  few := by decide
  lookedUpAt _ := (by decide : InWindow 0 1)
  storedAt _ := (by decide : InWindow 0 2)
  alike _ _ := ⟨rfl, rfl, rfl⟩

def oneAfterTheOther : List (Event Nat) :=
  [.advance 0, .otherSet "token|other" "hash" ⟨"", none, none⟩ 3 .sorted, .advance 0, .advance 0,
    .otherGet 4, .advance 1]

/-- It gets the response of the first. -/
theorem repetition_dispatched_once :
    let w := run (step aServer createChannel nthChannel) (.start ∅) oneAfterTheOther
    w.dispatched.length ≤ 1 ∧ ∀ i j response response', w.phase i = .answered response →
      w.phase j = .answered response' →
      response.result = response'.result ∧ response.error = response'.error := by
  refine dispatched_at_most_once aServer createChannel nthChannel 0 {"token|other"}
    createChannel_setting ∅ (by simp) oneAfterTheOther ?_ ?_
  · intro ev hev
    fin_cases hev
    · trivial
    · exact ⟨(by decide : InWindow 0 3), by decide⟩
    · trivial
    · trivial
    · exact (by decide : InWindow 0 4)
    · trivial
  · refine ⟨fun _ => .inr (.inr fun j => id), trivial, fun h => ?_, fun h => ?_, trivial,
      fun _ => .inr (.inr fun j => ?_), trivial⟩
    · exact absurd h (by decide)
    · exact absurd h (by decide)
    · match j with
      | 0 => exact id
      | j + 1 => exact id

/-- The second execution comes while the first is being dispatched: both are dispatched, and they
get different channels. -/
theorem overlapping_dispatched_twice : Setting createChannel nthChannel 0 {"token|other"} ∧
      let w := run (step aServer createChannel nthChannel) (.start ∅)
        [.advance 0, .advance 1, .advance 0, .advance 0, .advance 1, .advance 1]
      w.dispatched = [0, 1] ∧ w.phase 0 = .answered ⟨"0", some 0, none⟩ ∧
        w.phase 1 = .answered ⟨"1", some 1, none⟩ :=
  ⟨createChannel_setting, by decide⟩

end Ardents.Rpc
