import Ardents.Crypto.Sender

/-!
# Running `InitSession` again

`InitSession` does not look for an existing session. Everything it derives is a function of the
two identities and the peer key, so calling it again puts the sender back at the start of a chain
it has already used.
-/

namespace Ardents.Crypto

open Go

/-- What a sending chain is derived from: peer key, the identities, and which of them sends. -/
structure ChainOrigin where
  key : Bytes
  salt : Bytes
  sendsFirst : Bool
  deriving DecidableEq

def originOf (localID contactID : String) (key : Bytes) : ChainOrigin :=
  let ids := normalizeIDs localID contactID
  { key := key
    salt := bytesOf (ids.1 ++ ":" ++ ids.2)
    sendsFirst := localID = ids.1 }

namespace ChainOrigin

variable (P : Primitives)

def rootInput (o : ChainOrigin) : Bytes × Bytes :=
  (o.key, bytesOf "aim/session/root/v1|" ++ o.salt)

def rootKey (o : ChainOrigin) : Bytes := P.kdf32 o.rootInput.1 o.rootInput.2

def chainInput (o : ChainOrigin) : Bytes × Bytes :=
  (o.rootKey P, if o.sendsFirst then bytesOf "aim/ratchet/chain/a2b/v1"
    else bytesOf "aim/ratchet/chain/b2a/v1")

def sendChainKey (o : ChainOrigin) : Bytes := P.kdf32 (o.chainInput P).1 (o.chainInput P).2

def sessionID (o : ChainOrigin) : String :=
  "sess1_" ++ hexEncode ((P.sha256 (o.salt ++ bytesOf ":" ++ o.key)).take 16)

def seed (o : ChainOrigin) (n : Nat) : Bytes :=
  appendUint64Suffix (chainKeyAt P (o.sendChainKey P) n) (UInt64.ofNat n)

end ChainOrigin

open ChainOrigin

section

variable (P : Primitives) {K : Type}

theorem newSession_sendChainKey (localID contactID : String) (key : Bytes) (noKeys : K)
    (now : Time) : (newSession P localID contactID key noKeys now).sendChainKey
      = (originOf localID contactID key).sendChainKey P := by
  unfold newSession deriveInitialChainKeys originOf
  dsimp only
  split
  · rename_i h
    rw [sendChainKey, chainInput]
    simp only [decide_eq_true h, if_true]
    rfl
  · rename_i h
    rw [sendChainKey, chainInput]
    simp only [decide_eq_false h, Bool.false_eq_true, if_false]
    rfl

theorem newSession_sessionID (localID contactID : String) (key : Bytes) (noKeys : K) (now : Time) :
    (newSession P localID contactID key noKeys now).sessionID
      = (originOf localID contactID key).sessionID P := by
  rfl

end

/-! ## Keys determine positions -/

/-- No two of these inputs give `kdf32` the same output. -/
def CollisionFree (P : Primitives) (inputs : List (Bytes × Bytes)) : Prop :=
  ∀ x ∈ inputs, ∀ y ∈ inputs, P.kdf32 x.1 x.2 = P.kdf32 y.1 y.2 → x = y

instance (P : Primitives) (inputs : List (Bytes × Bytes)) :
    Decidable (CollisionFree P inputs) :=
  inferInstanceAs (Decidable (∀ x ∈ inputs, ∀ y ∈ inputs, _ → _))

/-- Everything derived for the first `n` positions of a chain is among the inputs. -/
structure Recorded (P : Primitives) (inputs : List (Bytes × Bytes)) (o : ChainOrigin) (n : Nat) :
    Prop where
  root : o.rootInput ∈ inputs
  chain : o.chainInput P ∈ inputs
  message : ∀ i < n, (o.seed P i, bytesOf "aim/ratchet/message-key/v1") ∈ inputs
  next : ∀ i < n, (o.seed P i, bytesOf "aim/ratchet/chain-key/v1") ∈ inputs

section

variable {P : Primitives} {inputs : List (Bytes × Bytes)} {o o' : ChainOrigin}

theorem label_ne {s t : String} (h : s ≠ t) : bytesOf s ≠ bytesOf t := fun he => h (bytesOf_inj he)

theorem CollisionFree.origin_eq (hcf : CollisionFree P inputs) (ho : Recorded P inputs o 0)
    (ho' : Recorded P inputs o' 0) (h : o.sendChainKey P = o'.sendChainKey P) : o = o' := by
  have hchain := hcf _ ho.chain _ ho'.chain h
  have hroot := hcf _ ho.root _ ho'.root (congrArg Prod.fst hchain)
  have hkey : o.key = o'.key := congrArg Prod.fst hroot
  have hsalt : o.salt = o'.salt := List.append_cancel_left (congrArg Prod.snd hroot)
  have hlabel := congrArg Prod.snd hchain
  have hfirst : o.sendsFirst = o'.sendsFirst := by
    grind [chainInput, label_ne]
  obtain ⟨k, s, f⟩ := o
  simp_all

theorem Recorded.mono {m n : Nat} (h : Recorded P inputs o n) (hmn : m ≤ n) :
    Recorded P inputs o m :=
  ⟨h.root, h.chain, fun i hi => h.message i (by omega), fun i hi => h.next i (by omega)⟩

theorem CollisionFree.start_ne_next (hcf : CollisionFree P inputs) {m : Nat}
    (ho : Recorded P inputs o 0) (ho' : Recorded P inputs o' (m + 1)) :
    o.sendChainKey P ≠ chainKeyAt P (o'.sendChainKey P) (m + 1) := by
  intro h
  have hin := hcf _ ho.chain _ (ho'.next m (Nat.lt_succ_self m)) h
  grind [chainInput, label_ne]

theorem CollisionFree.chainKeyAt_inj (hcf : CollisionFree P inputs) : ∀ {m n : Nat},
    Recorded P inputs o m → Recorded P inputs o' n →
    chainKeyAt P (o.sendChainKey P) m = chainKeyAt P (o'.sendChainKey P) n → o = o' ∧ m = n
  | 0, 0, ho, ho', h => ⟨hcf.origin_eq ho ho' h, rfl⟩
  | 0, n + 1, ho, ho', h => absurd h (hcf.start_ne_next ho ho')
  | m + 1, 0, ho, ho', h => absurd h.symm (hcf.start_ne_next ho' ho)
  | m + 1, n + 1, ho, ho', h => by
    have hin := hcf _ (ho.next m (Nat.lt_succ_self m)) _ (ho'.next n (Nat.lt_succ_self n)) h
    have hseed := appendUint64Suffix_inj (congrArg Prod.fst hin)
    obtain ⟨hoo, hmn⟩ := hcf.chainKeyAt_inj (ho.mono (Nat.le_succ m)) (ho'.mono (Nat.le_succ n))
      hseed.1
    exact ⟨hoo, congrArg (· + 1) hmn⟩

theorem CollisionFree.messageKeyAt_inj (hcf : CollisionFree P inputs) {m n : Nat}
    (ho : Recorded P inputs o (m + 1)) (ho' : Recorded P inputs o' (n + 1))
    (h : messageKeyAt P (o.sendChainKey P) m = messageKeyAt P (o'.sendChainKey P) n) :
    o = o' ∧ m = n := by
  have hin := hcf _ (ho.message m (Nat.lt_succ_self m)) _ (ho'.message n (Nat.lt_succ_self n)) h
  exact hcf.chainKeyAt_inj (ho.mono (Nat.le_succ m)) (ho'.mono (Nat.le_succ n))
    (appendUint64Suffix_inj (congrArg Prod.fst hin)).1

end

/-! ## Runs of `InitSession` and `Encrypt` -/

inductive RekeyCall where
  | initSession (localIdentityID : String) (peerPublicKey : Bytes) (now : Time)
  | encrypt (plaintext : Bytes) (inp : EncryptInputs)

structure Rekeying (σ : Type) where
  store : σ
  /-- Each `InitSession`, with the number of envelopes returned under it. -/
  epochs : List (ChainOrigin × Nat)
  /-- Session id and message key of every envelope returned. -/
  sealed : List (String × Bytes)
  /-- What `kdf32` was called on for the chains. -/
  derived : List (Bytes × Bytes)

section

variable (P : Primitives) {σ : Type} [SessionStore σ]

/-- What `Encrypt` derives its keys from for a contact. -/
def sendSeed (s : σ) (contactID : String) : Bytes :=
  match SessionStore.get s contactID with
  | .ok (some st) => appendUint64Suffix st.sendChainKey st.sendChainIndex
  | _ => []

def countEnvelope : List (ChainOrigin × Nat) → List (ChainOrigin × Nat)
  | [] => []
  | (o, n) :: epochs => (o, n + 1) :: epochs

def Rekeying.call (c : String) (w : Rekeying σ) : RekeyCall → Rekeying σ
  | .initSession localID key now =>
    match initSession P w.store localID c key now with
    | .error _ => w
    | .ok (_, s') =>
      let o := originOf localID c key
      { w with
        store := s'
        epochs := (o, 0) :: w.epochs
        derived := o.rootInput :: (o.rootKey P, bytesOf "aim/ratchet/chain/a2b/v1")
          :: (o.rootKey P, bytesOf "aim/ratchet/chain/b2a/v1") :: w.derived }
  | .encrypt plaintext inp =>
    match encrypt P w.store c plaintext inp with
    | .error _ => w
    | .ok (env, s') =>
      { store := s'
        epochs := countEnvelope w.epochs
        sealed := (env.sessionID, sendKey P w.store c) :: w.sealed
        derived := (sendSeed w.store c, bytesOf "aim/ratchet/message-key/v1")
          :: (sendSeed w.store c, bytesOf "aim/ratchet/chain-key/v1") :: w.derived }

def sealedAt (o : ChainOrigin) (n : Nat) : String × Bytes :=
  (o.sessionID P, messageKeyAt P (o.sendChainKey P) n)

def epochKeys (p : ChainOrigin × Nat) : List (String × Bytes) :=
  (List.range p.2).reverse.map (sealedAt P p.1)

structure Rekeying.Tracks (c : String) (w : Rekeying σ) : Prop where
  /-- The session is the one of the newest epoch, as far along as it has sent. -/
  session : match w.epochs with
    | [] => SessionStore.get w.store c = .ok none
    | (o, n) :: _ => ∃ st, SessionStore.get w.store c = .ok (some st) ∧
        SendsAt P (o.sendChainKey P) (o.sessionID P) n st
  sealed : w.sealed = w.epochs.flatMap (epochKeys P)
  recorded : ∀ p ∈ w.epochs, Recorded P w.derived p.1 p.2

variable {P} {c : String} {w : Rekeying σ}

theorem Recorded.weaken {inputs more : List (Bytes × Bytes)} {o : ChainOrigin} {n : Nat}
    (h : Recorded P inputs o n) (hsub : inputs ⊆ more) : Recorded P more o n :=
  ⟨hsub h.root, hsub h.chain, fun i hi => hsub (h.message i hi), fun i hi => hsub (h.next i hi)⟩

theorem epochKeys_succ (o : ChainOrigin) (n : Nat) :
    epochKeys P (o, n + 1) = sealedAt P o n :: epochKeys P (o, n) := by
  unfold epochKeys
  rw [List.range_succ, List.reverse_append]
  rfl

theorem mem_epochKeys {p : ChainOrigin × Nat} {x : String × Bytes} :
    x ∈ epochKeys P p ↔ ∃ i < p.2, sealedAt P p.1 i = x := by
  simp [epochKeys]

variable [LawfulSessionStore σ]

theorem Rekeying.Tracks.initSession (h : w.Tracks P c) (localID : String) (key : Bytes)
    (now : Time) : (w.call P c (.initSession localID key now)).Tracks P c := by
  simp only [Rekeying.call]
  split
  · exact h
  · rename_i st s' hinit
    obtain ⟨-, -, rfl, hsave⟩ := initSession_ok hinit
    refine ⟨⟨_, (LawfulSessionStore.get_save c hsave).trans (if_pos rfl), ?_⟩, ?_, ?_⟩
    · grind [newSession_sendChainKey, newSession_sessionID, sendsAt_newSession]
    · exact h.sealed
    · intro p hp
      rcases List.mem_cons.mp hp with rfl | hp
      · refine ⟨List.mem_cons_self, ?_, fun i hi => absurd hi (Nat.not_lt_zero i),
          fun i hi => absurd hi (Nat.not_lt_zero i)⟩
        dsimp only [chainInput]
        split
        · simp
        · simp
      · exact (h.recorded p hp).weaken fun x hx => by simp [hx]

theorem Rekeying.Tracks.encrypt (h : w.Tracks P c) (plaintext : Bytes) (inp : EncryptInputs) :
    (w.call P c (.encrypt plaintext inp)).Tracks P c := by
  simp only [Rekeying.call]
  split
  · exact h
  · rename_i env s' henc
    obtain ⟨st, nonce, hget, -, henv, hall⟩ := encrypt_get henc
    have hsession := h.session
    cases hep : w.epochs with
    | nil =>
      -- no `InitSession` yet, so there is no session to encrypt under
      simp_all
    | cons p rest =>
      obtain ⟨o, n⟩ := p
      rw [hep] at hsession
      obtain ⟨st₁, hst₁, hat⟩ := hsession
      obtain rfl := get_unique hget hst₁
      have hseed : sendSeed w.store c = o.seed P n := by
        unfold sendSeed ChainOrigin.seed
        rw [hget]
        dsimp only
        rw [hat.chain, hat.index]
      have hrec := h.recorded
      rw [hep] at hrec
      refine ⟨⟨_, (hall c).trans (if_pos rfl), hat.advance _⟩, ?_, ?_⟩
      · rw [h.sealed, hep, hat.sendKey_eq hget, henv]
        show (st.sessionID, _) :: _ = (epochKeys P (o, n + 1) ++ rest.flatMap (epochKeys P))
        rw [hat.session, epochKeys_succ]
        rfl
      · intro p hp
        rcases List.mem_cons.mp hp with rfl | hp
        · have ho := hrec (o, n) List.mem_cons_self
          rw [hseed]
          refine ⟨?_, ?_, fun i hi => ?_, fun i hi => ?_⟩
          · simp [ho.root]
          · simp [ho.chain]
          · rcases Nat.lt_succ_iff_lt_or_eq.mp hi with hi | rfl
            · simp [ho.message i hi]
            · simp
          · rcases Nat.lt_succ_iff_lt_or_eq.mp hi with hi | rfl
            · simp [ho.next i hi]
            · simp
        · exact (hrec p (List.mem_cons_of_mem _ hp)).weaken fun x hx => by simp [hx]

theorem Rekeying.tracks_run {s : σ} (hnone : SessionStore.get s c = .ok none)
    (calls : List RekeyCall) : (run (Rekeying.call P c) ⟨s, [], [], []⟩ calls).Tracks P c := by
  refine run_inv (I := Rekeying.Tracks P c) (fun v op hv => ?_)
    ⟨hnone, rfl, fun p hp => absurd hp (by simp)⟩ calls
  cases op with
  | initSession localID key now => exact hv.initSession localID key now
  | encrypt plaintext inp => exact hv.encrypt plaintext inp

def Rekeying.used (w : Rekeying σ) : List ChainOrigin :=
  (w.epochs.filter fun p => 0 < p.2).map Prod.fst

/--
**Message keys are fresh across `InitSession`** exactly when no two epochs that
sent an envelope were started for the same identities in the same roles with the
same peer key.
-/
theorem Rekeying.fresh_keys_iff {s : σ} (hnone : SessionStore.get s c = .ok none)
    (calls : List RekeyCall) (hrun : run (Rekeying.call P c) ⟨s, [], [], []⟩ calls = w)
    (hcf : CollisionFree P w.derived) : w.sealed.Nodup ↔ w.used.Nodup := by
  have h : w.Tracks P c := hrun ▸ Rekeying.tracks_run hnone calls
  rw [h.sealed, List.nodup_flatMap]
  unfold Rekeying.used List.Nodup
  rw [List.pairwise_map, List.pairwise_filter]
  constructor
  · rintro ⟨-, hdisj⟩
    refine hdisj.imp ?_
    rintro p q hpq hp hq heq
    -- both epochs start with the same key
    refine hpq (mem_epochKeys.mpr ⟨0, by simpa using hp, rfl⟩)
      (mem_epochKeys.mpr ⟨0, by simpa using hq, ?_⟩)
    rw [heq]
  · intro hused
    refine ⟨fun p hp => ?_, hused.imp_of_mem fun {p q} hp hq hne x hxp hxq => ?_⟩
    · refine List.Nodup.map_on ?_ (List.nodup_reverse.mpr List.nodup_range)
      intro i hi j hj heq
      simp only [List.mem_reverse, List.mem_range] at hi hj
      have hrec := h.recorded p hp
      exact (hcf.messageKeyAt_inj (hrec.mono hi) (hrec.mono hj) (congrArg Prod.snd heq)).2
    · obtain ⟨i, hi, hxi⟩ := mem_epochKeys.mp hxp
      obtain ⟨j, hj, hxj⟩ := mem_epochKeys.mp hxq
      have hkey := congrArg Prod.snd (hxi.trans hxj.symm)
      have ho := (hcf.messageKeyAt_inj ((h.recorded p hp).mono hi) ((h.recorded q hq).mono hj)
        hkey).1
      exact hne (by simpa using Nat.zero_lt_of_lt hi) (by simpa using Nat.zero_lt_of_lt hj) ho

end

/-- Alice sends, sets the session up again with the same key, and sends again. -/
def sampleRekey : List RekeyCall :=
  [.initSession "alice" sampleKey 0, .encrypt [1] sampleInputs,
    .initSession "alice" sampleKey 0, .encrypt [2] sampleInputs]

/-- Two different plaintexts sealed under one key. -/
theorem Rekeying.reinit_reuses_key :
    let w := run (Rekeying.call transparent "bob")
      ⟨(⟨∅, keyed_empty⟩ : InMemorySessionStore), [], [], []⟩ sampleRekey
    CollisionFree transparent w.derived ∧ w.sealed.length = 2 ∧ ¬ w.sealed.Nodup := by
  decide +kernel

/-- One `InitSession` and two messages. -/
theorem Rekeying.one_epoch_fresh :
    let w := run (Rekeying.call transparent "bob")
      ⟨(⟨∅, keyed_empty⟩ : InMemorySessionStore), [], [], []⟩
      [.initSession "alice" sampleKey 0, .encrypt [1] sampleInputs, .encrypt [2] sampleInputs]
    w.sealed.length = 2 ∧ w.sealed.Nodup := by
  refine ⟨by decide +kernel, ?_⟩
  exact (Rekeying.fresh_keys_iff (P := transparent) rfl _ rfl (by decide +kernel)).mpr
    (by decide +kernel)

end Ardents.Crypto
