import Ardents.Crypto.SessionStore
import Ardents.Crypto.Window

/-!
# The session manager

`InitSession`, `Encrypt` and `Decrypt` over a store, and what each does when it succeeds.
-/

namespace Ardents.Crypto

open Go
open LawfulSessionStore

section

variable (P : Primitives) {σ : Type} [SessionStore σ]

def initSession (s : σ) (localIdentityID contactID : String) (peerPublicKey : Bytes) (now : Time) :
    Except SessionError (SessionState × σ) :=
  match checkInitSession contactID peerPublicKey with
  | .error e => .error e
  | .ok () =>
    let state := newSession P localIdentityID contactID peerPublicKey (∅ : SkippedKeys) now
    match SessionStore.save s state with
    | .error e => .error e
    | .ok s' => .ok (state, s')

def encrypt (s : σ) (contactID : String) (plaintext : Bytes) (inp : EncryptInputs) :
    Except SessionError (MessageEnvelope × σ) :=
  match SessionStore.get s contactID with
  | .error e => .error e
  | .ok none => .error .sessionNotFound
  | .ok (some st) =>
    match encryptState P st plaintext inp with
    | .error e => .error e
    | .ok (st', env) =>
      match SessionStore.save s st' with
      | .error e => .error e
      | .ok s' => .ok (env, s')

def decrypt (s : σ) (contactID : String) (env : MessageEnvelope) (now : Time) :
    Except SessionError (Bytes × σ) :=
  match validateEnvelope env with
  | .error e => .error e
  | .ok () =>
    match SessionStore.get s contactID with
    | .error e => .error e
    | .ok none => .error .sessionNotFound
    | .ok (some st) =>
      match (decryptState P st env now).2 with
      | .error e => .error e
      | .ok (st', plaintext) =>
        match SessionStore.save s st' with
        | .error e => .error e
        | .ok s' => .ok (plaintext, s')

/-! ## What a successful call did -/

/-- The envelope `Encrypt` builds at the session's send index. -/
def sealEnvelope {K : Type} (st : SessionRecord K) (plaintext : Bytes) (unixNano : Int)
    (nonce : Nonce) (sentAt : Time) : MessageEnvelope :=
  let messageID := messageIDFor unixNano st.sendChainIndex
  { version := 1
    sessionID := st.sessionID
    messageID := messageID
    ratchetPubKey := deriveRatchetPubKey P st.rootKey st.sendChainIndex
    chainIndex := st.sendChainIndex
    previousCount := st.recvChainIndex
    nonce := nonce.1
    ciphertext := P.aeadSeal (deriveMessageKey P st.sendChainKey st.sendChainIndex).1 nonce.1
      plaintext (envelopeAAD st.sessionID messageID st.sendChainIndex)
    sentAt := sentAt }

/-- The session `Encrypt` saves: one step further along the sending chain. -/
def advanceSend {K : Type} (st : SessionRecord K) (now : Time) : SessionRecord K :=
  { st with
    sendChainIndex := st.sendChainIndex + 1
    sendChainKey := (deriveMessageKey P st.sendChainKey st.sendChainIndex).2
    updatedAt := now }

theorem encryptState_eq {K : Type} (st : SessionRecord K) (plaintext : Bytes)
    (inp : EncryptInputs) : encryptState P st plaintext inp =
      match inp.nonce with
      | none => .error .randomUnavailable
      | some nonce => .ok (advanceSend P st inp.updatedAt,
          sealEnvelope P st plaintext inp.unixNano nonce inp.sentAt) := by
  unfold encryptState
  cases inp.nonce with
  | none => rfl
  | some nonce =>
    dsimp only
    rw [if_neg (by rw [deriveMessageKey_length]; simp)]
    rfl

variable {P}

variable {contactID : String} {now : Time}

theorem initSession_ok {s s' : σ} {localID : String} {key : Bytes}
    {st : SessionState} (h : initSession P s localID contactID key now = .ok (st, s')) :
    contactID ≠ "" ∧ key.length = 32 ∧ st = newSession P localID contactID key ∅ now ∧
      SessionStore.save s st = .ok s' := by
  grind [initSession, checkInitSession]

variable {plaintext : Bytes} {env : MessageEnvelope}

theorem encrypt_ok {s s' : σ} {inp : EncryptInputs}
    (h : encrypt P s contactID plaintext inp = .ok (env, s')) :
    ∃ st nonce, SessionStore.get s contactID = .ok (some st) ∧ inp.nonce = some nonce ∧
      env = sealEnvelope P st plaintext inp.unixNano nonce inp.sentAt ∧
      SessionStore.save s (advanceSend P st inp.updatedAt) = .ok s' := by
  unfold encrypt at h
  split at h
  · exact absurd h (by simp)
  · exact absurd h (by simp)
  · grind [encryptState_eq]

theorem decrypt_ok {s s' : σ} (h : decrypt P s contactID env now = .ok (plaintext, s')) :
    validateEnvelope env = .ok () ∧ ∃ st st', SessionStore.get s contactID = .ok (some st) ∧
      (decryptState P st env now).2 = .ok (st', plaintext) ∧ SessionStore.save s st' = .ok s' := by
  unfold decrypt at h
  grind

theorem decrypt_eq_ok [LawfulSessionStore σ] {s : σ}
    {st st' : SessionState} (hv : validateEnvelope env = .ok ())
    (hget : SessionStore.get s contactID = .ok (some st))
    (hdec : (decryptState P st env now).2 = .ok (st', plaintext)) :
    ∃ s', SessionStore.save s st' = .ok s' ∧
      decrypt P s contactID env now = .ok (plaintext, s') := by
  obtain ⟨s', hs⟩ := save_ok s st'
  grind [decrypt]

theorem encrypt_eq_ok [LawfulSessionStore σ] {s : σ} {st : SessionState}
    {nonce : Nonce} (plaintext : Bytes) (inp : EncryptInputs)
    (hget : SessionStore.get s contactID = .ok (some st)) (hn : inp.nonce = some nonce) :
    ∃ s', SessionStore.save s (advanceSend P st inp.updatedAt) = .ok s' ∧
      encrypt P s contactID plaintext inp
        = .ok (sealEnvelope P st plaintext inp.unixNano nonce inp.sentAt, s') := by
  obtain ⟨s', hs⟩ := save_ok s (advanceSend P st inp.updatedAt)
  refine ⟨s', hs, ?_⟩
  simp only [encrypt, hget, encryptState_eq, hn, hs]

theorem decryptState_contactID {st st' : SessionState}
    (h : (decryptState P st env now).2 = .ok (st', plaintext)) :
    st'.contactID = st.contactID ∧ st'.sessionID = st.sessionID := by
  obtain ⟨-, ⟨key, -, -, rfl⟩ | ⟨-, -, rfl⟩⟩ := decryptState_ok h
  · exact ⟨rfl, rfl⟩
  · exact ⟨rfl, rfl⟩

theorem encrypt_get [LawfulSessionStore σ] {s s' : σ} {inp : EncryptInputs}
    (h : encrypt P s contactID plaintext inp = .ok (env, s')) :
    ∃ st nonce, SessionStore.get s contactID = .ok (some st) ∧ inp.nonce = some nonce ∧
      env = sealEnvelope P st plaintext inp.unixNano nonce inp.sentAt ∧ ∀ c, SessionStore.get s' c =
        if contactID = c then .ok (some (advanceSend P st inp.updatedAt))
        else SessionStore.get s c := by
  obtain ⟨st, nonce, hget, hn, henv, hsave⟩ := encrypt_ok h
  refine ⟨st, nonce, hget, hn, henv, fun c => ?_⟩
  rw [get_save c hsave, ← get_contactID hget]
  rfl

theorem decrypt_get [LawfulSessionStore σ] {s s' : σ}
    (h : decrypt P s contactID env now = .ok (plaintext, s')) :
    ∃ st st', SessionStore.get s contactID = .ok (some st) ∧
      (decryptState P st env now).2 = .ok (st', plaintext) ∧ ∀ c, SessionStore.get s' c =
        if contactID = c then .ok (some st') else SessionStore.get s c := by
  obtain ⟨-, st, st', hget, hbody, hsave⟩ := decrypt_ok h
  refine ⟨st, st', hget, hbody, fun c => ?_⟩
  rw [get_save c hsave, (decryptState_contactID hbody).1,
    get_contactID hget]

end

/-! ## Replay freedom -/

inductive SessionCall where
  | encrypt (contactID : String) (plaintext : Bytes) (inp : EncryptInputs)
  | decrypt (contactID : String) (env : MessageEnvelope) (now : Time)

/-- A manager's store, and every envelope its `Decrypt` has accepted, newest first. -/
structure Ledger (σ : Type) where
  store : σ
  accepted : List (String × MessageEnvelope)

def Ledger.indexes {σ : Type} (m : Ledger σ) (contactID : String) : List UInt64 :=
  (m.accepted.filter fun p => p.1 = contactID).map fun p => p.2.chainIndex

section

variable (P : Primitives) {σ : Type} [SessionStore σ]

def Ledger.call (m : Ledger σ) : SessionCall → Ledger σ
  | .encrypt contactID plaintext inp =>
    match encrypt P m.store contactID plaintext inp with
    | .error _ => m
    | .ok (_, s') => { m with store := s' }
  | .decrypt contactID env now =>
    match decrypt P m.store contactID env now with
    | .error _ => m
    | .ok (_, s') => { store := s', accepted := (contactID, env) :: m.accepted }

/-- The contact's session is a window onto the chain `ck`, past the indexes accepted so far. -/
structure Ledger.Tracks (c : String) (ck : Bytes) (m : Ledger σ) : Prop where
  window : ∃ st, SessionStore.get m.store c = .ok (some st) ∧ Window P ck (m.indexes c) st
  nodup : (m.indexes c).Nodup

variable {P} {c : String} {ck : Bytes} {m : Ledger σ}

omit [SessionStore σ] in
theorem Ledger.indexes_cons_self (s : σ) (env : MessageEnvelope)
    (acc : List (String × MessageEnvelope)) :
    (Ledger.mk s ((c, env) :: acc)).indexes c
      = env.chainIndex :: (Ledger.mk s acc).indexes c := by
  simp [Ledger.indexes]

omit [SessionStore σ] in
theorem Ledger.indexes_cons_ne (s : σ) {c' : String} (env : MessageEnvelope)
    (acc : List (String × MessageEnvelope)) (h : c' ≠ c) :
    (Ledger.mk s ((c', env) :: acc)).indexes c = (Ledger.mk s acc).indexes c := by
  simp [Ledger.indexes, h]

variable [LawfulSessionStore σ]

/-- A relation between the accepted indexes and the session's state holds after a call if sending
keeps it and every envelope that is opened does. -/
theorem Ledger.call_get {I : List UInt64 → SessionState → Prop}
    (hsend : ∀ l st now, I l st → I l (advanceSend P st now))
    (hrecv : ∀ l st st' env now plaintext, I l st → env.chainIndex.toNat < 2 ^ 64 - 1 →
      (decryptState P st env now).2 = .ok (st', plaintext) → I (env.chainIndex :: l) st')
    (h : ∃ st, SessionStore.get m.store c = .ok (some st) ∧ I (m.indexes c) st) (op : SessionCall)
    (hidx : ∀ env now, op = .decrypt c env now → env.chainIndex.toNat < 2 ^ 64 - 1) :
    ∃ st, SessionStore.get (m.call P op).store c = .ok (some st) ∧
      I ((m.call P op).indexes c) st := by
  obtain ⟨st, hst, hI⟩ := h
  cases op with
  | encrypt c' plaintext inp =>
    simp only [Ledger.call]
    split
    · exact ⟨st, hst, hI⟩
    · rename_i env s' henc
      obtain ⟨st₁, nonce, hget, -, -, hall⟩ := encrypt_get henc
      by_cases hc : c' = c
      · -- the session itself: only the sending half moved
        subst hc
        obtain rfl := get_unique hst hget
        exact ⟨_, (hall c').trans (if_pos rfl), hsend _ _ _ hI⟩
      · exact ⟨st, (hall c).trans ((if_neg hc).trans hst), hI⟩
  | decrypt c' env now =>
    simp only [Ledger.call]
    split
    · exact ⟨st, hst, hI⟩
    · rename_i plaintext s' hdec
      obtain ⟨st₁, st₂, hget, hbody, hall⟩ := decrypt_get hdec
      by_cases hc : c' = c
      · subst hc
        obtain rfl := get_unique hst hget
        refine ⟨st₂, (hall c').trans (if_pos rfl), ?_⟩
        rw [Ledger.indexes_cons_self]
        exact hrecv _ _ _ env now plaintext hI (hidx env now rfl) hbody
      · refine ⟨st, (hall c).trans ((if_neg hc).trans hst), ?_⟩
        rw [Ledger.indexes_cons_ne s' env m.accepted hc]
        exact hI

theorem Ledger.tracks_run {s₀ s : σ} {localID : String} {key : Bytes} {now : Time}
    {st : SessionState} (hinit : initSession P s₀ localID c key now = .ok (st, s))
    (calls : List SessionCall)
    (hidx : ∀ env now, .decrypt c env now ∈ calls → env.chainIndex.toNat < 2 ^ 64 - 1) :
    let m := run (Ledger.call P) ⟨s, []⟩ calls
    m.Tracks P c st.recvChainKey ∧ ∃ st', SessionStore.get m.store c = .ok (some st') ∧
      Bounded (m.indexes c) st' := by
  intro m
  let I (l : List UInt64) (st' : SessionState) : Prop :=
    Window P st.recvChainKey l st' ∧ l.Nodup ∧ Bounded l st'
  have hstart : SessionStore.get s c = .ok (some st) ∧ I [] st := by
    obtain ⟨-, -, rfl, hsave⟩ := initSession_ok hinit
    refine ⟨?_, window_newSession P localID c key now, List.nodup_nil, .inl rfl, Nat.zero_le _⟩
    rw [get_save c hsave]
    exact if_pos rfl
  obtain ⟨st', hst', hw, hnd, hb⟩ := along_run (I := fun m : Ledger σ => ∃ st',
      SessionStore.get m.store c = .ok (some st') ∧ I (m.indexes c) st')
    (C := fun _ op => ∀ env now, op = .decrypt c env now → env.chainIndex.toNat < 2 ^ 64 - 1)
    (fun m op h hop => Ledger.call_get
      (fun _ _ _ h => ⟨⟨h.1.chain, h.1.keys, h.1.below⟩, h.2.1, h.2.2.newest, h.2.2.seen⟩)
      (fun _ _ _ _ _ _ h hidx hbody => ⟨(h.1.decrypt hidx hbody).2,
        List.nodup_cons.mpr ⟨(h.1.decrypt hidx hbody).1, h.2.1⟩, h.2.2.decrypt hidx hbody⟩) h op
      hop)
    (s := ⟨s, []⟩) ⟨st, hstart⟩ (along_of_forall (by grind) _ : Along _ _ _ calls)
  exact ⟨⟨⟨st', hst', hw⟩, hnd⟩, st', hst', hb⟩

/--
**Replay freedom.** However long the run and whatever the envelopes, `Decrypt`
accepts at most one envelope per chain index of a session.
-/
theorem decrypt_accepts_index_once {s₀ s : σ} {localID : String} {key : Bytes} {now : Time}
    {st : SessionState} (hinit : initSession P s₀ localID c key now = .ok (st, s))
    (calls : List SessionCall)
    (hidx : ∀ env now, .decrypt c env now ∈ calls → env.chainIndex.toNat < 2 ^ 64 - 1) :
    ((run (Ledger.call P) ⟨s, []⟩ calls).indexes c).Nodup :=
  (Ledger.tracks_run hinit calls hidx).1.nodup

/-- **The window of skipped keys.** Whatever the calls, the session keeps at most 511 keys, each the
message key of an index that lies at most 512 behind, and pruning always comes down to its bound. -/
theorem skipped_keys_window {s₀ s : σ} {localID : String} {key : Bytes} {now : Time}
    {st : SessionState} (hinit : initSession P s₀ localID c key now = .ok (st, s))
    (calls : List SessionCall)
    (hidx : ∀ env now, .decrypt c env now ∈ calls → env.chainIndex.toNat < 2 ^ 64 - 1) :
    (∃ st', SessionStore.get (run (Ledger.call P) ⟨s, []⟩ calls).store c = .ok (some st') ∧
      st'.recvChainKey = chainKeyAt P st.recvChainKey st'.recvChainIndex.toNat ∧
      (∀ (i : UInt64) key, st'.skippedKeys[i]? = some key → i.toNat < st'.recvChainIndex.toNat ∧
        st'.recvChainIndex.toNat ≤ i.toNat + 512 ∧ key = messageKeyAt P st.recvChainKey i.toNat) ∧
      st'.skippedKeys.size ≤ 511 ∧ st'.seenMessageIDs.length ≤ 1024) ∧
    ∀ keys recv max, (pruneSkippedKeys keys recv max).size ≤ max := by
  refine ⟨?_, pruneSkippedKeys_size⟩
  obtain ⟨htracks, st', hst', hbounded⟩ := Ledger.tracks_run hinit calls hidx
  obtain ⟨st'', hst'', hw⟩ := htracks.window
  obtain rfl := get_unique hst' hst''
  refine ⟨st', hst', hw.chain, fun i key hkey => ?_, hw.size_le hbounded, hbounded.seen⟩
  obtain ⟨hr, hkey⟩ := hw.retained_of_key hkey
  exact ⟨hr.1, hr.2.1, hkey⟩

end

def sampleKey : Bytes := List.replicate 32 7

def sampleNonce : Nonce := ⟨List.replicate 24 9, rfl⟩

def sampleInputs : EncryptInputs :=
  { unixNano := 1, nonce := some sampleNonce, sentAt := 0, updatedAt := 0 }

/-- An in-memory store after `InitSession` with `sampleKey`. -/
def sampleStore (localID contactID : String) : InMemorySessionStore :=
  let st := newSession transparent localID contactID sampleKey (∅ : SkippedKeys) 0
  ⟨(∅ : GoMap String SessionState).insert st.contactID st, keyed_insert keyed_empty st⟩

theorem initSession_sampleStore (localID : String) {contactID : String} (hc : contactID ≠ "") :
    initSession transparent (⟨∅, keyed_empty⟩ : InMemorySessionStore) localID contactID sampleKey 0
      = .ok (newSession transparent localID contactID sampleKey ∅ 0,
          sampleStore localID contactID) := by
  have hk : sampleKey.length = 32 := rfl
  simp only [initSession, checkInitSession, if_neg hc, hk, ne_eq, not_true_eq_false, if_false]
  rfl

theorem get_sampleStore (localID contactID : String) :
    SessionStore.get (sampleStore localID contactID) contactID
      = .ok (some (newSession transparent localID contactID sampleKey ∅ 0)) := by
  show Except.ok _ = _
  rw [sampleStore, get_insert]
  exact congrArg Except.ok (if_pos rfl)

/-- The first envelope of a session set up with `sampleKey`. -/
def firstEnvelope (localID contactID : String) (plaintext : Bytes) : MessageEnvelope :=
  sealEnvelope transparent (newSession transparent localID contactID sampleKey (∅ : SkippedKeys) 0)
    plaintext 1 sampleNonce 0

/-- Bob is given Alice's first envelope twice and accepts it once. -/
theorem decrypt_accepts_first_once :
    let calls : List SessionCall := [.decrypt "alice" (firstEnvelope "alice" "bob" [1, 2]) 0,
      .decrypt "alice" (firstEnvelope "alice" "bob" [1, 2]) 0]
    let final := run (Ledger.call transparent) ⟨sampleStore "bob" "alice", []⟩ calls
    final.indexes "alice" = [0] ∧ (final.indexes "alice").Nodup := by
  refine ⟨by decide +kernel,
    decrypt_accepts_index_once (initSession_sampleStore "bob" (by decide)) _ ?_⟩
  intro env now hmem
  simp only [List.mem_cons, SessionCall.decrypt.injEq, true_and, List.not_mem_nil, or_false,
    or_self] at hmem
  rw [hmem.1]
  decide

/-- The envelope after it. -/
def secondEnvelope (localID contactID : String) (plaintext : Bytes) : MessageEnvelope :=
  sealEnvelope transparent (advanceSend transparent
    (newSession transparent localID contactID sampleKey (∅ : SkippedKeys) 0) 0)
    plaintext 1 sampleNonce 0

/-- Alice's second envelope comes first: Bob keeps the key of the one before. -/
theorem skipped_keys_out_of_order :
    let calls : List SessionCall := [.decrypt "alice" (secondEnvelope "alice" "bob" [3]) 0]
    ∃ st, SessionStore.get (run (Ledger.call transparent) ⟨sampleStore "bob" "alice", []⟩
      calls).store "alice" = .ok (some st) ∧ st.skippedKeys.size = 1 ∧
      ∀ (i : UInt64) key, st.skippedKeys[i]? = some key → i.toNat < st.recvChainIndex.toNat := by
  intro calls
  have hone : ((SessionStore.get (run (Ledger.call transparent) ⟨sampleStore "bob" "alice", []⟩
      calls).store "alice").toOption.join).map (·.skippedKeys.size) = some 1 := by decide +kernel
  obtain ⟨⟨st, hget, -, hkeys, -⟩, -⟩ := skipped_keys_window (c := "alice")
    (initSession_sampleStore "bob" (by decide)) calls fun env now hmem => by
      obtain ⟨rfl, -⟩ : env = secondEnvelope "alice" "bob" [3] ∧ now = 0 := by
        simpa [calls] using hmem
      decide
  rw [hget] at hone
  exact ⟨st, hget, Option.some.inj hone, fun i key hkey => (hkeys i key hkey).1⟩

end Ardents.Crypto
