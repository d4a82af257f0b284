import Ardents.Crypto.Sender

/-!
# Delivery over a hostile network

`a` encrypts; the network delivers to `b` whatever it likes, in any order, envelopes nobody sealed
included. The one thing it cannot do is open a seal that was never made, which `Unforged` says
step by step, relative to the seals made so far.
-/

namespace Ardents.Crypto

open Go

/-- One use of `Seal`: what `Open` would have to be given. -/
structure Sealing where
  key : Bytes
  nonce : Bytes
  ciphertext : Bytes
  ad : Bytes
  deriving DecidableEq

structure Link (σ τ : Type) where
  sender : σ
  receiver : τ
  /-- The envelopes `a` was returned, with their plaintexts, oldest first. -/
  produced : List (MessageEnvelope × Bytes)
  /-- The seals made in producing them. -/
  sealings : List Sealing
  /-- The envelopes `b` accepted, newest first. -/
  accepted : List MessageEnvelope

inductive LinkAction where
  | encrypt (plaintext : Bytes) (inp : EncryptInputs)
  | deliver (env : MessageEnvelope) (now : Time)

/-- Two envelopes that are one message: everything the seal covers is the same. -/
def SameMessage (e f : MessageEnvelope) : Prop :=
  e.messageID = f.messageID ∧ e.chainIndex = f.chainIndex ∧ e.nonce = f.nonce ∧
    e.ciphertext = f.ciphertext

def AcceptedBefore {σ τ : Type} (w : Link σ τ) (env : MessageEnvelope) : Prop :=
  ∃ e ∈ w.accepted, SameMessage e env

open Link

section

variable (P : Primitives) {σ τ : Type} [SessionStore σ] [SessionStore τ]

def Link.act (a b : String) (w : Link σ τ) : LinkAction → Link σ τ
  | .encrypt plaintext inp =>
    match encrypt P w.sender b plaintext inp with
    | .error _ => w
    | .ok (env, s') =>
      { w with
        sender := s'
        produced := w.produced ++ [(env, plaintext)]
        sealings := ⟨sendKey P w.sender b, env.nonce, env.ciphertext,
          envelopeAAD env.sessionID env.messageID env.chainIndex⟩ :: w.sealings }
  | .deliver env now =>
    match decrypt P w.receiver a env now with
    | .error _ => w
    | .ok (_, t') => { w with receiver := t', accepted := env :: w.accepted }

/-- A delivered envelope that opens under some key was sealed under that key. -/
def Unforged (w : Link σ τ) : LinkAction → Prop
  | .encrypt _ _ => True
  | .deliver env _ =>
    let ad := envelopeAAD env.sessionID env.messageID env.chainIndex
    ∀ key, key.length = keySize → P.aeadOpen key env.nonce env.ciphertext ad ≠ none →
      ⟨key, env.nonce, env.ciphertext, ad⟩ ∈ w.sealings

/-- What holds of a link whose ends share the chain `ck` under the session id `sid`. -/
structure Link.Good (a b : String) (ck : Bytes) (sid : String) (w : Link σ τ) : Prop where
  /-- `a` stands just after what it produced. -/
  sender : ∃ st, SessionStore.get w.sender b = .ok (some st) ∧
    SendsAt P ck sid w.produced.length st
  /-- `b` is a window onto the same chain, and its seen list names accepted messages only. -/
  receiver : ∃ st, SessionStore.get w.receiver a = .ok (some st) ∧ st.sessionID = sid ∧
    Window P ck (w.accepted.map (·.chainIndex)) st ∧
    ∀ m ∈ st.seenMessageIDs, ∃ e ∈ w.accepted, e.messageID = m
  /-- The `n`th envelope was sealed at position `n`. -/
  genuine : ∀ n env plaintext, w.produced[n]? = some (env, plaintext) →
    Genuine P ck sid n env plaintext
  /-- Every seal belongs to an envelope produced. -/
  sealings : ∀ t ∈ w.sealings, ∃ p ∈ w.produced, t.nonce = p.1.nonce ∧
    t.ciphertext = p.1.ciphertext ∧ t.ad = envelopeAAD sid p.1.messageID p.1.chainIndex
  /-- Every envelope accepted is a message produced. -/
  accepted : ∀ e ∈ w.accepted, ∃ p ∈ w.produced, SameMessage e p.1

variable {P} {a b : String} {ck : Bytes} {sid : String} {w : Link σ τ}

/-! ## The invariant -/

theorem Link.Good.exists_position (h : w.Good P a b ck sid) {p : MessageEnvelope × Bytes}
    (hp : p ∈ w.produced) : ∃ n < w.produced.length, Genuine P ck sid n p.1 p.2 := by
  obtain ⟨n, hn, hget⟩ := List.getElem_of_mem hp
  exact ⟨n, hn, h.genuine n p.1 p.2 (by rw [List.getElem?_eq_getElem hn, hget])⟩

theorem Link.Good.produced_unique (h : w.Good P a b ck sid) (hlen : w.produced.length < 2 ^ 64)
    {p q : MessageEnvelope × Bytes} (hp : p ∈ w.produced) (hq : q ∈ w.produced)
    (hidx : p.1.chainIndex = q.1.chainIndex) : p = q := by
  obtain ⟨m, hm, hmget⟩ := List.getElem_of_mem hp
  obtain ⟨n, hn, hnget⟩ := List.getElem_of_mem hq
  have hgm := h.genuine m p.1 p.2 (by rw [List.getElem?_eq_getElem hm, hmget])
  have hgn := h.genuine n q.1 q.2 (by rw [List.getElem?_eq_getElem hn, hnget])
  grind [Genuine.toNat_index]

variable {plaintext : Bytes} {env : MessageEnvelope}

theorem Link.Good.produce [LawfulSessionStore σ] (h : w.Good P a b ck sid) (hsid : sid ≠ "")
    {inp : EncryptInputs} {s' : σ}
    (henc : Crypto.encrypt P w.sender b plaintext inp = .ok (env, s')) :
    Genuine P ck sid w.produced.length env plaintext ∧ Good P a b ck sid
        { w with sender := s', produced := w.produced ++ [(env, plaintext)] } := by
  obtain ⟨st, hst, hat⟩ := h.sender
  obtain ⟨st₁, nonce, hget, -, henv, hall⟩ := encrypt_get henc
  obtain rfl := get_unique hst hget
  have hgen : Genuine P ck sid w.produced.length env plaintext := by
    rw [henv]
    exact hat.genuine hsid plaintext inp.unixNano nonce inp.sentAt
  refine ⟨hgen, ⟨_, (hall b).trans (if_pos rfl), ?_⟩, h.receiver, ?_, ?_, ?_⟩
  · simp_all [SendsAt.advance]
  · grind [cases Good]
  · intro t ht
    obtain ⟨p, hp, hsame⟩ := h.sealings t ht
    exact ⟨p, List.mem_append_left _ hp, hsame⟩
  · intro e he
    obtain ⟨p, hp, hsame⟩ := h.accepted e he
    exact ⟨p, List.mem_append_left _ hp, hsame⟩

theorem Link.Good.encrypt [LawfulSessionStore σ] (h : w.Good P a b ck sid) (hsid : sid ≠ "")
    (plaintext : Bytes) (inp : EncryptInputs) :
    (w.act P a b (.encrypt plaintext inp)).Good P a b ck sid := by
  simp only [Link.act]
  split
  · exact h
  · rename_i env s' henc
    obtain ⟨hgen, hgood⟩ := h.produce hsid henc
    refine ⟨hgood.sender, hgood.receiver, hgood.genuine, ?_, hgood.accepted⟩
    intro t ht
    rcases List.mem_cons.mp ht with rfl | ht
    · exact ⟨(env, plaintext), List.mem_append_right _ (List.mem_singleton.mpr rfl), rfl, rfl,
        by rw [← hgen.session]⟩
    · exact hgood.sealings t ht

theorem Link.Good.accepted_produced (h : w.Good P a b ck sid) {st st' : SessionState}
    {now : Time} {consumed : List UInt64} (hw : Window P ck consumed st) (hst : st.sessionID = sid)
    (hunf : Unforged P w (.deliver env now))
    (hdec : (decryptState P st env now).2 = .ok (st', plaintext)) :
    ∃ p ∈ w.produced, SameMessage env p.1 := by
  have hsid : env.sessionID = sid := (decryptState_ok hdec).1.1.trans hst
  have hopen := hw.opened hdec
  have hne : P.aeadOpen (messageKeyAt P ck env.chainIndex.toNat) env.nonce env.ciphertext
      (envelopeAAD env.sessionID env.messageID env.chainIndex) ≠ none := by
    grind [openEnvelope]
  obtain ⟨p, hp, hn, hc, had⟩ := h.sealings _ (hunf _ (messageKeyAt_length P ck _) hne)
  rw [hsid] at had
  obtain ⟨hm, hi⟩ := envelopeAAD_inj had
  exact ⟨p, hp, hm, hi, hn, hc⟩

theorem Link.Good.accept [LawfulSessionStore τ] (h : w.Good P a b ck sid)
    (hlen : w.produced.length < 2 ^ 64) {now : Time}
    {t' : τ} (hdec : decrypt P w.receiver a env now = .ok (plaintext, t'))
    {p : MessageEnvelope × Bytes} (hp : p ∈ w.produced) (hsame : SameMessage env p.1) :
    Good P a b ck sid { w with receiver := t', accepted := env :: w.accepted } := by
  obtain ⟨st, hst, hid, hw, hseen⟩ := h.receiver
  obtain ⟨st₁, st₂, hget, hbody, hall⟩ := decrypt_get hdec
  obtain rfl := get_unique hst hget
  obtain ⟨n, hn, hgen⟩ := h.exists_position hp
  have hidx : env.chainIndex.toNat < 2 ^ 64 - 1 := by
    rw [hsame.2.1, hgen.toNat_index (by omega)]
    omega
  refine ⟨h.sender, ⟨st₂, (hall a).trans (if_pos rfl), ?_, (hw.decrypt hidx hbody).2, ?_⟩,
    h.genuine, h.sealings, ?_⟩
  · exact (decryptState_contactID hbody).2.trans hid
  · intro m hm
    rcases decryptState_seen hbody hm with hm | rfl
    · obtain ⟨e, he, heq⟩ := hseen m hm
      exact ⟨e, List.mem_cons_of_mem _ he, heq⟩
    · exact ⟨env, List.mem_cons_self, rfl⟩
  · intro e he
    rcases List.mem_cons.mp he with rfl | he
    · exact ⟨p, hp, hsame⟩
    · exact h.accepted e he

theorem Link.Good.deliver [LawfulSessionStore τ] (h : w.Good P a b ck sid)
    (hlen : w.produced.length < 2 ^ 64) (env : MessageEnvelope) (now : Time)
    (hunf : Unforged P w (.deliver env now)) :
    (w.act P a b (.deliver env now)).Good P a b ck sid := by
  simp only [Link.act]
  split
  · exact h
  · rename_i plaintext t' hdec
    obtain ⟨st, hst, hid, hw, -⟩ := h.receiver
    obtain ⟨st₁, st₂, hget, hbody, -⟩ := decrypt_get hdec
    obtain rfl := get_unique hst hget
    obtain ⟨p, hp, hsame⟩ := h.accepted_produced hw hid hunf hbody
    exact h.accept hlen hdec hp hsame

theorem Link.produced_length_act (w : Link σ τ) (x : LinkAction) :
    w.produced.length ≤ (w.act P a b x).produced.length := by
  cases x with
  | encrypt | deliver =>
    grind [Link.act]

theorem Link.good_run [LawfulSessionStore σ] [LawfulSessionStore τ] (hsid : sid ≠ "")
    (h : w.Good P a b ck sid) {acts : List LinkAction}
    (hunf : Along (Link.act P a b) (Unforged P) w acts)
    (hlen : (run (Link.act P a b) w acts).produced.length < 2 ^ 64) :
    (run (Link.act P a b) w acts).Good P a b ck sid := by
  refine along_run (I := fun v => v.produced.length < 2 ^ 64 → v.Good P a b ck sid)
    ?_ (fun _ => h) hunf hlen
  intro v x hv hx hvlen
  have hle := Nat.lt_of_le_of_lt (produced_length_act (P := P) (a := a) (b := b) v x) hvlen
  cases x with
  | encrypt plaintext inp => exact (hv hle).encrypt hsid plaintext inp
  | deliver env now => exact (hv hle).deliver hle env now hx

theorem Link.good_init [LawfulSessionStore σ] [LawfulSessionStore τ] {s₀ s : σ} {t₀ t : τ}
    {key : Bytes} {nowA nowB : Time} {stA stB : SessionState} (hab : a ≠ b)
    (hA : initSession P s₀ a b key nowA = .ok (stA, s))
    (hB : initSession P t₀ b a key nowB = .ok (stB, t)) :
    (Link.mk s t [] [] []).Good P a b stA.sendChainKey stA.sessionID := by
  obtain ⟨-, -, rfl, hsA⟩ := initSession_ok hA
  obtain ⟨-, -, rfl, hsB⟩ := initSession_ok hB
  refine ⟨⟨_, ?_, sendsAt_newSession P a b key ∅ nowA⟩,
    ⟨newSession P b a key ∅ nowB, ?_, ?_, ?_, ?_⟩, ?_, ?_, ?_⟩
  · exact (LawfulSessionStore.get_save b hsA).trans (if_pos rfl)
  · exact (LawfulSessionStore.get_save a hsB).trans (if_pos rfl)
  · exact buildSessionID_comm P b a key
  · -- what `a` sends on is what `b` receives on
    grind [newSession, deriveRootKey_comm, deriveInitialChainKeys_swap, window_newSession]
  · simp [newSession]
  · simp
  · intro t ht
    exact absurd ht (by simp)
  · intro e he
    exact absurd he (by simp)

/-! ## Which envelopes are accepted -/

theorem Link.Good.fresh_index (h : w.Good P a b ck sid) (hlen : w.produced.length < 2 ^ 64)
    (hp : (env, plaintext) ∈ w.produced)
    (hnew : ¬ AcceptedBefore w env) : env.chainIndex ∉ w.accepted.map (·.chainIndex) := by
  intro hmem
  obtain ⟨e, he, hidx⟩ := List.mem_map.mp hmem
  obtain ⟨q, hq, hsame⟩ := h.accepted e he
  have hqe : q = (env, plaintext) :=
    h.produced_unique hlen hq hp (hsame.2.1.symm.trans hidx)
  rw [hqe] at hsame
  exact hnew ⟨e, he, hsame⟩

theorem Link.Good.fresh_id (h : w.Good P a b ck sid) (hlen : w.produced.length < 2 ^ 64)
    (hp : (env, plaintext) ∈ w.produced)
    (hnew : ¬ AcceptedBefore w env) : ∀ e ∈ w.accepted, e.messageID ≠ env.messageID := by
  intro e he hid
  obtain ⟨q, hq, hsame⟩ := h.accepted e he
  obtain ⟨m, -, hgq⟩ := h.exists_position hq
  obtain ⟨n, -, hge⟩ := h.exists_position hp
  obtain ⟨t, ht⟩ := hgq.message
  obtain ⟨t', ht'⟩ := hge.message
  -- ids carry the index, so an equal id means an equal index
  have hids : messageIDFor t q.1.chainIndex = messageIDFor t' env.chainIndex := by
    rw [← ht, ← hsame.1, hid, ht']
  refine h.fresh_index hlen hp hnew (List.mem_map.mpr ⟨e, he, ?_⟩)
  exact hsame.2.1.trans (messageIDFor_index hids)

theorem Link.Good.decrypt_iff [LawfulSessionStore τ] (h : w.Good P a b ck sid)
    (hlen : w.produced.length < 2 ^ 64)
    (hp : (env, plaintext) ∈ w.produced) (hnew : ¬ AcceptedBefore w env) {st : SessionState}
    (hst : SessionStore.get w.receiver a = .ok (some st)) (now : Time) :
    (∀ r, decrypt P w.receiver a env now = .ok r → r.1 = plaintext) ∧
    ((∃ r, decrypt P w.receiver a env now = .ok r) ↔
      Open (w.accepted.map (·.chainIndex)) st.recvChainIndex env.chainIndex) := by
  obtain ⟨st₁, hst₁, hid, hw, hseen⟩ := h.receiver
  obtain rfl := get_unique hst hst₁
  obtain ⟨n, hn, hgen⟩ := h.exists_position hp
  have hopen : openEnvelope P (messageKeyAt P ck env.chainIndex.toNat) st.sessionID env
      = .ok plaintext := by
    rw [hgen.toNat_index (by omega), hid]
    exact hgen.opens
  have hadm : Admissible st env := by
    refine ⟨hgen.session.trans hid.symm, fun hmem => ?_⟩
    obtain ⟨e, he, hem⟩ := hseen _ hmem
    exact h.fresh_id hlen hp hnew e he hem
  have hplain : ∀ r, decrypt P w.receiver a env now = .ok r → r.1 = plaintext := by
    rintro ⟨pt, t'⟩ hdec
    obtain ⟨st₁, st₂, hget, hbody, -⟩ := decrypt_get hdec
    obtain rfl := get_unique hst hget
    exact Except.ok.inj ((hw.opened hbody).symm.trans hopen)
  refine ⟨hplain, ?_⟩
  rw [← hw.accepts_iff now hadm hopen]
  constructor
  · grind [decrypt_get]
  · rintro ⟨st₂, hbody⟩
    obtain ⟨t', -, hdec⟩ := decrypt_eq_ok hgen.valid hst hbody
    exact ⟨_, hdec⟩

/--
**Ratchet delivery.** Over any run of encryptions by `a` and deliveries to `b`, an
envelope produced at index `i` and not accepted before is accepted, with its own
plaintext, exactly when `R ≤ i ≤ R + 512` or `i < R ≤ i + 512`, provided it is not
behind the receive index `R` with `i + 512` past the end of `uint64`.
-/
theorem Link.delivery_iff [LawfulSessionStore σ] [LawfulSessionStore τ] {s₀ s : σ} {t₀ t : τ}
    {key : Bytes} {nowA nowB : Time} {stA stB : SessionState} (hab : a ≠ b)
    (hA : initSession P s₀ a b key nowA = .ok (stA, s))
    (hB : initSession P t₀ b a key nowB = .ok (stB, t))
    {acts : List LinkAction} (hrun : run (Link.act P a b) ⟨s, t, [], [], []⟩ acts = w)
    (hunf : Along (Link.act P a b) (Unforged P) ⟨s, t, [], [], []⟩ acts)
    (hlen : w.produced.length < 2 ^ 64) {env : MessageEnvelope} {plaintext : Bytes}
    (hp : (env, plaintext) ∈ w.produced) (hnew : ¬ AcceptedBefore w env) {st : SessionState}
    (hst : SessionStore.get w.receiver a = .ok (some st)) (now : Time) :
    let i := env.chainIndex.toNat
    let R := st.recvChainIndex.toNat
    (∀ r, decrypt P w.receiver a env now = .ok r → r.1 = plaintext) ∧
    (((∃ r, decrypt P w.receiver a env now = .ok r) ↔
        (R ≤ i ∧ i ≤ R + 512) ∨ (i < R ∧ R ≤ i + 512)) ↔
      (R ≤ i ∨ i + 512 < 2 ^ 64)) := by
  subst hrun
  have hsid : stA.sessionID ≠ "" := by
    obtain ⟨-, -, rfl, -⟩ := initSession_ok hA
    exact buildSessionID_ne_empty P a b key
  have hgood := good_run hsid (good_init hab hA hB) hunf hlen
  obtain ⟨hplain, hiff⟩ := hgood.decrypt_iff hlen hp hnew hst now
  have hfresh := hgood.fresh_index hlen hp hnew
  refine ⟨hplain, ?_⟩
  rw [hiff]
  unfold Open Retained
  have hR := st.recvChainIndex.toNat_lt
  simp only [hfresh, not_false_eq_true, and_true]
  omega

end

theorem decrypt_recvChainIndex {P : Primitives} {τ : Type} [SessionStore τ]
    [LawfulSessionStore τ] {ck : Bytes} {p p' : τ} {contactID : String} {consumed : List UInt64}
    {st : SessionState} {env : MessageEnvelope} {now : Time} {plaintext : Bytes}
    (hst : SessionStore.get p contactID = .ok (some st)) (hw : Window P ck consumed st)
    (hidx : env.chainIndex.toNat < 2 ^ 64 - 1)
    (hdec : decrypt P p contactID env now = .ok (plaintext, p')) :
    ∃ st', SessionStore.get p' contactID = .ok (some st') ∧
      st'.recvChainIndex.toNat = max st.recvChainIndex.toNat (env.chainIndex.toNat + 1) := by
  obtain ⟨st₁, st₂, hget, hbody, hall⟩ := decrypt_get hdec
  obtain rfl := get_unique hst hget
  refine ⟨st₂, (hall contactID).trans (if_pos rfl), ?_⟩
  obtain ⟨-, ⟨key, hk, -, rfl⟩ | ⟨hf, -, rfl⟩⟩ := decryptState_ok hbody
  · have hbehind := (hw.retained_of_key hk).1.1
    show st.recvChainIndex.toNat = _
    omega
  · have hle := hf.toNat_le.1
    show (env.chainIndex + 1).toNat = _
    rw [toNat_succ (n := 0) (by omega)]
    omega

/-! ## At the end of the index range

The bound on `i` is needed. Over the stand-in primitives, `a` sends until index
`2^64 - 5` with every envelope delivered, then two more of which only the second
arrives. The first is one step behind, and its key is gone: the staleness test
added the gap to its index and wrapped.
-/

section

def sampleLink : Link InMemorySessionStore InMemorySessionStore :=
  ⟨sampleStore "alice" "bob", sampleStore "bob" "alice", [], [], []⟩

variable {a b : String} {ck : Bytes} {sid : String} {σ τ : Type} [SessionStore σ]
  [SessionStore τ] {w : Link σ τ}

theorem Link.Good.send [LawfulSessionStore σ] (h : w.Good transparent a b ck sid)
    (hsid : sid ≠ "") {w₁ : Link σ τ}
    (hw₁ : w.act transparent a b (.encrypt [] sampleInputs) = w₁) :
    ∃ env, w₁.produced = w.produced ++ [(env, [])] ∧ w₁.accepted = w.accepted ∧
      w₁.receiver = w.receiver ∧ Genuine transparent ck sid w.produced.length env [] ∧
      Unforged transparent w₁ (.deliver env 0) := by
  obtain ⟨stA, hstA, hat⟩ := h.sender
  obtain ⟨s', -, henc⟩ := encrypt_eq_ok (P := transparent) [] sampleInputs hstA rfl
  have hgen := hat.genuine hsid [] sampleInputs.unixNano sampleNonce sampleInputs.sentAt
  generalize sealEnvelope transparent stA [] sampleInputs.unixNano sampleNonce
    sampleInputs.sentAt = env at henc hgen
  have hkey := hat.sendKey_eq hstA
  simp only [Link.act, henc] at hw₁
  subst hw₁
  refine ⟨env, rfl, rfl, rfl, hgen, ?_⟩
  -- the only key that opens it is the one it was sealed with
  intro key hk hne
  grind [cases Genuine, transparent_key_unique, messageKeyAt_length]

theorem Link.Good.send_next [LawfulSessionStore σ] [LawfulSessionStore τ]
    (h : w.Good transparent a b ck sid) (hsid : sid ≠ "")
    (hlen : w.produced.length + 1 < 2 ^ 64) {st : SessionState}
    (hst : SessionStore.get w.receiver a = .ok (some st))
    (hle : st.recvChainIndex.toNat ≤ w.produced.length)
    (hgap : w.produced.length ≤ st.recvChainIndex.toNat + 512) :
    ∃ env acts st', Along (Link.act transparent a b) (Unforged transparent) w acts ∧
      (run (Link.act transparent a b) w acts).produced = w.produced ++ [(env, [])] ∧
      (run (Link.act transparent a b) w acts).accepted = env :: w.accepted ∧
      env.chainIndex.toNat = w.produced.length ∧
      SessionStore.get (run (Link.act transparent a b) w acts).receiver a = .ok (some st') ∧
      st'.recvChainIndex.toNat = w.produced.length + 1 := by
  have hgood := h.encrypt hsid [] sampleInputs
  generalize hw₁ : w.act transparent a b (.encrypt [] sampleInputs) = w₁ at hgood
  obtain ⟨env, hprod, hacc, hrecv, hgen, hunf⟩ := h.send hsid hw₁
  have hidx : env.chainIndex.toNat = w.produced.length := hgen.toNat_index (by omega)
  have hlen₁ : w₁.produced.length < 2 ^ 64 := by
    simp_all
  have hmem : (env, []) ∈ w₁.produced := by
    simp_all
  rw [← hrecv] at hst
  obtain ⟨stR, hstR, -, hwin, -⟩ := hgood.receiver
  obtain rfl := get_unique hst hstR
  -- it was not accepted before: everything accepted lies behind the receiver
  have hnew : ¬ AcceptedBefore w₁ env := by
    rintro ⟨e, he, hsame⟩
    have hb := hwin.below e.chainIndex (List.mem_map.mpr ⟨e, he, rfl⟩)
    rw [hsame.2.1] at hb
    omega
  obtain ⟨-, hiff⟩ := hgood.decrypt_iff hlen₁ hmem hnew hst 0
  obtain ⟨⟨pt, t'⟩, hdec⟩ := hiff.mpr (Or.inr ⟨by omega, by omega⟩)
  obtain ⟨st₂, hst₂, hrecv₂⟩ := decrypt_recvChainIndex hst hwin (by omega) hdec
  have hrun : run (Link.act transparent a b) w [.encrypt [] sampleInputs, .deliver env 0]
      = { w₁ with receiver := t', accepted := env :: w₁.accepted } := by
    rw [run_cons, run_cons, run_nil, hw₁]
    simp only [Link.act, hdec]
  refine ⟨env, [.encrypt [] sampleInputs, .deliver env 0], st₂,
    ⟨trivial, by rw [hw₁]; exact hunf, trivial⟩, ?_, ?_, hidx, ?_, ?_⟩
  · rw [hrun]
    exact hprod
  · rw [hrun]
    exact congrArg (env :: ·) hacc
  · rw [hrun]
    exact hst₂
  · omega

/-- Alice sends twice and the second envelope overtakes the first. -/
def overtaken : List LinkAction :=
  [.encrypt [1, 2] sampleInputs, .encrypt [3] sampleInputs,
    .deliver (secondEnvelope "alice" "bob" [3]) 0]

theorem overtaken_unforged :
    Along (Link.act transparent "alice" "bob") (Unforged transparent) sampleLink overtaken := by
  refine ⟨trivial, trivial, fun key hk hopens => ?_, trivial⟩
  obtain rfl := transparent_key_unique (by decide +kernel) hk hopens
  decide +kernel

/-- The first envelope arrives late and is accepted. -/
theorem Link.overtaken_delivery :
    let w := run (Link.act transparent "alice" "bob") sampleLink overtaken
    w.accepted.map (·.chainIndex) = [1] ∧
      (firstEnvelope "alice" "bob" [1, 2], [1, 2]) ∈ w.produced ∧
      ∃ r, decrypt transparent w.receiver "alice" (firstEnvelope "alice" "bob" [1, 2]) 0
        = .ok r := by
  intro w
  have hp : (firstEnvelope "alice" "bob" [1, 2], [1, 2]) ∈ w.produced := by decide +kernel
  have hacc : w.accepted.map (·.chainIndex) = [1] := by decide +kernel
  have hrecv : ((SessionStore.get w.receiver "alice").toOption.join).map
      (·.recvChainIndex.toNat) = some 2 := by decide +kernel
  have hlen : w.produced.length < 2 ^ 64 := by decide +kernel
  have hrun : run (Link.act transparent "alice" "bob") sampleLink overtaken = w := rfl
  clear_value w
  obtain ⟨st, hst, hR⟩ := Option.map_eq_some_iff.mp hrecv
  have hget : SessionStore.get w.receiver "alice" = .ok (some st) := by
    cases hg : SessionStore.get w.receiver "alice" with
    | error e => rw [hg] at hst; exact nomatch hst
    | ok found => rw [hg] at hst; exact congrArg Except.ok hst
  have hnew : ¬ AcceptedBefore w (firstEnvelope "alice" "bob" [1, 2]) := by
    rintro ⟨e, he, -, hindex, -⟩
    have hmem := List.mem_map_of_mem (f := (·.chainIndex)) he
    rw [hacc, List.mem_singleton, hindex] at hmem
    exact absurd hmem (by decide)
  have hzero : (firstEnvelope "alice" "bob" [1, 2]).chainIndex.toNat = 0 := by decide
  have hiff := (delivery_iff (by decide) (initSession_sampleStore "alice" (by decide))
    (initSession_sampleStore "bob" (by decide)) hrun overtaken_unforged hlen hp hnew hget 0).2
  simp only [hzero, hR] at hiff
  exact ⟨hacc, hp, (hiff.mpr (by decide)).mpr (by decide)⟩

theorem sampleLink_good : ∃ ck sid, sid ≠ "" ∧ sampleLink.Good transparent "alice" "bob" ck sid :=
  ⟨_, _, buildSessionID_ne_empty transparent "alice" "bob" sampleKey,
    good_init (by decide) (initSession_sampleStore "alice" (by decide))
      (initSession_sampleStore "bob" (by decide))⟩

theorem exists_rounds : ∀ n : Nat, n < 2 ^ 64 →
    ∃ acts st, Along (Link.act transparent "alice" "bob") (Unforged transparent) sampleLink acts ∧
      (run (Link.act transparent "alice" "bob") sampleLink acts).produced.length = n ∧
      SessionStore.get (run (Link.act transparent "alice" "bob") sampleLink acts).receiver "alice"
        = .ok (some st) ∧ st.recvChainIndex.toNat = n
  | 0, _ => by
    exact ⟨[], _, trivial, rfl, get_sampleStore "bob" "alice", rfl⟩
  | n + 1, hn => by
    obtain ⟨acts, st, halong, hlen, hst, hidx⟩ := exists_rounds n (by omega)
    obtain ⟨ck, sid, hsid, hgood⟩ := sampleLink_good
    obtain ⟨env, more, st', hmore, hprod, -, -, hst', hidx'⟩ :=
      (good_run hsid hgood halong (by omega)).send_next hsid (by omega) hst
        (by omega) (by omega)
    refine ⟨acts ++ more, st', along_append.mpr ⟨halong, hmore⟩, ?_, ?_, ?_⟩
    · rw [run_append, hprod, List.length_append, hlen]
      rfl
    · rw [run_append]
      exact hst'
    · rw [hidx', hlen]

/--
Bob's receive index is `2^64 - 2` and Alice's envelope at `2^64 - 4` has not
arrived yet. It is within the window on paper, and Bob refuses it.
-/
theorem Link.late_index_refused : ∃ acts env plaintext st,
      let w := run (Link.act transparent "alice" "bob") sampleLink acts
      Along (Link.act transparent "alice" "bob") (Unforged transparent) sampleLink acts ∧
      (∀ p ∈ w.produced, p.1.chainIndex.toNat < 2 ^ 64 - 1) ∧
      (env, plaintext) ∈ w.produced ∧ ¬ AcceptedBefore w env ∧
      SessionStore.get w.receiver "alice" = .ok (some st) ∧
      env.chainIndex.toNat < st.recvChainIndex.toNat ∧
      st.recvChainIndex.toNat ≤ env.chainIndex.toNat + 512 ∧
      ∀ now r, decrypt transparent w.receiver "alice" env now ≠ .ok r := by
  obtain ⟨acts, st, halong, hlen, hst, hidx⟩ := exists_rounds (2 ^ 64 - 4) (by omega)
  obtain ⟨ck, sid, hsid, hgood⟩ := sampleLink_good
  have hgood₁ := good_run hsid hgood halong (by omega)
  generalize hw₁ : run (Link.act transparent "alice" "bob") sampleLink acts = w₁ at *
  -- one envelope that is not delivered, and one more that is
  have hgood₂ := hgood₁.encrypt hsid [] sampleInputs
  generalize hw₂ : w₁.act transparent "alice" "bob" (.encrypt [] sampleInputs) = w₂ at hgood₂
  obtain ⟨env, hprod₂, hacc₂, hrecv₂, hgen, -⟩ := hgood₁.send hsid hw₂
  have hlen₂ : w₂.produced.length = 2 ^ 64 - 3 := by
    simp_all
  rw [← hrecv₂] at hst
  obtain ⟨env₃, more, st₃, hmore, hprod₃, hacc₃, hidx₃, hst₃, hrecv₃⟩ :=
    hgood₂.send_next hsid (by omega) hst (by omega) (by omega)
  have halong₃ : Along (Link.act transparent "alice" "bob") (Unforged transparent) sampleLink
      (acts ++ .encrypt [] sampleInputs :: more) := by
    refine along_append.mpr ⟨halong, ?_⟩
    rw [hw₁]
    refine ⟨trivial, ?_⟩
    rw [hw₂]
    exact hmore
  have hrun₃ : run (Link.act transparent "alice" "bob") sampleLink
      (acts ++ .encrypt [] sampleInputs :: more)
      = run (Link.act transparent "alice" "bob") w₂ more := by
    rw [run_append, hw₁, run_cons, hw₂]
  have hlen₃ : (run (Link.act transparent "alice" "bob") w₂ more).produced.length
      = 2 ^ 64 - 2 := by
    rw [hprod₃, List.length_append, hlen₂]
    rfl
  have hgood₃ := good_run hsid hgood halong₃ (by rw [hrun₃, hlen₃]; omega)
  have hidx : env.chainIndex.toNat = 2 ^ 64 - 4 := by
    rw [hgen.toNat_index (by omega), hlen]
  rw [hrun₃] at hgood₃
  have hmem : (env, []) ∈ (run (Link.act transparent "alice" "bob") w₂ more).produced := by
    rw [hprod₃, hprod₂]
    simp
  have hnew : ¬ AcceptedBefore (run (Link.act transparent "alice" "bob") w₂ more) env := by
    rintro ⟨e, he, hsame⟩
    rw [hacc₃] at he
    rcases List.mem_cons.mp he with rfl | he
    · rw [hsame.2.1] at hidx₃
      omega
    · obtain ⟨stR, hstR, -, hwin, -⟩ := hgood₂.receiver
      obtain rfl := get_unique hst hstR
      have hb := hwin.below e.chainIndex (List.mem_map.mpr ⟨e, he, rfl⟩)
      rw [hsame.2.1] at hb
      omega
  refine ⟨acts ++ .encrypt [] sampleInputs :: more, env, [], st₃, ?_⟩
  dsimp only
  rw [hrun₃]
  refine ⟨halong₃, ?_, hmem, hnew, hst₃, by omega, by omega, ?_⟩
  · intro p hp
    obtain ⟨n, hn, hgp⟩ := hgood₃.exists_position hp
    rw [hgp.toNat_index (by omega)]
    omega
  · intro now r hdec
    have hopen := ((hgood₃.decrypt_iff (by omega) hmem hnew hst₃ now).2.mp ⟨r, hdec⟩)
    rcases hopen with hret | ⟨hle, -⟩
    · have := hret.2.2.1
      omega
    · omega

end

end Ardents.Crypto
