import Ardents.Crypto.Delivery
import Ardents.Messaging.Outbound

/-!
# A session and its failed publishes

Whatever `a` publishes to `b` arrives in the order published. Every attempt seals a new envelope,
so an attempt that fails still moves `a` along its chain while `b` stays where it is. `b` follows
over a gap of at most 512, and the queue puts no bound on how many attempts fail.
-/

namespace Ardents.Messaging

open Go
open Crypto
open Identity (ContactCard)

/-! ## The exchange -/

/-- A wire handed to `b`: the content it was built for, and what `b` made of it. -/
structure Receipt where
  wire : WirePayload
  content : Bytes
  resolved : Bytes × ContentType

structure Traffic (σ τ : Type) where
  sessions : σ
  inFlight : List Attempt
  peer : τ
  /-- The envelopes built for `b` with the contents sealed in them, oldest first. -/
  built : List (MessageEnvelope × Bytes)
  /-- The wires published to `b`, oldest first. -/
  received : List Receipt

namespace Traffic

variable (P : Primitives) {σ τ : Type} [SessionStore τ] (a b : String)

def start (t : Traffic σ τ) (att : Attempt) (sessions : σ) : Traffic σ τ :=
  { t with
    sessions := sessions
    inFlight := t.inFlight ++ [att]
    built := if att.recipient = b ∧ att.wire.kind = .e2ee then
      t.built ++ [(att.wire.envelope, att.content)] else t.built }

def drop (t : Traffic σ τ) (i : Nat) : Traffic σ τ :=
  { t with inFlight := t.inFlight.eraseIdx i }

/-- A wire has been published; if it is for `b`, `b` resolves it. -/
def arrive (t : Traffic σ τ) (att : Attempt) (payload : Bytes) (arrival : Time) : Traffic σ τ :=
  if att.recipient = b then
    let r := resolveInboundContent P t.peer a payload att.wire arrival
    { t with peer := r.2, received := t.received ++ [⟨att.wire, att.content, r.1⟩] }
  else t

/-- The chain indexes of the end-to-end encrypted wires published to `b`, in order. -/
def published (t : Traffic σ τ) : List Nat :=
  (t.received.filter fun r => r.wire.kind = .e2ee).map fun r => r.wire.envelope.chainIndex.toNat

end Traffic

structure Exchange (σ τ : Type) where
  outbox : Outbox
  traffic : Traffic σ τ

inductive OutboundEvent where
  | send (contactID content threadID : String) (inp : BuildInputs)
  /-- The retry loop collects the due messages, in the order the map yields them. -/
  | tick (now : Time) (batch : List PendingMessage)
  | recover (now : Time) (batch : List PendingMessage)
  /-- The loop takes up the next message of its batch. -/
  | next (inp : BuildInputs) (onError : PublishInputs)
  /-- An attempt in flight ends; if it was published, `b` sees `payload`. -/
  | publish (i : Nat) (inp : PublishInputs) (payload : Bytes) (arrival : Time)

namespace Exchange

variable (P : Primitives) {σ τ : Type} [SessionStore σ] [SessionStore τ]

/-- Both ends with nothing in flight, and whatever the message store holds. -/
def initial (sessions : σ) (peer : τ) (store : MessageStore) : Exchange σ τ :=
  { outbox := ⟨store, [], false⟩, traffic := ⟨sessions, [], peer, [], []⟩ }

def retrying (w : Exchange σ τ) : Bool := w.traffic.inFlight.any Attempt.isRetry

/-- A batch is taken up between batches only, and is what the map iteration may yield. -/
def collect (w : Exchange σ τ) (now : Time) (batch : List PendingMessage) (recovering : Bool) :
    Exchange σ τ :=
  if w.outbox.batch = [] ∧ w.retrying = false ∧
      batch.Perm (w.outbox.store.duePending now) then
    { w with outbox := { w.outbox with batch := batch, recovering := recovering } }
  else w

def step (a b : String) (w : Exchange σ τ) : OutboundEvent → Exchange σ τ
  | .send contactID content threadID inp =>
    match beginSend P w.traffic.sessions contactID content threadID inp with
    | .error _ => w
    | .ok (att, sessions) => { w with traffic := w.traffic.start b att sessions }
  | .tick now batch => w.collect now batch false
  | .recover now batch => w.collect (now + startupRecoveryLookahead) batch true
  | .next inp onError =>
    if w.retrying then w
    else
      match w.outbox.batch with
      | [] => w
      | p :: rest =>
        match beginRetry P w.traffic.sessions p inp with
        | .error f =>
          { w with outbox := { w.outbox with
              batch := rest, store := w.outbox.onPublishError p f onError } }
        | .ok (att, sessions) =>
          { outbox := { w.outbox with batch := rest }
            traffic := w.traffic.start b att sessions }
  | .publish i inp payload arrival =>
    match w.traffic.inFlight[i]? with
    | none => w
    | some att =>
      let done := w.outbox.finish inp att
      { outbox := { w.outbox with store := done.2 }
        traffic := if done.1 then (w.traffic.drop i).arrive P a b att payload arrival
          else w.traffic.drop i }

end Exchange

/-! ## What `b` can follow -/

/-- Where `b`'s receive index stands after a sequence of indexes it followed. -/
def frontier (R : Nat) (is : List Nat) : Nat := is.foldl (fun R i => max R (i + 1)) R

/-- Each index is within 512 of where the ones before it leave the receiver. -/
def InReach : Nat → List Nat → Prop
  | _, [] => True
  | R, i :: is => i ≤ R + 512 ∧ R ≤ i + 512 ∧ InReach (max R (i + 1)) is

instance decidableInReach : ∀ (R : Nat) (is : List Nat), Decidable (InReach R is)
  | _, [] => isTrue trivial
  | R, i :: is =>
    have := decidableInReach (max R (i + 1)) is
    inferInstanceAs (Decidable (_ ∧ _ ∧ _))

theorem inReach_snoc {R i : Nat} {is : List Nat} : InReach R (is ++ [i]) ↔
      InReach R is ∧ i ≤ frontier R is + 512 ∧ frontier R is ≤ i + 512 := by
  induction is generalizing R with
  | nil => simp [InReach, frontier]
  | cons j is ih => simp only [List.cons_append, InReach, ih, frontier, List.foldl_cons, and_assoc]

theorem frontier_snoc (R i : Nat) (is : List Nat) :
    frontier R (is ++ [i]) = max (frontier R is) (i + 1) := by
  rw [frontier, List.foldl_append]
  rfl

theorem InReach.of_append {R : Nat} {is js : List Nat} (h : InReach R (is ++ js)) :
    InReach R is := by
  induction is generalizing R with
  | nil => trivial
  | cons i is ih => exact ⟨h.1, h.2.1, ih h.2.2⟩

/-! ## What building a wire did -/

section

variable {P : Primitives} {σ : Type} [SessionStore σ]

/-- The wire of an attempt is an envelope of `Encrypt`, or there was no session to use. -/
def Builds (P : Primitives) (sessions : σ) (att : Attempt) (sessions' : σ) : Prop :=
  (att.wire.kind = .e2ee ∧ ∃ inp, encrypt P sessions att.recipient att.content inp
    = .ok (att.wire.envelope, sessions')) ∨
  (att.wire.kind = .plain ∧ SessionStore.get sessions att.recipient = .ok none ∧
    sessions' = sessions)

variable {inp : EncryptInputs}

theorem e2eeWire_ok {s s' : σ} {msg : Message} {wire : WirePayload}
    (h : e2eeWire P s msg inp = .ok (wire, s')) :
    wire.kind = .e2ee ∧ encrypt P s msg.contactID msg.content inp = .ok (wire.envelope, s') := by
  unfold e2eeWire at h
  split at h
  · exact absurd h (by simp)
  · rename_i env t henc
    obtain ⟨rfl, rfl⟩ := Prod.mk.inj (Except.ok.inj h)
    exact ⟨rfl, henc⟩

theorem buildWireForOutboundMessage_ok {s s' : σ} {msg : Message}
    {wire : WirePayload} (h : buildWireForOutboundMessage P s msg inp = .ok (wire, s')) :
    wire.kind = .e2ee ∧ encrypt P s msg.contactID msg.content inp = .ok (wire.envelope, s') := by
  grind [buildWireForOutboundMessage, e2eeWire_ok]

theorem buildWireForOutboundMessage_sessionRequired {s : σ} {msg : Message}
    (h : buildWireForOutboundMessage P s msg inp = .error .outboundSessionRequired) :
    SessionStore.get s msg.contactID = .ok none := by
  grind [e2eeWire, buildWireForOutboundMessage]

theorem buildStoredMessageWire_ok {s s' : σ} {msg : Message}
    {card : Option ContactCard} {wire : WirePayload}
    (h : buildStoredMessageWire P s msg inp card = .ok (wire, s')) :
    (wire.kind = .e2ee ∧ encrypt P s msg.contactID msg.content inp = .ok (wire.envelope, s')) ∨
      (wire.kind = .plain ∧ SessionStore.get s msg.contactID = .ok none ∧ s' = s) := by
  unfold buildStoredMessageWire at h
  split at h
  · rename_i hreq
    split at h
    · exact absurd h (by simp)
    · obtain ⟨rfl, rfl⟩ := Prod.mk.inj (Except.ok.inj h)
      exact Or.inr ⟨rfl, buildWireForOutboundMessage_sessionRequired hreq, rfl⟩
  · exact absurd h (by simp)
  · grind [buildWireForOutboundMessage_ok]

theorem beginSend_builds {s s' : σ} {contactID content threadID : String} {inp : BuildInputs}
    {att : Attempt} (h : beginSend P s contactID content threadID inp = .ok (att, s')) :
    Builds P s att s' := by
  unfold beginSend at h
  split at h
  · exact absurd h (by simp)
  · split at h
    · exact absurd h (by simp)
    · dsimp only at h
      split at h
      · exact absurd h (by simp)
      · rename_i hw
        obtain ⟨rfl, rfl⟩ := Prod.mk.inj (Except.ok.inj h)
        rcases buildStoredMessageWire_ok hw with ⟨hk, henc⟩ | hplain
        · exact Or.inl ⟨hk, _, henc⟩
        · exact Or.inr hplain

theorem beginRetry_builds {s s' : σ} {p : PendingMessage} {inp : BuildInputs} {att : Attempt}
    (h : beginRetry P s p inp = .ok (att, s')) : Builds P s att s' := by
  unfold beginRetry at h
  split at h
  · exact absurd h (by simp)
  · rename_i hw
    obtain ⟨rfl, rfl⟩ := Prod.mk.inj (Except.ok.inj h)
    rcases buildStoredMessageWire_ok hw with ⟨hk, henc⟩ | hplain
    · exact Or.inl ⟨hk, _, henc⟩
    · exact Or.inr hplain

end

/-! ## All an event can mean for the traffic -/

section

variable (P : Primitives) {σ τ : Type} [SessionStore σ] [SessionStore τ] (a b : String)

inductive Traffic.Step (t : Traffic σ τ) : Traffic σ τ → Prop where
  | other : Traffic.Step t t
  | start (att : Attempt) (sessions : σ) (h : Builds P t.sessions att sessions) :
      Traffic.Step t (t.start b att sessions)
  | drop (i : Nat) : Traffic.Step t (t.drop i)
  | arrive (i : Nat) (att : Attempt) (h : t.inFlight[i]? = some att) (payload : Bytes)
      (arrival : Time) : Traffic.Step t ((t.drop i).arrive P a b att payload arrival)

theorem Exchange.step_traffic (w : Exchange σ τ) (e : OutboundEvent) :
    Traffic.Step P a b w.traffic (w.step P a b e).traffic := by
  have hcollect : ∀ now batch recovering,
      Traffic.Step P a b w.traffic (w.collect now batch recovering).traffic := by
    intro now batch recovering
    unfold Exchange.collect
    split
    · exact .other
    · exact .other
  cases e with
  | send contactID content threadID inp =>
    simp only [Exchange.step]
    split
    · exact .other
    · rename_i att s' hbegin
      exact .start att s' (beginSend_builds hbegin)
  | tick now batch => exact hcollect now batch false
  | recover now batch => exact hcollect (now + startupRecoveryLookahead) batch true
  | next inp onError =>
    simp only [Exchange.step]
    split
    · exact .other
    · split
      · exact .other
      · split
        · exact .other
        · rename_i att s' hbegin
          exact .start att s' (beginRetry_builds hbegin)
  | publish i inp payload arrival =>
    simp only [Exchange.step]
    split
    · exact .other
    · rename_i att hatt
      split
      · exact .arrive i att hatt payload arrival
      · exact .drop i

end

/-! ## In step -/

namespace Traffic

variable {P : Primitives} {σ τ : Type} [SessionStore σ] [SessionStore τ] {a b : String}
  {ck : Bytes} {sid : String} {t t' : Traffic σ τ}

/-- The chain indexes of the wires for `b` still in flight. -/
def waiting (b : String) (t : Traffic σ τ) : List Nat :=
  (t.inFlight.filter fun att => att.recipient = b).map fun att =>
    att.wire.envelope.chainIndex.toNat

def link (t : Traffic σ τ) : Link σ τ :=
  { sender := t.sessions, receiver := t.peer, produced := t.built, sealings := []
    accepted := ((t.received.filter fun r => r.wire.kind = .e2ee).map fun r =>
      r.wire.envelope).reverse }

/-- `b` has followed every wire so far. -/
structure InStep (P : Primitives) (a b : String) (ck : Bytes) (sid : String)
    (t : Traffic σ τ) : Prop where
  good : t.link.Good P a b ck sid
  /-- `b` stands where the published indexes leave it. -/
  receiver : ∃ st, SessionStore.get t.peer a = .ok (some st) ∧
    st.recvChainIndex.toNat = frontier 0 t.published
  /-- A wire in flight to `b` is one of the envelopes built. -/
  wires : ∀ att ∈ t.inFlight, att.recipient = b → att.wire.kind = .e2ee ∧
    (att.wire.envelope, att.content) ∈ t.built
  /-- No index is published twice. -/
  fresh : (t.published ++ t.waiting b).Nodup
  resolved : ∀ r ∈ t.received, r.wire.kind = .e2ee ∧ r.resolved = (r.content, .e2ee)
  reach : InReach 0 t.published

/-- `b` has been handed a wire it could not follow. -/
structure Broken (t : Traffic σ τ) : Prop where
  unread : ∃ r ∈ t.received, r.wire.kind = .e2ee ∧ r.resolved ≠ (r.content, .e2ee)
  reach : ¬ InReach 0 t.published

theorem Step.received (h : Step P a b t t') : ∃ more, t'.received = t.received ++ more := by
  cases h with
  | other | start | drop => exact ⟨[], (List.append_nil _).symm⟩
  | arrive i att hatt payload arrival =>
    unfold Traffic.arrive
    split
    · exact ⟨_, rfl⟩
    · exact ⟨[], (List.append_nil _).symm⟩

theorem Step.built_length (h : Step P a b t t') : t.built.length ≤ t'.built.length := by
  cases h with
  | other => exact Nat.le_refl _
  | drop i => exact Nat.le_refl _
  | start att s' hb =>
    grind [Traffic.start]
  | arrive i att hatt payload arrival =>
    unfold Traffic.arrive
    split
    · exact Nat.le_refl _
    · exact Nat.le_refl _

theorem Broken.step (h : t.Broken) (hs : Step P a b t t') : t'.Broken := by
  obtain ⟨more, hmore⟩ := hs.received
  obtain ⟨r, hr, hbad⟩ := h.unread
  refine ⟨⟨r, ?_, hbad⟩, fun hreach => h.reach ?_⟩
  · simp_all
  · grind [published, InReach.of_append]

theorem InStep.index_lt (h : t.InStep P a b ck sid) (hlen : t.built.length < 2 ^ 64) {i : Nat}
    (hi : i ∈ t.published ++ t.waiting b) : i < t.built.length := by
  have hpos : ∀ p ∈ t.built, p.1.chainIndex.toNat < t.built.length := by
    intro p hp
    obtain ⟨n, hn, hgen⟩ := h.good.exists_position hp
    rw [hgen.toNat_index (Nat.lt_trans hn hlen)]
    exact hn
  rcases List.mem_append.mp hi with hi | hi
  · obtain ⟨r, hr, rfl⟩ := List.mem_map.mp hi
    have hacc : r.wire.envelope ∈ t.link.accepted :=
      List.mem_reverse.mpr (List.mem_map.mpr ⟨r, hr, rfl⟩)
    obtain ⟨p, hp, hsame⟩ := h.good.accepted _ hacc
    rw [hsame.2.1]
    exact hpos p hp
  · obtain ⟨att, hatt, rfl⟩ := List.mem_map.mp hi
    obtain ⟨hmem, hrec⟩ := List.mem_filter.mp hatt
    exact hpos _ (h.wires att hmem (of_decide_eq_true hrec)).2

theorem InStep.drop (h : t.InStep P a b ck sid) (i : Nat) : (t.drop i).InStep P a b ck sid := by
  have hsub : (t.drop i).inFlight.Sublist t.inFlight := List.eraseIdx_sublist _ _
  have hwait : ((t.drop i).waiting b).Sublist (t.waiting b) := (hsub.filter _).map _
  exact ⟨h.good, h.receiver, fun att hatt => h.wires att (hsub.subset hatt),
    h.fresh.sublist (hwait.append_left _), h.resolved, h.reach⟩

variable {att : Attempt}

theorem InStep.start_other (h : t.InStep P a b ck sid) {s' : σ} (hrec : att.recipient ≠ b)
    (hget : SessionStore.get s' b = SessionStore.get t.sessions b) :
    (t.start b att s').InStep P a b ck sid := by
  have hbuilt : (t.start b att s').built = t.built := if_neg fun hc => hrec hc.1
  have hlink : (t.start b att s').link = { t.link with sender := s' } := by
    unfold link
    rw [hbuilt]
    rfl
  have hwait : (t.start b att s').waiting b = t.waiting b := by
    simp [waiting, start, hrec]
  obtain ⟨st, hst, hat⟩ := h.good.sender
  refine ⟨?_, h.receiver, ?_, ?_, h.resolved, h.reach⟩
  · rw [hlink]
    exact ⟨⟨st, hget.trans hst, hat⟩, h.good.receiver, h.good.genuine, h.good.sealings,
      h.good.accepted⟩
  · intro att' hatt' hrec'
    rw [hbuilt]
    rcases List.mem_append.mp hatt' with hold | hnew
    · exact h.wires att' hold hrec'
    · simp_all
  · rw [hwait]
    exact h.fresh

theorem InStep.start_encrypt [LawfulSessionStore σ] (h : t.InStep P a b ck sid) (hsid : sid ≠ "")
    (hlen : t.built.length < 2 ^ 64) {s' : σ} {inp : EncryptInputs}
    (hrec : att.recipient = b) (hk : att.wire.kind = .e2ee)
    (henc : encrypt P t.sessions b att.content inp = .ok (att.wire.envelope, s')) :
    (t.start b att s').InStep P a b ck sid := by
  obtain ⟨hgen, hgood⟩ := h.good.produce hsid henc
  have hbuilt : (t.start b att s').built = t.built ++ [(att.wire.envelope, att.content)] :=
    if_pos ⟨hrec, hk⟩
  have hlink : (t.start b att s').link = { t.link with
      sender := s', produced := t.built ++ [(att.wire.envelope, att.content)] } := by
    unfold link
    rw [hbuilt]
    rfl
  have hidx : att.wire.envelope.chainIndex.toNat = t.built.length := hgen.toNat_index hlen
  have hwait : (t.start b att s').waiting b = t.waiting b ++ [t.built.length] := by
    simp [waiting, start, hrec, hidx]
  refine ⟨?_, h.receiver, ?_, ?_, h.resolved, h.reach⟩
  · rw [hlink]
    exact hgood
  · intro att' hatt' hrec'
    rw [hbuilt]
    rcases List.mem_append.mp hatt' with hold | hnew
    · obtain ⟨hk', hmem⟩ := h.wires att' hold hrec'
      exact ⟨hk', List.mem_append_left _ hmem⟩
    · simp_all
  · -- every index so far is smaller
    rw [hwait, ← List.append_assoc]
    refine h.fresh.append (List.nodup_singleton _) ?_
    intro i hi hn
    have hlt := h.index_lt hlen hi
    simp_all

theorem InStep.start [LawfulSessionStore σ] (h : t.InStep P a b ck sid) (hsid : sid ≠ "")
    (hlen : t.built.length < 2 ^ 64) {s' : σ}
    (hb : Builds P t.sessions att s') : (t.start b att s').InStep P a b ck sid := by
  by_cases hrec : att.recipient = b
  · rcases hb with ⟨hk, inp, henc⟩ | ⟨-, hnone, -⟩
    · rw [hrec] at henc
      exact h.start_encrypt hsid hlen hrec hk henc
    · -- `b` has a session, so its wires are never plain
      obtain ⟨st, hst, -⟩ := h.good.sender
      rw [hrec] at hnone
      exact absurd (hst.symm.trans hnone) (by simp)
  · rcases hb with ⟨-, inp, henc⟩ | ⟨-, -, rfl⟩
    · obtain ⟨st, nonce, -, -, -, hall⟩ := encrypt_get henc
      exact h.start_other hrec ((hall b).trans (if_neg hrec))
    · exact h.start_other hrec rfl

theorem InStep.decrypt_iff [LawfulSessionStore τ] (h : t.InStep P a b ck sid)
    (hlen : t.built.length + 512 ≤ 2 ^ 64) {env : MessageEnvelope} {content : Bytes}
    (hp : (env, content) ∈ t.built) (hx : env.chainIndex.toNat ∉ t.published) (now : Time) :
    (∀ r, decrypt P t.peer a env now = .ok r → r.1 = content) ∧
    ((∃ r, decrypt P t.peer a env now = .ok r) ↔
      env.chainIndex.toNat ≤ frontier 0 t.published + 512 ∧
        frontier 0 t.published ≤ env.chainIndex.toNat + 512) := by
  obtain ⟨st, hst, hR⟩ := h.receiver
  have hnew : ¬ AcceptedBefore t.link env := by
    rintro ⟨e, he, hsame⟩
    obtain ⟨r, hr, rfl⟩ := List.mem_map.mp (List.mem_reverse.mp he)
    rw [← hsame.2.1] at hx
    exact hx (List.mem_map.mpr ⟨r, hr, rfl⟩)
  have hlen64 : t.link.produced.length < 2 ^ 64 := by
    show t.built.length < 2 ^ 64
    omega
  obtain ⟨hplain, hiff⟩ := h.good.decrypt_iff hlen64 hp hnew hst now
  have hfresh := h.good.fresh_index hlen64 hp hnew
  obtain ⟨n, hn, hgen⟩ := h.good.exists_position hp
  have hidx : env.chainIndex.toNat < t.built.length := by
    rw [hgen.toNat_index (Nat.lt_trans hn hlen64)]
    exact hn
  refine ⟨hplain, hiff.trans ?_⟩
  unfold Open Retained
  rw [hR]
  simp only [hfresh, not_false_eq_true, and_true]
  omega

omit [SessionStore σ] [SessionStore τ] in
theorem waiting_perm {i : Nat} (hatt : t.inFlight[i]? = some att) (hrec : att.recipient = b) :
    (t.waiting b).Perm (att.wire.envelope.chainIndex.toNat :: (t.drop i).waiting b) := by
  obtain ⟨hi, hget⟩ := List.getElem?_eq_some_iff.mp hatt
  have hperm : t.inFlight.Perm (att :: t.inFlight.eraseIdx i) := by
    rw [← hget]
    exact (List.getElem_cons_eraseIdx_perm hi).symm
  have hmap := (hperm.filter fun att => decide (att.recipient = b)).map fun att =>
    att.wire.envelope.chainIndex.toNat
  rw [List.filter_cons_of_pos (by simpa using hrec), List.map_cons] at hmap
  exact hmap

omit [SessionStore σ] [SessionStore τ] in
theorem published_snoc {p : τ} {r : Receipt} (hk : r.wire.kind = .e2ee) :
    ({ t with peer := p, received := t.received ++ [r] } : Traffic σ τ).published
      = t.published ++ [r.wire.envelope.chainIndex.toNat] := by
  simp [published, hk]

omit [SessionStore σ] [SessionStore τ] in
theorem link_snoc {p : τ} {r : Receipt} (hk : r.wire.kind = .e2ee) :
    ({ t with peer := p, received := t.received ++ [r] } : Traffic σ τ).link
      = { t.link with receiver := p, accepted := r.wire.envelope :: t.link.accepted } := by
  simp [link, hk]

theorem InStep.read [LawfulSessionStore τ] (h : t.InStep P a b ck sid)
    (hlen : t.built.length < 2 ^ 64) {wire : WirePayload} {content : Bytes} {p : τ} {now : Time}
    (hk : wire.kind = .e2ee) (hp : (wire.envelope, content) ∈ t.built)
    (hfresh : (t.published ++ wire.envelope.chainIndex.toNat :: t.waiting b).Nodup)
    (hdec : decrypt P t.peer a wire.envelope now = .ok (content, p))
    (hreach : InReach 0 (t.published ++ [wire.envelope.chainIndex.toNat])) :
    ({ t with peer := p, received := t.received ++ [⟨wire, content, (content, .e2ee)⟩] } :
      Traffic σ τ).InStep P a b ck sid := by
  obtain ⟨st, hst, hR⟩ := h.receiver
  obtain ⟨stR, hstR, -, hw, -⟩ := h.good.receiver
  obtain rfl := get_unique hst hstR
  obtain ⟨n, hn, hgen⟩ := h.good.exists_position hp
  have hidx : wire.envelope.chainIndex.toNat = n := hgen.toNat_index (Nat.lt_trans hn hlen)
  have hn' : n < t.built.length := hn
  obtain ⟨st', hst', hR'⟩ := decrypt_recvChainIndex hst hw (by omega) hdec
  refine ⟨?_, ⟨st', hst', ?_⟩, h.wires, ?_, ?_, ?_⟩
  · rw [link_snoc hk]
    exact h.good.accept hlen hdec hp ⟨rfl, rfl, rfl, rfl⟩
  · rw [published_snoc hk, frontier_snoc, hR', hR]
  · rw [published_snoc hk, List.append_assoc]
    exact hfresh
  · intro r hr
    rcases List.mem_append.mp hr with hr | hr
    · exact h.resolved r hr
    · rw [List.mem_singleton.mp hr]
      exact ⟨hk, rfl⟩
  · rw [published_snoc hk]
    exact hreach

theorem InStep.arrive [LawfulSessionStore τ] (h : t.InStep P a b ck sid)
    (hlen : t.built.length + 512 ≤ 2 ^ 64) {i : Nat}
    (hatt : t.inFlight[i]? = some att) (payload : Bytes) (arrival : Time) :
    ((t.drop i).arrive P a b att payload arrival).InStep P a b ck sid ∨
      ((t.drop i).arrive P a b att payload arrival).Broken := by
  have hdrop := h.drop i
  unfold Traffic.arrive
  by_cases hrec : att.recipient = b
  · rw [if_pos hrec]
    obtain ⟨hk, hp⟩ := h.wires att (List.mem_of_getElem? hatt) hrec
    have hfresh := (((waiting_perm hatt hrec).append_left t.published).nodup_iff).mp h.fresh
    have hx : att.wire.envelope.chainIndex.toNat ∉ t.published := fun hmem =>
      (List.nodup_append.mp hfresh).2.2 _ hmem _ List.mem_cons_self rfl
    obtain ⟨hplain, hiff⟩ := hdrop.decrypt_iff hlen hp hx arrival
    simp only [resolveInboundContent, hk]
    cases hdec : decrypt P (t.drop i).peer a att.wire.envelope arrival with
    | ok r =>
      obtain ⟨content, p⟩ := r
      obtain rfl : content = att.content := hplain _ hdec
      have hreach := inReach_snoc.mpr ⟨h.reach, hiff.mp ⟨_, hdec⟩⟩
      exact Or.inl (hdrop.read (show t.built.length < 2 ^ 64 by omega) hk hp hfresh hdec hreach)
    | error e =>
      refine Or.inr ⟨⟨_, List.mem_append_right _ (List.mem_singleton.mpr rfl), hk, ?_⟩, ?_⟩
      · simp
      · intro hreach
        rw [published_snoc hk] at hreach
        obtain ⟨r, hr⟩ := hiff.mpr (inReach_snoc.mp hreach).2
        exact absurd (hdec.symm.trans hr) (by simp)
  · rw [if_neg hrec]
    exact Or.inl hdrop

theorem InStep.step [LawfulSessionStore σ] [LawfulSessionStore τ] (h : t.InStep P a b ck sid)
    (hsid : sid ≠ "") (hlen : t.built.length + 512 ≤ 2 ^ 64) (hs : Step P a b t t') :
    t'.InStep P a b ck sid ∨ t'.Broken := by
  cases hs with
  | other => exact Or.inl h
  | start att s' hb => exact Or.inl (h.start hsid (by omega) hb)
  | drop i => exact Or.inl (h.drop i)
  | arrive i att hatt payload arrival => exact h.arrive hlen hatt payload arrival

theorem InStep.readable_iff (h : t.InStep P a b ck sid ∨ t.Broken) :
    (∀ r ∈ t.received, r.wire.kind = .e2ee → r.resolved = (r.content, .e2ee)) ↔
      InReach 0 t.published := by
  rcases h with h | h
  · exact ⟨fun _ => h.reach, fun _ r hr _ => (h.resolved r hr).2⟩
  · grind [cases Broken]

end Traffic

/-! ## Whole runs -/

section

variable {P : Primitives} {σ τ : Type} [SessionStore σ] [SessionStore τ]
  [LawfulSessionStore σ] [LawfulSessionStore τ] {a b : String}

theorem Exchange.inStep_initial {s₀ s : σ} {t₀ t : τ} {key : Bytes} {nowA nowB : Time}
    {stA stB : SessionState} (hab : a ≠ b) (hA : initSession P s₀ a b key nowA = .ok (stA, s))
    (hB : initSession P t₀ b a key nowB = .ok (stB, t)) (store : MessageStore) :
    (Exchange.initial s t store).traffic.InStep P a b stA.sendChainKey stA.sessionID := by
  obtain ⟨-, -, hstB, hsave⟩ := initSession_ok hB
  refine ⟨Link.good_init hab hA hB, ⟨stB, ?_, ?_⟩, ?_, List.nodup_nil, ?_, trivial⟩
  · have hid : stB.contactID = a := by rw [hstB]; rfl
    exact (LawfulSessionStore.get_save a hsave).trans (if_pos hid)
  · rw [hstB]
    rfl
  · simp [Exchange.initial]
  · simp [Exchange.initial]

theorem Exchange.inStep_or_broken {s₀ s : σ} {t₀ t : τ} {key : Bytes} {nowA nowB : Time}
    {stA stB : SessionState} (hab : a ≠ b) (hA : initSession P s₀ a b key nowA = .ok (stA, s))
    (hB : initSession P t₀ b a key nowB = .ok (stB, t)) (store : MessageStore)
    (events : List OutboundEvent)
    (hlen : (run (Exchange.step P a b) (Exchange.initial s t store) events).traffic.built.length
      + 512 ≤ 2 ^ 64) :
    let w := run (Exchange.step P a b) (Exchange.initial s t store) events
    w.traffic.InStep P a b stA.sendChainKey stA.sessionID ∨ w.traffic.Broken := by
  have hsid : stA.sessionID ≠ "" := by
    obtain ⟨-, -, rfl, -⟩ := initSession_ok hA
    exact buildSessionID_ne_empty P a b key
  -- the bound holds at the end, and only fewer envelopes were built before
  refine run_inv (I := fun v : Exchange σ τ => v.traffic.built.length + 512 ≤ 2 ^ 64 →
    v.traffic.InStep P a b stA.sendChainKey stA.sessionID ∨ v.traffic.Broken)
    ?_ (fun _ => Or.inl (Exchange.inStep_initial hab hA hB store)) events hlen
  intro v e hv hvlen
  have hstep := Exchange.step_traffic P a b v e
  have hle := Nat.le_trans (Nat.add_le_add_right hstep.built_length 512) hvlen
  rcases hv hle with h | h
  · exact h.step hsid hle hstep
  · exact Or.inr (h.step hstep)

/--
**A session survives failed publishes within its window.** Over every run of sends
and retries between two ends paired by `InitSession`, `b` decrypts every wire
published to it, to the content of its message, exactly when each wire's chain index
is within 512 of the receive index the wires before it leave.
-/
theorem Exchange.published_decrypted_iff {s₀ s : σ} {t₀ t : τ} {key : Bytes} {nowA nowB : Time}
    {stA stB : SessionState} (hab : a ≠ b) (hA : initSession P s₀ a b key nowA = .ok (stA, s))
    (hB : initSession P t₀ b a key nowB = .ok (stB, t)) (store : MessageStore)
    (events : List OutboundEvent) {w : Exchange σ τ}
    (hrun : run (Exchange.step P a b) (Exchange.initial s t store) events = w)
    (hlen : w.traffic.built.length + 512 ≤ 2 ^ 64) :
    (∀ r ∈ w.traffic.received, r.wire.kind = .e2ee → r.resolved = (r.content, .e2ee)) ↔
      InReach 0 w.traffic.published := by
  subst hrun
  exact Traffic.InStep.readable_iff (Exchange.inStep_or_broken hab hA hB store events hlen)

end

/-! ## Sending while offline

The bound is met by a queue of ordinary messages. Alice sends 513 messages while the
network is down; each is queued and none is lost on the way. The next one, sent when
the network is back, is the first Bob sees, at index 513.
-/

section

def sampleBuild : BuildInputs := ⟨true, 0, sampleInputs, none⟩

def offline (msgID : String) : PublishInputs :=
  { rounds := [(some msgID, 0, true)]
    outcome := .error ⟨.network, "networking is not started"⟩
    now := 0, statusWritten := true, pendingWritten := true }

def online (msgID : String) : PublishInputs := { offline msgID with outcome := .ok () }

def sampleExchange : Exchange InMemorySessionStore InMemorySessionStore :=
  Exchange.initial (sampleStore "alice" "bob") (sampleStore "bob" "alice") MessageStore.empty

/-- Alice sends Bob a greeting, and the attempt ends as `inp` says. -/
def greet (inp : PublishInputs) : List OutboundEvent :=
  [.send "bob" "hi" "" sampleBuild, .publish 0 inp [] 0]

/-- `n` messages sent while offline. -/
def greetOffline (n : Nat) : List OutboundEvent :=
  (List.range n).flatMap fun k => greet (offline ("msg_" ++ toString k))

/-- Two greetings are sent while offline and the third is published: Bob reads it. -/
theorem Exchange.greeting_after_failures_decrypted :
    let w := run (Exchange.step transparent "alice" "bob") sampleExchange
      (greetOffline 2 ++ greet (online "msg_2"))
    w.traffic.built.length = 3 ∧ w.traffic.published = [2] ∧
      ∀ r ∈ w.traffic.received, r.wire.kind = .e2ee → r.resolved = (r.content, .e2ee) := by
  intro w
  have hpub : w.traffic.published = [2] := by decide +kernel
  have hiff := Exchange.published_decrypted_iff (by decide)
    (initSession_sampleStore "alice" (by decide)) (initSession_sampleStore "bob" (by decide))
    MessageStore.empty (greetOffline 2 ++ greet (online "msg_2")) (w := w) rfl (by decide +kernel)
  rw [hpub] at hiff
  exact ⟨by decide +kernel, hpub, hiff.mpr (by decide)⟩

variable {w : Exchange InMemorySessionStore InMemorySessionStore} {st : SessionState}

theorem beginSend_greeting {s : InMemorySessionStore}
    (hst : SessionStore.get s "bob" = .ok (some st)) :
    ∃ wire s', beginSend transparent s "bob" "hi" "" sampleBuild
        = .ok (.send "bob" "hi" "" wire, s') ∧ wire.kind = .e2ee ∧
      encrypt transparent s "bob" (bytesOf "hi") sampleInputs = .ok (wire.envelope, s') := by
  obtain ⟨s', -, henc⟩ := encrypt_eq_ok (P := transparent) (bytesOf "hi") sampleInputs hst rfl
  have hv : validateSendMessageInput "bob" "hi" = .ok ("bob", "hi") := by decide
  generalize sealEnvelope transparent st (bytesOf "hi") sampleInputs.unixNano sampleNonce
    sampleInputs.sentAt = env at henc
  refine ⟨{ kind := .e2ee, envelope := env, plain := [], threadID := trimSpace "", card := none },
    s', ?_, rfl, henc⟩
  simp [beginSend, hv, sampleBuild, buildStoredMessageWire, buildWireForOutboundMessage,
    newOutboundMessage, hst, e2eeWire, henc]

def sealedGreeting (t : Traffic InMemorySessionStore InMemorySessionStore) (wire : WirePayload)
    (s' : InMemorySessionStore) : Traffic InMemorySessionStore InMemorySessionStore :=
  { t with sessions := s', built := t.built ++ [(wire.envelope, bytesOf "hi")] }

theorem run_greet (hst : SessionStore.get w.traffic.sessions "bob" = .ok (some st))
    (hidle : w.traffic.inFlight = []) (inp : PublishInputs) : ∃ wire s', wire.kind = .e2ee ∧
      encrypt transparent w.traffic.sessions "bob" (bytesOf "hi") sampleInputs
        = .ok (wire.envelope, s') ∧
      (run (Exchange.step transparent "alice" "bob") w (greet inp)).traffic =
        if (w.outbox.finish inp (.send "bob" "hi" "" wire)).1 then
          (sealedGreeting w.traffic wire s').arrive transparent "alice" "bob"
            (.send "bob" "hi" "" wire) [] 0
        else sealedGreeting w.traffic wire s' := by
  obtain ⟨wire, s', hbegin, hk, henc⟩ := beginSend_greeting hst
  refine ⟨wire, s', hk, henc, ?_⟩
  have hrec : (Attempt.send "bob" "hi" "" wire).recipient = "bob" := rfl
  simp [greet, Exchange.step, hbegin, Traffic.start, Traffic.drop, hidle, Attempt.wire, hk, hrec,
    Attempt.content, sealedGreeting]

theorem finish_offline (o : Outbox) (msgID : String) (att : Attempt) :
    (o.finish (offline msgID) att).1 = false := by
  cases att with
  | send contactID content threadID wire =>
    simp only [Outbox.finish]
    split
    · rfl
    · rfl
  | retry p wire => rfl

theorem finish_online {o : Outbox} {msgID : String} (hid : o.store.messages[msgID]? = none)
    (contactID content threadID : String) (wire : WirePayload) :
    (o.finish (online msgID) (.send contactID content threadID wire)).1 = true := by
  have hnorm : ∀ m : Message, (normalizeMessageConversation m).id = m.id := by
    grind [normalizeMessageConversation]
  simp [Outbox.finish, online, offline, allocateOutboundMessage, MessageStore.saveMessage, hnorm,
    newOutboundMessage, hid, MessageStore.commit, Except.toBool]

theorem run_greetOffline (n : Nat) :
    let w := run (Exchange.step transparent "alice" "bob") sampleExchange (greetOffline n)
    w.traffic.inFlight = [] ∧ w.traffic.received = [] ∧ w.traffic.built.length = n ∧
      ∃ st, SessionStore.get w.traffic.sessions "bob" = .ok (some st) := by
  induction n with
  | zero => exact ⟨rfl, rfl, rfl, _, get_sampleStore "alice" "bob"⟩
  | succ n ih =>
    have hsplit : greetOffline (n + 1)
        = greetOffline n ++ greet (offline ("msg_" ++ toString n)) := by
      simp [greetOffline, List.range_succ]
    obtain ⟨hidle, hrecv, hlen, st, hst⟩ := ih
    rw [hsplit, run_append]
    obtain ⟨wire, s', -, henc, htraffic⟩ :=
      run_greet hst hidle (offline ("msg_" ++ toString n))
    rw [finish_offline, if_neg (by simp)] at htraffic
    obtain ⟨st₁, nonce, -, -, -, hall⟩ := encrypt_get henc
    grind [sealedGreeting]

theorem sampleExchange_run (events : List OutboundEvent)
    (hlen : (run (Exchange.step transparent "alice" "bob") sampleExchange
      events).traffic.built.length + 512 ≤ 2 ^ 64) :
    let w := run (Exchange.step transparent "alice" "bob") sampleExchange events
    let stA := newSession transparent "alice" "bob" sampleKey (∅ : SkippedKeys) 0
    w.traffic.InStep transparent "alice" "bob" stA.sendChainKey stA.sessionID ∨
      w.traffic.Broken :=
  Exchange.inStep_or_broken (by decide) (initSession_sampleStore "alice" (by decide))
    (initSession_sampleStore "bob" (by decide)) MessageStore.empty events hlen

theorem exists_unused_id (store : MessageStore) :
    ∃ msgID : String, store.messages[msgID]? = none := by
  obtain ⟨msgID, hid⟩ := Infinite.exists_notMem_finset store.messages.keys.toFinset
  refine ⟨msgID, Std.ExtTreeMap.getElem?_eq_none fun hmem => hid ?_⟩
  simp_all

theorem Exchange.unread_after_outage (n : Nat) (hn : 512 < n) (hmax : n + 513 ≤ 2 ^ 64) : ∃ msgID,
      let w := run (Exchange.step transparent "alice" "bob") sampleExchange
        (greetOffline n ++ greet (online msgID))
      w.traffic.built.length = n + 1 ∧
        ∃ r ∈ w.traffic.received, r.wire.kind = .e2ee ∧ r.resolved ≠ (r.content, .e2ee) := by
  obtain ⟨hidle, hrecv, hlen, st, hst⟩ := run_greetOffline n
  have hbefore := sampleExchange_run (greetOffline n) (by rw [hlen]; omega)
  have hafter := fun msgID => sampleExchange_run (greetOffline n ++ greet (online msgID))
  simp only [run_append] at hafter ⊢
  generalize run (Exchange.step transparent "alice" "bob") sampleExchange (greetOffline n) = w
    at hidle hrecv hlen hst hbefore hafter
  obtain ⟨msgID, hid⟩ := exists_unused_id w.outbox.store
  obtain ⟨wire, s', hk, henc, htraffic⟩ := run_greet hst hidle (online msgID)
  rw [finish_online hid, if_pos rfl] at htraffic
  -- nothing was received yet, so the ends are still in step and the wire has index `n`
  have hidx : wire.envelope.chainIndex.toNat = n := by
    rcases hbefore with h | h
    · have hgen := (h.good.produce (buildSessionID_ne_empty _ _ _ _) henc).1
      exact (hgen.toNat_index (by show w.traffic.built.length < _; omega)).trans hlen
    · obtain ⟨r, hr, -⟩ := h.unread
      rw [hrecv] at hr
      exact absurd hr (by simp)
  have hbuilt : (run (Exchange.step transparent "alice" "bob") w
      (greet (online msgID))).traffic.built.length = n + 1 := by
    rw [htraffic]
    simp [Traffic.arrive, Attempt.recipient, sealedGreeting, hlen]
  have hpub : (run (Exchange.step transparent "alice" "bob") w
      (greet (online msgID))).traffic.published = [n] := by
    rw [htraffic]
    simp [Traffic.arrive, Attempt.recipient, Attempt.wire, sealedGreeting, Traffic.published,
      hrecv, hk, hidx]
  refine ⟨msgID, hbuilt, ?_⟩
  have hiff := Traffic.InStep.readable_iff (hafter msgID (by rw [hbuilt]; omega))
  rw [hpub] at hiff
  by_contra hall
  have hreach := hiff.mp fun r hr hkr => by_contra fun hne => hall ⟨r, hr, hkr, hne⟩
  have := hreach.1
  omega

/-- Alice sends 513 messages offline and one more online, which Bob cannot read. -/
theorem Exchange.greeting_after_outage_unread : ∃ msgID,
      let w := run (Exchange.step transparent "alice" "bob") sampleExchange
        (greetOffline 513 ++ greet (online msgID))
      w.traffic.built.length = 514 ∧
        ∃ r ∈ w.traffic.received, r.wire.kind = .e2ee ∧ r.resolved ≠ (r.content, .e2ee) :=
  Exchange.unread_after_outage 513 (by decide) (by decide)

end

end Ardents.Messaging
