import Ardents.Crypto.SessionManager

/-!
# The sending side

A sending session stands at a position of its chain. `SendsAt` is that fact, free of any bound;
`Genuine` is what an envelope sealed there looks like to the other end: well formed, and open
under the message key of its position.
-/

namespace Ardents.Crypto

open Go

variable {P : Primitives} {K : Type} {ck : Bytes} {sid : String} {n : Nat}

/-- The session sends at position `n` of the chain that starts at `ck`. -/
structure SendsAt (P : Primitives) (ck : Bytes) (sid : String) (n : Nat) (st : SessionRecord K) :
    Prop where
  session : st.sessionID = sid
  chain : st.sendChainKey = chainKeyAt P ck n
  index : st.sendChainIndex = UInt64.ofNat n

theorem sendsAt_newSession (P : Primitives) (localID contactID : String) (key : Bytes)
    (noKeys : K) (now : Time) :
    SendsAt P (newSession P localID contactID key noKeys now).sendChainKey
      (newSession P localID contactID key noKeys now).sessionID 0
      (newSession P localID contactID key noKeys now) :=
  ⟨rfl, rfl, rfl⟩

theorem SendsAt.advance {st : SessionRecord K} (h : SendsAt P ck sid n st) (now : Time) :
    SendsAt P ck sid (n + 1) (advanceSend P st now) := by
  refine ⟨h.session, ?_, ?_⟩
  · show (deriveMessageKey P st.sendChainKey st.sendChainIndex).2 = _
    rw [h.chain, h.index]
    rfl
  · show st.sendChainIndex + 1 = _
    rw [h.index, UInt64.ofNat_add]
    rfl

theorem SendsAt.message_key {st : SessionRecord K} (h : SendsAt P ck sid n st) :
    (deriveMessageKey P st.sendChainKey st.sendChainIndex).1 = messageKeyAt P ck n := by
  rw [h.chain, h.index]
  rfl

/-- The message key `Encrypt` is about to use for a contact. -/
def sendKey (P : Primitives) {σ : Type} [SessionStore σ] (s : σ) (contactID : String) : Bytes :=
  match SessionStore.get s contactID with
  | .ok (some st) => (deriveMessageKey P st.sendChainKey st.sendChainIndex).1
  | _ => []

theorem SendsAt.sendKey_eq {σ : Type} [SessionStore σ] {s : σ} {contactID : String}
    {st : SessionState} (h : SendsAt P ck sid n st)
    (hst : SessionStore.get s contactID = .ok (some st)) :
    sendKey P s contactID = messageKeyAt P ck n := by
  unfold sendKey
  rw [hst]
  exact h.message_key

/-- An envelope sealed at position `n`. -/
structure Genuine (P : Primitives) (ck : Bytes) (sid : String) (n : Nat) (env : MessageEnvelope)
    (plaintext : Bytes) : Prop where
  session : env.sessionID = sid
  index : env.chainIndex = UInt64.ofNat n
  message : ∃ t, env.messageID = messageIDFor t env.chainIndex
  ciphertext : env.ciphertext = P.aeadSeal (messageKeyAt P ck n) env.nonce plaintext
    (envelopeAAD sid env.messageID env.chainIndex)
  valid : validateEnvelope env = .ok ()

theorem buildSessionID_ne_empty (P : Primitives) (a b : String) (key : Bytes) :
    buildSessionID P a b key ≠ "" := by
  simp [buildSessionID]

theorem messageIDFor_ne_empty (t : Int) (idx : UInt64) : messageIDFor t idx ≠ "" := by
  simp [messageIDFor]

theorem messageIDFor_index {t t' : Int} {i j : UInt64} (h : messageIDFor t i = messageIDFor t' j) :
    i = j := by
  exact UInt64.toNat_inj.mp (decimal_suffix_inj h)

theorem SendsAt.genuine {st : SessionRecord K} (h : SendsAt P ck sid n st) (hsid : sid ≠ "")
    (plaintext : Bytes) (t : Int) (nonce : Nonce) (sentAt : Time) :
    Genuine P ck sid n (sealEnvelope P st plaintext t nonce sentAt) plaintext where
  session := h.session
  index := h.index
  message := ⟨t, rfl⟩
  ciphertext := by
    show P.aeadSeal _ _ _ _ = _
    rw [h.message_key, h.session]
    rfl
  valid := by
    have hs : st.sessionID ≠ "" := fun he => hsid (h.session.symm.trans he)
    have hm := messageIDFor_ne_empty t st.sendChainIndex
    have hk : (deriveRatchetPubKey P st.rootKey st.sendChainIndex).length = 32 :=
      P.kdf32_length _ _
    have hc : (sealEnvelope P st plaintext t nonce sentAt).ciphertext.length ≠ 0 := fun he =>
      P.seal_ne_nil _ _ _ _ (List.length_eq_zero_iff.mp he)
    unfold validateEnvelope
    rw [if_neg (by show (1 : UInt8) ≠ 0; decide), if_neg, if_neg]
    · rintro (he | he | he)
      · exact absurd (hk.symm.trans he) (by decide)
      · exact he nonce.2
      · exact hc he
    · rintro (he | he)
      · exact hs he
      · exact hm he

theorem Genuine.opens {env : MessageEnvelope} {plaintext : Bytes}
    (h : Genuine P ck sid n env plaintext) :
    openEnvelope P (messageKeyAt P ck n) sid env = .ok plaintext := by
  unfold openEnvelope
  rw [if_neg (by rw [messageKeyAt_length]; simp), h.ciphertext, P.open_seal]

theorem Genuine.toNat_index {env : MessageEnvelope} {plaintext : Bytes}
    (h : Genuine P ck sid n env plaintext) (hn : n < 2 ^ 64) : env.chainIndex.toNat = n := by
  rw [h.index, UInt64.toNat_ofNat_of_lt' hn]

end Ardents.Crypto
