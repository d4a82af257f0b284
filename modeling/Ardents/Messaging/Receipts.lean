import Ardents.Messaging.InboundDaemon
import Ardents.Messaging.Routing

/-!
# What a receipt changes

`applyInboundReceiptStatus` hands the id that a receipt names to the store, and neither asks whose
message that is. So a receipt from a verified contact moves the status of any message the sender
can name: one sent to somebody else, or one received.
-/

namespace Ardents.Messaging

open Go
open Calls (exec exec_bind exec_perform)

variable {γ : Type} {S : Surroundings γ} {d : Daemon γ} {msg : InboundPrivateMessage}
  {decision : InboundPolicyDecision} {wire : WirePayload} {receipt : MessageReceipt}

structure AuthenticatedReceipt (S : Surroundings γ) (d : Daemon γ) (msg : InboundPrivateMessage)
    (wire : WirePayload) (receipt : MessageReceipt) : Prop where
  verified : d.identity.hasVerifiedContact msg.senderID = true
  decoded : S.json.unmarshal msg.payload = some wire
  isReceipt : wire.kind = .receipt
  carries : wire.receipt = some receipt
  trusted : (validateInboundContactTrust S.primitives d.identity msg.senderID wire S.now).1 = none
  device : validateInboundDeviceAuth S.primitives S.json d.identity msg wire = some none

/-- Of the messages in the store, only the status of those sent to `contactID` differs. -/
def OnlyStatusTo (contactID : String) (before after : MessageStore) : Prop :=
  after.pending = before.pending ∧ ∀ (id : String) (m : Message), before.messages[id]? = some m →
    after.messages[id]? = some m ∨
      (m.contactID = contactID ∧ m.direction = .outbound ∧
        ∃ status, after.messages[id]? = some { m with status := status })

/-! ## Up to the receipt -/

theorem validateInboundContactTrust_verified
    (hverified : d.identity.hasVerifiedContact msg.senderID = true) :
    (validateInboundContactTrust S.primitives d.identity msg.senderID wire S.now).2 =
      d.identity := by
  unfold validateInboundContactTrust
  rw [if_pos hverified]
  split
  · rfl
  · split
    · rfl
    · split
      · rfl
      · rfl

theorem validateInboundDeviceAuth_valid
    (h : validateInboundDeviceAuth S.primitives S.json d.identity msg wire = some none) :
    validateWirePayload wire = .ok () := by
  unfold validateInboundDeviceAuth at h
  split at h
  · exact absurd h (by simp)
  · rename_i text htext
    exact (buildWireAuthPayload_ok htext).1

theorem evaluateInboundPolicy_verified
    (hverified : d.identity.hasVerifiedContact msg.senderID = true) :
    d.evaluateInboundPolicy msg.senderID =
      if d.isBlockedSender msg.senderID then
        ⟨.reject, .blockedSender, some (inboundPolicyError .blockedSender)⟩
      else ⟨.accept, .trustedContact, none⟩ := by
  have hknown : d.identity.hasContact msg.senderID = true := by
    obtain ⟨key, hkey⟩ := Identity.Manager.hasVerifiedContact_iff.mp hverified
    obtain ⟨contact, hcontact, -⟩ := Identity.Manager.contactPublicKey_eq_some.mp hkey
    exact Std.ExtTreeMap.contains_iff_mem.mpr (mem_iff_get.mpr ⟨contact, hcontact⟩)
  grind [Daemon.evaluateInboundPolicy, evaluateInboundMessagePolicy]

namespace AuthenticatedReceipt

theorem knownSender (h : AuthenticatedReceipt S d msg wire receipt) (test : Bool → Bool)
    (htest : test true = false) : exec (Daemon.answer S) (do
      let verified ← ask (.hasVerifiedContact msg.senderID)
      return test verified) d = (some false, d) := by
  have hasked : exec (Daemon.answer S) (ask (.hasVerifiedContact msg.senderID)) d =
      (some true, d) := by
    refine exec_perform ?_
    simp only [Daemon.answer, h.verified]
  rw [exec_bind hasked, htest]
  rfl

theorem admitSender (h : AuthenticatedReceipt S d msg wire receipt) :
    exec (Daemon.answer S) (admitSender msg decision wire) d = (some true, d) := by
  have hadd := h.knownSender (fun verified => shouldAutoAddUnknownSenderContact
    decision.reason wire.conversationType verified wire.card.isSome)
    (unknownSenderWithoutCard_verified _ _ _)
  have htrust : exec (Daemon.answer S)
      (ask (.validateInboundContactTrust msg.senderID wire)) d = (some none, d) := by
    refine exec_perform ?_
    have hpair : validateInboundContactTrust S.primitives d.identity msg.senderID wire S.now =
        (none, d.identity) :=
      Prod.ext h.trusted (validateInboundContactTrust_verified h.verified)
    simp only [Daemon.answer, hpair]
  exact (exec_bind hadd).trans (exec_bind htrust)

theorem authenticateDevice (h : AuthenticatedReceipt S d msg wire receipt) :
    exec (Daemon.answer S) (authenticateDevice msg decision wire) d = (some true, d) := by
  have hbypass := h.knownSender (fun verified => shouldBypassInboundDeviceAuth
    decision.reason wire.conversationType verified wire.card.isSome)
    (unknownSenderWithoutCard_verified _ _ _)
  have hdevice : exec (Daemon.answer S) (ask (.validateInboundDeviceAuth msg wire)) d =
      (some none, d) := by
    refine exec_perform ?_
    simp only [Daemon.answer, h.device]
  exact (exec_bind hbypass).trans (exec_bind hdevice)

theorem not_isRevocation (h : AuthenticatedReceipt S d msg wire receipt) : ¬ wire.isRevocation :=
  fun hrev => absurd (h.isReceipt.symm.trans hrev.1) (by simp)

theorem processValidWire (h : AuthenticatedReceipt S d msg wire receipt) :
    exec (Daemon.answer S) (processValidWire msg decision wire) d =
      exec (Daemon.answer S) (deliver msg wire (route wire)) d := by
  refine (exec_bind h.admitSender).trans ?_
  rw [if_pos rfl]
  split
  · grind [route_ne_deviceRevocation, not_isRevocation]
  · exact exec_bind h.authenticateDevice

theorem handleIncomingPrivateMessage (h : AuthenticatedReceipt S d msg wire receipt) {d' : Daemon γ}
    (hdeliver : exec (Daemon.answer S) (deliver msg wire (route wire)) d = (some none, d')) :
    d.handleIncomingPrivateMessage S msg =
      if d.isBlockedSender msg.senderID then d.recordError .crypto else d' := by
  have hpolicy : exec (Daemon.answer S) (ask (.evaluateInboundPolicy msg.senderID)) d =
      (some (d.evaluateInboundPolicy msg.senderID), d) := exec_perform rfl
  unfold Daemon.handleIncomingPrivateMessage Messaging.handleIncomingPrivateMessage
  -- a verified contact is a known one, so only the blocklist can turn it away
  rw [exec_bind hpolicy, evaluateInboundPolicy_verified h.verified]
  cases hblocked : d.isBlockedSender msg.senderID with
  | true => rfl
  | false =>
    have hwire : exec (Daemon.answer S) (processInboundWire S.json msg
        ⟨.accept, .trustedContact, none⟩) d = (some none, d') := by
      unfold processInboundWire
      rw [decodeInboundWire_valid h.decoded (validateInboundDeviceAuth_valid h.device)]
      exact h.processValidWire.trans hdeliver
    exact congrArg Prod.snd (exec_bind hwire)

end AuthenticatedReceipt

/-! ## At the receipt -/

theorem shouldApplyReceiptStatus_cases {status : String}
    (h : shouldApplyReceiptStatus status = true) :
    MessageStatus.ofString status = .delivered ∨ MessageStatus.ofString status = .read := by
  unfold shouldApplyReceiptStatus at h
  simp only [Bool.or_eq_true, decide_eq_true_eq] at h
  rcases h with rfl | rfl
  · exact .inl rfl
  · exact .inr rfl

theorem mergeMessageStatus_eq_self_iff {current candidate : MessageStatus}
    (h : candidate = .delivered ∨ candidate = .read) :
    mergeMessageStatus current candidate = current ↔
      statusOrder candidate ≤ statusOrder current := by
  rcases h with rfl | rfl
  · cases current <;> simp [mergeMessageStatus, statusOrder]
  · cases current <;> simp [mergeMessageStatus, statusOrder]

namespace Daemon

theorem updateMessageStatusAndNotify_store (messageID status : String) (written : Bool) :
    (d.updateMessageStatusAndNotify messageID status written).store =
      recorded d.store (d.store.updateMessageStatus messageID (.ofString status) written) := by
  unfold updateMessageStatusAndNotify
  cases d.store.updateMessageStatus messageID (.ofString status) written with
  | error e => rfl
  | ok store =>
    unfold notifyMessageStatus
    dsimp only
    split
    · rfl
    · rfl

theorem handleInboundGroupMessage_onlyStatusTo (contactID : String) :
    OnlyStatusTo contactID d.store (d.handleInboundGroupMessage S msg wire).store := by
  unfold handleInboundGroupMessage
  split
  · exact ⟨rfl, fun _ _ hm => .inl hm⟩
  · rename_i content contentType rest _
    have hsaved := d.store.recorded_saveMessage (buildInboundGroupStoredMessage msg
      wire.conversationID wire.threadID content contentType S.now) S.written
    dsimp only
    split
    · exact ⟨rfl, fun _ _ hm => .inl hm⟩
    · exact ⟨rfl, fun _ _ hm => .inl hm⟩
    · rename_i store hstore
      rw [hstore] at hsaved
      exact ⟨hsaved.1, fun id m hm => .inl (hsaved.2 id m hm)⟩

end Daemon

def Harmless (S : Surroundings γ) (d : Daemon γ) (senderID : String) (wire : WirePayload)
    (receipt : MessageReceipt) : Prop :=
  d.isBlockedSender senderID = true ∨ wire.conversationType = "group" ∨
    shouldApplyReceiptStatus receipt.status = false ∨ S.written = false ∨
      ∀ m, d.store.messages[receipt.messageID]? = some m →
        statusOrder (.ofString receipt.status) ≤ statusOrder m.status ∨
          (m.contactID = senderID ∧ m.direction = .outbound)

theorem updateMessageStatusAndNotify_onlyStatusTo_iff {contactID messageID status : String}
    {written : Bool} (hstatus : shouldApplyReceiptStatus status = true) :
    OnlyStatusTo contactID d.store (d.updateMessageStatusAndNotify messageID status written).store ↔
      (written = false ∨ ∀ m, d.store.messages[messageID]? = some m →
        statusOrder (.ofString status) ≤ statusOrder m.status ∨
          (m.contactID = contactID ∧ m.direction = .outbound)) := by
  obtain ⟨hpending, hmessages⟩ :=
    d.store.recorded_updateMessageStatus messageID (.ofString status) written
  have hmerge : ∀ current, mergeMessageStatus current (.ofString status) = current ↔
      statusOrder (.ofString status) ≤ statusOrder current :=
    fun _ => mergeMessageStatus_eq_self_iff (shouldApplyReceiptStatus_cases hstatus)
  rw [Daemon.updateMessageStatusAndNotify_store]
  constructor
  · intro h
    by_cases hwritten : written = false
    · exact .inl hwritten
    refine .inr fun m hm => ?_
    rcases h.2 messageID m hm with hsame | ⟨hcontact, hdirection, -⟩
    · -- the write went through, so the status there is the merged one
      grind
    · exact .inr ⟨hcontact, hdirection⟩
  · intro h
    refine ⟨hpending, fun id m hm => ?_⟩
    rw [hmessages]
    by_cases hhit : written = true ∧ id = messageID
    · rw [if_pos hhit, hm]
      obtain ⟨hwritten, rfl⟩ := hhit
      rcases (h.resolve_left (by simp [hwritten])) m hm with horder | ⟨hcontact, hdirection⟩
      · refine .inl ?_
        rw [Option.map_some, (hmerge m.status).mpr horder]
      · exact .inr ⟨hcontact, hdirection, _, rfl⟩
    · rw [if_neg hhit]
      exact .inl hm

theorem AuthenticatedReceipt.deliver_group (h : AuthenticatedReceipt S d msg wire receipt)
    (hgroup : wire.conversationType = "group") :
    ∃ d' : Daemon γ, exec (Daemon.answer S) (deliver msg wire (route wire)) d = (some none, d') ∧
      OnlyStatusTo msg.senderID d.store d'.store := by
  rw [route_of_not_isRevocation h.not_isRevocation, if_pos hgroup]
  unfold groupRoute
  split
  · exact ⟨d.handleInboundGroupMessage S msg wire, rfl,
      Daemon.handleInboundGroupMessage_onlyStatusTo msg.senderID⟩
  · exact ⟨{ d with rest := S.groupEvent d.rest msg wire }, rfl, rfl, fun _ _ hm => .inl hm⟩

theorem AuthenticatedReceipt.deliver_receipt (h : AuthenticatedReceipt S d msg wire receipt)
    (hgroup : wire.conversationType ≠ "group") :
    exec (Daemon.answer S) (deliver msg wire (route wire)) d =
      (some none, if shouldApplyReceiptStatus receipt.status then
        d.updateMessageStatusAndNotify receipt.messageID receipt.status S.written else d) := by
  have hhandling : resolveInboundReceiptHandling wire =
      if shouldApplyReceiptStatus receipt.status then
        ⟨true, true, receipt.messageID, receipt.status⟩
      else ⟨true, false, "", ""⟩ := by
    unfold resolveInboundReceiptHandling
    rw [h.isReceipt, h.carries]
  rw [route_of_not_isRevocation h.not_isRevocation, if_neg hgroup, hhandling]
  cases shouldApplyReceiptStatus receipt.status with
  | true => rfl
  | false => rfl

/-- **What a receipt changes.** An authenticated receipt from a verified contact changes no more
than the status of messages sent to that contact exactly when it is harmless: the message it names
was sent to the contact or is as far already, or nothing is applied. -/
theorem receipt_onlyStatusTo_iff (h : AuthenticatedReceipt S d msg wire receipt) :
    OnlyStatusTo msg.senderID d.store (d.handleIncomingPrivateMessage S msg).store ↔
      Harmless S d msg.senderID wire receipt := by
  by_cases hgroup : wire.conversationType = "group"
  · obtain ⟨d', hdeliver, honly⟩ := h.deliver_group hgroup
    refine iff_of_true ?_ (.inr (.inl hgroup))
    rw [h.handleIncomingPrivateMessage hdeliver]
    split
    · exact ⟨rfl, fun _ _ hm => .inl hm⟩
    · exact honly
  rw [h.handleIncomingPrivateMessage (h.deliver_receipt hgroup)]
  by_cases hblocked : d.isBlockedSender msg.senderID = true
  · rw [if_pos hblocked]
    exact iff_of_true ⟨rfl, fun _ _ hm => .inl hm⟩ (.inl hblocked)
  -- what is left is the receipt branch, which looks at nothing but the status
  rw [if_neg hblocked]
  unfold Harmless
  rw [or_iff_right hblocked, or_iff_right hgroup]
  by_cases hstatus : shouldApplyReceiptStatus receipt.status = true
  · rw [if_pos hstatus, or_iff_right (by simp [hstatus])]
    exact updateMessageStatusAndNotify_onlyStatusTo_iff hstatus
  · rw [if_neg hstatus]
    exact iff_of_true ⟨rfl, fun _ _ hm => .inl hm⟩ (.inl (by simpa using hstatus))

/-! ## Receipts from Alice -/

section

open Identity (Contact Device Manager samplePrimitives)

def alicePhone : Device :=
  { id := "phone", name := "", publicKey := List.replicate 32 9, certSig := [1], createdAt := 0
    isRevoked := false, revokedAt := 0 }

def receiptWire (messageID : String) : WirePayload :=
  { newReceiptWire messageID "delivered" 5 with device := some alicePhone, deviceSig := [1] }

def receiptArrives (messageID : String) : Surroundings Unit :=
  { primitives := samplePrimitives fun _ _ _ => true
    json := .only (wireAuth "m1" "alice" "bob" (receiptWire messageID)) (receiptWire messageID)
    now := 7, written := true
    resolve := fun _ _ wire => (((wire.plain, .text), none), ())
    groupMessage := fun _ _ _ => (none, ())
    groupEvent := fun _ _ _ => ()
    publishReceipt := fun _ _ _ => (none, ()) }

def bobsIdentity : Manager :=
  { identityID := "bob", signingPublicKey := [], selfPriv := []
    contacts := (∅ : GoMap String Contact).insert "alice"
      { id := "alice", displayName := "Alice", publicKey := List.replicate 32 7, addedAt := 1
        lastSeen := 0 }
    devices := ∅, activeDeviceID := "", revokedDevices := ∅ }

def sentTo (contactID messageID : String) : Message :=
  { id := messageID, contactID := contactID, conversationID := contactID
    conversationType := .direct, threadID := "", content := bytesOf "hi", timestamp := 1
    direction := .outbound, status := .sent, contentType := .text, edited := false }

/-- A daemon that knows Alice and has sent a message to Alice and one to Carol. -/
def bobsDaemon : Daemon Unit :=
  { identity := bobsIdentity
    store := ⟨((∅ : GoMap String Message).insert "a1" (sentTo "alice" "a1")).insert "c1"
      (sentTo "carol" "c1"), ∅⟩
    privacyMode := .everyone, blocklist := ∅, inbox := ∅, notified := [], errors := [], rest := () }

theorem receiptWire_authenticated {messageID : String} (h : messageID ∈ ["a1", "c1"]) :
    AuthenticatedReceipt (receiptArrives messageID) bobsDaemon (fromAlice [1])
      (receiptWire messageID) ⟨messageID, "delivered", 5⟩ where
  verified := by decide
  decoded := rfl
  isReceipt := rfl
  carries := rfl
  trusted := by
    revert messageID
    decide
  device := by
    revert messageID
    decide

/-- A receipt for the message to Alice changes nothing else. -/
theorem receipt_for_own_message : OnlyStatusTo "alice" bobsDaemon.store
      (bobsDaemon.handleIncomingPrivateMessage (receiptArrives "a1") (fromAlice [1])).store := by
  refine (receipt_onlyStatusTo_iff (receiptWire_authenticated (by simp))).mpr ?_
  refine .inr (.inr (.inr (.inr fun m hm => .inr ?_)))
  have hget : bobsDaemon.store.messages["a1"]? = some (sentTo "alice" "a1") := by decide
  obtain rfl := Option.some.inj (hget.symm.trans hm)
  exact ⟨rfl, rfl⟩

/-- A receipt from Alice marks the message to Carol as delivered. -/
theorem receipt_for_carols_message :
    AuthenticatedReceipt (receiptArrives "c1") bobsDaemon (fromAlice [1]) (receiptWire "c1")
        ⟨"c1", "delivered", 5⟩ ∧ bobsDaemon.store.messages["c1"]? = some (sentTo "carol" "c1") ∧
      (bobsDaemon.handleIncomingPrivateMessage (receiptArrives "c1")
        (fromAlice [1])).store.messages["c1"]? =
          some { sentTo "carol" "c1" with status := .delivered } ∧
      ¬ OnlyStatusTo "alice" bobsDaemon.store
        (bobsDaemon.handleIncomingPrivateMessage (receiptArrives "c1") (fromAlice [1])).store := by
  have hbefore : bobsDaemon.store.messages["c1"]? = some (sentTo "carol" "c1") := by
    decide
  have hafter : (bobsDaemon.handleIncomingPrivateMessage (receiptArrives "c1")
      (fromAlice [1])).store.messages["c1"]? =
        some { sentTo "carol" "c1" with status := .delivered } := by decide
  refine ⟨receiptWire_authenticated (by simp), hbefore, hafter, fun honly => ?_⟩
  rcases honly.2 "c1" _ hbefore with hsame | ⟨hcontact, -⟩
  · exact absurd (hafter.symm.trans hsame) (by decide)
  · exact absurd hcontact (by decide)

end

end Ardents.Messaging
