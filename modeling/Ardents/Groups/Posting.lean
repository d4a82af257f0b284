import Ardents.Go.Checks
import Ardents.Go.Machine
import Ardents.Groups.Domain

/-!
# Who may post in a group

A message to a group is checked twice, by `validateActorCanFanout` before it is sent and by each
receiver's `ValidateInboundGroupMessageState` before it is saved. Both want an active member. In a
group whose title marks it as a channel the sender also has to be an owner or an admin. The
receiver does not look at the title.
-/

namespace Ardents.Groups

open Go
open Crypto (Time)

/-- The key version that goes with a state on the wire, and is expected there. -/
def groupKeyVersion (state : GroupState) : UInt32 :=
  if state.lastKeyVersion = 0 then 1 else state.lastKeyVersion

/-! ## The sender -/

section

variable [LowerCase]

def isChannelGroupTitle (title : String) : Bool :=
  "[channel".toList <+: (toLower (trimSpace title)).toList

def validateActorCanFanout (state : GroupState) (actorID : String) : Except GroupError Unit :=
  match state.members.get actorID with
  | none => .error .groupPermissionDenied
  | some actor =>
    if actor.status ≠ .active then .error .groupPermissionDenied
    else if isChannelGroupTitle state.group.title = true ∧ actor.role ≠ .owner ∧
        actor.role ≠ .admin then .error .groupPermissionDenied
    else .ok ()

end

/-- `fanoutContext`, with what goes on the wire: `GroupMessageWireMeta` takes its versions from
the state and from here. -/
structure FanoutContext where
  groupID : String
  eventID : String
  content : String
  threadID : String
  actorID : String
  deviceID : String
  now : Time
  state : GroupState
  groupKeyVersion : UInt32

structure GroupMessageWireMeta where
  groupID : String
  eventID : String
  membershipVersion : UInt64
  groupKeyVersion : UInt32
  senderDeviceID : String
  deriving DecidableEq, Repr

def FanoutContext.wireMeta (ctx : FanoutContext) : GroupMessageWireMeta where
  groupID := ctx.groupID
  eventID := ctx.eventID
  membershipVersion := ctx.state.version
  groupKeyVersion := ctx.groupKeyVersion
  senderDeviceID := ctx.deviceID

structure FanoutInputs where
  now : Time
  /-- `none` where the service has no `IdentityID`. -/
  identityID : Option String
  /-- What `GenerateID` returns. -/
  generatedID : Except GroupError String
  /-- `Abuse.AllowSend`. -/
  allowSend : Bool
  activeDeviceID : Except GroupError String

/-- The errors of a fan-out that no other operation has are told apart by their texts. -/
def invalidGroupMessageContent : GroupError := .external "invalid group message content"

def resolveEventID (inp : FanoutInputs) (eventID : String) : Except GroupError String :=
  if trimSpace eventID ≠ "" then .ok (trimSpace eventID) else inp.generatedID

def resolveActorID (inp : FanoutInputs) : Except GroupError String :=
  match inp.identityID with
  | none => .error .invalidGroupMemberID
  | some identityID => normalizeGroupMemberID identityID

def prepareFanoutContext [LowerCase] (states : GoMap String GroupState) (inp : FanoutInputs)
    (groupID eventID content threadID : String) : Except GroupError FanoutContext := do
  let groupID ← normalizeGroupID groupID
  let eventID ← resolveEventID inp eventID
  require (trimSpace content ≠ "") invalidGroupMessageContent
  let actorID ← resolveActorID inp
  require (inp.allowSend = true) .groupRateLimitExceeded
  let deviceID ← inp.activeDeviceID
  match states[groupID]? with
  | none => .error .groupNotFound
  | some state =>
    validateActorCanFanout state actorID
    return { groupID := groupID, eventID := eventID, content := trimSpace content
             threadID := trimSpace threadID, actorID := actorID, deviceID := deviceID
             now := inp.now, state := state, groupKeyVersion := groupKeyVersion state }

/-! ## The receiver -/

inductive InboundGroupMessageRejectReason where
  | unauthorizedSender
  | membershipVersionMismatch
  | groupKeyVersionMismatch
  deriving DecidableEq, Repr

def validateInboundGroupMessageState (state : GroupState) (senderID : String)
    (membershipVersion : UInt64) (wireKeyVersion : UInt32) :
    Except (InboundGroupMessageRejectReason × GroupError) Unit :=
  match state.members.get senderID with
  | none => .error (.unauthorizedSender, .groupPermissionDenied)
  | some member =>
    if member.status ≠ .active then .error (.unauthorizedSender, .groupPermissionDenied)
    else if membershipVersion ≠ state.version then
      .error (.membershipVersionMismatch, .outOfOrderGroupEvent)
    else if wireKeyVersion ≠ groupKeyVersion state then
      .error (.groupKeyVersionMismatch, .outOfOrderGroupEvent)
    else .ok ()

structure InboundGroupMessageParams where
  messageID : String
  senderID : String
  payload : Bytes
  conversationID : String
  eventID : String
  membershipVersion : UInt64
  groupKeyVersion : UInt32
  senderDeviceID : String

structure InboundMessageInputs where
  blocked : Bool
  guardReplay : Option GroupError
  /-- `ResolveInboundContent`: the content and its type, where there is such a function. -/
  resolved : Option (Except GroupError (Bytes × String))

/-- What becomes of a message: it is rejected, or its content is handed to `SaveMessage`. -/
inductive MessageVerdict where
  | blockedSender
  | unknownGroup
  | rejected (reason : InboundGroupMessageRejectReason) (e : GroupError)
  | replayGuard (e : GroupError)
  | saved (content : Bytes) (contentType : String)
  deriving DecidableEq, Repr

def handleInboundGroupMessage (states : GoMap String GroupState) (message :
    InboundGroupMessageParams) (inp : InboundMessageInputs) : MessageVerdict :=
  if inp.blocked then .blockedSender
  else
    match states[trimSpace message.conversationID]? with
    | none => .unknownGroup
    | some state =>
      match validateInboundGroupMessageState state (trimSpace message.senderID)
          message.membershipVersion message.groupKeyVersion with
      | .error (reason, e) => .rejected reason e
      | .ok () =>
        match inp.guardReplay with
        | some e => .replayGuard e
        | none =>
          match inp.resolved with
          | some (.ok (content, contentType)) => .saved content contentType
          -- what cannot be decrypted is saved as it came
          | _ => .saved message.payload "text"

/-! ## The two rules -/

section

variable {state : GroupState} {senderID : String} {membershipVersion : UInt64}
  {wireKeyVersion : UInt32}

theorem validateInbound_ok :
    validateInboundGroupMessageState state senderID membershipVersion wireKeyVersion = .ok () ↔
      (∃ member, state.members.get senderID = some member ∧ member.status = .active) ∧
        membershipVersion = state.version ∧ wireKeyVersion = groupKeyVersion state := by
  grind [validateInboundGroupMessageState]

variable [LowerCase]

theorem validateActorCanFanout_ok : validateActorCanFanout state senderID = .ok () ↔
      ∃ member, state.members.get senderID = some member ∧ member.status = .active ∧
        (isChannelGroupTitle state.group.title = true → member.canManageMembers = true) := by
  unfold validateActorCanFanout GroupMember.canManageMembers
  cases state.members.get senderID with
  | none => simp
  | some member =>
    by_cases hactive : member.status = .active
    · by_cases howner : member.role = .owner
      · simp [hactive, howner]
      · by_cases hadmin : member.role = .admin
        · simp [hactive, hadmin]
        · simp [hactive, howner, hadmin]
    · simp [hactive]

theorem prepareFanoutContext_ok {states : GoMap String GroupState} {inp : FanoutInputs}
    {groupID eventID content threadID : String} {ctx : FanoutContext}
    (h : prepareFanoutContext states inp groupID eventID content threadID = .ok ctx) :
    states[trimSpace groupID]? = some ctx.state ∧ ctx.groupID = trimSpace groupID ∧
      validateActorCanFanout ctx.state ctx.actorID = .ok () ∧ trimSpace ctx.actorID = ctx.actorID ∧
      ctx.wireMeta.membershipVersion = ctx.state.version ∧
      ctx.wireMeta.groupKeyVersion = groupKeyVersion ctx.state := by
  unfold prepareFanoutContext at h
  simp only [bind_ok, require_ok] at h
  obtain ⟨g, hg, ev, -, -, -, actorID, hactor, -, -, deviceID, -, h⟩ := h
  obtain ⟨rfl, -⟩ := normalizeNonEmpty_ok.mp hg
  have htrim : trimSpace actorID = actorID := by
    unfold resolveActorID at hactor
    split at hactor
    · exact nomatch hactor
    · obtain ⟨rfl, -⟩ := normalizeNonEmpty_ok.mp hactor
      exact trimSpace_idem _
  split at h
  · exact nomatch h
  · rename_i state hstate
    obtain ⟨⟨⟩, hright, h⟩ := bind_ok.mp h
    obtain rfl := pure_ok.mp h
    exact ⟨hstate, rfl, hright, htrim, rfl, rfl⟩

omit [LowerCase] in
theorem saved_validated {states : GoMap String GroupState} {message : InboundGroupMessageParams}
    {inp : InboundMessageInputs} {content : Bytes} {contentType : String}
    (h : handleInboundGroupMessage states message inp = .saved content contentType) :
    ∃ state, states[trimSpace message.conversationID]? = some state ∧
      validateInboundGroupMessageState state (trimSpace message.senderID)
        message.membershipVersion message.groupKeyVersion = .ok () := by
  grind [handleInboundGroupMessage]

/-! ## Where they agree -/

/-- The sender's rule and the receivers' rule agree about a sender and the versions on a wire. -/
structure PostingAgrees (state : GroupState) (senderID : String) (membershipVersion : UInt64)
    (wireKeyVersion : UInt32) : Prop where
  /-- What is accepted may be sent. -/
  sound : validateInboundGroupMessageState state senderID membershipVersion wireKeyVersion =
    .ok () → validateActorCanFanout state senderID = .ok ()
  /-- What a peer with the same state sends is accepted. -/
  complete : ∀ (states : GoMap String GroupState) (inp : FanoutInputs)
    (groupID eventID content threadID : String) (ctx : FanoutContext),
    prepareFanoutContext states inp groupID eventID content threadID = .ok ctx →
    ctx.state = state → ctx.actorID = senderID →
    validateInboundGroupMessageState state senderID ctx.wireMeta.membershipVersion
      ctx.wireMeta.groupKeyVersion = .ok ()
  /-- Whoever may not send has nothing saved. -/
  unsaved : ∀ (states : GoMap String GroupState) (message : InboundGroupMessageParams)
    (inp : InboundMessageInputs) (content : Bytes) (contentType : String),
    states[trimSpace message.conversationID]? = some state →
    trimSpace message.senderID = senderID → message.membershipVersion = membershipVersion →
    message.groupKeyVersion = wireKeyVersion →
    handleInboundGroupMessage states message inp = .saved content contentType →
    validateActorCanFanout state senderID = .ok ()

/-- An active member that is neither owner nor admin posts in a channel, in step with its state. -/
def PostsInChannel (state : GroupState) (senderID : String) (membershipVersion : UInt64)
    (wireKeyVersion : UInt32) : Prop :=
  isChannelGroupTitle state.group.title = true ∧
    (∃ member, state.members.get senderID = some member ∧ member.status = .active ∧
      member.canManageMembers = false) ∧
    membershipVersion = state.version ∧ wireKeyVersion = groupKeyVersion state

theorem sound_iff :
    (validateInboundGroupMessageState state senderID membershipVersion wireKeyVersion = .ok () →
      validateActorCanFanout state senderID = .ok ()) ↔
      ¬ PostsInChannel state senderID membershipVersion wireKeyVersion := by
  rw [validateInbound_ok, validateActorCanFanout_ok]
  constructor
  · rintro h ⟨hchannel, ⟨member, hmember, hactive, hcannot⟩, hversion, hkey⟩
    simp_all
  · rintro hnot ⟨⟨member, hmember, hactive⟩, hversion, hkey⟩
    refine ⟨member, hmember, hactive, fun hchannel => ?_⟩
    by_contra hcannot
    exact hnot ⟨hchannel, ⟨member, hmember, hactive, by simpa using hcannot⟩, hversion, hkey⟩

/-- The rules agree on every sender of every group, except on those who post in a channel and are
neither owner nor admin. -/
theorem posting_agrees_iff (state : GroupState) (senderID : String) (membershipVersion : UInt64)
    (wireKeyVersion : UInt32) : PostingAgrees state senderID membershipVersion wireKeyVersion ↔
      ¬ PostsInChannel state senderID membershipVersion wireKeyVersion := by
  rw [← sound_iff]
  constructor
  · intro h
    exact h.sound
  · intro hsound
    refine ⟨hsound, ?_, ?_⟩
    · intro states inp groupID eventID content threadID ctx hctx hstate hactor
      obtain ⟨-, -, hright, -, hversion, hkey⟩ := prepareFanoutContext_ok hctx
      rw [hstate, hactor] at hright
      rw [hstate] at hversion hkey
      obtain ⟨member, hmember, hactive, -⟩ := validateActorCanFanout_ok.mp hright
      exact validateInbound_ok.mpr ⟨⟨member, hmember, hactive⟩, hversion, hkey⟩
    · grind [saved_validated]

end

/-! ## A channel -/

def aliceChannel : GroupState :=
  { newGroupState { id := "g1", title := "[channel:public] news", description := "", avatar := ""
                    createdBy := "alice", createdAt := 1, updatedAt := 1 } with
    version := 3
    members := ((Members.empty.put { newMember "g1" "alice" .owner .active 1 1 with
      activatedAt := 1 }).put { newMember "g1" "bob" .user .active 2 3 with activatedAt := 3 })
    lastKeyVersion := 2 }

def bobPosts : InboundGroupMessageParams where
  messageID := "m1"
  senderID := "bob"
  payload := [104, 105]
  conversationID := "g1"
  eventID := "e9"
  membershipVersion := 3
  groupKeyVersion := 2
  senderDeviceID := "phone"

theorem bob_posts_in_channel :
    letI := asciiLowerCase
    validateActorCanFanout aliceChannel "bob" = .error .groupPermissionDenied ∧
      handleInboundGroupMessage ((∅ : GoMap String GroupState).insert "g1" aliceChannel) bobPosts
        ⟨false, none, none⟩ = .saved [104, 105] "text" ∧
      ¬ PostingAgrees aliceChannel "bob" 3 2 := by
  let _ := asciiLowerCase
  have hrefused : validateActorCanFanout aliceChannel "bob" = .error .groupPermissionDenied := by
    decide
  refine ⟨hrefused, by decide, fun h => ?_⟩
  have hsent := h.sound (by decide)
  rw [hrefused] at hsent
  exact nomatch hsent

end Ardents.Groups
