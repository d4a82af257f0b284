import Ardents.Groups.StateMutation

/-!
# Events from other members

The receiving half: decoding a wire into an event, deciding whether its sender may
issue it, and applying it. The sender chooses everything on the wire, the role and the
time included.
-/

namespace Ardents.Groups

open Go
open Crypto (Time)

def authorizeInboundGroupEvent (state : GroupState) (event : GroupEvent) : Except GroupError Unit :=
  let actor := state.members.get event.actorID
  let target := state.members.get event.memberID
  match event.type with
  | .memberAdd =>
    match actor with
    | none => .error .groupPermissionDenied
    | some actor =>
      -- an invited member accepts
      if target.any (·.status = .invited) ∧ event.actorID = event.memberID then .ok ()
      else if actor.status ≠ .active then .error .groupPermissionDenied
      else
        match target with
        | none =>
          if actor.role = .owner ∨ actor.role = .admin then .ok ()
          else .error .groupPermissionDenied
        | some target =>
          if target.role ≠ event.role then
            if actor.role ≠ .owner then .error .groupPermissionDenied
            else if target.role = .owner then .error .groupPermissionDenied
            else .ok ()
          else .ok ()
  | .memberRemove =>
    match actor with
    | none => .error .groupPermissionDenied
    | some actor =>
      if actor.status ≠ .active then .error .groupPermissionDenied
      else
        match target with
        | none => .error .groupMembershipNotFound
        | some target =>
          if actor.role ≠ .owner ∧ actor.role ≠ .admin then .error .groupPermissionDenied
          else if target.role = .owner then .error .groupPermissionDenied
          else if actor.role = .admin ∧ target.role = .admin then
            .error .groupPermissionDenied
          else .ok ()
  | .memberLeave =>
    match actor with
    | none => .error .groupPermissionDenied
    | some _ =>
      if event.actorID ≠ event.memberID then .error .groupPermissionDenied else .ok ()
  | .titleChange => authorizeManager actor
  | .profileChange => authorizeManager actor
  | .keyRotate =>
    match actor with
    | none => .error .groupPermissionDenied
    | some actor =>
      if actor.status ≠ .active then .error .groupPermissionDenied
      else if actor.role ≠ .owner then .error .groupPermissionDenied
      else .ok ()
  | .other _ => .error .groupPermissionDenied
where
  /-- The two branches for the group's own data: an active owner or admin. -/
  authorizeManager (actor : Option GroupMember) : Except GroupError Unit :=
    match actor with
    | none => .error .groupPermissionDenied
    | some actor =>
      if actor.status ≠ .active then .error .groupPermissionDenied
      else if actor.role ≠ .owner ∧ actor.role ≠ .admin then .error .groupPermissionDenied
      else .ok ()

/-! ## Decoding -/

structure InboundGroupEventPayload where
  memberID : String
  role : String
  title : String
  description : String
  avatar : String
  keyVersion : UInt32
  occurredAt : String

structure InboundGroupEventWire where
  eventID : String
  conversationID : String
  membershipVersion : UInt64
  eventType : String
  plain : Bytes
  senderID : String
  recipientID : String

structure Decoders where
  unmarshal : Bytes → Except GroupError InboundGroupEventPayload
  parseTime : String → Option Time

def emptyPayload : InboundGroupEventPayload := ⟨"", "", "", "", "", 0, ""⟩

def wireEvent (d : Decoders) (wire : InboundGroupEventWire) (type : GroupEventType)
    (details : InboundGroupEventPayload) (occurredAt : Time) : GroupEvent :=
  { id := trimSpace wire.eventID
    groupID := trimSpace wire.conversationID
    version := wire.membershipVersion
    type := type
    actorID := trimSpace wire.senderID
    occurredAt :=
      let ts := trimSpace details.occurredAt
      if ts = "" then occurredAt else (d.parseTime ts).getD occurredAt
    memberID := trimSpace details.memberID
    role := match parseGroupMemberRole details.role with
      | .ok role => role
      | .error _ => .other ""
    title := trimSpace details.title
    description := trimSpace details.description
    avatar := trimSpace details.avatar
    keyVersion := details.keyVersion }

/-- The last switch of `DecodeInboundGroupEvent`. -/
def fillDefaults (event : GroupEvent) (recipientID : String) : GroupEvent :=
  let forMember : GroupEvent :=
    { event with
      memberID := if event.memberID = "" then trimSpace recipientID else event.memberID
      role := if event.role = .other "" then .user else event.role }
  match event.type with
  | .memberLeave =>
    if event.memberID = "" then { event with memberID := event.actorID } else event
  | .memberAdd => forMember
  | .memberRemove => forMember
  | _ => event

def decodeInboundGroupEvent (d : Decoders) (wire : InboundGroupEventWire) (occurredAt : Time) :
    Except GroupError GroupEvent :=
  match parseGroupEventType wire.eventType with
  | .error e => .error e
  | .ok type =>
    match (if wire.plain = [] then .ok emptyPayload else d.unmarshal wire.plain) with
    | .error e => .error e
    | .ok details =>
      let event := fillDefaults (wireEvent d wire type details occurredAt) wire.recipientID
      match validateGroupEvent event with
      | .error e => .error e
      | .ok () => .ok event

/-! ## Handling -/

def ensureInboundEventState (states : GoMap String GroupState) (event : GroupEvent)
    (localIdentityID : String) : Except GroupError GroupState :=
  match states[event.groupID]? with
  | some state => .ok state
  | none =>
    if event.type ≠ .memberAdd ∨ event.version ≠ 1
        ∨ event.memberID ≠ trimSpace localIdentityID then .error .groupNotFound
    else .ok (newGroupState { id := event.groupID, title := event.groupID, description := ""
                              avatar := "", createdBy := event.actorID
                              createdAt := event.occurredAt, updatedAt := event.occurredAt })

structure InboundInputs where
  senderDeviceID : String
  hasDevice : Bool
  deviceID : String
  blocked : Bool
  guardReplay : Option GroupError
  /-- `none` where the service has no `IdentityID`. -/
  identityID : Option String
  persist : Option GroupError

/-- Nothing around the event stands in its way: sender, device, replay guard, identity, disk. -/
def InboundInputs.Admits (inp : InboundInputs) : Prop :=
  inp.blocked = false ∧
    (inp.hasDevice = true → trimSpace inp.senderDeviceID = trimSpace inp.deviceID) ∧
    inp.guardReplay = none ∧ inp.identityID ≠ none ∧ inp.persist = none

/-- What became of the event; the source records the reason of a rejection. -/
inductive InboundVerdict where
  | blockedSender
  | senderDeviceMismatch
  | replayGuard (e : GroupError)
  | noIdentity
  | unknownGroup (e : GroupError)
  | unauthorized (e : GroupError)
  | persistFailed (e : GroupError)
  | duplicate
  | applied (event : GroupEvent)
  deriving DecidableEq, Repr

def handleInboundGroupEvent (s : Stores) (event : GroupEvent) (inp : InboundInputs) :
    Stores × InboundVerdict :=
  if inp.blocked then (s, .blockedSender)
  else if inp.hasDevice ∧ trimSpace inp.senderDeviceID ≠ trimSpace inp.deviceID then
    (s, .senderDeviceMismatch)
  else
    match inp.guardReplay with
    | some e => (s, .replayGuard e)
    | none =>
      match inp.identityID with
      | none => (s, .noIdentity)
      | some identityID =>
        match ensureInboundEventState s.states event identityID with
        | .error e => (s, .unknownGroup e)
        | .ok state =>
          match authorizeInboundGroupEvent state event with
          | .error e => (s, .unauthorized e)
          | .ok () =>
            match s.applyEventsWithRollback state inp.persist [event] with
            | ⟨s', _, .error e⟩ => (s', .persistFailed e)
            | ⟨s', _, .ok (_, [])⟩ => (s', .duplicate)
            | ⟨s', _, .ok (_, _ :: _)⟩ => (s', .applied event)

/-! ## Who may issue what -/

section

variable {state : GroupState} {event : GroupEvent} {actor target : GroupMember}

theorem authorize_add_iff (ht : event.type = .memberAdd)
    (hactor : state.members.get event.actorID = some actor) (hactive : actor.status = .active)
    (hne : event.actorID ≠ event.memberID) :
    authorizeInboundGroupEvent state event = .ok () ↔
      match state.members.get event.memberID with
      | none => actor.role = .owner ∨ actor.role = .admin
      | some target => target.role = event.role ∨
          (actor.role = .owner ∧ target.role ≠ .owner) := by
  unfold authorizeInboundGroupEvent
  simp only [ht, hactor, hne, and_false, if_false, hactive, ne_eq, not_true_eq_false]
  cases state.members.get event.memberID with
  | none =>
    grind
  | some target =>
    grind

theorem authorize_rotate_iff (ht : event.type = .keyRotate)
    (hactor : state.members.get event.actorID = some actor) :
    authorizeInboundGroupEvent state event = .ok () ↔
      actor.status = .active ∧ actor.role = .owner := by
  grind [authorizeInboundGroupEvent]

theorem authorize_remove_iff (ht : event.type = .memberRemove)
    (hactor : state.members.get event.actorID = some actor)
    (htarget : state.members.get event.memberID = some target)
    (hmanage : actor.canManageMembers = true) (hnot : target.role ≠ .owner) :
    authorizeInboundGroupEvent state event = .ok () ↔
      actor.status = .active ∧ (actor.role = .owner ∨ target.role ≠ .admin) := by
  unfold authorizeInboundGroupEvent
  have hrole := of_decide_eq_true hmanage
  grind

theorem authorize_leave (ht : event.type = .memberLeave) (hself : event.actorID = event.memberID)
    (hactor : state.members.get event.actorID = some actor) :
    authorizeInboundGroupEvent state event = .ok () := by
  rw [hself] at hactor
  unfold authorizeInboundGroupEvent
  simp [ht, hactor, hself]

theorem authorize_profile (ht : event.type = .profileChange)
    (hactor : state.members.get event.actorID = some actor) (hactive : actor.status = .active)
    (hmanage : actor.canManageMembers = true) :
    authorizeInboundGroupEvent state event = .ok () := by
  unfold authorizeInboundGroupEvent
  have hrole := of_decide_eq_true hmanage
  simp only [ht, hactor, authorizeInboundGroupEvent.authorizeManager]
  rw [if_neg (not_not.mpr hactive), if_neg (fun h => hrole.elim h.1 h.2)]

end

/-! ## What handling an event can do -/

section

variable {s : Stores} {state : GroupState} {event : GroupEvent} {inp : InboundInputs}

theorem decodeInboundGroupEvent_ok {d : Decoders} {wire : InboundGroupEventWire} {now : Time}
    (h : decodeInboundGroupEvent d wire now = .ok event) :
    validateGroupEvent event = .ok () ∧ trimSpace event.memberID = event.memberID := by
  have hfill : ∀ (e : GroupEvent) (recipientID : String), trimSpace e.memberID = e.memberID →
      trimSpace e.actorID = e.actorID →
      trimSpace (fillDefaults e recipientID).memberID = (fillDefaults e recipientID).memberID := by
    grind [trimSpace_idem, fillDefaults]
  unfold decodeInboundGroupEvent at h
  split at h
  · exact absurd h (by simp)
  · split at h
    · exact absurd h (by simp)
    · dsimp only at h
      split at h
      · exact absurd h (by simp)
      · rename_i hvalid
        rw [← Except.ok.inj h]
        exact ⟨hvalid, hfill _ _ (trimSpace_idem _) (trimSpace_idem _)⟩

theorem authorize_member (h : authorizeInboundGroupEvent state event = .ok ()) :
    ∃ actor, state.members.get event.actorID = some actor := by
  cases hactor : state.members.get event.actorID with
  | some actor => exact ⟨actor, rfl⟩
  | none =>
    unfold authorizeInboundGroupEvent at h
    rw [hactor] at h
    dsimp only [authorizeInboundGroupEvent.authorizeManager] at h
    split at h
    all_goals exact absurd h (by simp)

theorem authorize_self_add {actor : GroupMember} (ht : event.type = .memberAdd)
    (hself : event.actorID = event.memberID) (hactor : state.members.get event.actorID = some actor)
    (hinv : actor.status = .invited) : authorizeInboundGroupEvent state event = .ok () := by
  rw [hself] at hactor
  unfold authorizeInboundGroupEvent
  simp [ht, hactor, hself, hinv]

theorem ensureInboundEventState_authorized {identityID : String}
    (h : ensureInboundEventState s.states event identityID = .ok state)
    (hauth : authorizeInboundGroupEvent state event = .ok ()) :
    s.states[event.groupID]? = some state := by
  unfold ensureInboundEventState at h
  split at h
  · rename_i stored hstored
    rw [← Except.ok.inj h]
    exact hstored
  · split at h
    · exact absurd h (by simp)
    · obtain ⟨actor, hactor⟩ := authorize_member hauth
      rw [← Except.ok.inj h] at hactor
      exact absurd hactor (by simp [newGroupState, Members.get, Members.empty])

theorem Stores.applyEventsWithRollback_one (hstored : s.states[event.groupID]? = some state)
    (persist : Option GroupError) :
    (persist = none ∧ applyGroupEvent state event = .ok (true, state.advance event)) ∨
    ∀ g : String, (s.applyEventsWithRollback state persist [event]).stores.states[g]?
      = s.states[g]? := by
  cases hrun : (s.applyEventsWithRollback state persist [event]).result with
  | error e =>
    refine Or.inr fun g => ?_
    rcases applyEventsWithRollback_error hrun with ⟨hrej, hsame⟩ | ⟨hrej, -, hback⟩
    · rw [hsame, if_pos (applyAll_one_rejected hrej)]
    · rw [applyAll_head_groupID hrej] at hstored
      rw [hback]
      exact (rollback_unchanged hstored g).1
  | ok p =>
    obtain ⟨next, applied⟩ := p
    obtain ⟨hrej, -, -, hend⟩ := applyEventsWithRollback_ok (by simp) hrun
    rcases hend with ⟨-, hsame⟩ | ⟨hne, hpersist, -⟩
    · exact Or.inr fun _ => by rw [hsame]
    · rcases applyAll_one hrej with ⟨-, hev, -⟩ | ⟨-, -, -, happ⟩
      · exact absurd hev hne
      · exact Or.inl ⟨hpersist, happ⟩

theorem Stores.applyEventsWithRollback_applied
    (happ : applyGroupEvent state event = .ok (true, state.advance event)) :
    s.applyEventsWithRollback state none [event]
      = ⟨s.commit (state.advance event) [event], [s.commit (state.advance event) [event]],
          .ok (state.advance event, [event])⟩ := by
  have hall : applyAll state [event] = ⟨state.advance event, [event], none⟩ := by
    simp [applyAll, happ]
  simp [applyEventsWithRollback, hall]

theorem handleInboundGroupEvent_applied (hin : inp.Admits)
    (hstored : s.states[event.groupID]? = some state)
    (hauth : authorizeInboundGroupEvent state event = .ok ())
    (happ : applyGroupEvent state event = .ok (true, state.advance event)) :
    handleInboundGroupEvent s event inp
      = (s.commit (state.advance event) [event], .applied event) := by
  obtain ⟨hblocked, hdevice, hguard, hidentity, hpersist⟩ := hin
  obtain ⟨identityID, hid⟩ := Option.ne_none_iff_exists'.mp hidentity
  simp_all [ensureInboundEventState, handleInboundGroupEvent,
    Stores.applyEventsWithRollback_applied]

theorem handleInboundGroupEvent_stores (s : Stores) (event : GroupEvent) (inp : InboundInputs) :
    (handleInboundGroupEvent s event inp).1 = s ∨
    ∃ state, { inp with persist := none }.Admits ∧ s.states[event.groupID]? = some state ∧
      authorizeInboundGroupEvent state event = .ok () ∧
      (handleInboundGroupEvent s event inp).1
        = (s.applyEventsWithRollback state inp.persist [event]).stores := by
  unfold handleInboundGroupEvent
  split
  · exact Or.inl rfl
  rename_i hblocked
  split
  · exact Or.inl rfl
  rename_i hdevice
  split
  · exact Or.inl rfl
  rename_i hguard
  split
  · exact Or.inl rfl
  rename_i identityID hidentity
  split
  · exact Or.inl rfl
  rename_i state hensure
  split
  · exact Or.inl rfl
  rename_i hauth
  refine Or.inr ⟨state, ⟨by simpa using hblocked, fun hd => ?_, hguard, ?_, rfl⟩,
    ensureInboundEventState_authorized hensure hauth, hauth, ?_⟩
  · simp_all
  · rw [hidentity]
    simp
  · grind

theorem handleInboundGroupEvent_cases (s : Stores) (event : GroupEvent) (inp : InboundInputs) :
    (∃ state, inp.Admits ∧ s.states[event.groupID]? = some state ∧
      authorizeInboundGroupEvent state event = .ok () ∧
      applyGroupEvent state event = .ok (true, state.advance event)) ∨
    ∀ g : String, (handleInboundGroupEvent s event inp).1.states[g]? = s.states[g]? := by
  rcases handleInboundGroupEvent_stores s event inp with hsame | ⟨state, hin, hstored, hauth, hrun⟩
  · exact Or.inr fun _ => by rw [hsame]
  · rcases Stores.applyEventsWithRollback_one hstored inp.persist with ⟨hpersist, happ⟩ | hsame
    · obtain ⟨hblocked, hdevice, hguard, hidentity, -⟩ := hin
      exact Or.inl ⟨state, ⟨hblocked, hdevice, hguard, hidentity, hpersist⟩, hstored, hauth, happ⟩
    · rw [hrun]
      exact Or.inr hsame

end

end Ardents.Groups
