import Ardents.Groups.Issued

/-!
# The creator of a group

`CreateGroup` makes its caller the owner. `RemoveGroupMember`, `ChangeGroupMemberRole` and
`AuthorizeInboundGroupEvent` refuse an owner as a target. An owner may leave, and keeps the role
while away.
-/

namespace Ardents.Groups

open Go
open Crypto (Time)

def OwnsIn (members : Members) (c : String) : Prop :=
  ∃ member, members.get c = some member ∧ member.role = .owner

/-- The group is stored, and the member is an owner of it, whatever its status. -/
def OwnedBy (s : Stores) (g c : String) : Prop :=
  ∃ S, s.states[g]? = some S ∧ OwnsIn S.members c

/-- Nobody invites the member back, and no event adds it in another role, unless the check of an
owner's role sees it: the event names the member as it is filed, and is not its own acceptance. -/
def RespectsOwner (g c : String) (s : Stores) : GroupCall → Prop
  | .operate (.invite groupID _ memberID) _ _ => trimSpace groupID = g → trimSpace memberID = c →
      ∀ S member, s.states[g]? = some S → S.members.get c = some member →
        member.status = .invited ∨ member.status = .active
  | .inbound event _ => event.groupID = g → event.type = .memberAdd →
      trimSpace event.memberID = c → event.role = .owner ∨ (event.memberID = c ∧
        ∀ S member, s.states[g]? = some S → S.members.get c = some member →
          ¬ (event.actorID = c ∧ member.status = .invited))
  | _ => True

def KeepsStored (g : String) (s : Stores) (call : GroupCall) : Prop :=
  ∃ S, (call.apply s).states[g]? = some S

/-! ## One event -/

section

variable {S : GroupState} {event : GroupEvent} {c : String}

def KeepsOwner (c : String) (event : GroupEvent) : Prop :=
  event.type = .memberAdd → trimSpace event.memberID = c → event.role = .owner

theorem advance_ownsIn (hkeeps : KeepsOwner c event) (h : OwnsIn S.members c) :
    OwnsIn (S.advance event).members c := by
  obtain ⟨member, hmember, howner⟩ := h
  unfold OwnsIn GroupRecord.advance
  rw [changeMembers_get, hmember]
  by_cases hid : trimSpace event.memberID = c
  · rw [if_pos hid]
    unfold memberAfter
    cases htype : event.type with
    | memberAdd =>
      refine ⟨_, rfl, ?_⟩
      rw [readdMember_role]
      exact hkeeps htype hid
    | memberRemove | memberLeave => exact ⟨_, rfl, howner⟩
    | titleChange | profileChange | keyRotate | other => exact ⟨member, rfl, howner⟩
  · rw [if_neg hid]
    exact ⟨member, rfl, howner⟩

theorem authorize_owner_role {member : GroupMember} (htype : event.type = .memberAdd)
    (hmember : S.members.get event.memberID = some member) (howner : member.role = .owner)
    (hnot : ¬ (event.actorID = event.memberID ∧ member.status = .invited))
    (hauth : authorizeInboundGroupEvent S event = .ok ()) : event.role = .owner := by
  grind [authorizeInboundGroupEvent]

end

/-! ## One call -/

section

variable {s : Stores} {S : GroupState} {inp : OperationInputs} {op : GroupOperation}
  {events : List GroupEvent} {c : String}

theorem Issues.keepsOwner (hissued : Issues S inp op events) (howns : OwnsIn S.members c)
    (hinvite : ∀ g a m, op = .invite g a m → trimSpace m = c → ∀ member,
      S.members.get c = some member → member.status = .invited ∨ member.status = .active) :
    ∀ event ∈ events, KeepsOwner c event := by
  obtain ⟨member, hmember, howner⟩ := howns
  -- a rotation adds nobody, so for a pair only the change matters
  have hpair : ∀ {change : GroupEvent} {rotateID : String}, KeepsOwner c change →
      ∀ event ∈ [change, rotationFor S change rotateID], KeepsOwner c event := by
    intro change rotateID hchange event hmem
    rcases List.mem_pair.mp hmem with rfl | rfl
    · exact hchange
    · intro htype
      exact nomatch htype
  cases hissued with
  | @invite g a m hother habsent =>
    intro event hmem htype hid
    rw [List.mem_singleton.mp hmem] at hid
    have hc : trimSpace m = c := (trimSpace_idem m).symm.trans hid
    rw [hc] at habsent
    exact absurd (hinvite g a m rfl hc member hmember) (habsent member hmember)
  | @accept g a actor hchecked hactor hinv change hchange =>
    refine hpair fun htype hid => ?_
    rw [hchange] at hid ⊢
    have hc : trimSpace a = c := (trimSpace_idem a).symm.trans hid
    rw [hc, hmember] at hactor
    rw [Option.some.inj hactor] at howner
    exact howner
  | decline hchecked hactor hinv hchange | leave hchecked hactor hhere hchange
  | remove _ _ _ _ _ htarget hnot hhere hchange =>
    refine hpair fun htype => ?_
    rw [hchange] at htype
    exact nomatch htype
  | @changeRole g a m role actor target hactor _ htarget hnot =>
    intro event hmem htype hid
    rw [List.mem_singleton.mp hmem] at hid
    have hc : trimSpace m = c := (trimSpace_idem m).symm.trans hid
    rw [hc, hmember] at htarget
    rw [Option.some.inj htarget] at howner
    exact absurd howner hnot
  | updateTitle | updateProfile =>
    intro event hmem htype
    rw [List.mem_singleton.mp hmem] at htype
    exact nomatch htype

theorem Brings.keepsOwner {call : GroupCall} (hbrings : Brings S call events)
    (hS : s.states[S.group.id]? = some S) (howns : OwnsIn S.members c)
    (hresp : RespectsOwner S.group.id c s call) : ∀ event ∈ events, KeepsOwner c event := by
  cases hbrings with
  | operated hg hissued =>
    refine hissued.keepsOwner howns ?_
    rintro g a m rfl hm member hmember
    exact hresp hg hm S member hS hmember
  | received hg hauth =>
    obtain ⟨member, hmember, howner⟩ := howns
    intro event hmem htype hid
    rw [List.mem_singleton.mp hmem] at htype hid ⊢
    rcases hresp hg htype hid with hrole | ⟨hexact, hnot⟩
    · exact hrole
    · refine authorize_owner_role htype (hexact.symm ▸ hmember) howner ?_ hauth
      rw [hexact]
      exact hnot S member hS hmember

theorem ownedBy_step {g : String} {call : GroupCall} (hfiled : Filed s) (h : OwnedBy s g c)
    (hresp : RespectsOwner g c s call) (hstored : KeepsStored g s call) :
    OwnedBy (call.apply s) g c := by
  obtain ⟨S, hS, howns⟩ := h
  obtain ⟨S', hS'⟩ := hstored
  have hid : S.group.id = g := hfiled g S hS
  rcases apply_cases hfiled hS' with ⟨S₀, new, hS₀, -, hmoves⟩ | ⟨hnone, -⟩
  · rw [hS] at hS₀
    obtain rfl := Option.some.inj hS₀
    refine ⟨S', hS', ?_⟩
    rcases hmoves with ⟨rfl, -⟩ | ⟨events, hbrings, hbecomes⟩
    · exact howns
    · have hkeeps := hbrings.keepsOwner (hid.symm ▸ hS) howns (hid.symm ▸ hresp)
      exact hbecomes.members_inv (I := fun members => OwnsIn members c)
        (fun T event hmem hT => advance_ownsIn (hkeeps event hmem) hT) howns
  · rw [hS] at hnone
    exact nomatch hnone

end

/-! ## Runs -/

section

variable {s : Stores} {title identityID : String} {now : Time} {groupIDs : List (Option String)}
  {eventID : Option String} {persist : Option GroupError} {group : Group} {event : GroupEvent}

theorem createGroup_ownedBy
    (h : (createGroup s title identityID now groupIDs eventID persist).result
      = .ok (group, event)) :
    OwnedBy (createGroup s title identityID now groupIDs eventID persist).stores group.id
      (trimSpace identityID) := by
  rcases createGroup_cases s title identityID now groupIDs eventID persist with
    ⟨-, e, he⟩ | ⟨g, -, -, ⟨-, e, he⟩ | ⟨title', ev, -, hmade, hresult⟩⟩
  · rw [he] at h
    exact nomatch h
  · rw [he] at h
    exact nomatch h
  · rw [hresult] at h
    have hid : group.id = g := (congrArg (fun p => p.1.id) (Except.ok.inj h)).symm
    refine ⟨founded g title' (trimSpace identityID) ev now, ?_, ?_⟩
    · simp_all
    · exact ⟨_, (founded_get (trimSpace_idem identityID) _).trans (if_pos rfl), rfl⟩

/-- Whoever creates a group is an owner of it after every run that leaves it stored and in which
the role is respected. -/
theorem creator_stays_owner (before : List GroupCall) (title identityID : String) (now : Time)
    (groupIDs : List (Option String)) (eventID : Option String) (persist : Option GroupError)
    (group : Group) (event : GroupEvent)
    (hcreated : (createGroup (run GroupCall.apply Stores.empty before) title identityID now groupIDs
      eventID persist).result = .ok (group, event)) (calls : List GroupCall)
    (hstored : Along GroupCall.apply (KeepsStored group.id) (createGroup (run GroupCall.apply
      Stores.empty before) title identityID now groupIDs eventID persist).stores calls)
    (hresp : Along GroupCall.apply (RespectsOwner group.id (trimSpace identityID))
      (createGroup (run GroupCall.apply Stores.empty before) title identityID now groupIDs eventID
        persist).stores calls) :
    OwnedBy (run GroupCall.apply (createGroup (run GroupCall.apply Stores.empty before) title
      identityID now groupIDs eventID persist).stores calls) group.id (trimSpace identityID) := by
  have hfiled : Filed (createGroup (run GroupCall.apply Stores.empty before) title identityID now
      groupIDs eventID persist).stores :=
    filed_step (filed_run before) (.create title identityID now groupIDs eventID persist)
  have hrun := along_run (I := fun s => Filed s ∧ OwnedBy s group.id (trimSpace identityID))
    (fun _ call hI hC => ⟨filed_step hI.1 call, ownedBy_step hI.1 hI.2 hC.2 hC.1⟩)
    ⟨hfiled, createGroup_ownedBy hcreated⟩ (hstored.and hresp)
  exact hrun.2

end

/-! ## A creator that comes back -/

def aliceCreated : Stores :=
  (createGroup Stores.empty "Friends" "alice" 1 [some "g1"] (some "e1") none).stores

/-- Bob joins and is made an admin; Alice leaves, and Bob invites Alice back. -/
def aliceComesBack : List GroupCall :=
  [.operate (.invite "g1" "alice" "bob") (inputsAt 2 "e2" "r2") none,
    .operate (.accept "g1" "bob") (inputsAt 3 "e3" "r3") none,
    .operate (.changeRole "g1" "alice" "bob" .admin) (inputsAt 4 "e4" "r4") none,
    .operate (.leave "g1" "alice") (inputsAt 5 "e5" "r5") none,
    .operate (.invite "g1" "bob" "alice") (inputsAt 6 "e6" "r6") none]

def rolesIn (s : Stores) (g : String) : List (String × GroupMemberRole) :=
  ((s.states[g]?).map fun S => S.members.map.toList.map fun p => (p.1, p.2.role)).getD []

/-- Alice is invited back as a user, and the group has no owner left. -/
theorem alice_comes_back_as_user : rolesIn (run GroupCall.apply aliceCreated aliceComesBack) "g1"
      = [("alice", .user), ("bob", .admin)] ∧
      ¬ OwnedBy (run GroupCall.apply aliceCreated aliceComesBack) "g1" "alice" := by
  refine ⟨by decide, ?_⟩
  rintro ⟨S, hS, member, hmember, howner⟩
  have hrole : ((run GroupCall.apply aliceCreated aliceComesBack).states["g1"]?).map
      (fun S => (S.members.get "alice").map (·.role)) = some (some .user) := by decide
  simp_all

/-- Bob joins and is made an admin, is refused a new role for Alice, and Alice leaves. -/
def aliceLeaves : List GroupCall :=
  aliceComesBack.take 3 ++
    [.operate (.changeRole "g1" "bob" "alice" .user) (inputsAt 5 "e5" "r5") none,
      .operate (.leave "g1" "alice") (inputsAt 6 "e6" "r6") none]

/-- Alice, who has left, is the owner still. -/
theorem alice_stays_owner :
    rolesIn (run GroupCall.apply aliceCreated aliceLeaves) "g1"
        = [("alice", .owner), ("bob", .admin)] ∧
      OwnedBy (run GroupCall.apply aliceCreated aliceLeaves) "g1" "alice" := by
  have hstored : ∀ {s : Stores} {call : GroupCall},
      ((call.apply s).states["g1"]?).isSome = true → KeepsStored "g1" s call :=
    Option.isSome_iff_exists.mp
  refine ⟨by decide, creator_stays_owner [] "Friends" "alice" 1 [some "g1"] (some "e1") none
    { id := "g1", title := "Friends", description := "", avatar := "", createdBy := "alice"
      createdAt := 1, updatedAt := 1 } (creation "g1" "alice" "e1" 1) (by decide) aliceLeaves
    ⟨hstored (by decide), hstored (by decide), hstored (by decide), hstored (by decide),
      hstored (by decide), trivial⟩ ⟨fun _ hm => ?_, trivial, trivial, trivial, trivial, trivial⟩⟩
  -- the one invitation is Bob's
  exact absurd hm (by decide)

end Ardents.Groups
