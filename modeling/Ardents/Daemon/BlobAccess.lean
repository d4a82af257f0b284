import Ardents.Daemon.Service
import Ardents.Groups.Domain
import Ardents.Identity.Manager

/-!
# Who may have a blob

`isBlobOperationAllowed` decides whether a peer may fetch or pin a blob. Without a node binding of
the own identity the list of those who may is not enforced, and everybody is allowed.
-/

namespace Ardents.Daemon

open Go
open Ardents.Identity (Manager)
open Ardents.Groups (Group GroupMember GroupState GroupEvent GroupError normalizeGroupID)
open Privacy (PolicyArguments parseStoragePolicy retentionOf defaultPrivacySettings)

/-! ## Groups as the service lists them -/

/-- The order in which `ListGroups` sorts. -/
def groupBefore (a b : Group) : Bool :=
  if a.createdAt = b.createdAt then a.id < b.id else a.createdAt < b.createdAt

/-- `ListGroups`: those in which the actor is active or invited, all if there is no actor. -/
def listGroups (states : GoMap String GroupState) (identityID : String) : List Group :=
  let groups := (states.toList.map fun entry => entry.2.group).mergeSort
    fun a b => !groupBefore b a
  let actorID := trimSpace identityID
  if actorID = "" then groups
  else groups.filter fun group =>
    match states[group.id]? with
    | none => false
    | some state =>
      match state.members.get actorID with
      | none => false
      | some member => member.status = .active ∨ member.status = .invited

def listGroupMembers (states : GoMap String GroupState) (groupID : String) :
    Except GroupError (List GroupMember) := do
  let groupID ← normalizeGroupID groupID
  match states[groupID]? with
  | none => .error .groupNotFound
  | some state =>
    return (state.members.map.toList.map Prod.snd).mergeSort fun a b =>
      !decide (b.memberID < a.memberID)

/-! ## The access control list -/

inductive BlobACLMode where
  | ownerOnly
  | ownerContacts
  | ownerGroupsMember
  | allowlist
  | other (raw : String)
  deriving DecidableEq, Repr

structure BlobACLPolicy where
  mode : BlobACLMode
  allowlist : GoMap String Unit

inductive Denial where
  | missingSubject
  | ownerOnly
  | notContact
  | noSharedGroup
  | notInAllowlist
  | invalidMode
  deriving DecidableEq, Repr

structure BlobService (δ β : Type) extends Service δ (GroupState × List GroupEvent) β where
  identityManager : Manager
  blobACL : BlobACLPolicy

namespace BlobService

variable {δ β : Type}

def groupStates (s : BlobService δ β) : GoMap String GroupState :=
  (s.memory .groups).map fun _ entry => entry.1

def localPeerID (s : BlobService δ β) : String := trimSpace s.identityManager.identityID

def isBlobACLEnforced (s : BlobService δ β) : Bool :=
  let identityID := trimSpace s.identityManager.identityID
  if identityID = "" then false
  else (s.memory .bindings : GoMap String β).contains (trimSpace identityID)

def hasSharedActiveGroupWithOwner (s : BlobService δ β) (requesterPeerID ownerID : String) : Bool :=
  (listGroups s.groupStates s.identityManager.identityID).any fun group =>
    match listGroupMembers s.groupStates group.id with
    | .error _ => false
    | .ok members =>
      let active := members.filter fun member => member.status = .active
      (active.any fun member => trimSpace member.memberID = ownerID) &&
        active.any fun member => trimSpace member.memberID = requesterPeerID

/-- `isBlobOperationAllowed`: nothing if the operation is allowed, else the reason. -/
def isBlobOperationAllowed (s : BlobService δ β) (requesterPeerID : String) : Option Denial :=
  if s.isBlobACLEnforced = false then none
  else
    let ownerID := trimSpace s.localPeerID
    let requesterPeerID := trimSpace requesterPeerID
    if ownerID = "" ∨ requesterPeerID = "" then some .missingSubject
    else if requesterPeerID = ownerID then none
    else
      match s.blobACL.mode with
      | .ownerOnly => some .ownerOnly
      | .ownerContacts =>
        if s.identityManager.hasContact requesterPeerID then none else some .notContact
      | .ownerGroupsMember =>
        if s.identityManager.hasContact requesterPeerID then none
        else if s.hasSharedActiveGroupWithOwner requesterPeerID ownerID then none
        else some .noSharedGroup
      | .allowlist =>
        if s.blobACL.allowlist.contains requesterPeerID then none else some .notInAllowlist
      | .other _ => some .invalidMode

theorem isBlobOperationAllowed_of_memory {s : BlobService δ β}
    {service : Service δ (GroupState × List GroupEvent) β} (h : service.memory = s.memory)
    (requester : String) :
    ({ s with toService := service } : BlobService δ β).isBlobOperationAllowed requester =
      s.isBlobOperationAllowed requester := by
  have henforced : ({ s with toService := service } : BlobService δ β).isBlobACLEnforced =
      s.isBlobACLEnforced := by
    unfold isBlobACLEnforced
    rw [h]
  have hgroups : ({ s with toService := service } : BlobService δ β).groupStates =
      s.groupStates := by
    unfold groupStates
    rw [h]
  have hshared : ({ s with toService := service } : BlobService δ β).hasSharedActiveGroupWithOwner
      = s.hasSharedActiveGroupWithOwner := by
    unfold hasSharedActiveGroupWithOwner
    rw [hgroups]
  unfold isBlobOperationAllowed
  rw [henforced, hshared]
  rfl

theorem isBlobOperationAllowed_of_empty {s : BlobService δ β}
    (h : ∀ f, s.memory f = f.empty) (requester : String) :
    s.isBlobOperationAllowed requester = none := by
  have hbindings : (s.memory .bindings : GoMap String β) = ∅ := h .bindings
  grind [isBlobACLEnforced, isBlobOperationAllowed]

end BlobService

/-! ## What a call does to the content held -/

namespace Service

variable {δ γ β : Type} [DecidableEq δ] {s : Service δ γ β}

variable (C : PolicyCourse δ)

/-- This update wipes nothing: the policy retains content, and so does the one of before if that
is applied again. -/
def SparesContent (s : Service δ γ β) (args : PolicyArguments) : Prop :=
  ∀ policy, parseStoragePolicy args = .ok policy →
    retentionOf policy ≠ .zeroRetention ∧
      (C.persisted = false → retentionOf s.privacy ≠ .zeroRetention)

structure HoldsOr (kept : Prop) (s s' : Service δ γ β) : Prop where
  same : kept → s'.memory = s.memory
  empty : ¬kept → ∀ f, s'.memory f = f.empty

theorem updateStoragePolicy_memory (s : Service δ γ β) (args : PolicyArguments) :
    HoldsOr (s.SparesContent C args) s (s.updateStoragePolicy C args).2 := by
  unfold SparesContent
  have hupdated := updateStoragePolicy_updated C s args
  generalize s.updateStoragePolicy C args = r at hupdated ⊢
  cases hupdated with
  | refused e hparse =>
    rw [hparse]
    exact ⟨fun _ => rfl, fun h => absurd (fun _ hok => nomatch hok) h⟩
  | notWiped policy s' hparse happlied hwipe =>
    rw [hparse]
    simp only [Except.ok.injEq, forall_eq']
    refine ⟨fun h => absurd hwipe.1 h.1, fun _ f => ?_⟩
    rw [happlied.memory f, if_pos hwipe.1]
  | written policy s' hparse happlied hwipe hpersisted =>
    rw [hparse]
    simp only [Except.ok.injEq, forall_eq', hpersisted, Bool.true_eq_false, false_implies,
      and_true]
    refine ⟨fun h => funext fun f => ?_, fun h f => ?_⟩
    · exact (happlied.memory f).trans (if_neg h)
    · exact (happlied.memory f).trans (if_pos (not_not.mp h))
  | rolledBack policy s' s'' hparse happlied hwipe hpersisted hagain =>
    rw [hparse]
    simp only [Except.ok.injEq, forall_eq', hpersisted, true_implies]
    -- what one of the two policies drops, the other does not bring back
    refine ⟨fun h => funext fun f => ?_, fun h f => ?_⟩
    · rw [hagain.memory f, if_neg h.2, happlied.memory f, if_neg h.1]
    · grind [cases Applied]

omit [DecidableEq δ] in
theorem sparesContent_preset (s : Service δ γ β) (preset : BlobNodePreset) :
    s.SparesContent C (buildBlobNodePresetConfig preset).policyArguments ↔
      (C.persisted = false → retentionOf s.privacy ≠ .zeroRetention) := by
  have hparses : ∃ policy,
      parseStoragePolicy (buildBlobNodePresetConfig preset).policyArguments = .ok policy ∧
        retentionOf policy ≠ .zeroRetention := by
    cases preset with
    | custom | assist | lite | cache | pin => exact ⟨_, rfl, by decide⟩
  obtain ⟨policy, hparse, hretained⟩ := hparses
  unfold SparesContent
  rw [hparse]
  simp only [Except.ok.injEq, forall_eq', hretained, ne_eq, not_false_eq_true, true_and]

theorem setBlobNodePreset_memory [LowerCase] (synced : Bool)
    (s : Service δ γ β) (rawPreset : String) :
    HoldsOr (∀ preset, parseBlobNodePreset rawPreset = .ok preset →
        C.persisted = false → retentionOf s.privacy ≠ .zeroRetention)
      s (s.setBlobNodePreset C synced rawPreset).2 := by
  unfold setBlobNodePreset
  cases hpreset : parseBlobNodePreset rawPreset with
  | error e => exact ⟨fun _ => rfl, fun h => absurd (fun _ hok => nomatch hok) h⟩
  | ok preset =>
    have hupdate := updateStoragePolicy_memory C s
      (buildBlobNodePresetConfig preset).policyArguments
    rw [sparesContent_preset] at hupdate
    simp only [Except.ok.injEq, forall_eq']
    generalize s.updateStoragePolicy C (buildBlobNodePresetConfig preset).policyArguments = r
      at hupdate ⊢
    obtain ⟨result, s'⟩ := r
    -- nothing after the update touches a store
    cases result with
    | error e => exact hupdate
    | ok policy =>
      cases parseBlobReplicationMode (buildBlobNodePresetConfig preset).replicationMode with
      | error e => exact hupdate
      | ok mode =>
        cases synced with
        | true | false => exact ⟨hupdate.same, hupdate.empty⟩

theorem stopNetworking_memory (removed : δ → ContentFile → Bool) (running stopped : Bool)
    (s : Service δ γ β) :
    HoldsOr (¬(running = true ∧ stopped = false) → retentionOf s.privacy ≠ .zeroRetention) s
      (s.stopNetworking removed running stopped).2 := by
  unfold stopNetworking
  by_cases hstuck : running = true ∧ stopped = false
  · rw [if_pos (by simpa using hstuck)]
    exact ⟨fun _ => rfl, fun h => absurd (fun hnot => absurd hstuck hnot) h⟩
  · rw [if_neg (by simpa using hstuck)]
    simp only [hstuck, not_false_eq_true, true_implies]
    by_cases hzero : retentionOf s.privacy = .zeroRetention
    · have hwipes : s.toStores.cleanupOnStopIfZeroRetention removed =
          s.toStores.wipeContentState removed := if_neg (not_not.mpr hzero)
      rw [hwipes]
      have hempty : ∀ f, (s.toStores.wipeContentState removed).2.memory f = f.empty :=
        fun _ => rfl
      generalize s.toStores.wipeContentState removed = r at hempty ⊢
      obtain ⟨ok, stores⟩ := r
      refine ⟨fun h => absurd hzero h, fun _ f => ?_⟩
      grind
    · rw [Stores.cleanupOnStop_of_retained hzero]
      exact ⟨fun _ => rfl, fun h => absurd hzero h⟩

inductive RetentionCall (δ : Type) where
  | updateStoragePolicy (C : PolicyCourse δ) (args : PolicyArguments)
  | setBlobNodePreset (C : PolicyCourse δ) (synced : Bool) (rawPreset : String)
  | stopNetworking (removed : δ → ContentFile → Bool) (running stopped : Bool)

def perform [LowerCase] (s : Service δ γ β) : RetentionCall δ → Service δ γ β
  | .updateStoragePolicy C args => (s.updateStoragePolicy C args).2
  | .setBlobNodePreset C synced rawPreset => (s.setBlobNodePreset C synced rawPreset).2
  | .stopNetworking removed running stopped => (s.stopNetworking removed running stopped).2

/-- The call wipes nothing. A policy that is entered retains content; one that cannot be written
is not entered in zero retention, nor is a preset that cannot be written; and networking does not
stop in zero retention. -/
def SparedBy [LowerCase] (s : Service δ γ β) : RetentionCall δ → Prop
  | .updateStoragePolicy C args => s.SparesContent C args
  | .setBlobNodePreset C _ rawPreset =>
    ∀ preset, parseBlobNodePreset rawPreset = .ok preset →
      C.persisted = false → retentionOf s.privacy ≠ .zeroRetention
  | .stopNetworking _ running stopped =>
    ¬(running = true ∧ stopped = false) → retentionOf s.privacy ≠ .zeroRetention

theorem perform_memory [LowerCase] (s : Service δ γ β) (c : RetentionCall δ) :
    HoldsOr (s.SparedBy c) s (s.perform c) := by
  cases c with
  | updateStoragePolicy C args => exact updateStoragePolicy_memory C s args
  | setBlobNodePreset C synced rawPreset => exact setBlobNodePreset_memory C synced s rawPreset
  | stopNetworking removed running stopped =>
    exact stopNetworking_memory removed running stopped s

theorem perform_empty [LowerCase] (s : Service δ γ β) (c : RetentionCall δ)
    (h : ∀ f, s.memory f = f.empty) : ∀ f, (s.perform c).memory f = f.empty := by
  intro f
  by_cases hspared : s.SparedBy c
  · rw [(perform_memory s c).same hspared, h f]
  · exact (perform_memory s c).empty hspared f

end Service

/-! ## Runs -/

namespace BlobService

section

variable {δ β : Type} [DecidableEq δ] [LowerCase] {s : BlobService δ β}

def call (s : BlobService δ β) (c : Service.RetentionCall δ) : BlobService δ β :=
  { s with toService := s.toService.perform c }

/-- A requester who is denied is still denied after a run of such calls exactly if none of them
wipes. -/
theorem still_denied_iff {requester : String} (calls : List (Service.RetentionCall δ))
    (h : s.isBlobOperationAllowed requester ≠ none) :
    (run call s calls).isBlobOperationAllowed requester ≠ none ↔
      Along call (fun s c => s.toService.SparedBy c) s calls := by
  induction calls generalizing s with
  | nil => exact ⟨fun _ => trivial, fun _ => h⟩
  | cons c calls ih =>
    rw [run_cons]
    have hmemory := Service.perform_memory s.toService c
    by_cases hspared : s.toService.SparedBy c
    · -- the verdict is the same after this call
      have hstill : (s.call c).isBlobOperationAllowed requester ≠ none := by
        unfold call
        rwa [isBlobOperationAllowed_of_memory (hmemory.same hspared)]
      rw [ih hstill]
      exact ⟨fun halong => ⟨hspared, halong⟩, fun halong => halong.2⟩
    · -- the binding is gone, and none of these calls makes one
      have hempty : ∀ f, (run call (s.call c) calls).memory f = f.empty :=
        run_inv (I := fun t : BlobService δ β => ∀ f, t.memory f = f.empty)
          (fun t c' => Service.perform_empty t.toService c') (hmemory.empty hspared) calls
      have hallowed := isBlobOperationAllowed_of_empty hempty requester
      exact ⟨fun hdenied => absurd hallowed hdenied, fun halong => absurd halong.1 hspared⟩

end

/-! ### A stranger -/

/-- The service of an identity with a node binding; only the owner may have blobs. -/
def ownerOnly : BlobService Unit Unit where
  disk _ f := f.empty
  dir _ := some ()
  memory
    | .bindings => (∅ : GoMap String Unit).insert "aim1alice" ()
    | f => f.empty
  persist _ := true
  privacy := defaultPrivacySettings
  limits := classLimits defaultPrivacySettings
  hardCap := hardCapPolicy (buildBlobNodePresetConfig .assist)
  nodePreset := buildBlobNodePresetConfig .assist
  replicationMode := .onDemand
  blobFlags := ⟨true, true, 100⟩
  nodePolicies := Privacy.defaultNodePolicies
  identityManager :=
    { identityID := "aim1alice", signingPublicKey := [], selfPriv := [], contacts := ∅
      devices := ∅, activeDeviceID := "", revokedDevices := ∅ }
  blobACL := ⟨.ownerOnly, ∅⟩

def smoothCourse : PolicyCourse Unit := ⟨fun _ _ => true, true, fun _ _ => true⟩

def policyFor (retention : String) : Service.RetentionCall Unit :=
  .updateStoragePolicy smoothCourse ⟨"standard", retention, 0, 0, 0, 0, 0, 0, 0⟩

/-- Messages become ephemeral, the node changes its preset, and networking stops. -/
def ephemeralCalls : List (Service.RetentionCall Unit) :=
  [policyFor "ephemeral", .setBlobNodePreset smoothCourse true "cache",
    .stopNetworking (fun _ _ => true) true true]

/-- A stranger is still denied. -/
theorem stranger_still_denied :
    letI := asciiLowerCase
    ownerOnly.isBlobOperationAllowed "aim1mallory" ≠ none ∧
      (run call ownerOnly ephemeralCalls).isBlobOperationAllowed "aim1mallory" ≠ none := by
  let _ := asciiLowerCase
  have hdenied : ownerOnly.isBlobOperationAllowed "aim1mallory" ≠ none := by decide
  have hpreset : (ownerOnly.call (policyFor "ephemeral")).toService.SparedBy
      (.setBlobNodePreset smoothCourse true "cache") := fun _ _ hunsaved => nomatch hunsaved
  have hstop : ((ownerOnly.call (policyFor "ephemeral")).call
      (.setBlobNodePreset smoothCourse true "cache")).toService.SparedBy
      (.stopNetworking (fun _ _ => true) true true) := fun _ => by decide
  refine ⟨hdenied, (still_denied_iff ephemeralCalls hdenied).mpr ⟨?_, hpreset, hstop, trivial⟩⟩
  intro policy hparse
  refine ⟨fun hzero => ?_, fun hnot => nomatch hnot⟩
  have hmode := Privacy.retentionOf_parseStoragePolicy hparse
  rw [hzero] at hmode
  exact absurd hmode (by decide)

/-- After a change to zero retention a stranger who was denied is allowed. -/
theorem zero_retention_lets_stranger_in :
    letI := asciiLowerCase
    ownerOnly.isBlobOperationAllowed "aim1mallory" = some .ownerOnly ∧
      (ownerOnly.toService.updateStoragePolicy smoothCourse
        ⟨"standard", "zero_retention", 0, 0, 0, 0, 0, 0, 0⟩).1.isOk = true ∧
      (run call ownerOnly [policyFor "zero_retention"]).isBlobOperationAllowed "aim1mallory" =
        none := by
  refine ⟨by decide, by decide, by decide⟩

end BlobService

end Ardents.Daemon
