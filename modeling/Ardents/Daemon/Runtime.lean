import Ardents.Daemon.Accounts
import Ardents.Groups.Recovery

/-!
# What the running daemon holds besides its stores

Activating an account loads its identity and drops the pending links. The replay guard of the
groups is made where there is none, and emptied by a wipe; the cache of public blobs and the
registry of blob providers belong to the process, not to an account.
-/

namespace Ardents.Daemon

open Go
open Crypto (Time)
open Groups (generatePrefixedID)
open Privacy (retentionOf)

structure PendingNodeBindingLink where
  identityID : String
  code : String
  challenge : String
  expiresAt : Time
  deriving DecidableEq, Repr

structure PublicEphemeralBlobEntry where
  info : AttachmentMeta
  data : Bytes
  size : Int
  expiresAt : Time
  lastAccess : Time
  deriving DecidableEq, Repr

abbrev BlobProviderRegistry : Type := GoMap String (GoMap String Time)

namespace BlobProviderRegistry

variable (byBlob : BlobProviderRegistry)

def removePeer (peerID : String) : BlobProviderRegistry :=
  let peerID := trimSpace peerID
  if peerID = "" then byBlob
  else (byBlob.map fun _ providers => providers.erase peerID).filter
    fun _ providers => !providers.isEmpty

def entry (blobID peerID : String) : Option Time :=
  (byBlob[blobID]?).bind fun providers => providers[peerID]?

theorem entry_removePeer {peerID : String} (hne : trimSpace peerID ≠ "") (blobID : String) :
    (byBlob.removePeer peerID).entry blobID (trimSpace peerID) = none := by
  unfold removePeer entry
  simp_all

theorem removePeer_blank {peerID : String}
    (h : trimSpace peerID = "") : byBlob.removePeer peerID = byBlob := if_pos h

end BlobProviderRegistry

/-- The daemon with its accounts and what it holds besides; `ε` are identities, with contacts and
devices. -/
structure Runtime (δ γ β ε : Type) extends Profiles δ γ β where
  /-- What `identity.enc` says, where there is one. -/
  identityFile : δ → Option ε
  /-- The directory in which the identity is kept. -/
  identityDir : Option δ
  identity : ε
  /-- What `blocklist.enc` says. -/
  blocklistFile : δ → GoMap String Unit
  /-- The directory of `privacy.enc` and `blocklist.enc`. -/
  privacyDir : Option δ
  blocklist : GoMap String Unit
  replaySeen : GoMap String Time
  bindingLinks : GoMap String PendingNodeBindingLink
  publicBlobCache : GoMap String PublicEphemeralBlobEntry
  blobProviders : BlobProviderRegistry

/-- How things turn out, with the identity that `NewManager` makes up. -/
structure Course (δ ε : Type) extends Outcomes δ where
  generated : ε
  /-- `Bootstrap` of the blocklist. -/
  blocklistRead : δ → Bool

inductive AccountCallError where
  | account (e : AccountError)
  | generator
  | identityOp
  | network
  deriving DecidableEq, Repr

/-! ## Reloading the stores -/

namespace Profiles

variable {δ γ β : Type} [DecidableEq δ] {O : Outcomes δ} {p : Profiles δ γ β} {dir : δ}

theorem reloadFromBundle_ok_iff : (p.reloadFromBundle O dir).1 = .ok () ↔
      (O.managerMade = true ∧ O.identityRead dir = true) ∧
        (retentionOf (p.settingsOf O dir) = .zeroRetention →
          ∀ f d, (if f.hasFlag then some dir else p.dir f) = some d → O.removed d f = true) := by
  by_cases hreads : O.managerMade = true ∧ O.identityRead dir = true
  · rw [reloadFromBundle_eq hreads.1 hreads.2, and_iff_right hreads]
    by_cases hzero : retentionOf (p.settingsOf O dir) = .zeroRetention
    · rw [if_pos hzero, forall_prop_of_true hzero]
      refine Iff.trans ?_ (Stores.wipeContentState_ok (s := Stores.setPersistenceEnabled
        ({ p.openBundle dir with privacy := p.settingsOf O dir } : Profiles δ γ β).toStores false))
      grind
    · rw [if_neg hzero]
      exact iff_of_true rfl fun h => absurd h hzero
  · grind [reloadFromBundle_reads]

theorem reloadFromBundle_memory (h : (p.reloadFromBundle O dir).1 = .ok ()) (f : ContentFile) :
    (p.reloadFromBundle O dir).2.memory f =
      if f.hasFlag then
        if retentionOf (p.settingsOf O dir) = .zeroRetention then f.empty
        else f.load ((p.reloadFromBundle O dir).2.disk dir f)
      else if O.read dir f then f.load ((p.reloadFromBundle O dir).2.disk dir f)
      else if f = .bindings then
        if retentionOf (p.settingsOf O dir) = .zeroRetention then f.empty else p.memory f
      else f.empty := by
  obtain ⟨hmanager, hidentity⟩ := reloadFromBundle_reads h
  rw [reloadFromBundle_eq hmanager hidentity] at h ⊢
  by_cases hzero : retentionOf (p.settingsOf O dir) = .zeroRetention
  · rw [if_pos hzero] at h ⊢
    simp only [hzero, if_true]
    dsimp only at h ⊢
    split at h
    · rename_i hwiped
      rw [if_pos hwiped]
      rfl
    · exact nomatch h
  · rw [if_neg hzero]
    simp only [hzero, if_false]
    cases f with
    | messages | sessions | attachments | bindings | requests | groups => rfl

theorem reloadFromBundle_privacy (h : (p.reloadFromBundle O dir).1 = .ok ()) :
    (p.reloadFromBundle O dir).2.privacy = p.settingsOf O dir := by
  obtain ⟨hmanager, hidentity⟩ := reloadFromBundle_reads h
  rw [reloadFromBundle_eq hmanager hidentity]
  split
  · dsimp only
    split
    · rfl
    · rfl
  · rfl

theorem reloadFromBundle_disk_of_closed {f : ContentFile} (hflag : f.hasFlag = false)
    (hdir : p.dir f = none) (d : δ) : (p.reloadFromBundle O dir).2.disk d f = p.disk d f := by
  by_cases hreads : O.managerMade = true ∧ O.identityRead dir = true
  · rw [reloadFromBundle_eq hreads.1 hreads.2]
    have hnone : (if f.hasFlag then some dir else p.dir f) ≠ some d := by
      simp_all
    split
    · dsimp only
      split
      · exact if_neg fun h => hnone h.1
      · exact if_neg fun h => hnone h.1
    · rfl
  · rw [(reloadFromBundle_of_unread hreads).2]

end Profiles

namespace Runtime

variable {δ γ β ε : Type} [DecidableEq δ]

omit [DecidableEq δ] in
/-- The part of `resetVolatileRuntimeState` that is not in the stores. -/
def resetVolatile (r : Runtime δ γ β ε) : Runtime δ γ β ε :=
  { r with replaySeen := ∅, bindingLinks := ∅ }

/-- `Bootstrap` of the identity: what is in the file, or the new one, which is then written. -/
def bootstrapIdentity (C : Course δ ε) (r : Runtime δ γ β ε) (dir : δ) : Runtime δ γ β ε :=
  { r with
    identityDir := some dir
    identity := (r.identityFile dir).getD C.generated
    identityFile := fun d =>
      if d = dir then some ((r.identityFile dir).getD C.generated) else r.identityFile d }

/-- `Configure` and `BootstrapPartial` of the privacy service, but for the settings. -/
def bootstrapPrivacy (C : Course δ ε) (r : Runtime δ γ β ε) (dir : δ) : Runtime δ γ β ε :=
  { r with
    privacyDir := some dir
    blocklist := if C.blocklistRead dir then r.blocklistFile dir else ∅ }

def reloadFromBundle (C : Course δ ε) (r : Runtime δ γ β ε) (dir : δ) :
    Except AccountError Unit × Runtime δ γ β ε :=
  match r.toProfiles.reloadFromBundle C.toOutcomes dir with
  | (result, profiles) =>
    let r' := { r with toProfiles := profiles }
    if C.managerMade = false then (result, r')
    else if C.identityRead dir = false then
      (result, { r' with identityDir := some dir, identity := C.generated })
    else
      let r' := (r'.bootstrapIdentity C dir).bootstrapPrivacy C dir
      let r' :=
        if retentionOf (r.settingsOf C.toOutcomes dir) = .zeroRetention then r'.resetVolatile
        else r'
      match result with
      | .error e => (.error e, r')
      | .ok () => (.ok (), { r' with bindingLinks := ∅ })

def saveAccountRegistry (C : Course δ ε) (r : Runtime δ γ β ε) (reg : AccountRegistry) :
    Except AccountError Unit × Runtime δ γ β ε :=
  if C.registryWritten then (.ok (), { r with registry := .saved { reg with version := 1 } })
  else (.error .registryNotSaved, r)

section

variable (resolveAccountDataDir : AccountMeta → δ)

def activateAccountLocked (C : Course δ ε) (r : Runtime δ γ β ε) (accountID : String)
    (persistActive : Bool) : Except AccountError Unit × Runtime δ γ β ε :=
  match loadAccountRegistry r.registry with
  | .error e => (.error e, r)
  | .ok reg =>
    match findAccountMeta reg accountID with
    | none => (.error .accountNotFound, r)
    | some entry =>
      let dir := resolveAccountDataDir entry
      if C.bundleBuilt dir = false then (.error .bundle, r)
      else
        match r.reloadFromBundle C dir with
        | (.error e, r) => (.error e, r)
        | (.ok (), r) =>
          let r := { r with currentProfileID := entry.id }
          if persistActive then r.saveAccountRegistry C { reg with activeID := entry.id }
          else (.ok (), r)

/-- `StopNetworking`, where the network is running; `peerID` is `localPeerID`. -/
def stopNetworking (peerID : ε → String) (C : Course δ ε) (r : Runtime δ γ β ε)
    (running stopped : Bool) : Runtime δ γ β ε :=
  if running ∧ stopped then
    let r' :=
      { r with
        toProfiles := r.toProfiles.stopNetworking C.toOutcomes running stopped
        blobProviders := r.blobProviders.removePeer (peerID r.identity) }
    if retentionOf r.privacy = .zeroRetention then r'.resetVolatile else r'
  else r

/-- `SwitchAccount`. `R` is how activating the former account turns out, and `started` whether the
network can be started again. -/
def switchAccount (peerID : ε → String) (C R : Course δ ε) (running stopped started : Bool)
    (r : Runtime δ γ β ε) (accountID : String) : Except AccountCallError Unit × Runtime δ γ β ε :=
  let accountID := trimSpace accountID
  if accountID = "" then (.error (.account .accountIDRequired), r)
  else if accountID = r.currentProfileID then (.ok (), r)
  else
    let r := r.stopNetworking peerID C running stopped
    match r.activateAccountLocked resolveAccountDataDir C accountID true with
    | (.error e, r') =>
      (.error (.account e),
        if r.currentProfileID ≠ "" then
          (r'.activateAccountLocked resolveAccountDataDir R r.currentProfileID false).2
        else r')
    | (.ok (), r') => if running ∧ ¬started then (.error .network, r') else (.ok (), r')

/-! ## New accounts -/

def accountPrefix : String := "acct"

/-- `createAccountProfileLocked`, with the random bytes for the id. -/
def createAccountProfileLocked (C : Course δ ε) (r : Runtime δ γ β ε) (buf : Option Bytes) :
    Except AccountCallError AccountMeta × Runtime δ γ β ε :=
  match loadAccountRegistry r.registry with
  | .error e => (.error (.account e), r)
  | .ok reg =>
    match buf with
    | none => (.error .generator, r)
    | some buf =>
      -- such an id has neither blanks nor hyphens, which would be taken out
      let profileID := generatePrefixedID accountPrefix buf
      let entry : AccountMeta := ⟨profileID, "profiles/" ++ profileID⟩
      match r.saveAccountRegistry C { reg with accounts := reg.accounts ++ [entry] } with
      | (.error e, r) => (.error (.account e), r)
      | (.ok (), r) => (.ok entry, r)

def removeAccountProfileLocked (C : Course δ ε) (r : Runtime δ γ β ε) (accountID : String) :
    Except AccountError Unit × Runtime δ γ β ε :=
  match loadAccountRegistry r.registry with
  | .error e => (.error e, r)
  | .ok reg =>
    r.saveAccountRegistry C
      { reg with
        accounts := reg.accounts.filter fun entry => trimSpace entry.id ≠ accountID
        activeID := if reg.activeID = accountID then legacyAccountID else reg.activeID }

/-- What `CreateIdentity` and `ImportIdentity` come to once the profile is active. -/
inductive IdentityOpOutcome (ε : Type) where
  /-- The manager refuses. -/
  | refused
  /-- The identity is in the manager but cannot be persisted; this is left of the file. -/
  | notPersisted (identity : ε) (left : Option ε)
  | done (identity : ε)

def identityOp (r : Runtime δ γ β ε) : IdentityOpOutcome ε →
    Except AccountCallError Unit × Runtime δ γ β ε
  | .refused => (.error .identityOp, r)
  | .notPersisted identity left =>
    (.error .identityOp,
      { r with
        identity := identity
        identityFile := fun d => if r.identityDir = some d then left else r.identityFile d })
  | .done identity =>
    (.ok (),
      { r with
        identity := identity
        identityFile := fun d =>
          if r.identityDir = some d then some identity else r.identityFile d })

def removeAndRestore (C R : Course δ ε) (accountID previousAccountID : String)
    (r : Runtime δ γ β ε) : Runtime δ γ β ε :=
  let r := (r.removeAccountProfileLocked C accountID).2
  if previousAccountID ≠ "" then
    (r.activateAccountLocked resolveAccountDataDir R previousAccountID true).2
  else r

def runIdentityOpOnNewAccountLocked (peerID : ε → String) (C R : Course δ ε)
    (running stopped started : Bool) (buf : Option Bytes) (op : IdentityOpOutcome ε)
    (r : Runtime δ γ β ε) : Except AccountCallError Unit × Runtime δ γ β ε :=
  match r.createAccountProfileLocked C buf with
  | (.error e, r) => (.error e, r)
  | (.ok entry, r) =>
    let previousAccountID := r.currentProfileID
    let r := r.stopNetworking peerID C running stopped
    match r.activateAccountLocked resolveAccountDataDir C entry.id true with
    | (.error e, r) =>
      (.error (.account e),
        r.removeAndRestore resolveAccountDataDir C R entry.id previousAccountID)
    | (.ok (), r) =>
      match r.identityOp op with
      | (.error e, r) =>
        (.error e, r.removeAndRestore resolveAccountDataDir C R entry.id previousAccountID)
      | (.ok (), r) => if running ∧ ¬started then (.error .network, r) else (.ok (), r)

end

/-! ## Stopping the network -/

def WipesOnStop (running stopped : Bool) (r : Runtime δ γ β ε) : Prop :=
  (running = true ∧ stopped = true) ∧ retentionOf r.privacy = .zeroRetention

omit [DecidableEq δ] in
instance (running stopped : Bool) (r : Runtime δ γ β ε) :
    Decidable (r.WipesOnStop running stopped) :=
  inferInstanceAs (Decidable (_ ∧ _))

structure Stopped (peerID : ε → String) (running stopped : Bool) (r r' : Runtime δ γ β ε) :
    Prop where
  accounts : Profiles.SameAccounts r.toProfiles r'.toProfiles
  identity : r'.identity = r.identity
  identityFile : r'.identityFile = r.identityFile
  identityDir : r'.identityDir = r.identityDir
  blocklistFile : r'.blocklistFile = r.blocklistFile
  privacyDir : r'.privacyDir = r.privacyDir
  dir : r'.dir = r.dir
  disk : ∀ d f, r'.disk d f = r.disk d f ∨ r.dir f = some d ∧ r'.disk d f = f.empty
  memory : ∀ f, r'.memory f = if r.WipesOnStop running stopped then f.empty else r.memory f
  replaySeen : r'.replaySeen = if r.WipesOnStop running stopped then ∅ else r.replaySeen
  publicBlobCache : r'.publicBlobCache = r.publicBlobCache
  blobProviders : r'.blobProviders =
    if running ∧ stopped then r.blobProviders.removePeer (peerID r.identity)
    else r.blobProviders

theorem stopNetworking_stopped (peerID : ε → String) (C : Course δ ε) (r : Runtime δ γ β ε)
    (running stopped : Bool) :
    Stopped peerID running stopped r (r.stopNetworking peerID C running stopped) := by
  unfold stopNetworking
  by_cases hstops : running = true ∧ stopped = true
  · have hrest : r.toProfiles.stopNetworking C.toOutcomes running stopped =
        { r.toProfiles with
          toStores := (r.toStores.cleanupOnStopIfZeroRetention C.removed).2 } := if_pos hstops
    rw [if_pos hstops, hrest]
    by_cases hzero : retentionOf r.privacy = .zeroRetention
    · have hwipes : r.WipesOnStop running stopped := ⟨hstops, hzero⟩
      have hcleanup : r.toStores.cleanupOnStopIfZeroRetention C.removed =
          r.toStores.wipeContentState C.removed := if_neg (not_not.mpr hzero)
      have hdisk : ∀ d f, (r.toStores.wipeContentState C.removed).2.disk d f = r.disk d f ∨
          r.dir f = some d ∧ (r.toStores.wipeContentState C.removed).2.disk d f = f.empty := by
        intro d f
        dsimp only [Stores.wipeContentState]
        split
        · rename_i hremoved
          exact .inr ⟨hremoved.1, rfl⟩
        · exact .inl rfl
      rw [if_pos hzero, hcleanup]
      exact ⟨⟨rfl, rfl, rfl⟩, rfl, rfl, rfl, rfl, rfl, rfl, hdisk, fun f => (if_pos hwipes).symm,
        (if_pos hwipes).symm, rfl, (if_pos hstops).symm⟩
    · have hkeeps : ¬ r.WipesOnStop running stopped := fun h => hzero h.2
      rw [if_neg hzero, Stores.cleanupOnStop_of_retained hzero]
      exact ⟨⟨rfl, rfl, rfl⟩, rfl, rfl, rfl, rfl, rfl, rfl, fun _ _ => .inl rfl,
        fun f => (if_neg hkeeps).symm, (if_neg hkeeps).symm, rfl, (if_pos hstops).symm⟩
  · have hkeeps : ¬ r.WipesOnStop running stopped := fun h => hstops h.1
    rw [if_neg hstops]
    exact ⟨⟨rfl, rfl, rfl⟩, rfl, rfl, rfl, rfl, rfl, rfl, fun _ _ => .inl rfl,
      fun f => (if_neg hkeeps).symm, (if_neg hkeeps).symm, rfl, (if_neg hstops).symm⟩

/-! ## Activation -/

section

variable {C : Course δ ε} {r : Runtime δ γ β ε} {dir : δ}

theorem reloadFromBundle_profiles (C : Course δ ε) (r : Runtime δ γ β ε) (dir : δ) :
    (r.reloadFromBundle C dir).1 = (r.toProfiles.reloadFromBundle C.toOutcomes dir).1 ∧
      (r.reloadFromBundle C dir).2.toProfiles =
        (r.toProfiles.reloadFromBundle C.toOutcomes dir).2 := by
  unfold reloadFromBundle
  rcases r.toProfiles.reloadFromBundle C.toOutcomes dir with ⟨result, profiles⟩
  dsimp only
  split
  · exact ⟨rfl, rfl⟩
  · split
    · exact ⟨rfl, rfl⟩
    · cases result with
      | error | ok =>
        refine ⟨rfl, ?_⟩
        dsimp only
        split
        · rfl
        · rfl

theorem reloadFromBundle_identityFile (C : Course δ ε) (r : Runtime δ γ β ε) (dir : δ) :
    (r.reloadFromBundle C dir).2.identityFile = r.identityFile ∨
      (r.reloadFromBundle C dir).2.identityFile = fun d =>
        if d = dir then some ((r.identityFile dir).getD C.generated) else r.identityFile d := by
  unfold reloadFromBundle
  rcases r.toProfiles.reloadFromBundle C.toOutcomes dir with ⟨result, profiles⟩
  dsimp only
  split
  · exact .inl rfl
  · split
    · exact .inl rfl
    · refine .inr ?_
      cases result with
      | error | ok =>
        dsimp only
        split
        · rfl
        · rfl

structure Reloaded (C : Course δ ε) (dir : δ) (r r' : Runtime δ γ β ε) : Prop where
  identityDir : r'.identityDir = some dir
  identity : r'.identity = (r.identityFile dir).getD C.generated
  identityFile : r'.identityFile = fun d =>
    if d = dir then some ((r.identityFile dir).getD C.generated) else r.identityFile d
  blocklist : r'.blocklist = if C.blocklistRead dir then r.blocklistFile dir else ∅
  blocklistFile : r'.blocklistFile = r.blocklistFile
  replaySeen : r'.replaySeen =
    if retentionOf (r.settingsOf C.toOutcomes dir) = .zeroRetention then ∅ else r.replaySeen
  bindingLinks : r'.bindingLinks = ∅
  publicBlobCache : r'.publicBlobCache = r.publicBlobCache
  blobProviders : r'.blobProviders = r.blobProviders

theorem reloadFromBundle_reloaded (h : (r.reloadFromBundle C dir).1 = .ok ()) :
    Reloaded C dir r (r.reloadFromBundle C dir).2 := by
  have hok : (r.toProfiles.reloadFromBundle C.toOutcomes dir).1 = .ok () :=
    (reloadFromBundle_profiles C r dir).1.symm.trans h
  obtain ⟨hmanager, hidentity⟩ := Profiles.reloadFromBundle_reads hok
  have hloaded : r.toProfiles.reloadFromBundle C.toOutcomes dir =
      (.ok (), (r.toProfiles.reloadFromBundle C.toOutcomes dir).2) := Prod.ext hok rfl
  unfold reloadFromBundle
  rw [hloaded]
  dsimp only
  rw [if_neg (by simp [hmanager]), if_neg (by simp [hidentity])]
  split
  · rename_i hzero
    exact ⟨rfl, rfl, rfl, rfl, rfl, (if_pos hzero).symm, rfl, rfl, rfl⟩
  · rename_i hretained
    exact ⟨rfl, rfl, rfl, rfl, rfl, (if_neg hretained).symm, rfl, rfl, rfl⟩

theorem reloadFromBundle_privacy (h : (r.reloadFromBundle C dir).1 = .ok ()) :
    (r.reloadFromBundle C dir).2.privacy = r.settingsOf C.toOutcomes dir := by
  have hprofiles := reloadFromBundle_profiles C r dir
  rw [hprofiles.2]
  exact Profiles.reloadFromBundle_privacy (hprofiles.1.symm.trans h)

variable {resolveAccountDataDir : AccountMeta → δ} {reg : AccountRegistry} {entry : AccountMeta}
  {accountID : String} {persistActive : Bool}

variable (resolveAccountDataDir C persistActive) in
theorem activateAccountLocked_ok (hreg : loadAccountRegistry r.registry = .ok reg)
    (hfind : findAccountMeta reg accountID = some entry)
    (hok : (r.activateAccountLocked resolveAccountDataDir C accountID persistActive).1 = .ok ()) :
    (r.reloadFromBundle C (resolveAccountDataDir entry)).1 = .ok () ∧
      ∃ registry, (r.activateAccountLocked resolveAccountDataDir C accountID persistActive).2 =
        { (r.reloadFromBundle C (resolveAccountDataDir entry)).2 with
          currentProfileID := entry.id
          registry := registry } := by
  unfold activateAccountLocked at hok ⊢
  rw [hreg] at hok ⊢
  dsimp only at hok ⊢
  rw [hfind] at hok ⊢
  dsimp only at hok ⊢
  split at hok
  · exact nomatch hok
  · rename_i hbuilt
    rw [if_neg hbuilt]
    generalize r.reloadFromBundle C (resolveAccountDataDir entry) = loaded at hok ⊢
    grind [saveAccountRegistry]

end

end Runtime

end Ardents.Daemon
