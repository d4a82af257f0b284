import Ardents.Daemon.Stores

/-!
# Switching accounts

To activate another account, `reloadFromBundle` points the stores at its data directory one after
the other: first messages, sessions and attachments, then the identity and the privacy settings;
then it applies the storage policy of the new account; and only then it points the stores of
message requests, groups and node bindings there.
-/

namespace Ardents.Daemon

open Go
open Messaging (Message)
open Privacy (PrivacySettings defaultPrivacySettings normalizePrivacySettings retentionOf
  retentionOf_normalize retentionOf_storagePolicyFromSettings)

open Stores

/-! ## The registry of accounts -/

/-- `persistedAccountMeta`. -/
structure AccountMeta where
  id : String
  relPath : String
  deriving DecidableEq, Repr

/-- `persistedAccountRegistry`. -/
structure AccountRegistry where
  version : Int
  activeID : String
  accounts : List AccountMeta

/-- `accounts.json`. -/
inductive RegistryFile where
  | absent
  | unreadable
  | saved (reg : AccountRegistry)

inductive AccountError where
  | registry
  | registryVersion
  | registryNotSaved
  | accountIDRequired
  | accountNotFound
  | bundle
  | manager
  | identity
  | wipe
  deriving DecidableEq, Repr

def legacyAccountID : String := "legacy"

def legacyAccount : AccountMeta := ⟨legacyAccountID, "."⟩

def loadAccountRegistry : RegistryFile → Except AccountError AccountRegistry
  | .absent => .ok ⟨1, legacyAccountID, [legacyAccount]⟩
  | .unreadable => .error .registry
  | .saved reg =>
    if reg.version ≠ 1 then .error .registryVersion
    else .ok
      { reg with
        accounts :=
          if reg.accounts.any fun entry => trimSpace entry.id = legacyAccountID then reg.accounts
          else reg.accounts ++ [legacyAccount]
        activeID := if trimSpace reg.activeID = "" then legacyAccountID else reg.activeID }

def findAccountMeta (reg : AccountRegistry) (accountID : String) : Option AccountMeta :=
  if trimSpace accountID = "" then none
  else reg.accounts.find? fun entry => trimSpace entry.id = trimSpace accountID

/-! ## Activating an account -/

structure Outcomes (δ : Type) where
  /-- Writing `accounts.json`. -/
  registryWritten : Bool
  /-- `BuildStorageBundle`: messages and attachments can be read. -/
  bundleBuilt : δ → Bool
  /-- `NewManager`. -/
  managerMade : Bool
  /-- `Bootstrap` of the identity. -/
  identityRead : δ → Bool
  /-- `Bootstrap` of the privacy settings. -/
  privacyRead : δ → Bool
  removed : δ → ContentFile → Bool
  /-- `Bootstrap` of requests, groups and bindings. -/
  read : δ → ContentFile → Bool

def ContentFile.load {γ β : Type} : (f : ContentFile) → f.Data γ β → f.Data γ β
  | .messages => fun store => store.load
  -- sessions and the data of attachments are read when they are asked for
  | .sessions => fun _ => ∅
  | .attachments => fun attachments => ⟨attachments.items, ∅⟩
  | .bindings => fun bindings => bindings
  | .requests => fun inbox => inbox
  | .groups => fun groups => groups

structure Profiles (δ γ β : Type) extends Stores δ γ β where
  /-- What `privacy.enc` says, where there is one. -/
  settings : δ → Option PrivacySettings
  registry : RegistryFile
  currentProfileID : String

namespace Profiles

variable {δ γ β : Type} [DecidableEq δ]

omit [DecidableEq δ] in
/-- The stores of a bundle, and the settings that `BootstrapPartial` finds. -/
def settingsOf (O : Outcomes δ) (p : Profiles δ γ β) (dir : δ) : PrivacySettings :=
  if O.privacyRead dir then normalizePrivacySettings ((p.settings dir).getD defaultPrivacySettings)
  else defaultPrivacySettings

/-- The message store, the sessions and the attachments become those of the bundle. -/
def openBundle (p : Profiles δ γ β) (dir : δ) : Profiles δ γ β :=
  { p with
    dir := fun f => if f.hasFlag then some dir else p.dir f
    memory := fun f => if f.hasFlag then f.load (p.disk dir f) else p.memory f
    persist := fun f => if f.hasFlag then true else p.persist f }

/-- `bootstrapStateStores`. A file that cannot be read counts as empty; bindings stay as they
are. -/
def bootstrapStateStores (O : Outcomes δ) (p : Profiles δ γ β) (dir : δ) : Profiles δ γ β :=
  { p with
    dir := fun f => if f.hasFlag then p.dir f else some dir
    memory := fun f =>
      if f.hasFlag then p.memory f
      else if O.read dir f then f.load (p.disk dir f)
      else if f = .bindings then p.memory f
      else f.empty }

def reloadFromBundle (O : Outcomes δ) (p : Profiles δ γ β) (dir : δ) :
    Except AccountError Unit × Profiles δ γ β :=
  if O.managerMade = false then (.error .manager, p)
  else
    let p := p.openBundle dir
    if O.identityRead dir = false then (.error .identity, p)
    else
      let p := { p with privacy := p.settingsOf O dir }
      match p.toStores.applyStoragePolicyFromSettings O.removed p.privacy with
      | (false, stores) => (.error .wipe, { p with toStores := stores })
      | (true, stores) => (.ok (), bootstrapStateStores O { p with toStores := stores } dir)

def saveAccountRegistry (O : Outcomes δ) (p : Profiles δ γ β) (reg : AccountRegistry) :
    Except AccountError Unit × Profiles δ γ β :=
  if O.registryWritten then (.ok (), { p with registry := .saved { reg with version := 1 } })
  else (.error .registryNotSaved, p)

variable (resolveAccountDataDir : AccountMeta → δ)

def activateAccountLocked (O : Outcomes δ) (p : Profiles δ γ β) (accountID : String)
    (persistActive : Bool) : Except AccountError Unit × Profiles δ γ β :=
  match loadAccountRegistry p.registry with
  | .error e => (.error e, p)
  | .ok reg =>
    match findAccountMeta reg accountID with
    | none => (.error .accountNotFound, p)
    | some entry =>
      let dir := resolveAccountDataDir entry
      if O.bundleBuilt dir = false then (.error .bundle, p)
      else
        match p.reloadFromBundle O dir with
        | (.error e, p) => (.error e, p)
        | (.ok (), p) =>
          let p := { p with currentProfileID := entry.id }
          if persistActive then p.saveAccountRegistry O { reg with activeID := entry.id }
          else (.ok (), p)

/-- `StopNetworking`, where it runs; nothing is wiped if the node does not stop. -/
def stopNetworking (O : Outcomes δ) (p : Profiles δ γ β) (running stopped : Bool) :
    Profiles δ γ β :=
  if running ∧ stopped then
    { p with toStores := (p.toStores.cleanupOnStopIfZeroRetention O.removed).2 }
  else p

/-- `SwitchAccount`; where it fails, the account that was active is activated again, under the
outcomes `R`. -/
def switchAccount (O R : Outcomes δ) (running stopped : Bool) (p : Profiles δ γ β)
    (accountID : String) : Except AccountError Unit × Profiles δ γ β :=
  let accountID := trimSpace accountID
  if accountID = "" then (.error .accountIDRequired, p)
  else if accountID = p.currentProfileID then (.ok (), p)
  else
    let p := p.stopNetworking O running stopped
    match p.activateAccountLocked resolveAccountDataDir O accountID true with
    | (.ok (), p') => (.ok (), p')
    | (.error e, p') =>
      (.error e,
        if p.currentProfileID ≠ "" then
          (p'.activateAccountLocked resolveAccountDataDir R p.currentProfileID false).2
        else p')

def initializeAccountRegistry (O : Outcomes δ) (p : Profiles δ γ β) :
    Except AccountError Unit × Profiles δ γ β :=
  match loadAccountRegistry p.registry with
  | .error e => (.error e, p)
  | .ok reg =>
    match p.saveAccountRegistry O reg with
    | (.error e, p) => (.error e, p)
    | (.ok (), p) =>
      let p := { p with currentProfileID := reg.activeID }
      if reg.activeID = legacyAccountID then (.ok (), p)
      else p.activateAccountLocked resolveAccountDataDir O reg.activeID false

/-! ## What an activation does to the other account -/

section

variable {resolveAccountDataDir} {O R : Outcomes δ} {p p' : Profiles δ γ β} {A dir : δ}

def Retained (p : Profiles δ γ β) (A : δ) : Prop :=
  ∀ s, p.settings A = some s → retentionOf s ≠ .zeroRetention

omit [DecidableEq δ] in
theorem Retained.settingsOf (h : p.Retained A) (O : Outcomes δ) :
    retentionOf (p.settingsOf O A) ≠ .zeroRetention := by
  unfold Profiles.settingsOf
  split
  · rw [retentionOf_normalize]
    cases hs : p.settings A with
    | none => decide
    | some s => exact h s hs
  · decide

/-- Activating this account gets as far as its policy, and the policy is to retain nothing. -/
structure Wipes (O : Outcomes δ) (p : Profiles δ γ β) (dir : δ) : Prop where
  bundleBuilt : O.bundleBuilt dir = true
  managerMade : O.managerMade = true
  identityRead : O.identityRead dir = true
  zeroRetention : retentionOf (p.settingsOf O dir) = .zeroRetention

/-- What `reloadFromBundle` leaves alone. -/
structure SameAccounts (p p' : Profiles δ γ β) : Prop where
  settings : p'.settings = p.settings
  registry : p'.registry = p.registry
  currentProfileID : p'.currentProfileID = p.currentProfileID

theorem reloadFromBundle_sameAccounts (O : Outcomes δ) (p : Profiles δ γ β) (dir : δ) :
    SameAccounts p (p.reloadFromBundle O dir).2 := by
  unfold reloadFromBundle
  split
  · exact ⟨rfl, rfl, rfl⟩
  · dsimp only
    split
    · exact ⟨rfl, rfl, rfl⟩
    · split
      · exact ⟨rfl, rfl, rfl⟩
      · exact ⟨rfl, rfl, rfl⟩

theorem reloadFromBundle_of_unread (h : ¬ (O.managerMade = true ∧ O.identityRead dir = true)) :
    (p.reloadFromBundle O dir).1 ≠ .ok () ∧ (p.reloadFromBundle O dir).2.disk = p.disk := by
  unfold reloadFromBundle
  split
  · exact ⟨by simp, rfl⟩
  · rename_i hmanager
    split
    · exact ⟨by simp, rfl⟩
    · simp_all

theorem reloadFromBundle_reads (h : (p.reloadFromBundle O dir).1 = .ok ()) :
    O.managerMade = true ∧ O.identityRead dir = true := by
  by_contra hunread
  exact (reloadFromBundle_of_unread hunread).1 h

theorem reloadFromBundle_eq (hmanager : O.managerMade = true)
    (hidentity : O.identityRead dir = true) : p.reloadFromBundle O dir =
      if retentionOf (p.settingsOf O dir) = .zeroRetention then
        let opened := { p.openBundle dir with privacy := p.settingsOf O dir }
        let wiped := (opened.toStores.setPersistenceEnabled false).wipeContentState O.removed
        if wiped.1 then (.ok (), bootstrapStateStores O { opened with toStores := wiped.2 } dir)
        else (.error .wipe, { opened with toStores := wiped.2 })
      else
        let opened := { p.openBundle dir with privacy := p.settingsOf O dir }
        (.ok (), bootstrapStateStores O
          { opened with toStores := opened.toStores.setPersistenceEnabled true } dir) := by
  have hsettings : (p.openBundle dir).settingsOf O dir = p.settingsOf O dir := rfl
  unfold reloadFromBundle
  rw [if_neg (by simp [hmanager])]
  dsimp only
  rw [if_neg (by simp [hidentity]), hsettings]
  by_cases hzero : retentionOf (p.settingsOf O dir) = .zeroRetention
  · have hpolicy : ∀ s : Stores δ γ β, s.applyStoragePolicyFromSettings O.removed
        (p.settingsOf O dir) = (s.setPersistenceEnabled false).wipeContentState O.removed :=
      fun s => applyStoragePolicy_of_zeroRetention
        ((retentionOf_storagePolicyFromSettings _).trans hzero)
    grind
  · have hpolicy : ∀ s : Stores δ γ β, s.applyStoragePolicyFromSettings O.removed
        (p.settingsOf O dir) = (true, s.setPersistenceEnabled true) :=
      fun s => applyStoragePolicy_of_retained
        ((retentionOf_storagePolicyFromSettings _).trans_ne hzero)
    rw [if_neg hzero, hpolicy]

theorem reloadFromBundle_of_retained (h : retentionOf (p.settingsOf O dir) ≠ .zeroRetention) :
    (p.reloadFromBundle O dir).2.disk = p.disk ∧ ((p.reloadFromBundle O dir).1 = .ok () → ∀ f,
        (p.reloadFromBundle O dir).2.dir f = some dir ∧ (O.read dir f = true →
            (p.reloadFromBundle O dir).2.memory f = f.load (p.disk dir f))) := by
  by_cases hreads : O.managerMade = true ∧ O.identityRead dir = true
  · rw [reloadFromBundle_eq hreads.1 hreads.2, if_neg h]
    refine ⟨rfl, fun _ f => ⟨?_, fun hread => ?_⟩⟩
    · dsimp only [bootstrapStateStores, openBundle, setPersistenceEnabled]
      split
      · rfl
      · rfl
    · dsimp only [bootstrapStateStores, openBundle, setPersistenceEnabled]
      rw [hread]
      cases f.hasFlag with
      | true => rfl
      | false => rfl
  · obtain ⟨hfails, hdisk⟩ := reloadFromBundle_of_unread hreads
    exact ⟨hdisk, fun hok => absurd hok hfails⟩

theorem reloadFromBundle_disk_of_not_wipes (h : ¬ Wipes O p dir)
    (hbuilt : O.bundleBuilt dir = true) : (p.reloadFromBundle O dir).2.disk = p.disk := by
  by_cases hzero : retentionOf (p.settingsOf O dir) = .zeroRetention
  · refine (reloadFromBundle_of_unread fun hreads => ?_).2
    exact h ⟨hbuilt, hreads.1, hreads.2, hzero⟩
  · exact (reloadFromBundle_of_retained hzero).1

/-- **What a wipe does to another account**: the stores that have no flag still work on its
files. -/
theorem reloadFromBundle_disk_of_wipes (h : Wipes O p dir) (hne : A ≠ dir) (f : ContentFile) :
    (p.reloadFromBundle O dir).2.disk A f =
      if f.hasFlag = false ∧ p.dir f = some A ∧ O.removed A f = true then f.empty
      else p.disk A f := by
  have hwiped : (p.reloadFromBundle O dir).2.disk A f =
      if (if f.hasFlag then some dir else p.dir f) = some A ∧ O.removed A f = true then f.empty
      else p.disk A f := by
    rw [reloadFromBundle_eq h.managerMade h.identityRead, if_pos h.zeroRetention]
    dsimp only
    split
    · rfl
    · rfl
  grind

theorem reloadFromBundle_dir (h : (p.reloadFromBundle O dir).1 = .ok ()) (f : ContentFile) :
    (p.reloadFromBundle O dir).2.dir f = some dir := by
  obtain ⟨hmanager, hidentity⟩ := reloadFromBundle_reads h
  rw [reloadFromBundle_eq hmanager hidentity] at h ⊢
  have hopened : (if f.hasFlag then (p.openBundle dir).dir f else some dir) = some dir := by
    grind [openBundle]
  split at h
  · rename_i hzero
    rw [if_pos hzero]
    dsimp only at h ⊢
    split at h
    · rename_i hwiped
      rw [if_pos hwiped]
      exact hopened
    · exact absurd h (by simp)
  · rename_i hzero
    rw [if_neg hzero]
    exact hopened

/-! ### Activation -/

variable {reg : AccountRegistry} {entry : AccountMeta} {accountID : String} {persistActive : Bool}

variable (resolveAccountDataDir) in
theorem activateAccountLocked_cases (O : Outcomes δ) (p : Profiles δ γ β) (accountID : String)
    (persistActive : Bool) :
    let r := p.activateAccountLocked resolveAccountDataDir O accountID persistActive
    (r.1 ≠ .ok () ∧ r.2 = p ∧ ∀ reg entry, loadAccountRegistry p.registry = .ok reg →
        findAccountMeta reg accountID = some entry →
          O.bundleBuilt (resolveAccountDataDir entry) = false) ∨
      ∃ reg entry registry currentProfileID, loadAccountRegistry p.registry = .ok reg ∧
        findAccountMeta reg accountID = some entry ∧
        O.bundleBuilt (resolveAccountDataDir entry) = true ∧
        r.2 = { (p.reloadFromBundle O (resolveAccountDataDir entry)).2 with
          registry := registry, currentProfileID := currentProfileID } ∧
        (registry = p.registry ∨
          registry = .saved { reg with activeID := entry.id, version := 1 }) ∧
        (r.1 = .ok () → (p.reloadFromBundle O (resolveAccountDataDir entry)).1 = .ok () ∧
          currentProfileID = entry.id) := by
  intro r
  have hr : r = p.activateAccountLocked resolveAccountDataDir O accountID persistActive := rfl
  unfold activateAccountLocked at hr
  cases hreg : loadAccountRegistry p.registry with
  | error e =>
    rw [hreg] at hr
    exact .inl ⟨by simp [hr], by rw [hr], fun reg entry h => absurd h (by simp)⟩
  | ok reg =>
    rw [hreg] at hr
    dsimp only at hr
    cases hfind : findAccountMeta reg accountID with
    | none =>
      rw [hfind] at hr
      refine .inl ⟨by simp [hr], by rw [hr], fun reg' entry h h' => ?_⟩
      obtain rfl := Except.ok.inj h
      exact absurd (hfind.symm.trans h') (by simp)
    | some entry =>
      rw [hfind] at hr
      dsimp only at hr
      cases hbuilt : O.bundleBuilt (resolveAccountDataDir entry) with
      | false =>
        grind
      | true =>
        rw [hbuilt, if_neg (by simp)] at hr
        have hsame := reloadFromBundle_sameAccounts O p (resolveAccountDataDir entry)
        rcases hreload : p.reloadFromBundle O (resolveAccountDataDir entry) with ⟨result, q⟩
        rw [hreload] at hr hsame
        cases result with
        | error e =>
          exact .inr ⟨reg, entry, q.registry, q.currentProfileID, rfl, hfind, hbuilt,
            by rw [hr, hreload], .inl hsame.registry, fun hok => absurd hok (by simp [hr])⟩
        | ok u =>
          dsimp only at hr
          grind [cases SameAccounts, saveAccountRegistry]

def SameList (file : RegistryFile) (reg : AccountRegistry) : Prop :=
  ∃ reg', loadAccountRegistry file = .ok reg' ∧ findAccountMeta reg' = findAccountMeta reg

theorem loadAccountRegistry_legacy {file : RegistryFile} (h : loadAccountRegistry file = .ok reg) :
    (reg.accounts.any fun entry => trimSpace entry.id = legacyAccountID) = true := by
  unfold loadAccountRegistry at h
  split at h
  · obtain rfl := Except.ok.inj h
    decide
  · exact absurd h (by simp)
  · split at h
    · exact absurd h (by simp)
    · obtain rfl := Except.ok.inj h
      dsimp only
      split
      · assumption
      · rw [List.any_append]
        have hlegacy : ([legacyAccount].any fun entry => trimSpace entry.id = legacyAccountID)
            = true := by decide
        rw [hlegacy, Bool.or_true]

theorem sameList_saved {file : RegistryFile} (h : loadAccountRegistry file = .ok reg)
    (activeID : String) :
    SameList (.saved { reg with activeID := activeID, version := 1 }) reg := by
  refine ⟨⟨1, if trimSpace activeID = "" then legacyAccountID else activeID, reg.accounts⟩, ?_, rfl⟩
  unfold loadAccountRegistry
  dsimp only
  rw [if_neg (by simp), if_pos (loadAccountRegistry_legacy h)]

variable (resolveAccountDataDir) in
theorem activateAccountLocked_frame (O : Outcomes δ) (p : Profiles δ γ β) (accountID : String)
    (persistActive : Bool) (hreg : loadAccountRegistry p.registry = .ok reg) :
    let r := p.activateAccountLocked resolveAccountDataDir O accountID persistActive
    r.2.settings = p.settings ∧ SameList r.2.registry reg := by
  intro r
  rcases activateAccountLocked_cases resolveAccountDataDir O p accountID persistActive with
    ⟨-, hsame, -⟩ | ⟨reg', entry, registry, current, hreg', -, -, hr, hfile, -⟩
  · rw [show r.2 = p from hsame]
    exact ⟨rfl, reg, hreg, rfl⟩
  · obtain rfl := Except.ok.inj (hreg.symm.trans hreg')
    rw [show r.2 = _ from hr]
    refine ⟨(reloadFromBundle_sameAccounts O p _).settings, ?_⟩
    rcases hfile with rfl | rfl
    · exact ⟨reg, hreg, rfl⟩
    · exact sameList_saved hreg entry.id

theorem activateAccountLocked_disk_of_retained
    (h : ∀ reg entry, loadAccountRegistry p.registry = .ok reg →
      findAccountMeta reg accountID = some entry → p.Retained (resolveAccountDataDir entry)) :
    (p.activateAccountLocked resolveAccountDataDir O accountID persistActive).2.disk = p.disk := by
  rcases activateAccountLocked_cases resolveAccountDataDir O p accountID persistActive with
    ⟨-, hsame, -⟩ | ⟨reg, entry, registry, current, hreg, hfind, -, hr, -, -⟩
  · rw [hsame]
  · rw [hr]
    exact (reloadFromBundle_of_retained ((h reg entry hreg hfind).settingsOf O)).1

theorem activateAccountLocked_disk (O : Outcomes δ) (persistActive : Bool)
    (hreg : loadAccountRegistry p.registry = .ok reg)
    (hfind : findAccountMeta reg accountID = some entry)
    (hne : A ≠ resolveAccountDataDir entry) (f : ContentFile) :
    let r := p.activateAccountLocked resolveAccountDataDir O accountID persistActive
    (¬ Wipes O p (resolveAccountDataDir entry) → r.2.disk A f = p.disk A f) ∧
      (Wipes O p (resolveAccountDataDir entry) → r.2.disk A f =
        if f.hasFlag = false ∧ p.dir f = some A ∧ O.removed A f = true then f.empty
        else p.disk A f) := by
  intro r
  rcases activateAccountLocked_cases resolveAccountDataDir O p accountID persistActive with
    ⟨-, hsame, hnot⟩ | ⟨reg', entry', registry, current, hreg', hfind', hbuilt, hr, -, -⟩
  · rw [show r.2 = p from hsame]
    refine ⟨fun _ => rfl, fun hwipes => ?_⟩
    exact absurd (hwipes.bundleBuilt.symm.trans (hnot reg entry hreg hfind)) (by simp)
  · grind [reloadFromBundle_disk_of_wipes, reloadFromBundle_disk_of_not_wipes]

end

/-! ## Switching there and back -/

inductive Activation (δ : Type) where
  | switchAccount (accountID : String) (running stopped : Bool) (rollback : Outcomes δ)
  | initializeAccountRegistry

def Activation.accountID (reg : AccountRegistry) : Activation δ → String
  | .switchAccount accountID _ _ _ => accountID
  | .initializeAccountRegistry => reg.activeID

def activate (O : Outcomes δ) (p : Profiles δ γ β) :
    Activation δ → Except AccountError Unit × Profiles δ γ β
  | .switchAccount accountID running stopped rollback =>
    p.switchAccount resolveAccountDataDir O rollback running stopped accountID
  | .initializeAccountRegistry => p.initializeAccountRegistry resolveAccountDataDir O

/-- What comes before the activation proper: at start-up the registry is written. -/
def Activation.Begins (O : Outcomes δ) : Activation δ → Prop
  | .switchAccount .. => True
  | .initializeAccountRegistry => O.registryWritten = true

def Activation.Fits (p : Profiles δ γ β) : Activation δ → Prop
  | .switchAccount .. => True
  | .initializeAccountRegistry => p.currentProfileID = legacyAccountID

structure Active (reg : AccountRegistry) (p : Profiles δ γ β) (A : δ) : Prop where
  registry : loadAccountRegistry p.registry = .ok reg
  profile : ∀ entry, findAccountMeta reg p.currentProfileID = some entry →
    resolveAccountDataDir entry = A
  dir : ∀ f, p.dir f = some A
  retained : retentionOf p.privacy ≠ .zeroRetention
  stored : p.Retained A

section

variable {resolveAccountDataDir} {O : Outcomes δ} {p : Profiles δ γ β} {A : δ}
  {reg : AccountRegistry} {entry : AccountMeta} {act : Activation δ}

theorem findAccountMeta_trimSpace (reg : AccountRegistry) (accountID : String) :
    findAccountMeta reg (trimSpace accountID) = findAccountMeta reg accountID := by
  unfold findAccountMeta
  rw [trimSpace_idem]

variable {accountID : String}

theorem trimSpace_ne_of_find
    (h : findAccountMeta reg accountID = some entry) : trimSpace accountID ≠ "" := by
  grind [findAccountMeta]

theorem stopNetworking_of_retained (h : retentionOf p.privacy ≠ .zeroRetention)
    (running stopped : Bool) : p.stopNetworking O running stopped = p := by
  simp_all [stopNetworking, cleanupOnStop_of_retained]

theorem switchAccount_eq (O R : Outcomes δ) (running stopped : Bool)
    (hactive : Active resolveAccountDataDir reg p A)
    (hfind : findAccountMeta reg accountID = some entry) (hne : A ≠ resolveAccountDataDir entry) :
    let r := p.activateAccountLocked resolveAccountDataDir O (trimSpace accountID) true
    (p.switchAccount resolveAccountDataDir O R running stopped accountID).1 = r.1 ∧
      (r.1 = .ok () →
        (p.switchAccount resolveAccountDataDir O R running stopped accountID).2 = r.2) ∧
      (p.switchAccount resolveAccountDataDir O R running stopped accountID).2.disk = r.2.disk := by
  intro r
  have hcurrent : trimSpace accountID ≠ p.currentProfileID := by
    grind [cases Active, findAccountMeta_trimSpace]
  have hframe := activateAccountLocked_frame resolveAccountDataDir O p (trimSpace accountID) true
    hactive.registry
  unfold switchAccount
  dsimp only
  rw [if_neg (trimSpace_ne_of_find hfind), if_neg hcurrent,
    stopNetworking_of_retained hactive.retained]
  rcases hr : p.activateAccountLocked resolveAccountDataDir O (trimSpace accountID) true with
    ⟨result, q⟩
  rw [hr] at hframe
  obtain ⟨hsettings, reg', hreg', hsame⟩ := hframe
  rw [show r = _ from hr]
  cases result with
  | ok u => exact ⟨rfl, fun _ => rfl, rfl⟩
  | error e =>
    refine ⟨rfl, fun hok => absurd hok (by simp), ?_⟩
    dsimp only
    split
    · refine activateAccountLocked_disk_of_retained fun reg'' entry' hload hfind' => ?_
      obtain rfl := Except.ok.inj (hreg'.symm.trans hload)
      rw [hsame] at hfind'
      rw [hactive.profile entry' hfind']
      intro s hs
      rw [hsettings] at hs
      exact hactive.stored s hs
    · rfl

omit [DecidableEq δ] in
theorem settingsOf_congr {p' : Profiles δ γ β} (h : p'.settings = p.settings) (dir : δ) :
    p'.settingsOf O dir = p.settingsOf O dir := by
  unfold settingsOf
  rw [h]

omit [DecidableEq δ] in
theorem wipes_congr {p' : Profiles δ γ β} (h : p'.settings = p.settings) (dir : δ) :
    Wipes O p' dir ↔ Wipes O p dir := by
  have hsettings : p'.settingsOf O dir = p.settingsOf O dir := settingsOf_congr h dir
  constructor
  · rintro ⟨hbuilt, hmanager, hidentity, hzero⟩
    exact ⟨hbuilt, hmanager, hidentity, hsettings ▸ hzero⟩
  · rintro ⟨hbuilt, hmanager, hidentity, hzero⟩
    exact ⟨hbuilt, hmanager, hidentity, hsettings ▸ hzero⟩

structure Switched (reg : AccountRegistry) (p q : Profiles δ γ β) (dir : δ)
    (entry : AccountMeta) : Prop where
  dir : ∀ f, q.dir f = some dir
  settings : q.settings = p.settings
  registry : SameList q.registry reg
  currentProfileID : q.currentProfileID = entry.id

theorem switched_of_activated {persistActive : Bool}
    (hreg : loadAccountRegistry p.registry = .ok reg)
    (hfind : findAccountMeta reg accountID = some entry)
    (hok : (p.activateAccountLocked resolveAccountDataDir O accountID persistActive).1 = .ok ()) :
    Switched reg p (p.activateAccountLocked resolveAccountDataDir O accountID persistActive).2
      (resolveAccountDataDir entry) entry := by
  obtain ⟨hsettings, hlist⟩ := activateAccountLocked_frame resolveAccountDataDir O p
    accountID persistActive hreg
  rcases activateAccountLocked_cases resolveAccountDataDir O p accountID persistActive with
    ⟨herror, -, -⟩ | ⟨reg', entry', registry, current, hreg', hfind', -, hr, -, hdone⟩
  · exact absurd hok herror
  · obtain rfl := Except.ok.inj (hreg.symm.trans hreg')
    obtain rfl := Option.some.inj (hfind.symm.trans hfind')
    obtain ⟨hreload, hcurrent⟩ := hdone hok
    refine ⟨fun f => ?_, hsettings, hlist, ?_⟩
    · rw [hr]
      exact reloadFromBundle_dir hreload f
    · rw [hr]
      exact hcurrent

def registered (p : Profiles δ γ β) (reg : AccountRegistry) : Profiles δ γ β :=
  { p with registry := .saved { reg with version := 1 }, currentProfileID := reg.activeID }

theorem initializeAccountRegistry_eq (hactive : Active resolveAccountDataDir reg p A)
    (hlegacy : p.currentProfileID = legacyAccountID)
    (hfind : findAccountMeta reg reg.activeID = some entry)
    (hne : A ≠ resolveAccountDataDir entry) : p.initializeAccountRegistry resolveAccountDataDir O =
      if O.registryWritten then
        (p.registered reg).activateAccountLocked resolveAccountDataDir O reg.activeID false
      else (.error .registryNotSaved, p) := by
  have hother : reg.activeID ≠ legacyAccountID := by
    grind [cases Active]
  unfold initializeAccountRegistry saveAccountRegistry
  rw [hactive.registry]
  cases O.registryWritten with
  | false => rfl
  | true =>
    simp only [if_true]
    rw [if_neg hother]
    rfl

theorem activate_spec (hactive : Active resolveAccountDataDir reg p A) (hfits : act.Fits p)
    (hfind : findAccountMeta reg (act.accountID reg) = some entry)
    (hne : A ≠ resolveAccountDataDir entry) :
    let q := (p.activate resolveAccountDataDir O act).2
    (¬ (act.Begins O ∧ Wipes O p (resolveAccountDataDir entry)) →
        ∀ f, q.disk A f = p.disk A f) ∧
      (act.Begins O ∧ Wipes O p (resolveAccountDataDir entry) → ∀ f, q.disk A f =
        if f.hasFlag = false ∧ p.dir f = some A ∧ O.removed A f = true then f.empty
        else p.disk A f) ∧
      ((p.activate resolveAccountDataDir O act).1 = .ok () →
        Switched reg p q (resolveAccountDataDir entry) entry) := by
  cases act with
  | switchAccount accountID running stopped rollback =>
    obtain ⟨hresult, hstate, hdisk⟩ := switchAccount_eq O rollback running stopped hactive
      hfind hne
    have hfind' : findAccountMeta reg (trimSpace accountID) = some entry := by
      rw [findAccountMeta_trimSpace]
      exact hfind
    have heffect := activateAccountLocked_disk O true hactive.registry hfind' hne
    intro q
    have hq : ∀ f, q.disk A f = _ := fun f => congrFun (congrFun hdisk A) f
    refine ⟨fun hnot f => ?_, fun hwipes f => ?_, fun hok => ?_⟩
    · rw [hq]
      exact (heffect f).1 fun hwipes => hnot ⟨trivial, hwipes⟩
    · rw [hq]
      exact (heffect f).2 hwipes.2
    · have hok' := hresult.symm.trans hok
      rw [show q = _ from hstate hok']
      exact switched_of_activated hactive.registry hfind' hok'
  | initializeAccountRegistry =>
    intro q
    have hinit := initializeAccountRegistry_eq (O := O) hactive hfits hfind hne
    obtain ⟨reg', hreg', hsame⟩ := sameList_saved hactive.registry reg.activeID
    have hfind' : findAccountMeta reg' reg.activeID = some entry := by
      rw [hsame]
      exact hfind
    cases hwritten : O.registryWritten with
    | false =>
      rw [hwritten] at hinit
      have hq : q = p := congrArg Prod.snd hinit
      rw [hq]
      refine ⟨fun _ _ => rfl, fun hbegins => ?_, fun hok => ?_⟩
      · exact absurd (hwritten.symm.trans hbegins.1) (by simp)
      · exact absurd ((congrArg Prod.fst hinit).symm.trans hok) (by simp)
    | true =>
      rw [hwritten, if_pos rfl] at hinit
      have hq : q = _ := congrArg Prod.snd hinit
      rw [hq]
      have heffect := activateAccountLocked_disk O false (p := p.registered reg) hreg' hfind'
        hne
      have hsettings : (p.registered reg).settings = p.settings := rfl
      have hwipes := wipes_congr (O := O) hsettings (resolveAccountDataDir entry)
      refine ⟨fun hnot f => ?_, fun hbegins f => ?_, fun hok => ?_⟩
      · exact (heffect f).1 fun h => hnot ⟨hwritten, hwipes.mp h⟩
      · exact (heffect f).2 (hwipes.mpr hbegins.2)
      · have hok' := (congrArg Prod.fst hinit).symm.trans hok
        have hdone := switched_of_activated hreg' hfind' hok'
        obtain ⟨reg'', hreg'', hsame'⟩ := hdone.registry
        exact ⟨hdone.dir, hdone.settings, ⟨reg'', hreg'', hsame'.trans hsame⟩,
          hdone.currentProfileID⟩

/-! ### And back -/

theorem activateAccountLocked_of_retained {persistActive : Bool}
    (hreg : loadAccountRegistry p.registry = .ok reg)
    (hfind : findAccountMeta reg accountID = some entry)
    (hretained : p.Retained (resolveAccountDataDir entry))
    (hok : (p.activateAccountLocked resolveAccountDataDir O accountID persistActive).1 = .ok ())
    (f : ContentFile) :
    let q := (p.activateAccountLocked resolveAccountDataDir O accountID persistActive).2
    q.dir f = some (resolveAccountDataDir entry) ∧ q.disk = p.disk ∧
      (O.read (resolveAccountDataDir entry) f = true →
        q.memory f = f.load (p.disk (resolveAccountDataDir entry) f)) := by
  rcases activateAccountLocked_cases resolveAccountDataDir O p accountID persistActive with
    ⟨herror, -, -⟩ | ⟨reg', entry', registry, current, hreg', hfind', -, hr, -, hdone⟩
  · exact absurd hok herror
  · grind [reloadFromBundle_of_retained, Retained.settingsOf]

theorem stopNetworking_frame (O : Outcomes δ) (running stopped : Bool)
    (hdir : ∀ f, p.dir f ≠ some A) : SameAccounts p (p.stopNetworking O running stopped) ∧
      ∀ f, (p.stopNetworking O running stopped).disk A f = p.disk A f := by
  unfold stopNetworking
  split
  · refine ⟨⟨rfl, rfl, rfl⟩, fun f => ?_⟩
    dsimp only [cleanupOnStopIfZeroRetention]
    split
    · rfl
    · exact if_neg fun h => hdir f h.1
  · exact ⟨⟨rfl, rfl, rfl⟩, fun _ => rfl⟩

theorem trimSpace_of_find (h : findAccountMeta reg accountID = some entry) :
    trimSpace entry.id = trimSpace accountID := by
  grind [findAccountMeta]

theorem trimSpace_ne_of_other {accountID' : String} {entry' : AccountMeta}
    (hfind : findAccountMeta reg accountID = some entry)
    (hfind' : findAccountMeta reg accountID' = some entry') (hne : entry ≠ entry') :
    trimSpace accountID' ≠ entry.id := by
  intro heq
  have hsame : trimSpace accountID' = trimSpace accountID := by
    rw [← trimSpace_of_find hfind, ← heq, trimSpace_idem]
  rw [← findAccountMeta_trimSpace, hsame, findAccountMeta_trimSpace, hfind] at hfind'
  exact hne (Option.some.inj hfind')

variable (resolveAccountDataDir) in
/-- Every switch to this account that succeeds opens its stores on the files as they were. -/
def SwitchesBack (reg : AccountRegistry) (p q : Profiles δ γ β) (A : δ) : Prop :=
  ∀ (O R : Outcomes δ) (running stopped : Bool) (accountID : String) (entry : AccountMeta),
    findAccountMeta reg accountID = some entry → resolveAccountDataDir entry = A →
    (∀ f, O.read A f = true) →
    let r := q.switchAccount resolveAccountDataDir O R running stopped accountID
    r.1 = .ok () → ∀ f, r.2.dir f = some A ∧ r.2.disk A f = p.disk A f ∧
      r.2.memory f = f.load (p.disk A f)

theorem Switched.switchesBack {q : Profiles δ γ β}
    (h : Switched reg p q (resolveAccountDataDir entry) entry)
    (hfind : findAccountMeta reg accountID = some entry)
    (hne : A ≠ resolveAccountDataDir entry) (hretained : p.Retained A)
    (hdisk : ∀ f, q.disk A f = p.disk A f) : SwitchesBack resolveAccountDataDir reg p q A := by
  intro O R running stopped accountID' entry' hfind' hA hread r hok f
  obtain ⟨reg', hreg', hsame⟩ := h.registry
  have hcurrent : trimSpace accountID' ≠ q.currentProfileID := by
    rw [h.currentProfileID]
    refine trimSpace_ne_of_other hfind hfind' fun heq => hne ?_
    rw [heq, hA]
  -- whatever stopping the network wipes is of the account that is left now
  obtain ⟨hstopped, hstoppedDisk⟩ := stopNetworking_frame (A := A) (p := q) O running stopped
    fun f hf => hne (Option.some.inj (hf.symm.trans (h.dir f)))
  have hr : r = q.switchAccount resolveAccountDataDir O R running stopped accountID' := rfl
  unfold switchAccount at hr
  dsimp only at hr
  rw [if_neg (trimSpace_ne_of_find hfind'), if_neg hcurrent] at hr
  rcases hactivated : (q.stopNetworking O running stopped).activateAccountLocked
    resolveAccountDataDir O (trimSpace accountID') true with ⟨result, q'⟩
  rw [hactivated] at hr
  cases result with
  | error e => exact absurd hok (by simp [hr])
  | ok u =>
    have hreg : loadAccountRegistry (q.stopNetworking O running stopped).registry = .ok reg' := by
      rw [hstopped.registry]
      exact hreg'
    have hfind'' : findAccountMeta reg' (trimSpace accountID') = some entry' := by
      rw [hsame, findAccountMeta_trimSpace]
      exact hfind'
    have hstored : (q.stopNetworking O running stopped).Retained
        (resolveAccountDataDir entry') := by
      intro s hs
      rw [hstopped.settings, h.settings, hA] at hs
      exact hretained s hs
    have hback := activateAccountLocked_of_retained hreg hfind'' hstored
      (congrArg Prod.fst hactivated) f
    rw [hactivated, hA] at hback
    obtain ⟨hdir, hkept, hmemory⟩ := hback
    have hfile : (q.stopNetworking O running stopped).disk A f = p.disk A f :=
      (hstoppedDisk f).trans (hdisk f)
    rw [hr]
    refine ⟨hdir, ?_, ?_⟩
    · exact (congrFun (congrFun hkept A) f).trans hfile
    · exact (hmemory (hread f)).trans (congrArg f.load hfile)

/-- **Another account's data.** Activating another account leaves the files of the active one alone,
and switching back to it restores what it had, exactly if the activation does not get as far as a
policy of retaining nothing, or if there is nothing to lose in the stores still open on those files.
-/
theorem activation_keeps_account_iff (hactive : Active resolveAccountDataDir reg p A)
    (hfits : act.Fits p) (hfind : findAccountMeta reg (act.accountID reg) = some entry)
    (hne : A ≠ resolveAccountDataDir entry) :
    let r := p.activate resolveAccountDataDir O act
    ((∀ f, r.2.disk A f = p.disk A f) ∧
        (r.1 = .ok () → SwitchesBack resolveAccountDataDir reg p r.2 A)) ↔
      (act.Begins O → Wipes O p (resolveAccountDataDir entry) →
        ∀ f, f.hasFlag = false → O.removed A f = true → p.disk A f = f.empty) := by
  obtain ⟨hkept, hwiped, hswitched⟩ := activate_spec (O := O) hactive hfits hfind hne
  intro r
  constructor
  · grind [cases Active]
  · intro hnothing
    have hdisk : ∀ f, r.2.disk A f = p.disk A f := by
      intro f
      by_cases hwipes : act.Begins O ∧ Wipes O p (resolveAccountDataDir entry)
      · rw [show r.2.disk A f = _ from hwiped hwipes f]
        split
        · rename_i hlost
          exact (hnothing hwipes.1 hwipes.2 f hlost.1 hlost.2.2).symm
        · rfl
      · exact hkept hwipes f
    exact ⟨hdisk, fun hok => (hswitched hok).switchesBack hfind hne hactive.stored hdisk⟩

/-! ### Two accounts -/

def secondAccount : AccountMeta := ⟨"acct_2", "profiles/acct_2"⟩

def twoAccounts : AccountRegistry := ⟨1, legacyAccountID, [legacyAccount, secondAccount]⟩

def waitingRequest : Message :=
  { id := "m", contactID := "aim1stranger", conversationID := "aim1stranger"
    conversationType := .direct, threadID := "", content := [104, 105], timestamp := 0
    direction := .inbound, status := .delivered, contentType := .text, edited := false }

/-- The legacy account is active, with one message request, and the other account retains its
content in this way. -/
def withRequest (mode : Privacy.ContentRetentionMode) : Profiles String Unit Unit where
  disk dir
    | .requests =>
      if dir = "." then (∅ : GoMap String (List Message)).insert "aim1stranger" [waitingRequest]
      else ∅
    | f => f.empty
  dir _ := some "."
  memory f := f.empty
  persist _ := true
  privacy := defaultPrivacySettings
  settings dir :=
    if dir = "profiles/acct_2" then
      some { defaultPrivacySettings with contentRetentionMode := mode }
    else none
  registry := .saved twoAccounts
  currentProfileID := legacyAccountID

def smoothOutcomes : Outcomes String :=
  ⟨true, fun _ => true, true, fun _ => true, fun _ => true, fun _ _ => true, fun _ _ => true⟩

theorem withRequest_active (mode : Privacy.ContentRetentionMode) :
    Active AccountMeta.relPath twoAccounts (withRequest mode) "." := by
  have hregistry : loadAccountRegistry (.saved twoAccounts) = .ok twoAccounts := rfl
  have hlegacy : findAccountMeta twoAccounts legacyAccountID = some legacyAccount := by decide
  have hretained : retentionOf defaultPrivacySettings ≠ .zeroRetention := by decide
  refine ⟨hregistry, fun entry hentry => ?_, fun _ => rfl, hretained, fun s hs => ?_⟩
  · obtain rfl := Option.some.inj (hlegacy.symm.trans hentry)
    rfl
  · exact absurd hs (by simp [withRequest])

/-- Where the other account is ephemeral, the request is there after the switch and the way
back. -/
theorem request_comes_back :
    ((withRequest .ephemeral).switchAccount AccountMeta.relPath smoothOutcomes smoothOutcomes true
        true "acct_2").1 = .ok () ∧
      (∀ f, ((withRequest .ephemeral).switchAccount AccountMeta.relPath smoothOutcomes
        smoothOutcomes true true "acct_2").2.disk "." f = (withRequest .ephemeral).disk "." f) ∧
      SwitchesBack AccountMeta.relPath twoAccounts (withRequest .ephemeral)
        ((withRequest .ephemeral).switchAccount AccountMeta.relPath smoothOutcomes
          smoothOutcomes true true "acct_2").2 "." := by
  have hfits : Activation.Fits (withRequest .ephemeral)
    (.switchAccount "acct_2" true true smoothOutcomes) := trivial
  have hfind : findAccountMeta twoAccounts "acct_2" = some secondAccount := by decide
  have hkeeps := (activation_keeps_account_iff (O := smoothOutcomes) (withRequest_active .ephemeral)
    hfits hfind (by decide)).mpr fun _ hwipes => absurd hwipes.zeroRetention (by decide)
  exact ⟨rfl, hkeeps.1, hkeeps.2 rfl⟩

/-- The other account retains nothing. After a switch there the request of the legacy account is
gone from its file, and switching back does not bring it back. -/
theorem switch_loses_request :
    Active AccountMeta.relPath twoAccounts (withRequest .zeroRetention) "." ∧
      ((withRequest .zeroRetention).disk "." .requests)["aim1stranger"]? = some [waitingRequest] ∧
      ((withRequest .zeroRetention).switchAccount AccountMeta.relPath smoothOutcomes
        smoothOutcomes true true "acct_2").1 = .ok () ∧
      (((withRequest .zeroRetention).switchAccount AccountMeta.relPath smoothOutcomes
        smoothOutcomes true true "acct_2").2.disk "." .requests)["aim1stranger"]? = none ∧
      ((((withRequest .zeroRetention).switchAccount AccountMeta.relPath smoothOutcomes
        smoothOutcomes true true "acct_2").2.switchAccount AccountMeta.relPath smoothOutcomes
          smoothOutcomes true true legacyAccountID).2.memory .requests)["aim1stranger"]? =
        none := by
  refine ⟨withRequest_active .zeroRetention, by decide, rfl, by decide,
    by decide⟩

end

end Profiles

end Ardents.Daemon
