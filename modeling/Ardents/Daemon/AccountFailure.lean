import Ardents.Daemon.Isolation

/-!
# Account operations that fail

`SwitchAccount`, `CreateIdentity` and `ImportIdentity` stop the network, open another profile,
perhaps put an identity into it, and start the network again. Where a step fails, the account of
before should be active as if nothing had happened.
-/

namespace Ardents.Daemon.Runtime

open Go
open Groups (generatePrefixedID)
open Privacy (retentionOf)
open Profiles

variable {δ γ β ε ι : Type} [DecidableEq δ] {C R : Course δ ε} {r r' : Runtime δ γ β ε} {dir : δ}
  {reg reg' : AccountRegistry} {entry prev : AccountMeta} {stored : ε}
  {resolveAccountDataDir : AccountMeta → δ}

/-! ## The registry file -/

theorem loadAccountRegistry_active {file : RegistryFile}
    (h : loadAccountRegistry file = .ok reg) : trimSpace reg.activeID ≠ "" := by
  have hlegacy : trimSpace legacyAccountID ≠ "" := by decide
  unfold loadAccountRegistry at h
  grind

theorem loadAccountRegistry_saved {activeID : String} {accounts : List AccountMeta}
    (hlegacy : (accounts.any fun entry => trimSpace entry.id = legacyAccountID) = true)
    (hactive : trimSpace activeID ≠ "") :
    loadAccountRegistry (.saved ⟨1, activeID, accounts⟩) = .ok ⟨1, activeID, accounts⟩ := by
  grind [loadAccountRegistry]

theorem findAccountMeta_append {version : Int} {activeID : String} {accounts : List AccountMeta}
    (hid : trimSpace entry.id = entry.id) (hne : entry.id ≠ "")
    (hfresh : ∀ other ∈ accounts, trimSpace other.id ≠ entry.id) :
    findAccountMeta ⟨version, activeID, accounts ++ [entry]⟩ entry.id = some entry := by
  grind [findAccountMeta]

/-! ## What an activation leaves alone -/

/-- The accounts are as before, and so is every identity that is in its file. -/
structure Kept (r r' : Runtime δ γ β ε) : Prop where
  registry : r'.registry = r.registry
  currentProfileID : r'.currentProfileID = r.currentProfileID
  settings : r'.settings = r.settings
  identityFile : ∀ d stored, r.identityFile d = some stored → r'.identityFile d = some stored

theorem reloadFromBundle_kept (C : Course δ ε) (r : Runtime δ γ β ε) (dir : δ) :
    Kept r (r.reloadFromBundle C dir).2 := by
  have hprofiles := (reloadFromBundle_profiles C r dir).2
  have hsame := reloadFromBundle_sameAccounts C.toOutcomes r.toProfiles dir
  rw [← hprofiles] at hsame
  refine ⟨hsame.registry, hsame.currentProfileID, hsame.settings, fun d stored hstored => ?_⟩
  grind [reloadFromBundle_identityFile]

structure Opens (C : Course δ ε) (r : Runtime δ γ β ε) (dir : δ) : Prop where
  bundleBuilt : C.bundleBuilt dir = true
  managerMade : C.managerMade = true
  identityRead : C.identityRead dir = true
  removed : retentionOf (r.settingsOf C.toOutcomes dir) = .zeroRetention →
    ∀ f d, (if f.hasFlag then some dir else r.dir f) = some d → C.removed d f = true

theorem reloadFromBundle_ok_iff (hbuilt : C.bundleBuilt dir = true) :
    (r.reloadFromBundle C dir).1 = .ok () ↔ Opens C r dir := by
  rw [(reloadFromBundle_profiles C r dir).1, Profiles.reloadFromBundle_ok_iff]
  constructor
  · rintro ⟨⟨hmanager, hidentity⟩, hremoved⟩
    exact ⟨hbuilt, hmanager, hidentity, hremoved⟩
  · rintro ⟨-, hmanager, hidentity, hremoved⟩
    simp_all

structure Activated (C : Course δ ε) (reg : AccountRegistry) (entry : AccountMeta) (dir : δ)
    (persistActive : Bool) (r r' : Runtime δ γ β ε) : Prop where
  currentProfileID : r'.currentProfileID = entry.id
  registry : r'.registry =
    if persistActive then .saved { reg with activeID := entry.id, version := 1 } else r.registry
  settings : r'.settings = r.settings
  identity : r'.identity = (r.identityFile dir).getD C.generated
  identityDir : r'.identityDir = some dir
  identityFile : ∀ d stored, r.identityFile d = some stored → r'.identityFile d = some stored

variable (resolveAccountDataDir) in
theorem activateAccountLocked_cases (hwritten : C.registryWritten = true)
    (hreg : loadAccountRegistry r.registry = .ok reg) (accountID : String) (persistActive : Bool) :
    let a := r.activateAccountLocked resolveAccountDataDir C accountID persistActive
    (∃ entry, findAccountMeta reg accountID = some entry ∧
        Opens C r (resolveAccountDataDir entry) ∧ a.1 = .ok () ∧
        Activated C reg entry (resolveAccountDataDir entry) persistActive r a.2) ∨
      (∀ entry, findAccountMeta reg accountID = some entry →
        ¬ Opens C r (resolveAccountDataDir entry)) ∧ (∃ e, a.1 = .error e) ∧ Kept r a.2 := by
  intro a
  have ha : a = r.activateAccountLocked resolveAccountDataDir C accountID persistActive := rfl
  have hrefl : Kept r r := ⟨rfl, rfl, rfl, fun _ _ h => h⟩
  unfold activateAccountLocked at ha
  rw [hreg] at ha
  dsimp only at ha
  cases hfind : findAccountMeta reg accountID with
  | none =>
    simp_all
  | some entry =>
    rw [hfind] at ha
    dsimp only at ha
    split at ha
    · rename_i hbuilt
      rw [ha]
      refine .inr ⟨fun entry' h hopens => ?_, ⟨_, rfl⟩, hrefl⟩
      obtain rfl := Option.some.inj h
      exact absurd (hbuilt.symm.trans hopens.bundleBuilt) (by simp)
    · rename_i hbuilt
      have hopens := reloadFromBundle_ok_iff (r := r) (by simpa using hbuilt)
      have hkept := reloadFromBundle_kept C r (resolveAccountDataDir entry)
      have hreloaded : _ → Reloaded C (resolveAccountDataDir entry) r _ :=
        reloadFromBundle_reloaded
      generalize r.reloadFromBundle C (resolveAccountDataDir entry) = loaded at *
      obtain ⟨result, q⟩ := loaded
      cases result with
      | error e =>
        simp_all
      | ok u =>
        obtain ⟨hdir, hidentity, -⟩ := hreloaded rfl
        refine .inl ⟨entry, rfl, hopens.mp rfl, ?_⟩
        cases persistActive with
        | false =>
          rw [ha]
          exact ⟨rfl, rfl, hkept.registry, hkept.settings, hidentity, hdir,
            hkept.identityFile⟩
        | true =>
          dsimp only [saveAccountRegistry] at ha
          rw [if_pos rfl, if_pos hwritten] at ha
          rw [ha]
          exact ⟨rfl, rfl, rfl, hkept.settings, hidentity, hdir, hkept.identityFile⟩

/-! ## What should be as before -/

omit [DecidableEq δ] in
/-- The registry has the same accounts and the same one is active; so is the identity, as far as
`idOf` looks at it. -/
structure Unchanged (idOf : ε → ι) (reg : AccountRegistry) (r r' : Runtime δ γ β ε) : Prop where
  registry : ∃ reg', loadAccountRegistry r'.registry = .ok reg' ∧
    reg'.accounts = reg.accounts ∧ reg'.activeID = reg.activeID
  currentProfileID : r'.currentProfileID = r.currentProfileID
  identity : idOf r'.identity = idOf r.identity

variable (resolveAccountDataDir) in
/-- The registry can be read and written, its active account is the current one, and that one can be
opened again; this is the identity in its file. -/
structure Reopens (C R : Course δ ε) (reg : AccountRegistry) (prev : AccountMeta) (stored : ε)
    (r : Runtime δ γ β ε) : Prop where
  written : C.registryWritten = true ∧ R.registryWritten = true
  registry : loadAccountRegistry r.registry = .ok reg
  active : reg.activeID = r.currentProfileID
  previous : findAccountMeta reg r.currentProfileID = some prev
  stored : r.identityFile (resolveAccountDataDir prev) = some stored
  bundleBuilt : R.bundleBuilt (resolveAccountDataDir prev) = true
  managerMade : R.managerMade = true
  identityRead : R.identityRead (resolveAccountDataDir prev) = true
  removed : retentionOf (r.settingsOf R.toOutcomes (resolveAccountDataDir prev)) = .zeroRetention →
    ∀ d f, R.removed d f = true

section

variable {idOf : ε → ι} (h : Reopens resolveAccountDataDir C R reg prev stored r)

include h

omit [DecidableEq δ] in
theorem Reopens.current_ne_empty : r.currentProfileID ≠ "" := by
  intro hempty
  have hne := trimSpace_ne_of_find h.previous
  rw [hempty] at hne
  exact hne (by decide)

omit [DecidableEq δ] in
theorem Reopens.opens {b : Runtime δ γ β ε} (hsettings : b.settings = r.settings) :
    Opens R b (resolveAccountDataDir prev) := by
  have hsame : b.settingsOf R.toOutcomes (resolveAccountDataDir prev) =
      r.settingsOf R.toOutcomes (resolveAccountDataDir prev) :=
    settingsOf_congr hsettings _
  refine ⟨h.bundleBuilt, h.managerMade, h.identityRead, fun hzero f d _ => ?_⟩
  rw [hsame] at hzero
  exact h.removed hzero d f

omit [DecidableEq δ] in
theorem Reopens.unchanged_iff {O : Course δ ε} {b b' : Runtime δ γ β ε} {persistActive : Bool}
    (hload : loadAccountRegistry b.registry = .ok reg') (haccounts : reg'.accounts = reg.accounts)
    (hactive : persistActive = false → reg'.activeID = reg.activeID)
    (hid : trimSpace entry.id ≠ "") (ha : Activated O reg' entry dir persistActive b b') :
    Unchanged idOf reg r b' ↔ entry.id = r.currentProfileID ∧
      idOf ((b.identityFile dir).getD O.generated) = idOf r.identity := by
  constructor
  · rintro ⟨-, hcurrent, hidentity⟩
    rw [ha.currentProfileID] at hcurrent
    rw [ha.identity] at hidentity
    exact ⟨hcurrent, hidentity⟩
  · rintro ⟨hcurrent, hidentity⟩
    refine ⟨?_, ha.currentProfileID.trans hcurrent, ?_⟩
    · rw [ha.registry]
      cases persistActive with
      | false => exact ⟨reg', hload, haccounts, hactive rfl⟩
      | true =>
        have hlegacy := loadAccountRegistry_legacy hload
        exact ⟨_, loadAccountRegistry_saved hlegacy hid, haccounts, hcurrent.trans h.active.symm⟩
    · rw [ha.identity]
      exact hidentity

theorem Reopens.restored_iff {b : Runtime δ γ β ε} {persistActive : Bool}
    (hload : loadAccountRegistry b.registry = .ok reg') (haccounts : reg'.accounts = reg.accounts)
    (hactive : persistActive = false → reg'.activeID = reg.activeID)
    (hsettings : b.settings = r.settings) : Unchanged idOf reg r
        (b.activateAccountLocked resolveAccountDataDir R r.currentProfileID persistActive).2 ↔
      prev.id = r.currentProfileID ∧
        idOf ((b.identityFile (resolveAccountDataDir prev)).getD R.generated) =
          idOf r.identity := by
  have hfind : findAccountMeta reg' r.currentProfileID = some prev := by
    unfold findAccountMeta
    rw [haccounts]
    exact h.previous
  rcases activateAccountLocked_cases resolveAccountDataDir h.written.2
    hload r.currentProfileID persistActive with ⟨entry, hentry, -, -, ha⟩ | ⟨hclosed, -⟩
  · obtain rfl := Option.some.inj (hfind.symm.trans hentry)
    have hid : trimSpace prev.id ≠ "" :=
      (trimSpace_of_find hfind).trans_ne (trimSpace_ne_of_find hfind)
    exact h.unchanged_iff hload haccounts hactive hid ha
  · exact absurd (h.opens hsettings) (hclosed prev hfind)

theorem Reopens.removeAndRestore_iff {b : Runtime δ γ β ε} {id path : String}
    (hload : loadAccountRegistry b.registry = .ok reg')
    (haccounts : reg'.accounts = reg.accounts ++ [⟨id, path⟩])
    (hid : trimSpace id = id) (hother : id ≠ legacyAccountID)
    (hsettings : b.settings = r.settings) : Unchanged idOf reg r
        (b.removeAndRestore resolveAccountDataDir C R id r.currentProfileID) ↔
      (∀ entry ∈ reg.accounts, trimSpace entry.id ≠ id) ∧ prev.id = r.currentProfileID ∧
        idOf ((b.identityFile (resolveAccountDataDir prev)).getD R.generated) =
          idOf r.identity := by
  -- all accounts of this id are gone, the new one among them
  let kept := reg.accounts.filter fun entry => trimSpace entry.id ≠ id
  let activeID := if reg'.activeID = id then legacyAccountID else reg'.activeID
  have hkept : (reg'.accounts.filter fun entry => trimSpace entry.id ≠ id) = kept := by
    rw [haccounts, List.filter_append]
    simp [kept, hid]
  have hlegacy : (kept.any fun entry => trimSpace entry.id = legacyAccountID) = true := by
    obtain ⟨entry, hentry, hname⟩ := List.any_eq_true.mp (loadAccountRegistry_legacy hload)
    have hname : trimSpace entry.id = legacyAccountID := of_decide_eq_true hname
    refine List.any_eq_true.mpr ⟨entry, ?_, decide_eq_true hname⟩
    rw [← hkept]
    exact List.mem_filter.mpr ⟨hentry, decide_eq_true (hname.trans_ne hother.symm)⟩
  have hactive : trimSpace activeID ≠ "" := by
    dsimp only [activeID]
    split
    · decide
    · exact loadAccountRegistry_active hload
  have hremoved : b.removeAccountProfileLocked C id =
      (.ok (), { b with registry := .saved ⟨1, activeID, kept⟩ }) := by
    unfold removeAccountProfileLocked saveAccountRegistry
    rw [hload]
    dsimp only
    rw [if_pos h.written.1, hkept]
  have hsaved := loadAccountRegistry_saved hlegacy hactive
  unfold removeAndRestore
  rw [hremoved, if_pos h.current_ne_empty]
  dsimp only
  by_cases hfresh : ∀ entry ∈ reg.accounts, trimSpace entry.id ≠ id
  · have hsame : kept = reg.accounts := List.filter_eq_self.mpr (by simpa using hfresh)
    rw [and_iff_right hfresh]
    exact h.restored_iff (b := { b with registry := .saved ⟨1, activeID, kept⟩ }) hsaved hsame
      (fun h => nomatch h) hsettings
  · refine iff_of_false (fun hunchanged => hfresh ?_) fun hall => hfresh hall.1
    obtain ⟨reg'', hload'', haccounts'', -⟩ := hunchanged.registry
    have hreg'' : reg''.accounts = kept := by
      rcases activateAccountLocked_cases (r := { b with registry := .saved ⟨1, activeID, kept⟩ })
        resolveAccountDataDir h.written.2 hsaved r.currentProfileID true with
        ⟨entry, hentry, -, -, ha⟩ | ⟨-, -, hk⟩
      · have hname : trimSpace entry.id ≠ "" :=
          (trimSpace_of_find hentry).trans_ne (trimSpace_ne_of_find hentry)
        rw [ha.registry, if_pos rfl, loadAccountRegistry_saved hlegacy hname] at hload''
        rw [← Except.ok.inj hload'']
      · rw [hk.registry, hsaved] at hload''
        rw [← Except.ok.inj hload'']
    have hsame : kept = reg.accounts := hreg''.symm.trans haccounts''
    have hall := List.filter_eq_self.mp hsame
    intro entry hentry
    exact of_decide_eq_true (hall entry hentry)

end

/-! ## The calls -/

omit [DecidableEq δ] in
theorem opens_congr {p : Runtime δ γ β ε} (hsettings : p.settings = r.settings)
    (hdir : p.dir = r.dir) (d : δ) : Opens C p d ↔ Opens C r d := by
  have hsame : p.settingsOf C.toOutcomes d = r.settingsOf C.toOutcomes d :=
    settingsOf_congr hsettings d
  constructor
  · rintro ⟨hbuilt, hmanager, hidentity, hremoved⟩
    rw [hsame, hdir] at hremoved
    exact ⟨hbuilt, hmanager, hidentity, hremoved⟩
  · rintro ⟨hbuilt, hmanager, hidentity, hremoved⟩
    rw [← hsame, ← hdir] at hremoved
    exact ⟨hbuilt, hmanager, hidentity, hremoved⟩

/-- The operations on accounts. `CreateIdentity` and `ImportIdentity` are both `newAccount`: they
differ in the operation that is run on the new profile. -/
inductive AccountCall (ε : Type) where
  | switchAccount (accountID : String)
  | newAccount (buf : Option Bytes) (op : IdentityOpOutcome ε)

def accountCall (resolveAccountDataDir : AccountMeta → δ) (peerID : ε → String) (C R : Course δ ε)
    (running stopped started : Bool) (r : Runtime δ γ β ε) :
    AccountCall ε → Except AccountCallError Unit × Runtime δ γ β ε
  | .switchAccount accountID =>
    r.switchAccount resolveAccountDataDir peerID C R running stopped started accountID
  | .newAccount buf op =>
    r.runIdentityOpOnNewAccountLocked resolveAccountDataDir peerID C R running stopped started
      buf op

def newProfile (buf : Bytes) : AccountMeta :=
  ⟨generatePrefixedID accountPrefix buf, "profiles/" ++ generatePrefixedID accountPrefix buf⟩

theorem newProfile_id (buf : Bytes) : trimSpace (newProfile buf).id = (newProfile buf).id ∧
    (newProfile buf).id ≠ "" ∧ (newProfile buf).id ≠ legacyAccountID := by
  have hchars : (newProfile buf).id.toList = 'a' :: ("cct".toList ++ '_' ::
      (Crypto.hexEncode buf).toList) := Groups.toList_generatePrefixedID accountPrefix buf
  refine ⟨Groups.trimSpace_generatePrefixedID (by decide) buf, fun hempty => ?_, fun hlegacy => ?_⟩
  · simp_all
  · rw [hlegacy] at hchars
    exact absurd (List.cons.inj hchars).1 (by decide)

def IdentityOpOutcome.Fails : IdentityOpOutcome ε → Prop
  | .refused => True
  | .notPersisted _ _ => True
  | .done _ => False

def IdentityOpOutcome.left (stored : ε) : IdentityOpOutcome ε → Option ε
  | .refused => some stored
  | .notPersisted _ left => left
  | .done identity => some identity

def AccountCall.TakenBack (idOf : ε → ι) (resolveAccountDataDir : AccountMeta → δ)
    (C R : Course δ ε) (reg : AccountRegistry) (prev : AccountMeta) (stored : ε)
    (r : Runtime δ γ β ε) : AccountCall ε → Prop
  | .switchAccount accountID =>
    trimSpace accountID = "" ∨
      -- the account of before is what the registry and its file say it is
      prev.id = r.currentProfileID ∧ idOf stored = idOf r.identity ∧
        -- and the other one cannot be opened, so that it is not the network that fails
        ∀ entry, findAccountMeta reg accountID = some entry →
          Opens C r (resolveAccountDataDir entry) → entry = prev
  | .newAccount none _ => True
  | .newAccount (some buf) op =>
    (∀ entry ∈ reg.accounts, trimSpace entry.id ≠ (newProfile buf).id) ∧
      prev.id = r.currentProfileID ∧
      (Opens C r (resolveAccountDataDir (newProfile buf)) → op.Fails) ∧
      -- the write that failed may have been to the file of the account of before
      (Opens C r (resolveAccountDataDir (newProfile buf)) →
        resolveAccountDataDir (newProfile buf) = resolveAccountDataDir prev →
          idOf ((op.left stored).getD R.generated) = idOf r.identity) ∧
      (¬ (Opens C r (resolveAccountDataDir (newProfile buf)) ∧
        resolveAccountDataDir (newProfile buf) = resolveAccountDataDir prev) →
          idOf stored = idOf r.identity)

section

variable {idOf : ε → ι} {peerID : ε → String} {running stopped started : Bool}
  (h : Reopens resolveAccountDataDir C R reg prev stored r)

include h

omit [DecidableEq δ] in
theorem Reopens.unchanged_self : Unchanged idOf reg r r :=
  ⟨⟨reg, h.registry, rfl, rfl⟩, rfl, rfl⟩

theorem Reopens.switchAccount_iff {accountID : String} {e : AccountCallError}
    (herror : (r.switchAccount resolveAccountDataDir peerID C R running stopped started
      accountID).1 = .error e) :
    Unchanged idOf reg r (r.switchAccount resolveAccountDataDir peerID C R running stopped started
        accountID).2 ↔
      (AccountCall.switchAccount accountID).TakenBack idOf resolveAccountDataDir C R reg prev
        stored r := by
  unfold switchAccount at herror ⊢
  dsimp only at herror ⊢
  by_cases hblank : trimSpace accountID = ""
  · rw [if_pos hblank]
    exact iff_of_true h.unchanged_self (.inl hblank)
  · rw [if_neg hblank] at herror ⊢
    by_cases hcurrent : trimSpace accountID = r.currentProfileID
    · simp_all
    · rw [if_neg hcurrent] at herror ⊢
      have hstopped := stopNetworking_stopped peerID C r running stopped
      generalize r.stopNetworking peerID C running stopped = p at herror hstopped ⊢
      have hload : loadAccountRegistry p.registry = .ok reg :=
        (congrArg loadAccountRegistry hstopped.accounts.registry).trans h.registry
      have hopens : ∀ d, Opens C p d ↔ Opens C r d :=
        opens_congr hstopped.accounts.settings hstopped.dir
      have hcases := activateAccountLocked_cases resolveAccountDataDir h.written.1 hload
        (trimSpace accountID) true
      rw [findAccountMeta_trimSpace] at hcases
      generalize p.activateAccountLocked resolveAccountDataDir C (trimSpace accountID) true = a
        at hcases herror ⊢
      obtain ⟨result, q⟩ := a
      rcases hcases with ⟨entry, hfind, hopen, hok, ha⟩ | ⟨hclosed, ⟨e', he'⟩, hkept⟩
      · -- the account is open, so it was the network
        obtain rfl : result = .ok () := hok
        dsimp only at herror ⊢
        split at herror
        · rename_i hnetwork
          rw [if_pos hnetwork]
          have hid : trimSpace entry.id ≠ "" := (trimSpace_of_find hfind).trans_ne hblank
          refine (h.unchanged_iff hload rfl (fun hnot => absurd hnot (by simp)) hid ha).trans ?_
          rw [hstopped.identityFile]
          constructor
          · rintro ⟨hname, hidentity⟩
            have hprev := h.previous
            rw [← hname, ← findAccountMeta_trimSpace, trimSpace_of_find hfind,
              findAccountMeta_trimSpace, hfind] at hprev
            obtain rfl := Option.some.inj hprev
            rw [h.stored] at hidentity
            exact .inr ⟨hname, hidentity,
              fun entry' hfind' _ => Option.some.inj (hfind'.symm.trans hfind)⟩
          · rintro (hblank' | ⟨hname, hidentity, honly⟩)
            · exact absurd hblank' hblank
            · obtain rfl := honly entry hfind ((hopens _).mp hopen)
              rw [h.stored]
              exact ⟨hname, hidentity⟩
        · exact nomatch herror
      · obtain rfl : result = .error e' := he'
        dsimp only
        have hfile := hkept.identityFile _ _ (hstopped.identityFile ▸ h.stored)
        rw [hstopped.accounts.currentProfileID, if_pos h.current_ne_empty]
        refine (h.restored_iff ((congrArg loadAccountRegistry hkept.registry).trans hload) rfl
          (fun _ => rfl) (hkept.settings.trans hstopped.accounts.settings)).trans ?_
        rw [hfile]
        constructor
        · rintro ⟨hname, hidentity⟩
          exact .inr ⟨hname, hidentity,
            fun entry hfind hopen => absurd ((hopens _).mpr hopen) (hclosed entry hfind)⟩
        · rintro (hblank' | ⟨hname, hidentity, -⟩)
          · exact absurd hblank' hblank
          · exact ⟨hname, hidentity⟩

omit [DecidableEq δ] in
theorem Reopens.createAccountProfileLocked_eq (buf : Bytes) :
    r.createAccountProfileLocked C (some buf) = (.ok (newProfile buf),
      { r with registry := .saved ⟨1, reg.activeID, reg.accounts ++ [newProfile buf]⟩ }) := by
  unfold createAccountProfileLocked saveAccountRegistry
  rw [h.registry]
  dsimp only
  rw [if_pos h.written.1]
  rfl

theorem Reopens.newAccount_iff {buf : Option Bytes} {op : IdentityOpOutcome ε}
    {e : AccountCallError}
    (herror : (r.runIdentityOpOnNewAccountLocked resolveAccountDataDir peerID C R running stopped
      started buf op).1 = .error e) :
    Unchanged idOf reg r (r.runIdentityOpOnNewAccountLocked resolveAccountDataDir peerID C R
        running stopped started buf op).2 ↔
      (AccountCall.newAccount buf op).TakenBack idOf resolveAccountDataDir C R reg prev stored
        r := by
  unfold runIdentityOpOnNewAccountLocked at herror ⊢
  cases buf with
  | none =>
    have hcreate : r.createAccountProfileLocked C none = (.error .generator, r) := by
      unfold createAccountProfileLocked
      rw [h.registry]
    rw [hcreate]
    exact iff_of_true h.unchanged_self trivial
  | some buf =>
    rw [h.createAccountProfileLocked_eq buf] at herror ⊢
    dsimp only at herror ⊢
    obtain ⟨hid, hnonempty, hother⟩ := newProfile_id buf
    have hlegacy : ((reg.accounts ++ [newProfile buf]).any fun entry =>
        trimSpace entry.id = legacyAccountID) = true := by
      rw [List.any_append, loadAccountRegistry_legacy h.registry, Bool.true_or]
    have hstopped := stopNetworking_stopped peerID C
      { r with registry := .saved ⟨1, reg.activeID, reg.accounts ++ [newProfile buf]⟩ }
      running stopped
    generalize stopNetworking peerID C _ running stopped = p at herror hstopped ⊢
    have hload : loadAccountRegistry p.registry =
        .ok ⟨1, reg.activeID, reg.accounts ++ [newProfile buf]⟩ :=
      (congrArg loadAccountRegistry hstopped.accounts.registry).trans
        (loadAccountRegistry_saved hlegacy (loadAccountRegistry_active h.registry))
    have hopens : ∀ d, Opens C p d ↔ Opens C r d :=
      opens_congr hstopped.accounts.settings hstopped.dir
    have hstored : p.identityFile (resolveAccountDataDir prev) = some stored :=
      (congrFun hstopped.identityFile _).trans h.stored
    have hcases := activateAccountLocked_cases resolveAccountDataDir h.written.1 hload
      (newProfile buf).id true
    generalize p.activateAccountLocked resolveAccountDataDir C (newProfile buf).id true = a
      at hcases herror ⊢
    obtain ⟨result, q⟩ := a
    rcases hcases with ⟨entry, hfind, hopen, hok, ha⟩ | ⟨hclosed, ⟨e', he'⟩, hkept⟩
    · obtain rfl : result = .ok () := hok
      dsimp only at herror ⊢
      have hregistry : loadAccountRegistry q.registry =
          .ok ⟨1, entry.id, reg.accounts ++ [newProfile buf]⟩ := by
        rw [ha.registry, if_pos rfl]
        exact loadAccountRegistry_saved hlegacy
          ((trimSpace_of_find hfind).trans_ne (hid.trans_ne hnonempty))
      have hsettings : q.settings = r.settings := ha.settings.trans hstopped.accounts.settings
      have hfile := ha.identityFile _ _ hstored
      -- if no other account has its id, it is the new profile that was opened
      have hnew : (∀ entry ∈ reg.accounts, trimSpace entry.id ≠ (newProfile buf).id) →
          entry = newProfile buf := fun hfresh =>
        Option.some.inj (hfind.symm.trans (findAccountMeta_append hid hnonempty hfresh))
      cases op with
      | refused =>
        refine (h.removeAndRestore_iff hregistry rfl hid hother hsettings).trans ?_
        rw [hfile]
        constructor
        · rintro ⟨hfresh, hname, hidentity⟩
          exact ⟨hfresh, hname, fun _ => trivial, fun _ _ => hidentity, fun _ => hidentity⟩
        · rintro ⟨hfresh, hname, -, hhere, helsewhere⟩
          refine ⟨hfresh, hname, ?_⟩
          by_cases hsame : Opens C r (resolveAccountDataDir (newProfile buf)) ∧
              resolveAccountDataDir (newProfile buf) = resolveAccountDataDir prev
          · exact hhere hsame.1 hsame.2
          · exact helsewhere hsame
      | notPersisted identity left =>
        refine (h.removeAndRestore_iff (b := { q with
          identity := identity
          identityFile := fun d => if q.identityDir = some d then left else q.identityFile d })
          hregistry rfl hid hother hsettings).trans ?_
        dsimp only
        rw [ha.identityDir, hfile]
        constructor
        · rintro ⟨hfresh, hname, hidentity⟩
          obtain rfl := hnew hfresh
          refine ⟨hfresh, hname, fun _ => trivial, fun _ hsame => ?_, fun hnot => ?_⟩
          · rw [if_pos (congrArg some hsame)] at hidentity
            exact hidentity
          · grind
        · rintro ⟨hfresh, hname, -, hhere, helsewhere⟩
          obtain rfl := hnew hfresh
          refine ⟨hfresh, hname, ?_⟩
          split
          · rename_i hsame
            exact hhere ((hopens _).mp hopen) (Option.some.inj hsame)
          · grind
      | done identity =>
        refine iff_of_false (fun hunchanged => ?_) ?_
        · obtain ⟨reg'', hload'', haccounts, -⟩ := hunchanged.registry
          have hsame : loadAccountRegistry (if running ∧ ¬started then
              ((Except.error .network : Except AccountCallError Unit),
                (q.identityOp (.done identity)).2)
            else (.ok (), (q.identityOp (.done identity)).2)).2.registry =
              loadAccountRegistry q.registry := by
            split
            · rfl
            · rfl
          rw [← Except.ok.inj (hregistry.symm.trans (hsame.symm.trans hload''))] at haccounts
          exact absurd (congrArg List.length haccounts) (by simp)
        · rintro ⟨hfresh, -, hfails, -⟩
          obtain rfl := hnew hfresh
          exact hfails ((hopens _).mp hopen)
    · obtain rfl : result = .error e' := he'
      dsimp only
      refine (h.removeAndRestore_iff ((congrArg loadAccountRegistry hkept.registry).trans hload)
        rfl hid hother (hkept.settings.trans hstopped.accounts.settings)).trans ?_
      rw [hkept.identityFile _ _ hstored]
      have hnot : (∀ entry ∈ reg.accounts, trimSpace entry.id ≠ (newProfile buf).id) →
          ¬ Opens C r (resolveAccountDataDir (newProfile buf)) := fun hfresh hopen =>
        hclosed _ (findAccountMeta_append hid hnonempty hfresh) ((hopens _).mpr hopen)
      constructor
      · rintro ⟨hfresh, hname, hidentity⟩
        exact ⟨hfresh, hname, fun hopen => absurd hopen (hnot hfresh),
          fun hopen => absurd hopen (hnot hfresh), fun _ => hidentity⟩
      · rintro ⟨hfresh, hname, -, -, hidentity⟩
        exact ⟨hfresh, hname, hidentity fun hopen => hnot hfresh hopen.1⟩

/-- **Failed account operations.** For every operation that returns an error, the accounts, the
active one and the identity are the same as before exactly if the operation is one that is taken
back. -/
theorem failed_account_call_unchanged_iff {call : AccountCall ε} {e : AccountCallError}
    (herror : (r.accountCall resolveAccountDataDir peerID C R running stopped started call).1 =
      .error e) : Unchanged idOf reg r
        (r.accountCall resolveAccountDataDir peerID C R running stopped started call).2 ↔
      call.TakenBack idOf resolveAccountDataDir C R reg prev stored r := by
  cases call with
  | switchAccount accountID => exact h.switchAccount_iff herror
  | newAccount buf op => exact h.newAccount_iff herror

end

/-! ### A second account -/

/-- Everything works, but the messages of the second account cannot be read. -/
def unreadableCourse : Course String String :=
  { smoothCourse true with bundleBuilt := fun dir => dir ≠ "profiles/acct_2" }

theorem firstAccount_reopens {C : Course String String} (hC : C.registryWritten = true) :
    Reopens AccountMeta.relPath C (smoothCourse true) twoAccounts legacyAccount
      "aim1first" (firstAccount ∅ ∅ ∅) where
  written := ⟨hC, rfl⟩
  registry := rfl
  active := rfl
  previous := by decide
  stored := rfl
  bundleBuilt := rfl
  managerMade := rfl
  identityRead := rfl
  removed := fun _ _ _ => rfl

/-- The second account cannot be opened, and the first one stays active. -/
theorem unopened_account_taken_back :
    let failed := (firstAccount ∅ ∅ ∅).accountCall AccountMeta.relPath id unreadableCourse
      (smoothCourse true) true true true (.switchAccount "acct_2")
    failed.1 = .error (.account .bundle) ∧
      Unchanged id Profiles.twoAccounts (firstAccount ∅ ∅ ∅) failed.2 := by
  intro failed
  have herror : failed.1 = .error (.account .bundle) := rfl
  have hfind : findAccountMeta twoAccounts "acct_2" = some secondAccount := by
    decide
  refine ⟨herror, (failed_account_call_unchanged_iff (firstAccount_reopens rfl) herror).mpr
    (.inr ⟨rfl, rfl, fun entry hentry hopens => ?_⟩)⟩
  obtain rfl := Option.some.inj (hfind.symm.trans hentry)
  exact absurd hopens.bundleBuilt (by decide)

/-- The network cannot be started again: a switch has failed, and the second account is active with
its identity; a new identity was refused, and its account is in the registry and active. -/
theorem failed_restart_not_taken_back :
    let switched := (firstAccount ∅ ∅ ∅).accountCall AccountMeta.relPath id (smoothCourse true)
      (smoothCourse true) true true false (.switchAccount "acct_2")
    let created := (firstAccount ∅ ∅ ∅).accountCall AccountMeta.relPath id (smoothCourse true)
      (smoothCourse true) true true false (.newAccount (some [1]) (.done "aim1created"))
    Reopens AccountMeta.relPath (smoothCourse true) (smoothCourse true) Profiles.twoAccounts
        legacyAccount "aim1first" (firstAccount ∅ ∅ ∅) ∧
      switched.1 = .error .network ∧ switched.2.currentProfileID = "acct_2" ∧
      switched.2.identity = "aim1second" ∧
      created.1 = .error .network ∧ created.2.currentProfileID = "acct_01" ∧
      created.2.identity = "aim1created" ∧
      ¬ Unchanged id Profiles.twoAccounts (firstAccount ∅ ∅ ∅) switched.2 ∧
      ¬ Unchanged id Profiles.twoAccounts (firstAccount ∅ ∅ ∅) created.2 := by
  intro switched created
  refine ⟨firstAccount_reopens rfl, rfl, rfl, rfl, rfl, rfl, rfl, fun hsame => ?_, fun hsame => ?_⟩
  · exact absurd hsame.currentProfileID (by decide)
  · exact absurd hsame.currentProfileID (by decide)

end Ardents.Daemon.Runtime
