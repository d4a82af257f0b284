import Ardents.Daemon.Runtime
import Ardents.Groups.ReplayGuard

/-!
# What an account leaves behind in the running daemon

After a switch the daemon should be as if it had just been started on the files of the new
account. The stores are, but node bindings that cannot be read stay those of the account that was
left. Of what is not in a store, only the identity and the pending links are replaced. The replay
guard survives unless something was wiped on the way, and the cache of public blobs and the
provider registry are never looked at.
-/

namespace Ardents.Daemon.Runtime

open Go
open Crypto (Time)
open Privacy (retentionOf)
open Profiles

variable {δ γ β ε : Type}

/-- A fresh daemon over the same disk: nothing is loaded yet, and its data directory is the
account's own, not the common one with the legacy account loaded first. -/
def restarted (r : Runtime δ γ β ε) : Runtime δ γ β ε :=
  { r with
    dir := fun _ => none
    identityDir := none
    privacyDir := none
    blocklist := ∅
    memory := fun f => f.empty
    replaySeen := ∅
    bindingLinks := ∅
    publicBlobCache := ∅
    blobProviders := ∅ }

/-- Operations read the same of the two; of the provider registry, what it has of this peer. -/
structure SameState (peer : String) (s t : Runtime δ γ β ε) : Prop where
  identity : s.identity = t.identity
  memory : ∀ f, s.memory f = t.memory f
  privacy : s.privacy = t.privacy
  blocklist : s.blocklist = t.blocklist
  replaySeen : s.replaySeen = t.replaySeen
  bindingLinks : s.bindingLinks = t.bindingLinks
  publicBlobCache : s.publicBlobCache = t.publicBlobCache
  blobProviders : ∀ blobID, s.blobProviders.entry blobID peer = t.blobProviders.entry blobID peer

def WipesOnTheWay (C : Course δ ε) (running stopped : Bool) (r : Runtime δ γ β ε) (dir : δ) :
    Prop :=
  retentionOf (r.settingsOf C.toOutcomes dir) = .zeroRetention ∨ r.WipesOnStop running stopped

instance (C : Course δ ε) (running stopped : Bool) (r : Runtime δ γ β ε) (dir : δ) :
    Decidable (r.WipesOnTheWay C running stopped dir) := inferInstanceAs (Decidable (_ ∨ _))

/-- There is nothing that a switch to the account in this directory would carry over. -/
structure Clean (peerID : ε → String) (C : Course δ ε) (running stopped : Bool)
    (r : Runtime δ γ β ε) (dir : δ) : Prop where
  replaySeen : r.replaySeen = ∅ ∨ r.WipesOnTheWay C running stopped dir
  bindings : r.memory .bindings = ∅ ∨ C.read dir .bindings = true ∨
    r.WipesOnTheWay C running stopped dir
  publicBlobCache : r.publicBlobCache = ∅
  blobProviders : (∀ blobID, r.blobProviders.entry blobID (trimSpace (peerID r.identity)) = none) ∨
    (running = true ∧ stopped = true) ∧ trimSpace (peerID r.identity) ≠ ""

variable [DecidableEq δ] {peerID : ε → String} {C : Course δ ε} {running stopped : Bool}
  {r s : Runtime δ γ β ε} {dir : δ}

/-! ## An account that is loaded, and a fresh start on it -/

theorem restarted_loads (hok : (r.reloadFromBundle C dir).1 = .ok ())
    (hsettings : s.settings = r.settings) (generated : ε) :
    (s.restarted.reloadFromBundle { C with generated } dir).1 = .ok () := by
  have hload := (reloadFromBundle_profiles C r dir).1.symm.trans hok
  obtain ⟨hreads, hremoved⟩ := reloadFromBundle_ok_iff.mp hload
  refine (reloadFromBundle_profiles _ _ dir).1.trans (reloadFromBundle_ok_iff.mpr
    ⟨hreads, fun hzero f d hopen => ?_⟩)
  have hsame : s.restarted.settingsOf C.toOutcomes dir = r.settingsOf C.toOutcomes dir :=
    settingsOf_congr hsettings dir
  cases hflag : f.hasFlag with
  | true =>
    -- the flagged stores are open on this account in both
    rw [hflag, if_pos rfl] at hopen
    refine hremoved ((congrArg retentionOf hsame.symm).trans hzero) f d ?_
    rw [hflag, if_pos rfl]
    exact hopen
  | false =>
    rw [hflag, if_neg (by simp)] at hopen
    exact absurd hopen (by simp [restarted])

/-- **The stores after a fresh start**: they are as they were, but for bindings that cannot be
read. -/
theorem restarted_memory_iff (hok : (r.reloadFromBundle C dir).1 = .ok ())
    (hs : s.toProfiles.toStores = (r.reloadFromBundle C dir).2.toProfiles.toStores)
    (hsettings : s.settings = r.settings) (generated : ε) :
    (∀ f, s.memory f = (s.restarted.reloadFromBundle { C with generated } dir).2.memory f) ↔
      (r.memory .bindings = ∅ ∨ C.read dir .bindings = true ∨
        retentionOf (r.settingsOf C.toOutcomes dir) = .zeroRetention) := by
  have hload := (reloadFromBundle_profiles C r dir).1.symm.trans hok
  have hfresh := (reloadFromBundle_profiles _ _ dir).1.symm.trans
    (restarted_loads hok hsettings generated)
  have hsame : s.restarted.settingsOf C.toOutcomes dir = r.settingsOf C.toOutcomes dir :=
    settingsOf_congr hsettings dir
  have hmemory : ∀ f, s.memory f =
      if f.hasFlag then
        if retentionOf (r.settingsOf C.toOutcomes dir) = .zeroRetention then f.empty
        else f.load (s.disk dir f)
      else if C.read dir f then f.load (s.disk dir f)
      else if f = .bindings then
        if retentionOf (r.settingsOf C.toOutcomes dir) = .zeroRetention then f.empty
        else r.memory f
      else f.empty := by
    intro f
    rw [hs, (reloadFromBundle_profiles C r dir).2]
    exact reloadFromBundle_memory hload f
  have hagain : ∀ f, (s.restarted.reloadFromBundle { C with generated } dir).2.memory f =
      if f.hasFlag then
        if retentionOf (r.settingsOf C.toOutcomes dir) = .zeroRetention then f.empty
        else f.load (s.disk dir f)
      else if C.read dir f then f.load (s.disk dir f)
      else f.empty := by
    intro f
    rw [(reloadFromBundle_profiles _ _ dir).2, reloadFromBundle_memory hfresh f]
    rw [hsame]
    cases hflag : f.hasFlag with
    | true =>
      simp only [if_true]
      split
      · rfl
      · rename_i hretained
        rw [(reloadFromBundle_of_retained (hsame.symm ▸ hretained)).1]
        rfl
    | false =>
      simp only [Bool.false_eq_true, if_false]
      rw [reloadFromBundle_disk_of_closed hflag rfl]
      split
      · rfl
      · split
        · split
          · rfl
          · rfl
        · rfl
  constructor
  · intro heq
    have hbindings := heq .bindings
    rw [hmemory, hagain] at hbindings
    by_cases hread : C.read dir .bindings = true
    · exact .inr (.inl hread)
    · by_cases hzero : retentionOf (r.settingsOf C.toOutcomes dir) = .zeroRetention
      · exact .inr (.inr hzero)
      · simp only [ContentFile.hasFlag, Bool.false_eq_true, if_false, hread, if_true, hzero]
          at hbindings
        exact .inl hbindings
  · intro hclean f
    rw [hmemory, hagain]
    split
    · rfl
    · split
      · rfl
      · rename_i hread
        split
        · rename_i hbindings
          subst hbindings
          split
          · rfl
          · rename_i hretained
            rcases hclean with hempty | hreads | hzero
            · exact hempty
            · exact absurd hreads hread
            · exact absurd hzero hretained
        · rfl

/-! ## The switch -/

variable {resolveAccountDataDir : AccountMeta → δ} {R : Course δ ε} {started : Bool}
  {reg : AccountRegistry} {entry : AccountMeta} {accountID : String}

theorem switchAccount_ok (hother : trimSpace accountID ≠ r.currentProfileID)
    (hreg : loadAccountRegistry r.registry = .ok reg)
    (hfind : findAccountMeta reg accountID = some entry)
    (hok : (r.switchAccount resolveAccountDataDir peerID C R running stopped started
      accountID).1 = .ok ()) : ((r.stopNetworking peerID C running stopped).reloadFromBundle C
        (resolveAccountDataDir entry)).1 = .ok () ∧
      ∃ registry, (r.switchAccount resolveAccountDataDir peerID C R running stopped started
        accountID).2 = { ((r.stopNetworking peerID C running stopped).reloadFromBundle C
              (resolveAccountDataDir entry)).2 with
            currentProfileID := entry.id
            registry := registry } := by
  have hstopped := (stopNetworking_stopped peerID C r running stopped).accounts
  have hreg' : loadAccountRegistry (r.stopNetworking peerID C running stopped).registry =
      .ok reg := (congrArg loadAccountRegistry hstopped.registry).trans hreg
  have hfind' : findAccountMeta reg (trimSpace accountID) = some entry :=
    (findAccountMeta_trimSpace reg accountID).trans hfind
  have hactivated := activateAccountLocked_ok C resolveAccountDataDir true hreg' hfind'
  grind [switchAccount]

section

variable {p : Runtime δ γ β ε} (hstopped : Stopped peerID running stopped r p)

include hstopped

theorem Stopped.replaySeen_eq_empty_iff (hs : Reloaded C dir p s) :
    s.replaySeen = ∅ ↔ (r.replaySeen = ∅ ∨ r.WipesOnTheWay C running stopped dir) := by
  have hzero : p.settingsOf C.toOutcomes dir = r.settingsOf C.toOutcomes dir :=
    settingsOf_congr hstopped.accounts.settings dir
  grind [cases Reloaded, cases Stopped, WipesOnTheWay]

omit [DecidableEq δ] in
theorem Stopped.bindings_iff :
    (p.memory .bindings = ∅ ∨ C.read dir .bindings = true ∨
        retentionOf (p.settingsOf C.toOutcomes dir) = .zeroRetention) ↔
      (r.memory .bindings = ∅ ∨ C.read dir .bindings = true ∨
        r.WipesOnTheWay C running stopped dir) := by
  have hzero : p.settingsOf C.toOutcomes dir = r.settingsOf C.toOutcomes dir :=
    settingsOf_congr hstopped.accounts.settings dir
  rw [hstopped.memory, hzero]
  unfold WipesOnTheWay
  by_cases hwipes : r.WipesOnStop running stopped
  · rw [if_pos hwipes]
    exact iff_of_true (.inl rfl) (.inr (.inr (.inr hwipes)))
  · rw [if_neg hwipes, or_iff_left hwipes]

omit [DecidableEq δ] in
theorem Stopped.blobProviders_iff :
    (∀ blobID, p.blobProviders.entry blobID (trimSpace (peerID r.identity)) = none) ↔
      ((∀ blobID, r.blobProviders.entry blobID (trimSpace (peerID r.identity)) = none) ∨
        (running = true ∧ stopped = true) ∧ trimSpace (peerID r.identity) ≠ "") := by
  grind [cases Stopped, BlobProviderRegistry.removePeer_blank,
    BlobProviderRegistry.entry_removePeer]

theorem Stopped.sameState_restarted_iff (hloaded : (p.reloadFromBundle C dir).1 = .ok ())
    {registry : RegistryFile} {currentProfileID : String}
    (hs : s = { (p.reloadFromBundle C dir).2 with
      currentProfileID := currentProfileID, registry := registry }) (generated : ε) :
    (s.restarted.reloadFromBundle { C with generated } dir).1 = .ok () ∧
      (SameState (trimSpace (peerID r.identity)) s
          (s.restarted.reloadFromBundle { C with generated } dir).2 ↔
        r.Clean peerID C running stopped dir) := by
  have hsettings : s.settings = p.settings := by
    rw [hs]
    exact (congrArg Profiles.settings (reloadFromBundle_profiles C p dir).2).trans
      (reloadFromBundle_sameAccounts C.toOutcomes p.toProfiles dir).settings
  have hprivacy : s.privacy = p.settingsOf C.toOutcomes dir := by
    rw [hs]
    exact reloadFromBundle_privacy hloaded
  have hreloaded : Reloaded C dir p s := by
    have hreloaded := reloadFromBundle_reloaded hloaded
    rw [hs]
    exact ⟨hreloaded.identityDir, hreloaded.identity, hreloaded.identityFile, hreloaded.blocklist,
      hreloaded.blocklistFile, hreloaded.replaySeen, hreloaded.bindingLinks,
      hreloaded.publicBlobCache, hreloaded.blobProviders⟩
  have hmemory := restarted_memory_iff hloaded (congrArg (fun s => s.toProfiles.toStores) hs)
    hsettings generated
  have hstart := restarted_loads hloaded hsettings generated
  have hfresh := reloadFromBundle_reloaded hstart
  have hprivacy' := reloadFromBundle_privacy hstart
  generalize s.restarted.reloadFromBundle { C with generated } dir = started at *
  have hguard : started.2.replaySeen = ∅ := hfresh.replaySeen.trans (ite_self _)
  refine ⟨hstart, ?_⟩
  constructor
  · intro hsame
    refine ⟨?_, ?_, ?_, ?_⟩
    · exact (hstopped.replaySeen_eq_empty_iff hreloaded).mp (hsame.replaySeen.trans hguard)
    · exact hstopped.bindings_iff.mp (hmemory.mp hsame.memory)
    · rw [← hstopped.publicBlobCache, ← hreloaded.publicBlobCache, hsame.publicBlobCache]
      exact hfresh.publicBlobCache
    · refine hstopped.blobProviders_iff.mp fun blobID => ?_
      rw [← hreloaded.blobProviders, hsame.blobProviders, hfresh.blobProviders]
      rfl
  · intro hclean
    -- the identity is in its file by now, so the one that was made up does not matter
    have hfile : s.restarted.identityFile dir = some s.identity := by
      refine (congrFun hreloaded.identityFile dir).trans ?_
      rw [if_pos rfl, hreloaded.identity]
    refine ⟨?_, ?_, ?_, ?_, ?_, ?_, ?_, ?_⟩
    · rw [hfresh.identity, hfile]
      rfl
    · exact hmemory.mpr (hstopped.bindings_iff.mpr hclean.bindings)
    · rw [hprivacy', hprivacy]
      exact (settingsOf_congr hsettings dir).symm
    · rw [hfresh.blocklist, hreloaded.blocklist, ← hreloaded.blocklistFile]
      rfl
    · exact ((hstopped.replaySeen_eq_empty_iff hreloaded).mpr hclean.replaySeen).trans hguard.symm
    · exact hreloaded.bindingLinks.trans hfresh.bindingLinks.symm
    · rw [hreloaded.publicBlobCache, hstopped.publicBlobCache, hclean.publicBlobCache]
      exact hfresh.publicBlobCache.symm
    · intro blobID
      rw [hreloaded.blobProviders, hstopped.blobProviders_iff.mpr hclean.blobProviders blobID,
        hfresh.blobProviders]
      rfl

end

/-- **Accounts in one process.** After a switch the daemon is as if it had just been started on the
files of the account, exactly if there was nothing to carry over. -/
theorem switched_as_started_iff (hother : trimSpace accountID ≠ r.currentProfileID)
    (hreg : loadAccountRegistry r.registry = .ok reg)
    (hfind : findAccountMeta reg accountID = some entry) (generated : ε)
    (hok : (r.switchAccount resolveAccountDataDir peerID C R running stopped started
      accountID).1 = .ok ()) :
    let s := (r.switchAccount resolveAccountDataDir peerID C R running stopped started accountID).2
    let started := s.restarted.reloadFromBundle { C with generated } (resolveAccountDataDir entry)
    started.1 = .ok () ∧ (SameState (trimSpace (peerID r.identity)) s started.2 ↔
      r.Clean peerID C running stopped (resolveAccountDataDir entry)) := by
  obtain ⟨hloaded, registry, hswitched⟩ := switchAccount_ok hother hreg hfind hok
  exact (stopNetworking_stopped peerID C r running stopped).sameState_restarted_iff hloaded
    hswitched generated

/-! ### Two accounts in one process -/

/-- Everything works, but the bindings of the second account may be unreadable. -/
def smoothCourse (bindingsRead : Bool) : Course String String where
  toOutcomes := { Profiles.smoothOutcomes with
    read := fun dir f => bindingsRead || !(dir = "profiles/acct_2" ∧ f = .bindings) }
  generated := "aim1new"
  blocklistRead _ := true

def cachedBlob : PublicEphemeralBlobEntry :=
  ⟨⟨"att_1", "a.png", "image/png", "image", 0, "", 1, 0⟩, [7], 1, 1000, 0⟩

/-- The legacy account is active, with these blobs in the cache, this memory of group events and
these node bindings. -/
def firstAccount (cache : GoMap String PublicEphemeralBlobEntry) (seen : Groups.ReplaySeen)
    (bindings : GoMap String Unit) : Runtime String Unit Unit String where
  toProfiles := { Profiles.withRequest .ephemeral with
    memory := fun
      | .bindings => bindings
      | f => f.empty }
  identityFile dir := some (if dir = "." then "aim1first" else "aim1second")
  identityDir := some "."
  blocklistFile _ := ∅
  privacyDir := some "."
  blocklist := ∅
  identity := "aim1first"
  replaySeen := seen
  bindingLinks := (∅ : GoMap String PendingNodeBindingLink).insert "l" ⟨"aim1first", "1", "c", 9⟩
  publicBlobCache := cache
  blobProviders :=
    (∅ : BlobProviderRegistry).insert "att_1" ((∅ : GoMap String Time).insert "aim1first" 9)

/-- An account that has fetched no blob and seen no group event leaves nothing behind, not even the
blob that it provides. -/
theorem nothing_carried_over :
    let switched := (firstAccount ∅ ∅ ∅).switchAccount AccountMeta.relPath id
      (smoothCourse false) (smoothCourse true) true true true "acct_2"
    switched.1 = .ok () ∧ SameState "aim1first" switched.2
      (switched.2.restarted.reloadFromBundle { smoothCourse false with generated := "aim1other" }
        "profiles/acct_2").2 := by
  intro switched
  have hok : switched.1 = .ok () := rfl
  have hfind : findAccountMeta twoAccounts "acct_2" = some secondAccount := by
    decide
  have hclean : (firstAccount ∅ ∅ ∅).Clean id (smoothCourse false) true true "profiles/acct_2" :=
    ⟨.inl rfl, .inl rfl, rfl, .inr ⟨⟨rfl, rfl⟩, by decide⟩⟩
  have hother : trimSpace "acct_2" ≠ (firstAccount ∅ ∅ ∅).currentProfileID := by decide
  have hreg : loadAccountRegistry (firstAccount ∅ ∅ ∅).registry = .ok twoAccounts := rfl
  exact ⟨hok, (switched_as_started_iff hother hreg hfind "aim1other" hok).2.mpr hclean⟩

/-- The blob that the first account fetched is found by the second, a group event that the first
has seen is refused to the second, and the bindings of the first stand in for those that the second
cannot read. -/
theorem first_account_carried_over :
    let event := Groups.presented "g1" "phone" "e1" 100 100
    let first := firstAccount
      ((∅ : GoMap String PublicEphemeralBlobEntry).insert "att_1" cachedBlob)
      (event.step ∅) ((∅ : GoMap String Unit).insert "aim1first" ())
    let switched := first.switchAccount AccountMeta.relPath id (smoothCourse false)
      (smoothCourse true) true true true "acct_2"
    let started := switched.2.restarted.reloadFromBundle (smoothCourse false) "profiles/acct_2"
    switched.1 = .ok () ∧ started.1 = .ok () ∧ ¬ SameState "aim1first" switched.2 started.2 ∧
      switched.2.publicBlobCache["att_1"]? = some cachedBlob ∧
      started.2.publicBlobCache["att_1"]? = none ∧
      ¬ event.Passes switched.2.replaySeen ∧ event.Passes started.2.replaySeen ∧
      (switched.2.memory .bindings)["aim1first"]? = some () ∧
      (started.2.memory .bindings)["aim1first"]? = none := by
  intro event first switched started
  have hcached : switched.2.publicBlobCache["att_1"]? = some cachedBlob := by decide +kernel
  have hfetched : started.2.publicBlobCache["att_1"]? = none := by decide +kernel
  refine ⟨rfl, rfl, fun hsame => ?_, hcached, hfetched, by decide +kernel, by decide +kernel,
    by decide +kernel, by decide +kernel⟩
  rw [hsame.publicBlobCache, hfetched] at hcached
  exact nomatch hcached

end Ardents.Daemon.Runtime
