import Ardents.Daemon.AccountFailure
import Ardents.Identity.Service

/-!
# Wiping all data

`WipeData` removes the files of the stores of the active account. It does not look at the
registry, so the files of other accounts stay. And it leaves the identity manager as it is: the
next operation that saves the identity writes its key and its contacts to disk again.
-/

namespace Ardents.Daemon.Runtime

open Go
open Crypto (Time)
open Identity (Contact ContactCard IdentityError InboundIdentityCall KeyGen Manager Primitives)
open Privacy (defaultPrivacySettings)

/-! ## The wipe -/

section

variable {δ γ β ε : Type} [DecidableEq δ]

def dataWipeConsentToken : String := "I_UNDERSTAND_LOCAL_DATA_WIPE"

structure WipeOutcomes (δ : Type) where
  identity : δ → Bool
  storageKey : δ → Bool
  settings : δ → Bool
  blocklist : δ → Bool

/-- `Wipe` of the identity's state store: the file goes, the manager stays. -/
def wipeIdentity (W : WipeOutcomes δ) (r : Runtime δ γ β ε) : Runtime δ γ β ε :=
  { r with identityFile := fun d =>
      if r.identityDir = some d ∧ W.identity d = true then none else r.identityFile d }

/-- `WipeState` of the privacy service. -/
def wipePrivacy (W : WipeOutcomes δ) (r : Runtime δ γ β ε) : Runtime δ γ β ε :=
  { r with
    settings := fun d =>
      if r.privacyDir = some d ∧ W.settings d = true then none else r.settings d
    blocklistFile := fun d =>
      if r.privacyDir = some d ∧ W.blocklist d = true then ∅ else r.blocklistFile d
    privacy := defaultPrivacySettings
    blocklist := ∅ }

/-- `WipeData`. Everything is tried, and it returns true if everything went well. -/
def wipeData (peerID : ε → String) (C : Course δ ε) (W : WipeOutcomes δ) (running stopped : Bool)
    (r : Runtime δ γ β ε) (consentToken : String) : Bool × Runtime δ γ β ε :=
  if trimSpace consentToken ≠ dataWipeConsentToken then (false, r)
  -- `StopNetworking`, which also cleans up where nothing is running
  else if running ∧ ¬stopped then (false, r)
  else
    let cleaned := (r.toStores.cleanupOnStopIfZeroRetention C.removed).1
    let r := r.stopNetworking peerID C true true
    if cleaned = false then (false, r)
    else
      let content := r.toStores.wipeContentState C.removed
      let r := ({ r with toStores := content.2 } : Runtime δ γ β ε).resetVolatile
      (content.1 && r.identityDir.all (fun d => W.identity d && W.storageKey d) &&
          r.privacyDir.all (fun d => W.settings d && W.blocklist d),
        (r.wipeIdentity W).wipePrivacy W)

/-! ### What is left of it on disk -/

structure HoldsNothing (r : Runtime δ γ β ε) (dir : δ) : Prop where
  identity : r.identityFile dir = none
  content : ∀ f, f ≠ .bindings → r.disk dir f = f.empty
  settings : r.settings dir = none
  blocklist : r.blocklistFile dir = ∅

structure Reached (r : Runtime δ γ β ε) (dir : δ) : Prop where
  identity : r.identityDir = some dir ∨ r.identityFile dir = none
  content : ∀ f, f ≠ .bindings → r.dir f = some dir ∨ r.disk dir f = f.empty
  settings : r.privacyDir = some dir ∨ r.settings dir = none
  blocklist : r.privacyDir = some dir ∨ r.blocklistFile dir = ∅

structure Wiped (r r' : Runtime δ γ β ε) : Prop where
  identity : r'.identity = r.identity
  identityDir : r'.identityDir = r.identityDir
  registry : r'.registry = r.registry
  identityFile : ∀ d, r'.identityFile d = if r.identityDir = some d then none else r.identityFile d
  disk : ∀ d f, r'.disk d f = if r.dir f = some d then f.empty else r.disk d f
  settings : ∀ d, r'.settings d = if r.privacyDir = some d then none else r.settings d
  blocklistFile : ∀ d, r'.blocklistFile d = if r.privacyDir = some d then ∅ else r.blocklistFile d

variable {peerID : ε → String} {C : Course δ ε} {W : WipeOutcomes δ} {running stopped : Bool}
  {r r' : Runtime δ γ β ε} {consentToken : String}

theorem wipeData_wiped (h : (r.wipeData peerID C W running stopped consentToken).1 = true) :
    Wiped r (r.wipeData peerID C W running stopped consentToken).2 := by
  have hstopped := stopNetworking_stopped peerID C r true true
  unfold wipeData at h ⊢
  split at h
  · exact nomatch h
  · rename_i htoken
    rw [if_neg htoken]
    split at h
    · exact nomatch h
    · rename_i hstop
      rw [if_neg hstop]
      dsimp only at h ⊢
      split at h
      · exact nomatch h
      · rename_i hcleaned
        rw [if_neg hcleaned]
        generalize r.stopNetworking peerID C true true = p at h hstopped ⊢
        rw [Bool.and_eq_true, Bool.and_eq_true, Option.all_eq_true, Option.all_eq_true] at h
        obtain ⟨⟨hcontent, hidentity⟩, hprivacy⟩ := h
        have hremoved := Stores.wipeContentState_ok.mp hcontent
        refine ⟨hstopped.identity, hstopped.identityDir, hstopped.accounts.registry,
          fun d => ?_, fun d f => ?_, fun d => ?_, fun d => ?_⟩
        · refine Eq.trans (b := if p.identityDir = some d ∧ W.identity d = true then none
            else p.identityFile d) rfl ?_
          rw [← hstopped.identityDir, ← hstopped.identityFile]
          refine if_congr ⟨And.left, fun hd => ⟨hd, ?_⟩⟩ rfl rfl
          exact (Bool.and_eq_true _ _ ▸ hidentity d hd).1
        · refine Eq.trans (b := if p.dir f = some d ∧ C.removed d f = true then f.empty
            else p.disk d f) rfl ?_
          grind [cases Stopped]
        · refine Eq.trans (b := if p.privacyDir = some d ∧ W.settings d = true then none
            else p.settings d) rfl ?_
          rw [← hstopped.privacyDir, ← hstopped.accounts.settings]
          refine if_congr ⟨And.left, fun hd => ⟨hd, ?_⟩⟩ rfl rfl
          exact (Bool.and_eq_true _ _ ▸ hprivacy d hd).1
        · refine Eq.trans (b := if p.privacyDir = some d ∧ W.blocklist d = true then ∅
            else p.blocklistFile d) rfl ?_
          rw [← hstopped.privacyDir, ← hstopped.blocklistFile]
          refine if_congr ⟨And.left, fun hd => ⟨hd, ?_⟩⟩ rfl rfl
          exact (Bool.and_eq_true _ _ ▸ hprivacy d hd).2

/-- **What a wipe leaves in a directory**: nothing, exactly if the open stores had all of it. -/
theorem Wiped.holdsNothing_iff (h : Wiped r r') (dir : δ) :
    HoldsNothing r' dir ↔ Reached r dir := by
  have hidentity : r'.identityFile dir = none ↔
      r.identityDir = some dir ∨ r.identityFile dir = none := by
    rw [h.identityFile, ite_eq_left_iff, or_iff_not_imp_left]
  have hcontent : ∀ f, r'.disk dir f = f.empty ↔ r.dir f = some dir ∨ r.disk dir f = f.empty := by
    intro f
    rw [h.disk, ite_eq_left_iff, or_iff_not_imp_left]
  have hsettings : r'.settings dir = none ↔ r.privacyDir = some dir ∨ r.settings dir = none := by
    rw [h.settings, ite_eq_left_iff, or_iff_not_imp_left]
  have hblocklist : r'.blocklistFile dir = ∅ ↔
      r.privacyDir = some dir ∨ r.blocklistFile dir = ∅ := by
    rw [h.blocklistFile, ite_eq_left_iff, or_iff_not_imp_left]
  constructor
  · intro hnothing
    exact ⟨hidentity.mp hnothing.identity, fun f hf => (hcontent f).mp (hnothing.content f hf),
      hsettings.mp hnothing.settings, hblocklist.mp hnothing.blocklist⟩
  · intro hreached
    exact ⟨hidentity.mpr hreached.identity, fun f hf => (hcontent f).mpr (hreached.content f hf),
      hsettings.mpr hreached.settings, hblocklist.mpr hreached.blocklist⟩

/-! ## Where the identities on disk come from -/

def FilesFrom (Q : ε → Prop) (r r' : Runtime δ γ β ε) : Prop :=
  ∀ d m, r'.identityFile d = some m → r.identityFile d = some m ∨ Q m

variable {Q : ε → Prop} {r'' : Runtime δ γ β ε}

omit [DecidableEq δ] in
theorem filesFrom_of_eq (h : r'.identityFile = r.identityFile) : FilesFrom Q r r' :=
  fun _ _ hd => .inl (h ▸ hd)

omit [DecidableEq δ] in
theorem FilesFrom.trans (h : FilesFrom Q r r') (h' : FilesFrom Q r' r'') : FilesFrom Q r r'' := by
  intro d m hd
  rcases h' d m hd with hd' | hm
  · exact h d m hd'
  · exact .inr hm

theorem filesFrom_reload (hgenerated : Q C.generated) (r : Runtime δ γ β ε) (dir : δ) :
    FilesFrom Q r (r.reloadFromBundle C dir).2 := by
  rcases reloadFromBundle_identityFile C r dir with hfiles | hfiles
  · exact filesFrom_of_eq hfiles
  · intro d m hd
    rw [hfiles] at hd
    dsimp only at hd
    split at hd
    · rename_i hdir
      subst hdir
      cases hfile : r.identityFile d with
      | none =>
        simp_all
      | some stored =>
        rw [hfile] at hd
        exact .inl hd
    · exact .inl hd

theorem filesFrom_activate (hgenerated : Q C.generated) (resolveAccountDataDir : AccountMeta → δ)
    (r : Runtime δ γ β ε) (accountID : String) (persistActive : Bool) : FilesFrom Q r
      (r.activateAccountLocked resolveAccountDataDir C accountID persistActive).2 := by
  unfold activateAccountLocked
  split
  · exact filesFrom_of_eq rfl
  · split
    · exact filesFrom_of_eq rfl
    · rename_i entry _
      dsimp only
      split
      · exact filesFrom_of_eq rfl
      · have hreload := filesFrom_reload hgenerated r (resolveAccountDataDir entry)
        generalize r.reloadFromBundle C (resolveAccountDataDir entry) = loaded at hreload ⊢
        obtain ⟨result, q⟩ := loaded
        cases result with
        | error e => exact hreload
        | ok u =>
          dsimp only [saveAccountRegistry]
          split
          · split
            · exact hreload
            · exact hreload
          · exact hreload

theorem filesFrom_stop (peerID : ε → String) (C : Course δ ε) (r : Runtime δ γ β ε)
    (running stopped : Bool) : FilesFrom Q r (r.stopNetworking peerID C running stopped) :=
  filesFrom_of_eq (stopNetworking_stopped peerID C r running stopped).identityFile

omit [DecidableEq δ] in
theorem createAccountProfileLocked_identityFile (C : Course δ ε) (r : Runtime δ γ β ε)
    (buf : Option Bytes) :
    (r.createAccountProfileLocked C buf).2.identityFile = r.identityFile := by
  grind [createAccountProfileLocked, saveAccountRegistry]

omit [DecidableEq δ] in
theorem removeAccountProfileLocked_identityFile (C : Course δ ε) (r : Runtime δ γ β ε)
    (accountID : String) :
    (r.removeAccountProfileLocked C accountID).2.identityFile = r.identityFile := by
  unfold removeAccountProfileLocked saveAccountRegistry
  split
  · rfl
  · split
    · rfl
    · rfl

def IdentityOpOutcome.Puts (m : ε) : IdentityOpOutcome ε → Prop
  | .refused => False
  | .notPersisted _ left => left = some m
  | .done identity => identity = m

def AccountCall.Puts (m : ε) : AccountCall ε → Prop
  | .switchAccount _ => False
  | .newAccount _ op => op.Puts m

theorem filesFrom_identityOp {op : IdentityOpOutcome ε} (hop : ∀ m, op.Puts m → Q m)
    (r : Runtime δ γ β ε) : FilesFrom Q r (r.identityOp op).2 := by
  cases op with
  | refused => exact filesFrom_of_eq rfl
  | notPersisted identity left =>
    intro d m hd
    dsimp only [identityOp] at hd
    split at hd
    · exact .inr (hop m hd)
    · exact .inl hd
  | done identity =>
    intro d m hd
    dsimp only [identityOp] at hd
    split at hd
    · exact .inr (hop m (Option.some.inj hd))
    · exact .inl hd

variable {R : Course δ ε} {resolveAccountDataDir : AccountMeta → δ} {started : Bool}

theorem filesFrom_removeAndRestore (hR : Q R.generated) (r : Runtime δ γ β ε)
    (accountID previousAccountID : String) : FilesFrom Q r
      (r.removeAndRestore resolveAccountDataDir C R accountID previousAccountID) := by
  have hremoved : FilesFrom Q r (r.removeAccountProfileLocked C accountID).2 :=
    filesFrom_of_eq (removeAccountProfileLocked_identityFile C r accountID)
  grind [removeAndRestore, FilesFrom.trans, filesFrom_activate]

theorem filesFrom_accountCall (hC : Q C.generated) (hR : Q R.generated) {call : AccountCall ε}
    (hcall : ∀ m, call.Puts m → Q m) (r : Runtime δ γ β ε) : FilesFrom Q r
      (r.accountCall resolveAccountDataDir peerID C R running stopped started call).2 := by
  cases call with
  | switchAccount accountID =>
    have hstop : FilesFrom Q r _ := filesFrom_stop peerID C r running stopped
    unfold accountCall switchAccount
    dsimp only
    split
    · exact filesFrom_of_eq rfl
    · split
      · exact filesFrom_of_eq rfl
      · have hactivate := hstop.trans
          (filesFrom_activate hC resolveAccountDataDir _ (trimSpace accountID) true)
        generalize activateAccountLocked resolveAccountDataDir C _ (trimSpace accountID) true = a
          at hactivate ⊢
        obtain ⟨result, q⟩ := a
        cases result with
        | error e =>
          dsimp only
          split
          · exact hactivate.trans (filesFrom_activate hR resolveAccountDataDir _ _ _)
          · exact hactivate
        | ok u =>
          dsimp only
          split
          · exact hactivate
          · exact hactivate
  | newAccount buf op =>
    have hcreate : FilesFrom Q r _ :=
      filesFrom_of_eq (createAccountProfileLocked_identityFile C r buf)
    unfold accountCall runIdentityOpOnNewAccountLocked
    dsimp only
    generalize r.createAccountProfileLocked C buf = created at hcreate ⊢
    obtain ⟨result, p⟩ := created
    cases result with
    | error e => exact hcreate
    | ok entry =>
      have hactivate := (hcreate.trans (filesFrom_stop peerID C p running stopped)).trans
        (filesFrom_activate hC resolveAccountDataDir _ entry.id true)
      dsimp only
      generalize activateAccountLocked resolveAccountDataDir C _ entry.id true = a
        at hactivate ⊢
      obtain ⟨result, q⟩ := a
      cases result with
      | error e => exact hactivate.trans (filesFrom_removeAndRestore hR _ _ _)
      | ok u =>
        have hop := hactivate.trans (filesFrom_identityOp hcall q)
        dsimp only
        generalize q.identityOp op = done at hop ⊢
        obtain ⟨result, q'⟩ := done
        cases result with
        | error e => exact hop.trans (filesFrom_removeAndRestore hR _ _ _)
        | ok u =>
          dsimp only
          split
          · exact hop
          · exact hop

end

/-! ## What is saved later -/

inductive SavedOp where
  | addContactCard (card : ContactCard) (now : Time)
  | addContact (contactID displayName : String) (now : Time)
  | removeContact (contactID : String)
  | addDevice (name : String) (now : Time)

namespace SavedOp

def apply (P : Primitives) (G : KeyGen) (m : Manager) : SavedOp → Except IdentityError Manager
  | .addContactCard card now => m.addContact P card now
  | .addContact contactID displayName now => m.addContactByIdentityID contactID displayName now
  | .removeContact contactID => m.removeContact contactID
  | .addDevice name now => .ok (m.addDevice P G name now)

def adds (m : Manager) : SavedOp → Option Contact
  | .addContactCard card now => some ⟨card.identityID, card.displayName, card.publicKey, now, 0⟩
  | .addContact contactID displayName now =>
    some (m.contactByIdentityID contactID displayName now)
  | .removeContact _ => none
  | .addDevice _ _ => none

theorem apply_ok {P : Primitives} {G : KeyGen} {m m' : Manager} {op : SavedOp}
    (h : op.apply P G m = .ok m') :
    m'.selfPriv = m.selfPriv ∧ ∀ id contact, m'.contacts[id]? = some contact →
      m.contacts[id]? = some contact ∨ op.adds m = some contact ∧ contact.id = id := by
  have hput : ∀ c : Contact, ∀ id contact, (m.putContact c).contacts[id]? = some contact →
      m.contacts[id]? = some contact ∨ some c = some contact ∧ contact.id = id := by
    grind [Manager.putContact]
  cases op with
  | addContactCard card now =>
    obtain ⟨-, -, rfl⟩ := Manager.addContact_ok h
    exact ⟨rfl, hput _⟩
  | addContact contactID displayName now =>
    obtain ⟨-, rfl⟩ := Manager.addContactByIdentityID_ok_iff.mp h
    exact ⟨rfl, hput _⟩
  | removeContact contactID =>
    obtain rfl := Manager.removeContact_ok h
    refine ⟨rfl, fun id contact hget => .inl ?_⟩
    exact get_of_erase hget
  | addDevice name now =>
    obtain rfl := Except.ok.inj h
    exact ⟨rfl, fun id contact hget => .inl hget⟩

end SavedOp

/-- What can happen in the process after a wipe. What a restored backup does to messages and
sessions is not followed here. -/
inductive Later (δ : Type) where
  | save (op : SavedOp) (written : Bool)
  | restoreBackup (outcome : IdentityOpOutcome Manager)
  | revokeDevice (deviceID : String) (now : Time)
  | inbound (call : InboundIdentityCall)
  | account (call : AccountCall Manager) (C R : Course δ Manager) (running stopped started : Bool)

section

variable {δ γ β : Type} [DecidableEq δ] (P : Primitives) (G : KeyGen)
  (resolveAccountDataDir : AccountMeta → δ)

def laterStep (r : Runtime δ γ β Manager) : Later δ → Runtime δ γ β Manager
  | .save op written =>
    match op.apply P G r.identity with
    | .error _ => r
    | .ok m =>
      { r with
        identity := m
        -- `Persist`; a write that fails leaves the file as it was
        identityFile := fun d =>
          if written = true ∧ r.identityDir = some d then some m else r.identityFile d }
  | .restoreBackup outcome => (r.identityOp outcome).2
  | .revokeDevice deviceID now =>
    match r.identity.revokeDevice P (trimSpace deviceID) now with
    | .error _ => r
    | .ok (_, m) => { r with identity := m }
  | .inbound call => { r with identity := call.apply P r.identity }
  | .account call C R running stopped started =>
    (r.accountCall resolveAccountDataDir Manager.identityID C R running stopped started call).2

/-- The identity has the key of the one that was wiped, or one of its contacts. -/
def Carries (wiped m : Manager) : Prop :=
  m.selfPriv = wiped.selfPriv ∨
    ∃ (id : String) (contact : Contact),
      wiped.contacts[id]? = some contact ∧ m.contacts[id]? = some contact

def Later.Spares (wiped : Manager) (r : Runtime δ γ β Manager) : Later δ → Prop
  | .save op written =>
    written = false ∨ r.identityDir = none ∨ (∀ m, op.apply P G r.identity ≠ .ok m) ∨
      ¬ Carries wiped r.identity ∧ ∀ contact, op.adds r.identity = some contact →
          wiped.contacts[contact.id]? ≠ some contact
  | .restoreBackup outcome => ∀ m, outcome.Puts m → ¬ Carries wiped m
  | .revokeDevice _ _ => True
  | .inbound _ => True
  | .account call C R _ _ _ =>
    -- the identities that are made up, and the one that is created or imported
    ¬ Carries wiped C.generated ∧ ¬ Carries wiped R.generated ∧ ∀ m, call.Puts m → ¬ Carries wiped m

variable {P G resolveAccountDataDir} {wiped : Manager} {r : Runtime δ γ β Manager}

theorem filesFrom_laterStep {step : Later δ} (h : step.Spares P G wiped r) :
    FilesFrom (fun m => ¬ Carries wiped m) r (r.laterStep P G resolveAccountDataDir step) := by
  cases step with
  | save op written =>
    dsimp only [laterStep]
    split
    · exact filesFrom_of_eq rfl
    · rename_i m hm
      intro d m' hd
      dsimp only at hd
      split at hd
      · rename_i hsaved
        obtain rfl := Option.some.inj hd
        rcases h with hfailed | hnowhere | hrefused | ⟨hfree, hadds⟩
        · exact absurd hsaved.1 (by simp [hfailed])
        · exact absurd hsaved.2 (by simp [hnowhere])
        · exact absurd hm (hrefused m)
        · obtain ⟨hkey, hcontacts⟩ := SavedOp.apply_ok hm
          refine .inr fun hcarries => ?_
          rcases hcarries with hsame | ⟨id, contact, hwiped, hget⟩
          · exact hfree (.inl (hkey ▸ hsame))
          · rcases hcontacts id contact hget with hbefore | ⟨hadded, rfl⟩
            · exact hfree (.inr ⟨id, contact, hwiped, hbefore⟩)
            · exact hadds contact hadded hwiped
      · exact .inl hd
  | restoreBackup outcome => exact filesFrom_identityOp h r
  | revokeDevice deviceID now =>
    dsimp only [laterStep]
    split
    · exact filesFrom_of_eq rfl
    · exact filesFrom_of_eq rfl
  | inbound call => exact filesFrom_of_eq rfl
  | account call C R running stopped started => exact filesFrom_accountCall h.1 h.2.1 h.2.2 r

variable (P G resolveAccountDataDir) in
/-- **A wipe of all data.** If it returns true, then no account of the registry has anything left
exactly if what they had belonged to the stores that were open; and in every later run in which
nothing of the old identity is saved, every file that has its key or one of its contacts was left
by the wipe. -/
theorem wipe_complete_and_lasting {C : Course δ Manager} {W : WipeOutcomes δ}
    {running stopped : Bool} {consentToken : String} {reg : AccountRegistry}
    (hreg : loadAccountRegistry r.registry = .ok reg)
    (hwiped : (r.wipeData Manager.identityID C W running stopped consentToken).1 = true) :
    let after := (r.wipeData Manager.identityID C W running stopped consentToken).2
    loadAccountRegistry after.registry = .ok reg ∧
      ((∀ entry ∈ reg.accounts, HoldsNothing after (resolveAccountDataDir entry)) ↔
        ∀ entry ∈ reg.accounts, Reached r (resolveAccountDataDir entry)) ∧
      ∀ steps, Along (laterStep P G resolveAccountDataDir)
          (fun s step => step.Spares P G r.identity s) after steps →
        ∀ d m, (run (laterStep P G resolveAccountDataDir) after steps).identityFile d = some m →
          Carries r.identity m → after.identityFile d = some m := by
  have hleft := wipeData_wiped hwiped
  intro after
  refine ⟨(congrArg loadAccountRegistry hleft.registry).trans hreg, ?_, ?_⟩
  · exact forall₂_congr fun entry _ => hleft.holdsNothing_iff _
  · intro steps hspares d m hfile hcarries
    have hfrom : FilesFrom (fun m => ¬ Carries r.identity m) after
        (run (laterStep P G resolveAccountDataDir) after steps) :=
      along_run (I := FilesFrom (fun m => ¬ Carries r.identity m) after)
        (fun _ _ hs hstep => hs.trans (filesFrom_laterStep hstep)) (filesFrom_of_eq rfl) hspares
    exact (hfrom d m hfile).resolve_right fun hnot => hnot hcarries

end

/-! ### Two accounts on one disk -/

def ownerManager : Manager where
  identityID := "aim1first"
  signingPublicKey := List.replicate 32 1
  selfPriv := List.replicate 64 1
  contacts := (∅ : GoMap String Contact).insert "aim1friend00" ⟨"aim1friend00", "friend", [], 1, 0⟩
  devices := ∅
  activeDeviceID := ""
  revokedDevices := ∅

def otherManager : Manager where
  identityID := "aim1second"
  signingPublicKey := List.replicate 32 2
  selfPriv := List.replicate 64 2
  contacts := ∅
  devices := ∅
  activeDeviceID := ""
  revokedDevices := ∅

def twoProfiles (second : Option Manager) : Runtime String Unit Unit Manager where
  toProfiles := { Profiles.withRequest .ephemeral with settings := fun _ => none }
  identityFile dir := if dir = "." then some ownerManager else second
  identityDir := some "."
  identity := ownerManager
  blocklistFile _ := ∅
  privacyDir := some "."
  blocklist := ∅
  replaySeen := ∅
  bindingLinks := ∅
  publicBlobCache := ∅
  blobProviders := ∅

def wipeCourse : Course String Manager where
  toOutcomes := Profiles.smoothOutcomes
  generated := otherManager
  blocklistRead _ := true

def allRemoved : WipeOutcomes String := ⟨fun _ => true, fun _ => true, fun _ => true, fun _ => true⟩

theorem not_carries_other : ¬ Carries ownerManager otherManager := by
  rintro (hkey | ⟨id, contact, -, hget⟩)
  · exact absurd hkey (by decide)
  · exact absurd hget (by simp [otherManager])

/-- The second account has nothing on disk, and it is activated before a contact is added: then no
file has anything left, and none has the old key or the old contact again. -/
theorem wipe_lasts_on_another_account :
    let wiped := (twoProfiles none).wipeData Manager.identityID wipeCourse allRemoved true true
      dataWipeConsentToken
    let steps : List (Later String) :=
      [.account (.switchAccount "acct_2") wipeCourse wipeCourse false false true,
        .save (.addContact "aim1friend00" "friend" 7) true]
    wiped.1 = true ∧ (∀ entry ∈ Profiles.twoAccounts.accounts, HoldsNothing wiped.2 entry.relPath) ∧
      ∀ d m, (run (laterStep (Identity.samplePrimitives fun _ _ _ => true) Identity.sampleKeyGen
          AccountMeta.relPath) wiped.2 steps).identityFile d = some m →
        Carries ownerManager m → wiped.2.identityFile d = some m := by
  intro wiped steps
  have hwiped : wiped.1 = true := rfl
  have hreg : loadAccountRegistry (twoProfiles none).registry = .ok Profiles.twoAccounts := rfl
  obtain ⟨-, hcomplete, hlasting⟩ := wipe_complete_and_lasting
    (Identity.samplePrimitives fun _ _ _ => true) Identity.sampleKeyGen AccountMeta.relPath hreg
    hwiped
  refine ⟨hwiped, hcomplete.mpr fun entry hentry => ?_, hlasting steps ⟨?_, ?_, trivial⟩⟩
  · rcases List.mem_cons.mp hentry with rfl | hentry
    · exact ⟨.inl rfl, fun f _ => .inl rfl, .inl rfl, .inl rfl⟩
    · obtain rfl := List.mem_singleton.mp hentry
      refine ⟨.inr rfl, fun f _ => .inr ?_, .inr rfl, .inr rfl⟩
      cases f <;> rfl
  · exact ⟨not_carries_other, not_carries_other, fun m hm => hm.elim⟩
  · -- by now it is the other identity that is in memory
    refine .inr (.inr (.inr ⟨not_carries_other, fun contact hadded => ?_⟩))
    obtain rfl := Option.some.inj hadded
    decide

/-- The second account still has its identity after the wipe, and adding a contact writes the wiped
key and the wiped contact into the file of the first. -/
theorem wipe_misses_and_key_returns :
    let wiped := (twoProfiles (some otherManager)).wipeData Manager.identityID wipeCourse
      allRemoved true true dataWipeConsentToken
    let later := laterStep (Identity.samplePrimitives fun _ _ _ => true) Identity.sampleKeyGen
      AccountMeta.relPath wiped.2 (.save (.addContact "aim1another0" "another" 7) true)
    wiped.1 = true ∧ ¬ HoldsNothing wiped.2 Profiles.secondAccount.relPath ∧
      wiped.2.identityFile "." = none ∧
      ∃ m, later.identityFile "." = some m ∧ m.selfPriv = ownerManager.selfPriv ∧
        m.contacts["aim1friend00"]? = ownerManager.contacts["aim1friend00"]? := by
  intro wiped later
  refine ⟨rfl, fun hnothing => ?_, rfl, _, rfl, rfl, by decide⟩
  exact nomatch hnothing.identity

end Ardents.Daemon.Runtime
