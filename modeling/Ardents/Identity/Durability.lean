import Ardents.Identity.Service

/-!
# What a restart keeps

What matters of an identity after a restart is whom it trusts and who may open it: the contacts,
the revoked devices and the password of the seed. The file has that as of the last time it was
written. Operations that end with `Persist` bring it up to date; `RevokeDevice`, `ChangePassword`
and inbound messages do not.
-/

namespace Ardents.Identity

open Go
open Crypto (Time)
open Manager

@[ext] structure SecurityView where
  revokedDevices : String → Bool
  revokedContactDevices : String → String → Bool
  contacts : GoMap String Contact
  acceptsPassword : String → Prop

section

variable {ε ι κ φ : Type}

variable (C : SeedCrypto ε)

def Account.security (a : Account ε ι) : SecurityView :=
  { revokedDevices := fun id => (a.identity.devices[id]?).any fun d => d.model.isRevoked
    revokedContactDevices := a.identity.isRevoked
    contacts := a.identity.contacts
    acceptsPassword := a.seeds.Accepts C }

def NamesDevices (m : Manager) : Prop := ∀ contactID, m.isRevoked contactID "" = false

variable {L : Libraries ε ι} {K : StateCodec κ φ} {V : String → Prop} {svc svc' : Service ε ι φ}

/-! ## What the file gives back -/

theorem Account.security_congr {C : SeedCrypto ε} {a b : Account ε ι}
    (hdevices : ∀ id : String, (a.identity.devices[id]?).any (fun d => d.model.isRevoked) =
      (b.identity.devices[id]?).any fun d => d.model.isRevoked)
    (hrevoked : ∀ c d, a.identity.isRevoked c d = true ↔ b.identity.isRevoked c d = true)
    (hcontacts : a.identity.contacts = b.identity.contacts)
    (henvelope : a.seeds.envelope = b.seeds.envelope) : a.security C = b.security C := by
  refine SecurityView.ext (funext hdevices) ?_ hcontacts ?_
  · funext c d
    exact Bool.eq_iff_iff.mpr (hrevoked c d)
  · funext password
    show a.seeds.Accepts C password = b.seeds.Accepts C password
    unfold SeedManager.Accepts
    rw [henvelope]

theorem startOver_revoked (P : Primitives) (G : KeyGen) (m : Manager) (identityID : String)
    (priv : Bytes) (now : Time) (id : String) :
    ((m.startOver P G identityID priv now).devices[id]?).any (fun d => d.model.isRevoked)
      = false := by
  simp only [startOver, initPrimaryDevice, get_insert]
  split
  · rfl
  · rfl

theorem security_fromFile (a b : Account ε ι) (priv : Bytes) (id : String)
    (seeds : SeedManager ε) (runtime : Option RuntimeState) (now now' : Time)
    (first first' : String) : (a.fromFile L priv id seeds runtime now first).security C =
      (b.fromFile L priv id seeds runtime now' first').security C := by
  cases runtime with
  | some rs => exact Account.security_congr (fun _ => rfl) (fun _ _ => Iff.rfl) rfl rfl
  | none =>
    refine Account.security_congr (fun id' => ?_) (fun _ _ => Iff.rfl) rfl rfl
    exact (startOver_revoked _ _ _ _ _ _ id').trans (startOver_revoked _ _ _ _ _ _ id').symm

def Service.Holds (L : Libraries ε ι) (K : StateCodec κ φ) (svc : Service ε ι φ) : Prop :=
  ∃ st id seeds runtime, svc.state.contents K = some st ∧ Service.Reads L K st id seeds runtime ∧
    ∀ (a : Account ε ι) (now : Time) (first : String),
      (a.fromFile L st.signingPrivateKey id seeds runtime now first).security L.seedCrypto =
        svc.account.security L.seedCrypto

theorem Service.Holds.restart (h : svc.Holds L K) (hconf : svc.state.Configured) {priv : Bytes}
    (hpriv : priv.length = privateKeySize) (now : Time) (first : String) (written : Bool) :
    ∃ svc', svc.restart L K priv now first written = .ok svc' ∧
      svc'.account.security L.seedCrypto = svc.account.security L.seedCrypto := by
  obtain ⟨st, id, seeds, runtime, hst, hreads, hsame⟩ := h
  obtain ⟨id', hid'⟩ := buildIdentityID_of_length (P := L.primitives) (publicHalf_length hpriv)
  exact ⟨_, Service.restart_ok.mpr ⟨id', hid', .inr (.inr ⟨hconf, st, id, seeds, runtime, hst,
    hreads, rfl⟩)⟩, hsame svc.account now first⟩

theorem Service.Holds.of_same (h : svc.Holds L K) (hstate : svc'.state = svc.state)
    (hsame : svc'.account.security L.seedCrypto = svc.account.security L.seedCrypto) :
    svc'.Holds L K := by
  obtain ⟨st, id, seeds, runtime, hst, hreads, hback⟩ := h
  exact ⟨st, id, seeds, runtime, hstate ▸ hst, hreads, fun a now first =>
    (hback a now first).trans hsame.symm⟩

theorem Service.Holds.withSeeds (h : svc.Holds L K) {seeds : SeedManager ε}
    (henvelope : seeds.envelope = svc.account.seeds.envelope) :
    Service.Holds L K { svc with account := { svc.account with seeds := seeds } } :=
  h.of_same rfl (Account.security_congr (fun _ => rfl) (fun _ _ => Iff.rfl) rfl henvelope)

variable {P : Primitives}

theorem restoreRuntimeState_devices {m : Manager} (h : Kept P V m)
    (into : Manager) (first : String) :
    (into.restoreRuntimeState m.runtimeState first).devices = m.devices := by
  have hloop : (into.restoreRuntimeState m.runtimeState first).devices =
      (m.devices.toList.map Prod.snd).foldl (fun (devices : GoMap String DevicePrivate) d =>
        if d.model.id = "" ∨ d.priv.length ≠ privateKeySize then devices
        else devices.insert d.model.id d) ∅ := rfl
  rw [hloop, List.foldl_map]
  refine foldl_rebuild fun out k d hd => ?_
  obtain ⟨hid, hne, hlen⟩ := h.devices k d hd
  rw [hid, if_neg (by simp [hne, hlen])]

theorem restoreEnvelopeJSON_snapshot (s : SeedManager ε) :
    ∃ seeds, (SeedManager.new : SeedManager ε).restoreEnvelopeJSON C (s.snapshotEnvelopeJSON C)
        = some seeds ∧ seeds.envelope = s.envelope := by
  unfold SeedManager.snapshotEnvelopeJSON SeedManager.restoreEnvelopeJSON
  cases henv : s.envelope with
  | none => exact ⟨_, if_pos rfl, rfl⟩
  | some env =>
    rw [if_neg (C.marshal_ne_nil env), C.unmarshal_marshal]
    exact ⟨_, rfl, rfl⟩

theorem Service.holds_saved (h : Identity.Kept L.primitives V svc.account.identity)
    (hnamed : NamesDevices svc.account.identity) : (svc.saved L K).Holds L K := by
  obtain ⟨seeds, hseeds, henvelope⟩ :=
    restoreEnvelopeJSON_snapshot L.seedCrypto svc.account.seeds
  refine ⟨_, svc.account.identity.identityID, seeds, some svc.account.identity.runtimeState,
    Service.contents_saved svc, ⟨rfl, h.key, h.identityID, hseeds, .inr ⟨_, _, rfl,
      K.runtime.unmarshal_marshal _, rfl⟩⟩, fun a now first => ?_⟩
  refine Account.security_congr (fun id => ?_) (fun c d => ?_) ?_ henvelope
  · show ((restoreRuntimeState _ _ _).devices[id]?).any _ = _
    rw [restoreRuntimeState_devices h]
    rfl
  · refine (restoreRuntimeState_isRevoked _ _ _ c d).trans (and_iff_left_of_imp ?_)
    rintro hrevoked rfl
    exact absurd (hrevoked.symm.trans (hnamed c)) (by simp)
  · exact restoreRuntimeState_contacts h.filed _ _

/-! ## Empty device ids -/

theorem NamesDevices.of_revoked {m m' : Manager} (h : NamesDevices m)
    (hsame : m'.revokedDevices = m.revokedDevices) : NamesDevices m' := by
  intro contactID
  have hnamed := h contactID
  grind [isRevoked]

theorem namesDevices_startOver (P : Primitives) (G : KeyGen) (m : Manager) (id : String)
    (priv : Bytes) (now : Time) : NamesDevices (m.startOver P G id priv now) := by
  intro contactID
  simp [isRevoked, startOver, initPrimaryDevice]

theorem namesDevices_restoreRuntimeState (m : Manager) (state : RuntimeState) (first : String) :
    NamesDevices (m.restoreRuntimeState state first) := by
  intro contactID
  by_contra hrevoked
  obtain ⟨set, hset, hmem⟩ := isRevoked_iff.mp (Bool.not_eq_false _ ▸ hrevoked)
  simp only [restoreRuntimeState, Std.ExtTreeMap.getElem?_filterMap',
    Option.bind_eq_some_iff] at hset
  obtain ⟨ids, -, hids⟩ := hset
  split at hids
  · exact absurd hids (by simp)
  · obtain rfl := Option.some.inj hids
    exact (mem_revokedSetOf.mp hmem).2 rfl

theorem NamesDevices.move {G : KeyGen} {R : String → Prop} {m m' : Manager}
    (hR : ¬ R "") (h : NamesDevices m) (hmove : Move P G R m m') : NamesDevices m' := by
  cases hmove with
  | contact | removal | device => exact h.of_revoked rfl
  | key now hlen hid => exact namesDevices_startOver _ _ _ _ _ _
  | revocation hrevoke =>
    obtain ⟨d, -, ⟨-, rfl⟩ | ⟨-, rfl⟩⟩ := revokeDevice_ok hrevoke
    · exact h
    · exact h.of_revoked rfl
  | contactRevocation c d hd =>
    intro contactID
    by_contra hrevoked
    rcases (isRevoked_recordRevoked m c d contactID "").mp
      (Bool.not_eq_false _ ▸ hrevoked) with ⟨-, rfl⟩ | hold
    · exact hR hd
    · exact absurd (hold.symm.trans (h contactID)) (by simp)

theorem NamesDevices.moves {G : KeyGen} {R : String → Prop} {m m' : Manager}
    (hR : ¬ R "") (h : NamesDevices m) (hmoves : Moves P G R m m') : NamesDevices m' := by
  induction hmoves with
  | refl => exact h
  | tail _ hmove ih => exact ih.move hR hmove

theorem Service.holds_restart (hconf : svc.state.Configured) {priv : Bytes} {now : Time}
    {first : String} {written : Bool}
    (h : svc.restart L K priv now first written = .ok svc') : svc'.Holds L K := by
  obtain ⟨id, hid, ⟨hbad, -⟩ | ⟨-, -, -, rfl⟩ | ⟨-, st, id', seeds, runtime, hst, hreads, rfl⟩⟩ :=
    Service.restart_ok.mp h
  · exact absurd hconf hbad
  · have hfresh : Identity.Kept L.primitives (fun _ => True)
        (svc.fresh L id priv now).account.identity :=
      kept_startOver _ _ (length_of_identityID hid) hid
    exact Service.holds_saved hfresh (namesDevices_startOver _ _ _ _ _ _)
  · exact ⟨st, id', seeds, runtime, hst, hreads, fun a now' first' =>
      security_fromFile _ _ _ _ _ _ _ _ _ _ _⟩

namespace Service

/-- The service has a file to write, and what it would write can be read back. -/
structure Ready (L : Libraries ε ι) (K : StateCodec κ φ) (svc : Service ε ι φ) : Prop where
  configured : svc.state.Configured
  kept : Identity.Kept L.primitives (fun _ => True) svc.account.identity
  named : NamesDevices svc.account.identity

theorem ready_restart (hconf : svc.state.Configured) {priv : Bytes} {now : Time} {first : String}
    {written : Bool} (h : svc.restart L K priv now first written = .ok svc') : Ready L K svc' := by
  have hkept := (kept_restart (fileValid_true K svc.state) h).identity
  obtain ⟨id, hid, ⟨hbad, -⟩ | ⟨-, -, -, rfl⟩ | ⟨-, st, id', seeds, runtime, hst, hreads, rfl⟩⟩ :=
    restart_ok.mp h
  · exact absurd hconf hbad
  · exact ⟨hconf, hkept, namesDevices_startOver _ _ _ _ _ _⟩
  · refine ⟨hconf, hkept, ?_⟩
    cases runtime with
    | none => exact namesDevices_startOver _ _ _ _ _ _
    | some rs => exact namesDevices_restoreRuntimeState _ _ _

theorem Ready.step (h : Ready L K svc) {s : Step ι} (hs : ¬ s.Revokes "") :
    Ready L K (svc.step L K s) := by
  by_cases hrestart : ∃ priv now first written, s = .restart priv now first written
  · grind [step_restart, ready_restart, cases Ready]
  · obtain ⟨a, hmoves, heffect⟩ := step_effect (L := L) (K := K) svc s
      fun priv now first written heq => hrestart ⟨priv, now, first, written, heq⟩
    have hkept := h.kept.moves (fun _ _ => trivial) hmoves
    have hnamed := h.named.moves hs hmoves
    rcases heffect with heq | heq
    · rw [heq]
      exact ⟨h.configured, hkept, hnamed⟩
    · rw [heq]
      exact ⟨h.configured, hkept, hnamed⟩

theorem Ready.run (h : Ready L K svc) {steps : List (Step ι)}
    (hsteps : ∀ s ∈ steps, ¬ s.Revokes "") : Ready L K (run (Service.step L K) svc steps) :=
  along_run (fun _ _ hready hs => hready.step hs) h (along_of_forall (fun _ => hsteps) svc)

end Service

/-! ## Steps that leave the file up to date -/

def InboundIdentityCall.Harmless (P : Primitives) (m : Manager) : InboundIdentityCall → Prop
  | .addContactByIdentityID contactID _ _ => ¬ Manager.ValidContactID contactID
  | .validateInboundContactTrust senderID wire _ =>
    m.hasVerifiedContact senderID = true ∨
      ∀ card, wire.card = some card → Messaging.cardViolation P senderID card ≠ none
  | .applyDeviceRevocation senderID rev =>
    m.isRevoked senderID rev.deviceID = true ∨
      ∀ key, m.contactPublicKey senderID = some key → rev.identityID = senderID →
        P.verify key (deviceRevocationBytes rev.identityID rev.deviceID rev.timestamp)
          rev.signature = false

/-- The password does not open the seed, or there is none, or it is too early to try. -/
def SeedManager.PasswordStays (s : SeedManager ε)
    (oldPassword newPassword : String) (rand : Bytes) (now : Time) : Prop :=
  trimSpace oldPassword = "" ∨ trimSpace newPassword = "" ∨ s.ensureUnlocked now = false ∨
    ∀ env mnemonic, s.envelope = some env →
      C.decryptSeed env (trimSpace oldPassword) = some mnemonic →
      C.encryptSeed rand mnemonic (trimSpace newPassword) = none

/-- The step is saved, or changes nothing that a restart would have to give back. -/
def Service.Durable (L : Libraries ε ι) (svc : Service ε ι φ) : Step ι → Prop
  | .operation (.restoreBackup conditions consentToken password blob) _ =>
    (∃ e, openBackup ⟨L, conditions⟩ consentToken password blob = .error e) ∨
      ∃ payload, openBackup ⟨L, conditions⟩ consentToken password blob = .ok payload ∧
        Restorable ⟨L, conditions⟩ payload svc.account.sessions.persist
  | .operation _ _ => True
  | .changePassword oldSeedPassword newSeedPassword rand now =>
    svc.account.seeds.PasswordStays L.seedCrypto oldSeedPassword newSeedPassword rand now
  | .exportSeed _ _ => True
  | .revokeDevice deviceID _ =>
    ∀ d, svc.account.identity.devices[trimSpace deviceID]? = some d → d.model.isRevoked = true
  | .inbound call => call.Harmless L.primitives svc.account.identity
  | .stores _ _ => True
  | .restart _ _ _ _ => True

def Step.Written : Step ι → Prop
  | .operation _ written => written = true
  | .restart _ _ _ written => written = true
  | _ => True

theorem SeedManager.exportSeed_envelope (s : SeedManager ε) (password : String)
    (now : Time) : (s.exportSeed C password now).2.envelope = s.envelope := by
  unfold SeedManager.exportSeed
  split
  · rfl
  · split
    · rfl
    · split
      · rfl
      · split
        · rfl
        · split
          · rfl
          · rfl

theorem SeedManager.PasswordStays.envelope {C : SeedCrypto ε} {s : SeedManager ε}
    {oldPassword newPassword : String} {rand : Bytes} {now : Time}
    (h : s.PasswordStays C oldPassword newPassword rand now) :
    (s.changePassword C oldPassword newPassword rand now).2.envelope = s.envelope := by
  unfold SeedManager.changePassword
  dsimp only
  split
  · rfl
  · rename_i hpasswords
    rw [not_or] at hpasswords
    split
    · rfl
    · rename_i hunlocked
      split
      · rfl
      · rename_i env henv
        split
        · rfl
        · rename_i mnemonic hmnemonic
          rcases h with h | h | h | h
          · exact absurd h hpasswords.1
          · exact absurd h hpasswords.2
          · exact absurd h hunlocked
          · rw [h env mnemonic henv hmnemonic]

theorem validateInboundContactTrust_harmless {m : Manager} {senderID : String}
    {wire : Messaging.WirePayload} {now : Time} (h : m.hasVerifiedContact senderID = true ∨
      ∀ card, wire.card = some card → Messaging.cardViolation P senderID card ≠ none) :
    (Messaging.validateInboundContactTrust P m senderID wire now).2 = m := by
  unfold Messaging.validateInboundContactTrust
  split
  · split
    · rfl
    · split
      · rfl
      · split
        · rfl
        · rfl
  · grind

theorem applyDeviceRevocation_harmless {m m' : Manager} {senderID : String} {rev : DeviceRevocation}
    (h : m.isRevoked senderID rev.deviceID = true ∨
      ∀ key, m.contactPublicKey senderID = some key → rev.identityID = senderID →
        P.verify key (deviceRevocationBytes rev.identityID rev.deviceID rev.timestamp)
          rev.signature = false) (happly : m.applyDeviceRevocation P senderID rev = .ok m') :
    m' = m ∨ (m.isRevoked senderID rev.deviceID = true ∧
      m' = m.recordRevoked senderID rev.deviceID) := by
  rcases h with hknown | hrefused
  · rcases applyDeviceRevocation_ok happly with ⟨-, rfl⟩ | rfl
    · exact .inl rfl
    · exact .inr ⟨hknown, rfl⟩
  · left
    unfold applyDeviceRevocation at happly
    split at happly
    · exact absurd happly (by simp)
    · rename_i contact hcontact
      split at happly
      · exact (Except.ok.inj happly).symm
      · rename_i hlen
        split at happly
        · exact absurd happly (by simp)
        · rename_i hid
          have hkey : m.contactPublicKey senderID = some contact.publicKey :=
            contactPublicKey_eq_some.mpr ⟨contact, hcontact, rfl, not_not.mp hlen⟩
          simp_all

theorem InboundIdentityCall.Harmless.same {m : Manager}
    {call : InboundIdentityCall} (h : call.Harmless P m) :
    (call.apply P m).devices = m.devices ∧ (call.apply P m).contacts = m.contacts ∧
      ∀ c d, (call.apply P m).isRevoked c d = true ↔ m.isRevoked c d = true := by
  have hsame : ∀ m', m' = m → m'.devices = m.devices ∧ m'.contacts = m.contacts ∧
      ∀ c d, m'.isRevoked c d = true ↔ m.isRevoked c d = true := by
    simp
  cases call with
  | addContactByIdentityID contactID displayName now =>
    refine hsame _ ?_
    show (m.addContactByIdentityID contactID displayName now).toOption.getD m = m
    cases hadd : m.addContactByIdentityID contactID displayName now with
    | error e => rfl
    | ok m' => exact absurd (addContactByIdentityID_ok_iff.mp hadd).1 h
  | validateInboundContactTrust senderID wire now =>
    exact hsame _ (validateInboundContactTrust_harmless h)
  | applyDeviceRevocation senderID rev =>
    show ((m.applyDeviceRevocation P senderID rev).toOption.getD m).devices = m.devices ∧
      ((m.applyDeviceRevocation P senderID rev).toOption.getD m).contacts = m.contacts ∧
      ∀ c d, ((m.applyDeviceRevocation P senderID rev).toOption.getD m).isRevoked c d = true ↔ _
    cases happly : m.applyDeviceRevocation P senderID rev with
    | error e => exact hsame _ rfl
    | ok m' =>
      rcases applyDeviceRevocation_harmless h happly with rfl | ⟨hknown, rfl⟩
      · exact hsame _ rfl
      · refine ⟨rfl, rfl, fun c d => ?_⟩
        refine (isRevoked_recordRevoked _ _ _ c d).trans (or_iff_right_of_imp ?_)
        rintro ⟨rfl, rfl⟩
        exact hknown

theorem Service.Durable.perform {op : Operation} {written : Bool}
    (h : svc.Durable L (.operation op written)) :
    (∃ e, op.perform L svc.account = (.error e, svc.account)) ∨
      ∃ a, op.perform L svc.account = (.ok (), a) := by
  have himport : ∀ mnemonic rand seedPassword now,
      (∃ e, Operation.importSeed L svc.account mnemonic rand seedPassword now
        = (.error e, svc.account)) ∨
        ∃ a, Operation.importSeed L svc.account mnemonic rand seedPassword now = (.ok (), a) := by
    intro mnemonic rand seedPassword now
    unfold Operation.importSeed
    split
    · exact .inl ⟨_, rfl⟩
    · obtain ⟨id, hid⟩ := buildIdentityID_of_length (P := L.primitives)
        (publicHalf_length (newKeyFromSeed_length (G := L.keyGen)
          (L.keyGen.signingSeed_length mnemonic)))
      dsimp only
      rw [hid]
      exact .inr ⟨_, rfl⟩
  have hcall : ∀ result, (∃ e, svc.account.identityCall result = (.error e, svc.account)) ∨
      ∃ a, svc.account.identityCall result = (.ok (), a) := by
    intro result
    cases result with
    | error e => exact .inl ⟨_, rfl⟩
    | ok m => exact .inr ⟨_, rfl⟩
  cases op with
  | createIdentity mnemonic rand seedPassword now =>
    unfold Operation.perform
    dsimp only
    split
    · exact .inl ⟨_, rfl⟩
    · exact himport _ _ _ _
  | importIdentity mnemonic rand seedPassword now => exact himport _ _ _ _
  | addContactCard | addContact | removeContact => exact hcall _
  | addDevice name now => exact .inr ⟨_, rfl⟩
  | restoreBackup conditions consentToken password blob =>
    unfold Operation.perform
    dsimp only
    rcases h with ⟨e, hrefused⟩ | ⟨payload, hopen, hgood⟩
    · rw [restoreBackup_of_refused hrefused]
      exact .inl ⟨_, rfl⟩
    · split
      · grind [restoreBackup_of_opened]
      · exact .inr ⟨_, rfl⟩

theorem Service.step_saved {op : Operation} {a : Account ε ι} (hconf : svc.state.Configured)
    (h : op.perform L svc.account = (.ok (), a)) :
    svc.step L K (.operation op true) = ({ svc with account := a } : Service ε ι φ).saved L K := by
  show svc.perform L K op true = _
  unfold Service.perform
  rw [h]
  dsimp only
  have hpersist : ({ svc with account := a } : Service ε ι φ).persist L K true = .ok _ :=
    Service.persist_ok.mpr (.inr ⟨hconf, rfl, rfl⟩)
  rw [hpersist]
  rfl

theorem Service.holds_step_saved (hready : svc.Ready L K) {op : Operation} {a : Account ε ι}
    (h : op.perform L svc.account = (.ok (), a)) :
    (svc.step L K (.operation op true)).Holds L K := by
  have hnext : Service.Ready L K (svc.step L K (.operation op true)) :=
    hready.step (by simp [Step.Revokes])
  rw [Service.step_saved hready.configured h] at hnext ⊢
  exact Service.holds_saved hnext.kept hnext.named

/-- **One step.** A step that is saved, or changes nothing, leaves the file up to date. -/
theorem Service.Holds.step (h : svc.Holds L K) (hready : svc.Ready L K) {s : Step ι}
    (hwritten : s.Written) (hdurable : svc.Durable L s) : (svc.step L K s).Holds L K := by
  cases s with
  | operation op written =>
    obtain rfl : written = true := hwritten
    rcases hdurable.perform with ⟨e, hfails⟩ | ⟨a, hok⟩
    · have hsame : svc.step L K (.operation op true) = svc := by
        show svc.perform L K op true = svc
        unfold Service.perform
        rw [hfails]
      rw [hsame]
      exact h
    · exact Service.holds_step_saved hready hok
  | changePassword oldSeedPassword newSeedPassword rand now =>
    exact h.withSeeds (SeedManager.PasswordStays.envelope hdurable)
  | exportSeed seedPassword now => exact h.withSeeds (SeedManager.exportSeed_envelope _ _ _ _)
  | revokeDevice deviceID now =>
    simp only [Service.step]
    split
    · exact h
    · rename_i rev m hrevoke
      obtain ⟨d, hd, ⟨-, rfl⟩ | ⟨hnew, -⟩⟩ := revokeDevice_ok hrevoke
      · exact h
      · exact absurd ((hdurable d hd).symm.trans hnew) (by simp)
  | inbound call =>
    have hharmless : call.Harmless L.primitives svc.account.identity := hdurable
    obtain ⟨hdevices, hcontacts, hrevoked⟩ := hharmless.same
    refine h.of_same rfl (Account.security_congr (fun id => ?_) hrevoked hcontacts rfl)
    show ((call.apply L.primitives svc.account.identity).devices[id]?).any _ = _
    rw [hdevices]
  | stores messages sessions =>
    exact h.of_same rfl (Account.security_congr (fun _ => rfl) (fun _ _ => Iff.rfl) rfl rfl)
  | restart priv now first written =>
    grind [Service.step_restart, Service.holds_restart, cases Ready]

/-- **A run.** From an up to date file, steps that are durable keep it so. -/
theorem Service.holds_run (h : svc.Holds L K) (hready : svc.Ready L K) {steps : List (Step ι)}
    (hwritten : ∀ s ∈ steps, s.Written) (hnamed : ∀ s ∈ steps, ¬ s.Revokes "")
    (hdurable : Along (Service.step L K) (Service.Durable L) svc steps) :
    (run (Service.step L K) svc steps).Holds L K := by
  induction steps generalizing svc with
  | nil => exact h
  | cons s steps ih =>
    have hs := hnamed s List.mem_cons_self
    exact ih (h.step hready (hwritten s List.mem_cons_self) hdurable.1) (hready.step hs)
      (fun t ht => hwritten t (List.mem_cons_of_mem s ht))
      (fun t ht => hnamed t (List.mem_cons_of_mem s ht)) hdurable.2

/-- Nothing has happened yet, or the last thing was an operation that succeeded. -/
def JustSaved (L : Libraries ε ι) (K : StateCodec κ φ) (start : Service ε ι φ)
    (steps : List (Step ι)) : Prop :=
  steps = [] ∨ ∃ pre op, steps = pre ++ [.operation op true] ∧
    (op.perform L (run (Service.step L K) start pre).account).1 = .ok ()

/-- **Security state survives a restart** if every step since the file was last written has left it
up to date. No write of the file fails, and no contact revokes a device without an id. -/
theorem security_survives_restart {svc₀ start : Service ε ι φ}
    (hconf : svc₀.state.Configured) {priv : Bytes} {now : Time} {first : String}
    (hstart : svc₀.restart L K priv now first true = .ok start) (before after : List (Step ι))
    (hwritten : ∀ s ∈ before ++ after, s.Written) (hnamed : ∀ s ∈ before ++ after, ¬ s.Revokes "")
    (hsaved : JustSaved L K start before) (hdurable : Along (Service.step L K) (Service.Durable L)
      (run (Service.step L K) start before) after)
    {priv' : Bytes} (hpriv : priv'.length = privateKeySize) (now' : Time) (first' : String) :
    ∃ svc', (run (Service.step L K) start (before ++ after)).restart L K priv' now' first' true
        = .ok svc' ∧ svc'.account.security L.seedCrypto =
        (run (Service.step L K) start (before ++ after)).account.security L.seedCrypto := by
  have hready := Service.ready_restart hconf hstart
  have hbefore : Service.Ready L K (run (Service.step L K) start before) :=
    hready.run fun s hs => hnamed s (List.mem_append_left after hs)
  have hholds : (run (Service.step L K) start before).Holds L K := by
    rcases hsaved with rfl | ⟨pre, op, rfl, hok⟩
    · exact Service.holds_restart hconf hstart
    · grind [run, Service.Ready.run, Service.holds_step_saved]
  have hafter := Service.holds_run hholds hbefore
    (fun s hs => hwritten s (List.mem_append_right before hs))
    (fun s hs => hnamed s (List.mem_append_right before hs)) hdurable
  have hall : Service.Ready L K (run (Service.step L K) start (before ++ after)) :=
    hready.run hnamed
  rw [← run_append] at hafter
  exact hafter.restart hall.configured hpriv now' first' true

end

/-! ## What a restart forgets -/

section

def sampleStateCodec : StateCodec RuntimeState (PersistedIdentityState RuntimeState) :=
  ⟨sampleCodec, fun _ st => st, fun _ st => some st, fun _ _ => rfl⟩

def laptopLibraries : Libraries Bytes (GoMap String Crypto.SessionState) :=
  { sampleLibraries (openSealing shortKeyPayload) with primitives := aliceWorld laptopSigned }

abbrev SampleService : Type :=
  Service Bytes (GoMap String Crypto.SessionState) (PersistedIdentityState RuntimeState)

def freshKey : Bytes := List.replicate 64 4

def firstStart : SampleService :=
  ((⟨accountWith (textMessage "m"), "identity.enc", "secret", none⟩ : SampleService).restart
    laptopLibraries sampleStateCodec freshKey 0 "" true).toOption.getD
      ⟨accountWith (textMessage "m"), "", "", none⟩

def afterSteps (steps : List (Step (GoMap String Crypto.SessionState))) : SampleService :=
  run (Service.step laptopLibraries sampleStateCodec) firstStart steps

def restarted (svc : SampleService) : Option SampleService :=
  (svc.restart laptopLibraries sampleStateCodec freshKey 9 "" true).toOption

def Forgets (steps : List (Step (GoMap String Crypto.SessionState))) : Prop :=
  ∃ svc', (afterSteps steps).restart laptopLibraries sampleStateCodec freshKey 9 "" true
      = .ok svc' ∧
    svc'.account.security sampleSeedCrypto ≠ (afterSteps steps).account.security sampleSeedCrypto

theorem forgets_of {steps : List (Step (GoMap String Crypto.SessionState))}
    (f : SampleService → Bool) (hview : ∀ a b : SampleService,
      a.account.security sampleSeedCrypto = b.account.security sampleSeedCrypto → f a = f b)
    (hf : (restarted (afterSteps steps)).map f = some (!f (afterSteps steps))) : Forgets steps := by
  obtain ⟨svc', hrestart, hdiffers⟩ := Option.map_eq_some_iff.mp hf
  refine ⟨svc', toOption_eq_some.mp hrestart, fun hsame => ?_⟩
  grind

def primaryDevice : String := "dev1_0707070707070707"

/-- The primary device is revoked, and then a contact added, which saves both. -/
def revokedAndSaved : List (Step (GoMap String Crypto.SessionState)) :=
  [.revokeDevice primaryDevice 5, .operation (.addContactCard (aliceCard "Alice") 6) true]

def revokedAgain : List (Step (GoMap String Crypto.SessionState)) :=
  [.revokeDevice primaryDevice 7]

theorem revocation_survives : ((afterSteps (revokedAndSaved ++ revokedAgain)).account.security
        sampleSeedCrypto).revokedDevices primaryDevice = true ∧
      ∃ svc', (afterSteps (revokedAndSaved ++ revokedAgain)).restart laptopLibraries
          sampleStateCodec freshKey 9 "" true = .ok svc' ∧ svc'.account.security sampleSeedCrypto =
          (afterSteps (revokedAndSaved ++ revokedAgain)).account.security sampleSeedCrypto := by
  refine ⟨by decide, ?_⟩
  have hstart : (⟨accountWith (textMessage "m"), "identity.enc", "secret", none⟩
      : SampleService).restart laptopLibraries sampleStateCodec freshKey 0 "" true
        = .ok firstStart := rfl
  have hsaved : JustSaved laptopLibraries sampleStateCodec firstStart revokedAndSaved :=
    .inr ⟨[.revokeDevice primaryDevice 5], .addContactCard (aliceCard "Alice") 6, rfl, rfl⟩
  have hrevoked : ((afterSteps revokedAndSaved).account.identity.devices[primaryDevice]?).all
      (fun d => d.model.isRevoked) = true := by decide
  have hdurable : Along (Service.step laptopLibraries sampleStateCodec)
      (Service.Durable laptopLibraries) (afterSteps revokedAndSaved) revokedAgain := by
    refine ⟨fun d hd => ?_, trivial⟩
    have hd' : (afterSteps revokedAndSaved).account.identity.devices[primaryDevice]? = some d := hd
    rw [hd'] at hrevoked
    exact hrevoked
  exact security_survives_restart (by decide) hstart revokedAndSaved revokedAgain
    (by simp [revokedAndSaved, revokedAgain, Step.Written])
    (by simp [revokedAndSaved, revokedAgain, Step.Revokes]) hsaved hdurable rfl 9 ""

def cardWire : Messaging.WirePayload :=
  { Messaging.emptyWire with card := some (aliceCard "Alice") }

/-- A device revoked, a password changed, a contact who came with a message, and a contact's
device revoked by a message: each is forgotten. -/
theorem restart_forgets : Forgets [.revokeDevice primaryDevice 5] ∧
      Forgets [.operation (.importIdentity [1] [] "old" 1) true, .changePassword "old" "new" [] 5] ∧
      Forgets [.inbound (.validateInboundContactTrust aliceID cardWire 5)] ∧
      Forgets [.operation (.addContactCard (aliceCard "Alice") 1) true,
        .inbound (.applyDeviceRevocation aliceID (revocationOf laptop))] := by
  refine ⟨?_, ?_, ?_, ?_⟩
  · refine forgets_of
      (fun svc => (svc.account.security sampleSeedCrypto).revokedDevices primaryDevice)
      (fun a b h => congrFun (congrArg SecurityView.revokedDevices h) primaryDevice) ?_
    decide
  · refine forgets_of (fun svc => decide (svc.account.seeds.Accepts sampleSeedCrypto "new"))
      (fun a b h => ?_) ?_
    · have hsame := congrFun (congrArg SecurityView.acceptsPassword h) "new"
      exact decide_eq_decide.mpr (iff_of_eq hsame)
    · decide
  · refine forgets_of (fun svc => svc.account.identity.contacts.contains aliceID)
      (fun a b h => congrArg (fun v => v.contacts.contains aliceID) h) ?_
    decide
  · refine forgets_of
      (fun svc => (svc.account.security sampleSeedCrypto).revokedContactDevices aliceID laptop.id)
      (fun a b h => congrFun (congrFun (congrArg SecurityView.revokedContactDevices h) aliceID)
        laptop.id) ?_
    decide

end

end Ardents.Identity
