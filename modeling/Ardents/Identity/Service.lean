import Ardents.Identity.Backup
import Ardents.Messaging.Trust

/-!
# The identity service and its file

`Persist` writes the key, the seed envelope and the runtime state to one file; `Bootstrap` reads
them into a manager that was just made. Some operations of the service end with `Persist` and some
do not, and inbound messages change contacts and revocations without it.
-/

namespace Ardents.Identity

open Go
open Crypto (FileSessionStore SkippedKeys Time)
open Messaging (MessageStore WirePayload)
open Procedure

/-- `persistedIdentityState`; `κ` is the text of the runtime state. -/
structure PersistedIdentityState (κ : Type) where
  version : Int
  signingPrivateKey : Bytes
  seedEnvelope : Bytes
  runtimeState : Option κ

/-- JSON and `securestore` as the state store uses them; `φ` is what a file holds. -/
structure StateCodec (κ φ : Type) where
  runtime : RuntimeCodec κ
  encode : (secret : String) → PersistedIdentityState κ → φ
  decode : (secret : String) → φ → Option (PersistedIdentityState κ)
  decode_encode : ∀ secret state, decode secret (encode secret state) = some state

/-- `StateStore`, with the file at its path. -/
structure StateStore (φ : Type) where
  path : String
  secret : String
  file : Option φ

/-- Without a path and a secret, `Bootstrap` and `Persist` do nothing. -/
def StateStore.Configured {φ : Type} (s : StateStore φ) : Prop :=
  trimSpace s.path ≠ "" ∧ trimSpace s.secret ≠ ""

instance {φ : Type} (s : StateStore φ) : Decidable s.Configured :=
  inferInstanceAs (Decidable (_ ∧ _))

def StateStore.contents {κ φ : Type} (K : StateCodec κ φ) (s : StateStore φ) :
    Option (PersistedIdentityState κ) := s.file.bind (K.decode s.secret)

inductive ServiceError where
  | seed (err : SeedError)
  | identity (err : IdentityError)
  | backup (err : BackupError)
  | unreadable
  | payloadInvalid
  | seedEnvelope
  | runtimeState
  | persist

structure Service (ε ι φ : Type) where
  account : Account ε ι
  state : StateStore φ

section

variable {ε ι κ φ : Type} (L : Libraries ε ι) (K : StateCodec κ φ)

/-! ## Writing and reading the file -/

def persistedIdentityState (a : Account ε ι) : PersistedIdentityState κ :=
  { version := 1
    signingPrivateKey := a.identity.selfPriv
    seedEnvelope := a.seeds.snapshotEnvelopeJSON L.seedCrypto
    runtimeState := a.identity.snapshotRuntimeStateJSON K.runtime }

namespace Service

/-- `Persist`; a write that fails leaves the file as it was. -/
def persist (svc : Service ε ι φ) (written : Bool) : Except ServiceError (Service ε ι φ) :=
  if ¬ svc.state.Configured then .ok svc
  else if written = false then .error .persist
  else .ok { svc with state := { svc.state with
    file := some (K.encode svc.state.secret (persistedIdentityState L K svc.account)) } }

/-- The part of `Bootstrap` that comes once the file is read. -/
def restoreIdentityState (a : Account ε ι) (st : PersistedIdentityState κ) (now : Time)
    (first : String) : Except ServiceError (Account ε ι) :=
  if st.version ≠ 1 ∨ st.signingPrivateKey = [] then .error .payloadInvalid
  else
    match a.identity.restoreIdentityPrivateKey L.primitives L.keyGen st.signingPrivateKey now with
    | .error e => .error (.identity e)
    | .ok identity =>
      match a.seeds.restoreEnvelopeJSON L.seedCrypto st.seedEnvelope with
      | none => .error .seedEnvelope
      | some seeds =>
        match identity.restoreRuntimeStateJSON K.runtime st.runtimeState first with
        | none => .error .runtimeState
        | some identity => .ok { a with identity := identity, seeds := seeds }

/-- `Bootstrap`, on a manager that was just made. -/
def bootstrap (svc : Service ε ι φ) (now : Time) (first : String) (written : Bool) :
    Except ServiceError (Service ε ι φ) :=
  if ¬ svc.state.Configured then .ok svc
  else
    match svc.state.file with
    | none => svc.persist L K written
    | some raw =>
      match K.decode svc.state.secret raw with
      | none => .error .unreadable
      | some st =>
        match restoreIdentityState L K svc.account st now first with
        | .error e => .error e
        | .ok account => .ok { svc with account := account }

/-- The service starts again: `NewManager` with the key it generates, then `Bootstrap`. -/
def restart (svc : Service ε ι φ) (priv : Bytes) (now : Time) (first : String) (written : Bool) :
    Except ServiceError (Service ε ι φ) :=
  match Manager.newIdentityManager L.primitives L.keyGen priv now with
  | .error e => .error (.identity e)
  | .ok identity =>
    bootstrap L K { svc with account := { svc.account with identity := identity, seeds := .new } }
      now first written

end Service

/-! ## Operations that are saved -/

/-- An operation of the identity manager that fails or gives the next manager. -/
def Account.identityCall (a : Account ε ι) (result : Except IdentityError Manager) :
    Except ServiceError Unit × Account ε ι :=
  match result with
  | .error e => (.error (.identity e), a)
  | .ok identity => (.ok (), { a with identity := identity })

/-- The operations of the service that end with `Persist`. -/
inductive Operation where
  | createIdentity (mnemonic rand : Bytes) (seedPassword : String) (now : Time)
  | importIdentity (mnemonic rand : Bytes) (seedPassword : String) (now : Time)
  | addContactCard (card : ContactCard) (now : Time)
  | addContact (contactID displayName : String) (now : Time)
  | removeContact (contactID : String)
  | addDevice (name : String) (now : Time)
  | restoreBackup (conditions : Conditions) (consentToken password blob : String)

namespace Operation

/-- `ImportIdentity`, for a mnemonic that has been trimmed. The public key of a derived key has
the right size, so that once the seed is in, nothing fails any more. -/
def importSeed (a : Account ε ι) (mnemonic rand : Bytes) (seedPassword : String) (now : Time) :
    Except ServiceError Unit × Account ε ι :=
  match a.seeds.importSeed L.seedCrypto mnemonic rand (trimSpace seedPassword) with
  | .error e => (.error (.seed e), a)
  | .ok seeds =>
    let priv := newKeyFromSeed L.keyGen (L.keyGen.signingSeed mnemonic)
    let a := { a with seeds := seeds }
    match buildIdentityID L.primitives (publicHalf priv) with
    | .error e => (.error (.identity e), a)
    | .ok id =>
      (.ok (), { a with identity :=
        a.identity.startOver L.primitives L.keyGen id priv now })

def perform (a : Account ε ι) : Operation → Except ServiceError Unit × Account ε ι
  | .createIdentity mnemonic rand seedPassword now =>
    if trimSpace seedPassword = "" then (.error (.seed .passwordRequired), a)
    else importSeed L a mnemonic rand seedPassword now
  | .importIdentity mnemonic rand seedPassword now =>
    importSeed L a (trimSpaceBytes mnemonic) rand seedPassword now
  | .addContactCard card now => a.identityCall (a.identity.addContact L.primitives card now)
  | .addContact contactID displayName now =>
    a.identityCall (a.identity.addContactByIdentityID contactID displayName now)
  | .removeContact contactID => a.identityCall (a.identity.removeContact contactID)
  | .addDevice name now =>
    (.ok (), { a with identity := a.identity.addDevice L.primitives L.keyGen name now })
  | .restoreBackup conditions consentToken password blob =>
    match Identity.restoreBackup ⟨L, conditions⟩ a consentToken password blob with
    | (.error e, a) => (.error (.backup e), a)
    | (.ok _, a) => (.ok (), a)

end Operation

/-! ## Runs -/

inductive InboundIdentityCall where
  | addContactByIdentityID (contactID displayName : String) (now : Time)
  | validateInboundContactTrust (senderID : String) (wire : WirePayload) (now : Time)
  | applyDeviceRevocation (senderID : String) (rev : DeviceRevocation)

def InboundIdentityCall.apply (P : Primitives) (m : Manager) : InboundIdentityCall → Manager
  | .addContactByIdentityID contactID displayName now =>
    (m.addContactByIdentityID contactID displayName now).toOption.getD m
  | .validateInboundContactTrust senderID wire now =>
    (Messaging.validateInboundContactTrust P m senderID wire now).2
  | .applyDeviceRevocation senderID rev =>
    (m.applyDeviceRevocation P senderID rev).toOption.getD m

inductive Step (ι : Type) where
  /-- An operation, and `Persist` if it succeeds. -/
  | operation (op : Operation) (written : Bool)
  | changePassword (oldSeedPassword newSeedPassword : String) (rand : Bytes) (now : Time)
  /-- `ExportSeed`, and `Login` once it has the right identity. -/
  | exportSeed (seedPassword : String) (now : Time)
  | revokeDevice (deviceID : String) (now : Time)
  | inbound (call : InboundIdentityCall)
  /-- The rest of the service has changed the stores. -/
  | stores (messages : MessageStore) (sessions : FileSessionStore SkippedKeys ι)
  | restart (priv : Bytes) (now : Time) (first : String) (written : Bool)

namespace Service

variable {L K}

def withIdentity (svc : Service ε ι φ) (m : Manager) : Service ε ι φ :=
  { svc with account := { svc.account with identity := m } }

variable (L K)

def perform (svc : Service ε ι φ) (op : Operation) (written : Bool) : Service ε ι φ :=
  match op.perform L svc.account with
  | (.error _, a) => { svc with account := a }
  | (.ok (), a) =>
    (({ svc with account := a } : Service ε ι φ).persist L K written).toOption.getD
      { svc with account := a }

def step (svc : Service ε ι φ) : Step ι → Service ε ι φ
  | .operation op written => svc.perform L K op written
  | .changePassword oldSeedPassword newSeedPassword rand now =>
    { svc with account := { svc.account with
      seeds := (svc.account.seeds.changePassword L.seedCrypto oldSeedPassword newSeedPassword
        rand now).2 } }
  | .exportSeed seedPassword now =>
    { svc with account := { svc.account with
      seeds := (svc.account.seeds.exportSeed L.seedCrypto (trimSpace seedPassword) now).2 } }
  | .revokeDevice deviceID now =>
    match svc.account.identity.revokeDevice L.primitives (trimSpace deviceID) now with
    | .error _ => svc
    | .ok (_, m) => svc.withIdentity m
  | .inbound call => svc.withIdentity (call.apply L.primitives svc.account.identity)
  | .stores messages sessions =>
    { svc with account := { svc.account with messages := messages, sessions := sessions } }
  | .restart priv now first written => (svc.restart L K priv now first written).toOption.getD svc

end Service

end

/-! ## What every manager is like -/

section

variable {P : Primitives} {G : KeyGen} {V : String → Prop} {m : Manager}

/-- The key belongs to the identity; contacts are filed under their ids, which satisfy `V`; and
devices under theirs, with private keys. -/
structure Kept (P : Primitives) (V : String → Prop) (m : Manager) : Prop where
  key : m.selfPriv.length = privateKeySize
  identityID : buildIdentityID P (publicHalf m.selfPriv) = .ok m.identityID
  contacts : ∀ (id : String) (c : Contact), m.contacts[id]? = some c → c.id = id ∧ V id
  devices : ∀ (id : String) (d : DevicePrivate), m.devices[id]? = some d →
    d.model.id = id ∧ id ≠ "" ∧ d.priv.length = privateKeySize

theorem Kept.filed (h : Kept P V m) : m.Filed := fun id c hc => (h.contacts id c hc).1

theorem deviceIDFromPub_ne_empty (pub : Bytes) : deviceIDFromPub P pub ≠ "" := by
  simp [deviceIDFromPub]

theorem buildIdentityID_of_length {pub : Bytes} (h : pub.length = publicKeySize) :
    ∃ id, buildIdentityID P pub = .ok id := by
  simp_all [buildIdentityID]

theorem publicHalf_length {priv : Bytes} (h : priv.length = privateKeySize) :
    (publicHalf priv).length = publicKeySize := by
  rw [publicHalf, List.length_drop, h]
  rfl

theorem length_of_identityID {priv : Bytes} {id : String}
    (h : buildIdentityID P (publicHalf priv) = .ok id) : priv.length = privateKeySize := by
  grind [buildIdentityID, publicHalf, publicKeySize, privateKeySize]

theorem kept_startOver (m : Manager) {id : String} {priv : Bytes} (now : Time)
    (hlen : priv.length = privateKeySize) (hid : buildIdentityID P (publicHalf priv) = .ok id) :
    Kept P V (m.startOver P G id priv now) := by
  have hseed : (priv.take 32).length = 32 := by
    rw [List.length_take, hlen]
    rfl
  refine ⟨hlen, hid, fun id c hc => absurd hc (by simp [Manager.startOver,
    Manager.initPrimaryDevice]), fun id d hd => ?_⟩
  simp only [Manager.startOver, Manager.initPrimaryDevice, get_insert] at hd
  split at hd
  · rename_i hid
    obtain rfl := Option.some.inj hd
    exact ⟨hid, hid ▸ deviceIDFromPub_ne_empty _, newKeyFromSeed_length hseed⟩
  · exact absurd hd (by simp)

theorem Kept.putContact (h : Kept P V m) {contact : Contact} (hV : V contact.id) :
    Kept P V (m.putContact contact) := by
  refine ⟨h.key, h.identityID, fun id c hc => ?_, h.devices⟩
  simp only [Manager.putContact, get_insert] at hc
  split at hc
  · rename_i hid
    obtain rfl := Option.some.inj hc
    exact ⟨hid, hid ▸ hV⟩
  · exact h.contacts id c hc

theorem Kept.eraseContact (h : Kept P V m) (contactID : String) :
    Kept P V { m with contacts := m.contacts.erase contactID } := by
  refine ⟨h.key, h.identityID, fun id c hc => ?_, h.devices⟩
  simp only [get_erase] at hc
  split at hc
  · exact absurd hc (by simp)
  · exact h.contacts id c hc

theorem Kept.putDevice (h : Kept P V m) {d : DevicePrivate} (hid : d.model.id ≠ "")
    (hpriv : d.priv.length = privateKeySize) : Kept P V (m.putDevice d) := by
  refine ⟨h.key, h.identityID, h.contacts, fun id d' hd => ?_⟩
  simp only [Manager.putDevice, get_insert] at hd
  split at hd
  · rename_i hsame
    obtain rfl := Option.some.inj hd
    exact ⟨hsame, hsame ▸ hid, hpriv⟩
  · exact h.devices id d' hd

theorem Manager.revokeDevice_ok {m' : Manager} {deviceID : String} {now : Time}
    {rev : DeviceRevocation} (h : m.revokeDevice P deviceID now = .ok (rev, m')) :
    ∃ d, m.devices[deviceID]? = some d ∧ ((d.model.isRevoked = true ∧ m' = m) ∨
      (d.model.isRevoked = false ∧ m' = { m with devices := (m.devices.insert deviceID
        { d with model := { d.model with isRevoked := true, revokedAt := now } }) })) := by
  grind [Manager.revokeDevice]

theorem Kept.revokeDevice (h : Kept P V m) {m' : Manager} {deviceID : String} {now : Time}
    {rev : DeviceRevocation} (hrev : m.revokeDevice P deviceID now = .ok (rev, m')) :
    Kept P V m' := by
  obtain ⟨d, hd, ⟨-, rfl⟩ | ⟨-, rfl⟩⟩ := Manager.revokeDevice_ok hrev
  · exact h
  · obtain ⟨hid, hne, hpriv⟩ := h.devices deviceID d hd
    refine ⟨h.key, h.identityID, h.contacts, fun id d' hd' => ?_⟩
    simp only [get_insert] at hd'
    split at hd'
    · rename_i hsame
      obtain rfl := Option.some.inj hd'
      subst hsame
      exact ⟨hid, hne, hpriv⟩
    · exact h.devices id d' hd'

theorem Kept.restoreRuntimeState (h : Kept P V m) {state : RuntimeState} (first : String)
    (hV : ∀ c ∈ state.contacts, V c.id) : Kept P V (m.restoreRuntimeState state first) := by
  refine ⟨h.key, h.identityID, ?_, ?_⟩
  · refine List.foldlRecOn (motive := fun contacts : GoMap String Contact =>
      ∀ (id : String) (c : Contact), contacts[id]? = some c → c.id = id ∧ V id)
      state.contacts _ (fun id c hc => absurd hc (by simp)) ?_
    grind
  · refine List.foldlRecOn (motive := fun devices : GoMap String DevicePrivate =>
      ∀ (id : String) (d : DevicePrivate), devices[id]? = some d →
        d.model.id = id ∧ id ≠ "" ∧ d.priv.length = privateKeySize)
      state.devices _ (fun id d hd => absurd hd (by simp)) ?_
    intro devices ih d _ id d' hget
    split at hget
    · exact ih id d' hget
    · rename_i hgood
      rw [not_or, not_not] at hgood
      rw [get_insert] at hget
      split at hget
      · rename_i hid
        obtain rfl := Option.some.inj hget
        exact ⟨hid, hid ▸ hgood.1, hgood.2⟩
      · exact ih id d' hget

/-! ## What can happen to a manager -/

/-- The ids that contacts can have: those of identities and those the user may enter. -/
def ContactID (P : Primitives) (id : String) : Prop :=
  (∃ pub, buildIdentityID P pub = .ok id) ∨ ∃ raw, Manager.ValidContactID raw ∧ id = trimSpace raw

/-- What changes a manager, short of reading its state back; `R` are the ids of the devices that
contacts may revoke. -/
inductive Move (P : Primitives) (G : KeyGen) (R : String → Prop) : Manager → Manager → Prop where
  | contact {m : Manager} (c : Contact) (hid : ContactID P c.id) : Move P G R m (m.putContact c)
  | removal {m : Manager} (id : String) :
      Move P G R m { m with contacts := m.contacts.erase id }
  | key {m : Manager} {id : String} {priv : Bytes} (now : Time)
      (hlen : priv.length = privateKeySize)
      (hid : buildIdentityID P (publicHalf priv) = .ok id) :
      Move P G R m (m.startOver P G id priv now)
  | device {m : Manager} (d : DevicePrivate) (hid : d.model.id ≠ "")
      (hpriv : d.priv.length = privateKeySize) : Move P G R m (m.putDevice d)
  | revocation {m m' : Manager} {deviceID : String} {now : Time} {rev : DeviceRevocation}
      (h : m.revokeDevice P deviceID now = .ok (rev, m')) : Move P G R m m'
  | contactRevocation {m : Manager} (contactID deviceID : String) (h : R deviceID) :
      Move P G R m (m.recordRevoked contactID deviceID)

abbrev Moves (P : Primitives) (G : KeyGen) (R : String → Prop) : Manager → Manager → Prop :=
  Relation.ReflTransGen (Move P G R)

variable {R : String → Prop} {m' : Manager}

theorem Kept.move (hV : ∀ id, ContactID P id → V id) (h : Kept P V m) (hmove : Move P G R m m') :
    Kept P V m' := by
  cases hmove with
  | contact c hid => exact h.putContact (hV c.id hid)
  | removal id => exact h.eraseContact id
  | key now hlen hid => exact kept_startOver m now hlen hid
  | device d hid hpriv => exact h.putDevice hid hpriv
  | revocation hrevoke => exact h.revokeDevice hrevoke
  | contactRevocation contactID deviceID _ => exact ⟨h.key, h.identityID, h.contacts, h.devices⟩

theorem Kept.moves (hV : ∀ id, ContactID P id → V id) (h : Kept P V m)
    (hmoves : Moves P G R m m') : Kept P V m' := by
  induction hmoves with
  | refl => exact h
  | tail _ hmove ih => exact ih.move hV hmove

theorem move_addContact {card : ContactCard} {now : Time}
    (h : m.addContact P card now = .ok m') : Move P G R m m' := by
  obtain ⟨hcard, -, rfl⟩ := Manager.addContact_ok h
  exact .contact _ (.inl ⟨_, (Manager.verifyContactCard_true hcard).2.1⟩)

theorem move_addContactByIdentityID {contactID displayName : String} {now : Time}
    (h : m.addContactByIdentityID contactID displayName now = .ok m') : Move P G R m m' := by
  obtain ⟨hvalid, rfl⟩ := Manager.addContactByIdentityID_ok_iff.mp h
  exact .contact _ (.inr ⟨contactID, hvalid, rfl⟩)

def InboundIdentityCall.Revokes (deviceID : String) : InboundIdentityCall → Prop
  | .applyDeviceRevocation _ rev => rev.deviceID = deviceID
  | _ => False

theorem moves_inbound (m : Manager) (call : InboundIdentityCall) :
    Moves P G (fun d => call.Revokes d) m (call.apply P m) := by
  cases call with
  | addContactByIdentityID contactID displayName now =>
    show Moves P G _ m ((m.addContactByIdentityID contactID displayName now).toOption.getD m)
    cases hadd : m.addContactByIdentityID contactID displayName now with
    | error e => exact .refl
    | ok m' => exact .single (move_addContactByIdentityID hadd)
  | validateInboundContactTrust senderID wire now =>
    show Moves P G _ m (Messaging.validateInboundContactTrust P m senderID wire now).2
    grind [Messaging.validateInboundContactTrust_manager, move_addContact]
  | applyDeviceRevocation senderID rev =>
    show Moves P G _ m ((m.applyDeviceRevocation P senderID rev).toOption.getD m)
    cases happly : m.applyDeviceRevocation P senderID rev with
    | error e => exact .refl
    | ok m' =>
      rcases Manager.applyDeviceRevocation_ok happly with ⟨-, rfl⟩ | rfl
      · exact .refl
      · exact .single (.contactRevocation senderID rev.deviceID rfl)

end

open Manager

/-! ## Inbound messages

Whatever a message holds, handling it changes the manager by a sequence of these calls. -/

section

open Messaging (Daemon InboundOp InboundPrivateMessage Surroundings)

variable {γ : Type}

theorem identityCall_identity (d : Daemon γ) (result : Except IdentityError Manager) :
    (d.identityCall result).2.identity = result.toOption.getD d.identity := by
  cases result with
  | error e => rfl
  | ok m => rfl

theorem answer_identity (S : Surroundings γ) (op : InboundOp) (d : Daemon γ) :
    ∃ calls, (Daemon.answer S op d).2.identity =
      run (InboundIdentityCall.apply S.primitives) d.identity calls := by
  by_cases hop : op.changesIdentity = false
  · exact ⟨[], (Daemon.answer_frame S hop d).1⟩
  · cases op with
    | addContactByIdentityID contactID displayName =>
      refine ⟨[.addContactByIdentityID contactID displayName S.now], ?_⟩
      simp only [Daemon.answer, run_cons, run_nil, InboundIdentityCall.apply]
      exact identityCall_identity d _
    | validateInboundContactTrust senderID wire =>
      exact ⟨[.validateInboundContactTrust senderID wire S.now], rfl⟩
    | applyDeviceRevocation senderID rev =>
      refine ⟨[.applyDeviceRevocation senderID rev], ?_⟩
      simp only [Daemon.answer, run_cons, run_nil, InboundIdentityCall.apply]
      exact identityCall_identity d _
    | _ => exact absurd rfl hop

theorem handleIncomingPrivateMessage_identity (S : Surroundings γ) (d : Daemon γ)
    (msg : InboundPrivateMessage) :
    ∃ calls, (d.handleIncomingPrivateMessage S msg).identity =
      run (InboundIdentityCall.apply S.primitives) d.identity calls := by
  unfold Daemon.handleIncomingPrivateMessage
  -- whatever the program is: each of its calls is answered by a run
  generalize Messaging.handleIncomingPrivateMessage S.json msg = program
  refine Calls.exec_keeps (Q := fun d' : Daemon γ => ∃ calls, d'.identity =
    run (InboundIdentityCall.apply S.primitives) d.identity calls)
    (fun op _ d' hd' => ?_) (Calls.only_of_forall (fun _ => trivial) program) ⟨[], rfl⟩
  obtain ⟨calls, hcalls⟩ := hd'
  obtain ⟨more, hmore⟩ := answer_identity S op d'
  exact ⟨calls ++ more, by rw [hmore, hcalls, run_append]⟩

end

/-! ## What an operation can do -/

open Account

section

variable {ε ι κ φ : Type} {L : Libraries ε ι} {K : StateCodec κ φ} {V R : String → Prop}
  {a : Account ε ι}

/-- The account's manager has come from `m` by moves. -/
def ComesFrom (L : Libraries ε ι) (R : String → Prop) (m : Manager) (a : Account ε ι) : Prop :=
  Moves L.primitives L.keyGen R m a.identity

theorem keeps_comesFrom {m : Manager} {f : Account ε ι → Except BackupError (Account ε ι)}
    (hf : ∀ a a', f a = .ok a' → Moves L.primitives L.keyGen R a.identity a'.identity) :
    Keeps (ComesFrom L R m) (Procedure.attempt f) :=
  keeps_attempt fun a a' ha hok => ha.trans (hf a a' hok)

theorem comesFrom_applyBackup (m : Manager) (conditions : Conditions) (payload : BackupPayload) :
    Keeps (ComesFrom L R m) (applyBackup ⟨L, conditions⟩ payload) := by
  refine keeps_bind (keeps_bind (keeps_change fun a ha => ha)
    fun _ => keeps_bind (keeps_change fun a ha => ha) fun _ =>
      keeps_bind (keeps_comesFrom fun a a' hok => ?_) fun _ =>
        keeps_bind (keeps_comesFrom fun a a' hok => ?_) fun _ =>
          keeps_bind (keeps_comesFrom fun a a' hok => ?_) fun _ =>
            keeps_forM fun contact _ => keeps_comesFrom fun a a' hok => ?_) fun _ =>
    keeps_bind (keeps_forM fun e _ => keeps_comesFrom fun a a' hok => ?_)
      fun _ => keeps_bind (keeps_forM fun e _ =>
        keeps_comesFrom fun a a' hok => ?_) fun _ =>
          keeps_forM fun e _ => keeps_comesFrom fun a a' hok => ?_
  · obtain ⟨hlen, id, hid, rfl⟩ := restoreKey_ok.mp hok
    exact .single (.key _ hlen hid)
  · obtain ⟨seeds, -, rfl⟩ := restoreSeed_ok.mp hok
    exact .refl
  · obtain ⟨-, rfl⟩ := checkIdentity_ok.mp hok
    exact .refl
  · obtain ⟨hvalid, rfl⟩ := restoreContact_ok.mp hok
    exact .single (.contact _ (.inr ⟨contact.id, hvalid, rfl⟩))
  · obtain ⟨messages, -, rfl⟩ := restoreMessage_ok.mp hok
    exact .refl
  · obtain ⟨-, rfl⟩ := restorePending_ok.mp hok
    exact .refl
  · obtain ⟨sessions, -, rfl⟩ := restoreSession_saved hok
    exact .refl

theorem comesFrom_restoreBackup (a : Account ε ι) (conditions : Conditions)
    (consentToken password blob : String) : ComesFrom L R a.identity
      (restoreBackup ⟨L, conditions⟩ a consentToken password blob).2 := by
  cases hopen : openBackup ⟨L, conditions⟩ consentToken password blob with
  | error e =>
    rw [restoreBackup_of_refused hopen]
    exact .refl
  | ok payload =>
    rw [(restoreBackup_of_opened hopen).2]
    exact comesFrom_applyBackup a.identity conditions payload a .refl

theorem comesFrom_importSeed (a : Account ε ι) (mnemonic rand : Bytes) (seedPassword : String)
    (now : Time) :
    ComesFrom L R a.identity (Operation.importSeed L a mnemonic rand seedPassword now).2 := by
  unfold Operation.importSeed
  split
  · exact .refl
  · dsimp only
    split
    · exact .refl
    · rename_i id hid
      exact .single (.key now (newKeyFromSeed_length (L.keyGen.signingSeed_length _)) hid)

theorem comesFrom_identityCall {result : Except IdentityError Manager}
    (h : ∀ m, result = .ok m → Move L.primitives L.keyGen R a.identity m) :
    ComesFrom L R a.identity (a.identityCall result).2 := by
  cases result with
  | error e => exact .refl
  | ok m => exact .single (h m rfl)

theorem comesFrom_perform (a : Account ε ι) (op : Operation) :
    ComesFrom L R a.identity (op.perform L a).2 := by
  cases op with
  | createIdentity mnemonic rand seedPassword now =>
    unfold Operation.perform
    dsimp only
    split
    · exact .refl
    · exact comesFrom_importSeed a _ _ _ _
  | importIdentity mnemonic rand seedPassword now => exact comesFrom_importSeed a _ _ _ _
  | addContactCard card now => exact comesFrom_identityCall fun m hm => move_addContact hm
  | addContact contactID displayName now =>
    exact comesFrom_identityCall fun m hm => move_addContactByIdentityID hm
  | removeContact contactID =>
    refine comesFrom_identityCall fun m hm => ?_
    rw [removeContact_ok hm]
    exact .removal _
  | addDevice name now =>
    exact .single (.device _ (deviceIDFromPub_ne_empty _)
      (newKeyFromSeed_length (L.keyGen.deriveDeviceSeed_length _ _)))
  | restoreBackup conditions consentToken password blob =>
    grind [comesFrom_restoreBackup, Operation.perform]

/-! ### Reading the file -/

/-- The contacts that the file would bring back have ids that satisfy `V`. -/
def FileValid (K : StateCodec κ φ) (V : String → Prop) (s : StateStore φ) : Prop :=
  ∀ st text rs, s.contents K = some st → st.runtimeState = some text →
    K.runtime.unmarshal text = some rs → ∀ c ∈ rs.contacts, V c.id

theorem fileValid_true (K : StateCodec κ φ) (s : StateStore φ) : FileValid K (fun _ => True) s :=
  fun _ _ _ _ _ _ _ _ => trivial

def Account.fromFile (L : Libraries ε ι) (a : Account ε ι) (priv : Bytes) (id : String)
    (seeds : SeedManager ε) (runtime : Option RuntimeState) (now : Time) (first : String) :
    Account ε ι :=
  let m := a.identity.startOver L.primitives L.keyGen id priv now
  { a with
    identity := runtime.elim m fun rs => m.restoreRuntimeState rs first
    seeds := seeds }

def Step.Revokes (deviceID : String) : Step ι → Prop
  | .inbound call => call.Revokes deviceID
  | _ => False

namespace Service

variable {svc svc' : Service ε ι φ}

def saved (L : Libraries ε ι) (K : StateCodec κ φ) (svc : Service ε ι φ) : Service ε ι φ :=
  { svc with state := { svc.state with
    file := some (K.encode svc.state.secret (persistedIdentityState L K svc.account)) } }

variable {written : Bool}

theorem persist_ok : svc.persist L K written = .ok svc' ↔ (¬ svc.state.Configured ∧ svc' = svc) ∨
        (svc.state.Configured ∧ written = true ∧ svc' = svc.saved L K) := by
  unfold persist
  by_cases hconf : svc.state.Configured
  · cases written with
    | false => simp [hconf]
    | true =>
      simp only [hconf, not_true_eq_false, if_false, Bool.true_eq_false, Except.ok.injEq,
        false_and, true_and, false_or]
      exact eq_comm
  · grind

/-- The service just made, with this key, before `Bootstrap`. -/
def fresh (L : Libraries ε ι) (svc : Service ε ι φ) (id : String) (priv : Bytes) (now : Time) :
    Service ε ι φ :=
  { svc with account := { svc.account with
    identity := svc.account.identity.startOver L.primitives L.keyGen id priv now
    seeds := .new } }

def fromFile (L : Libraries ε ι) (svc : Service ε ι φ) (st : PersistedIdentityState κ)
    (id : String) (seeds : SeedManager ε) (runtime : Option RuntimeState) (now : Time)
    (first : String) : Service ε ι φ :=
  { svc with account := svc.account.fromFile L st.signingPrivateKey id seeds runtime now first }

/-- What a file has to be for `Bootstrap` to read it: the id, the seed and the runtime state. -/
structure Reads (L : Libraries ε ι) (K : StateCodec κ φ) (st : PersistedIdentityState κ)
    (id : String) (seeds : SeedManager ε) (runtime : Option RuntimeState) : Prop where
  version : st.version = 1
  key : st.signingPrivateKey.length = privateKeySize
  identityID : buildIdentityID L.primitives (publicHalf st.signingPrivateKey) = .ok id
  seeds : (SeedManager.new : SeedManager ε).restoreEnvelopeJSON L.seedCrypto st.seedEnvelope
    = some seeds
  runtime : (st.runtimeState = none ∧ runtime = none) ∨
    ∃ text rs, st.runtimeState = some text ∧ K.runtime.unmarshal text = some rs ∧
      runtime = some rs

variable {first : String}

theorem restoreRuntimeStateJSON_ok {m m' : Manager} {codec : RuntimeCodec κ} {raw : Option κ} :
    m.restoreRuntimeStateJSON codec raw first = some m' ↔
      (raw = none ∧ m' = m) ∨ ∃ text rs, raw = some text ∧ codec.unmarshal text = some rs ∧
        m' = m.restoreRuntimeState rs first := by
  unfold restoreRuntimeStateJSON
  cases raw with
  | none => simp [eq_comm]
  | some text => simp [eq_comm]

theorem restoreIdentityState_ok {a a' : Account ε ι} {st : PersistedIdentityState κ} {now : Time}
    (ha : a.seeds = .new) : restoreIdentityState L K a st now first = .ok a' ↔
      ∃ id seeds runtime, Reads L K st id seeds runtime ∧
        a' = a.fromFile L st.signingPrivateKey id seeds runtime now first := by
  unfold restoreIdentityState
  constructor
  · intro h
    split at h
    · exact absurd h (by simp)
    · rename_i hhead
      rw [not_or, not_not] at hhead
      split at h
      · exact absurd h (by simp)
      · rename_i m hkey
        obtain ⟨hlen, id, hid, rfl⟩ := restoreIdentityPrivateKey_ok.mp hkey
        split at h
        · exact absurd h (by simp)
        · rename_i seeds hseeds
          rw [ha] at hseeds
          split at h
          · exact absurd h (by simp)
          · rename_i m' hruntime
            obtain rfl := Except.ok.inj h
            rcases restoreRuntimeStateJSON_ok.mp hruntime with
              ⟨hnone, rfl⟩ | ⟨text, rs, htext, hrs, rfl⟩
            · exact ⟨id, seeds, none, ⟨hhead.1, hlen, hid, hseeds, .inl ⟨hnone, rfl⟩⟩, rfl⟩
            · exact ⟨id, seeds, some rs,
                ⟨hhead.1, hlen, hid, hseeds, .inr ⟨text, rs, htext, hrs, rfl⟩⟩, rfl⟩
  · rintro ⟨id, seeds, runtime, hreads, rfl⟩
    have hne : st.signingPrivateKey ≠ [] := by
      grind [cases Reads, privateKeySize]
    rw [if_neg (by simp [hreads.version, hne]),
      restoreIdentityPrivateKey_ok.mpr ⟨hreads.key, id, hreads.identityID, rfl⟩, ha]
    rw [hreads.seeds]
    dsimp only
    rcases hreads.runtime with ⟨hnone, rfl⟩ | ⟨text, rs, htext, hrs, rfl⟩
    · rw [restoreRuntimeStateJSON_ok.mpr (.inl ⟨hnone, rfl⟩)]
      rfl
    · rw [restoreRuntimeStateJSON_ok.mpr (.inr ⟨text, rs, htext, hrs, rfl⟩)]
      rfl

theorem bootstrap_ok {now : Time} (hnew : svc.account.seeds = .new) :
    svc.bootstrap L K now first written = .ok svc' ↔ (¬ svc.state.Configured ∧ svc' = svc) ∨
        (svc.state.Configured ∧ svc.state.file = none ∧ written = true ∧ svc' = svc.saved L K) ∨
        (svc.state.Configured ∧ ∃ st id seeds runtime, svc.state.contents K = some st ∧
          Reads L K st id seeds runtime ∧ svc' = svc.fromFile L st id seeds runtime now first) := by
  unfold bootstrap StateStore.contents
  by_cases hconf : svc.state.Configured
  · rw [if_neg (not_not.mpr hconf)]
    cases hfile : svc.state.file with
    | none => simp [persist_ok, hconf]
    | some raw =>
      cases hdecode : K.decode svc.state.secret raw with
      | none => simp [hdecode, hconf]
      | some st =>
        simp only [hconf, not_true_eq_false, false_and, true_and, reduceCtorEq, false_or,
          Option.bind_some, hdecode, Option.some.injEq]
        constructor
        · intro h
          split at h
          · exact absurd h (by simp)
          · rename_i a' ha'
            obtain ⟨id, seeds, runtime, hreads, rfl⟩ := (restoreIdentityState_ok hnew).mp ha'
            exact ⟨st, id, seeds, runtime, rfl, hreads, (Except.ok.inj h).symm⟩
        · rintro ⟨_, id, seeds, runtime, rfl, hreads, rfl⟩
          rw [(restoreIdentityState_ok hnew).mpr ⟨id, seeds, runtime, hreads, rfl⟩]
          rfl
  · grind

theorem restart_ok {priv : Bytes} {now : Time} : svc.restart L K priv now first written = .ok svc' ↔
      ∃ id, buildIdentityID L.primitives (publicHalf priv) = .ok id ∧
        ((¬ svc.state.Configured ∧ svc' = svc.fresh L id priv now) ∨
          (svc.state.Configured ∧ svc.state.file = none ∧ written = true ∧
            svc' = (svc.fresh L id priv now).saved L K) ∨
          (svc.state.Configured ∧ ∃ st id' seeds runtime, svc.state.contents K = some st ∧
            Reads L K st id' seeds runtime ∧
            svc' = svc.fromFile L st id' seeds runtime now first)) := by
  unfold restart newIdentityManager
  cases hid : buildIdentityID L.primitives (publicHalf priv) with
  | error e => simp [bind, Except.bind]
  | ok id =>
    simp only [Except.ok.injEq, exists_eq_left']
    -- a new manager has nothing of the one before
    have hnew : (svc.fresh L id priv now).account.seeds = .new := rfl
    exact bootstrap_ok hnew

theorem Reads.kept {st : PersistedIdentityState κ} {id : String} {seeds : SeedManager ε}
    {runtime : Option RuntimeState} (h : Reads L K st id seeds runtime) (now : Time)
    (first : String) (hV : ∀ rs, runtime = some rs → ∀ c ∈ rs.contacts, V c.id) :
    Identity.Kept L.primitives V
      (svc.fromFile L st id seeds runtime now first).account.identity := by
  have hstart : Identity.Kept L.primitives V (svc.account.identity.startOver L.primitives L.keyGen
      id st.signingPrivateKey now) := kept_startOver _ _ h.key h.identityID
  cases runtime with
  | none => exact hstart
  | some rs => exact hstart.restoreRuntimeState first (hV rs rfl)

structure Kept (L : Libraries ε ι) (K : StateCodec κ φ) (V : String → Prop)
    (svc : Service ε ι φ) : Prop where
  identity : Identity.Kept L.primitives V svc.account.identity
  file : FileValid K V svc.state

theorem contents_saved (svc : Service ε ι φ) :
    (svc.saved L K).state.contents K = some (persistedIdentityState L K svc.account) :=
  K.decode_encode svc.state.secret _

theorem Kept.saved (h : Identity.Kept L.primitives V svc.account.identity) :
    Kept L K V (svc.saved L K) := by
  refine ⟨h, fun st text rs hst htext hrs c hc => ?_⟩
  rw [contents_saved] at hst
  obtain rfl := Option.some.inj hst
  obtain rfl := Option.some.inj htext
  rw [K.runtime.unmarshal_marshal] at hrs
  obtain rfl := Option.some.inj hrs
  -- the contacts in the file are those of the manager
  obtain ⟨⟨id, c'⟩, hmem, rfl⟩ := List.mem_map.mp hc
  obtain ⟨hfiled, hV⟩ := h.contacts id c' (Std.ExtTreeMap.mem_toList_iff_getElem?_eq_some.mp hmem)
  exact hfiled ▸ hV

theorem kept_restart (hfile : FileValid K V svc.state) {priv : Bytes} {now : Time}
    (hrestart : svc.restart L K priv now first written = .ok svc') : Kept L K V svc' := by
  obtain ⟨id, hid, hcase⟩ := restart_ok.mp hrestart
  have hlen : priv.length = privateKeySize := length_of_identityID hid
  have hfresh : Identity.Kept L.primitives V (svc.fresh L id priv now).account.identity :=
    kept_startOver _ _ hlen hid
  rcases hcase with ⟨-, rfl⟩ | ⟨-, -, -, rfl⟩ | ⟨-, st, id', seeds, runtime, hst, hreads, rfl⟩
  · exact ⟨hfresh, hfile⟩
  · exact Kept.saved hfresh
  · refine ⟨hreads.kept now first fun rs hrs => ?_, hfile⟩
    rcases hreads.runtime with ⟨-, hnone⟩ | ⟨text, rs', htext, hrs', hsome⟩
    · exact absurd (hrs.symm.trans hnone) (by simp)
    · obtain rfl := Option.some.inj (hrs.symm.trans hsome)
      exact hfile st text rs hst htext hrs'

/-- **What a step can do**, short of a restart: the manager moves, and then the file is left alone
or written anew. -/
theorem step_effect (svc : Service ε ι φ) (s : Step ι)
    (hs : ∀ priv now first written, s ≠ .restart priv now first written) :
    ∃ a, Moves L.primitives L.keyGen (fun d => s.Revokes d) svc.account.identity a.identity ∧
      (svc.step L K s = { svc with account := a } ∨
        svc.step L K s = ({ svc with account := a } : Service ε ι φ).saved L K) := by
  cases s with
  | operation op written =>
    have hcomes := comesFrom_perform (L := L) (R := fun _ => False) svc.account op
    refine ⟨_, hcomes, ?_⟩
    show svc.perform L K op written = _ ∨ svc.perform L K op written = _
    unfold Service.perform
    split
    · simp_all
    · rename_i a hperform
      rw [hperform]
      cases hpersist : ({ svc with account := a } : Service ε ι φ).persist L K written with
      | error e => exact .inl rfl
      | ok svc' =>
        rcases persist_ok.mp hpersist with ⟨-, rfl⟩ | ⟨-, -, rfl⟩
        · exact .inl rfl
        · exact .inr rfl
  | changePassword oldSeedPassword newSeedPassword rand now =>
    refine ⟨{ svc.account with seeds := (svc.account.seeds.changePassword L.seedCrypto
      oldSeedPassword newSeedPassword rand now).2 }, .refl, .inl rfl⟩
  | exportSeed seedPassword now =>
    refine ⟨{ svc.account with seeds := (svc.account.seeds.exportSeed L.seedCrypto
      (trimSpace seedPassword) now).2 }, .refl, .inl rfl⟩
  | revokeDevice deviceID now =>
    simp only [Service.step]
    split
    · exact ⟨svc.account, .refl, .inl rfl⟩
    · rename_i rev m hrevoke
      exact ⟨{ svc.account with identity := m }, .single (.revocation hrevoke), .inl rfl⟩
  | inbound call =>
    exact ⟨{ svc.account with identity := call.apply L.primitives svc.account.identity },
      moves_inbound svc.account.identity call, .inl rfl⟩
  | stores messages sessions =>
    exact ⟨{ svc.account with messages := messages, sessions := sessions }, .refl, .inl rfl⟩
  | restart priv now first written => exact absurd rfl (hs priv now first written)

theorem step_restart (svc : Service ε ι φ) (priv : Bytes) (now : Time) (first : String)
    (written : Bool) : svc.step L K (.restart priv now first written) = svc ∨
      svc.restart L K priv now first written
        = .ok (svc.step L K (.restart priv now first written)) := by
  simp only [Service.step]
  cases svc.restart L K priv now first written with
  | error e => exact .inl rfl
  | ok svc' => exact .inr rfl

theorem Kept.step (hV : ∀ id, ContactID L.primitives id → V id) (h : Kept L K V svc)
    (s : Step ι) : Kept L K V (svc.step L K s) := by
  by_cases hs : ∃ priv now first written, s = .restart priv now first written
  · grind [step_restart, kept_restart, cases Kept]
  · obtain ⟨a, hmoves, heffect⟩ := step_effect (L := L) (K := K) svc s
      fun priv now first written heq => hs ⟨priv, now, first, written, heq⟩
    have hkept := h.identity.moves hV hmoves
    rcases heffect with heq | heq
    · rw [heq]
      exact ⟨hkept, h.file⟩
    · rw [heq]
      exact Kept.saved hkept

/-- **Every run** keeps contacts and devices filed and the key with its identity. -/
theorem kept_run (hV : ∀ id, ContactID L.primitives id → V id) (h : Kept L K V svc)
    (steps : List (Step ι)) : Kept L K V (run (Service.step L K) svc steps) :=
  run_inv (fun _ s hs => hs.step hV s) h steps

end Service

end

end Ardents.Identity
