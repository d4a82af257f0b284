import Ardents.Go.Checks
import Ardents.Identity.Statements

/-!
# The identity manager

The part of `identity/domain.Manager` that decides whom to trust: the contacts with their pinned
keys, the device ids each contact has revoked, and the verification of a device that signs a
message. A contact added by its id alone has no key.
-/

namespace Ardents.Identity

open Go
open Crypto (Time hexEncode)

structure Contact where
  id : String
  displayName : String
  publicKey : Bytes
  addedAt : Time
  lastSeen : Time
  deriving DecidableEq, Repr

structure DevicePrivate where
  model : Device
  priv : Bytes
  deriving DecidableEq, Repr

structure Manager where
  identityID : String
  signingPublicKey : Bytes
  selfPriv : Bytes
  contacts : GoMap String Contact
  devices : GoMap String DevicePrivate
  activeDeviceID : String
  revokedDevices : GoMap String (GoMap String Unit)

/-! ## Contact cards -/

section

variable (P : Primitives)

def verifyIdentityID (identityID : String) (signingPublicKey : Bytes) :
    Except IdentityError Bool := do
  let expected ← buildIdentityID P signingPublicKey
  return decide (identityID = expected)

def verifyContactCard (card : ContactCard) : Except IdentityError Bool := do
  require (card.publicKey.length = publicKeySize ∧ card.signature.length = signatureSize)
    .invalidContactCard
  let ok ← verifyIdentityID P card.identityID card.publicKey
  require (ok = true) .identityMismatch
  return P.verify card.publicKey (contactCardSigningBytes card) card.signature

def deviceIDFromPub (pub : Bytes) : String := "dev1_" ++ hexEncode ((P.sha256 pub).take 8)

namespace Manager

/-! ## Contacts -/

variable (m : Manager)

def hasContact (contactID : String) : Bool := m.contacts.contains contactID

def hasVerifiedContact (contactID : String) : Bool :=
  match m.contacts[contactID]? with
  | none => false
  | some contact => contact.publicKey.length = publicKeySize

def contactPublicKey (contactID : String) : Option Bytes :=
  match m.contacts[contactID]? with
  | none => none
  | some contact =>
    if contact.publicKey.length = publicKeySize then some contact.publicKey else none

/-- `m.contacts[contact.ID] = contact`. -/
def putContact (contact : Contact) : Manager :=
  { m with contacts := m.contacts.insert contact.id contact }

def addContact (card : ContactCard) (now : Time) : Except IdentityError Manager := do
  let ok ← verifyContactCard P card
  require (ok = true) .invalidContactCard
  require (∀ key ∈ m.contactPublicKey card.identityID, key = card.publicKey) .contactKeyMismatch
  return m.putContact
    { id := card.identityID, displayName := card.displayName, publicKey := card.publicKey
      addedAt := now, lastSeen := 0 }

/-- The key of a verified contact is carried over; any other contact has none. -/
def addContactByIdentityID (contactID displayName : String) (now : Time) :
    Except IdentityError Manager :=
  let contactID := trimSpace contactID
  let displayName := trimSpace displayName
  if ¬ (bytesOf "aim1").isPrefixOf (bytesOf contactID) ∨ (bytesOf contactID).length < 12 then
    .error .invalidContactID
  else
    .ok (m.putContact
      { id := contactID, displayName := if displayName = "" then contactID else displayName
        publicKey := (m.contactPublicKey contactID).getD [], addedAt := now, lastSeen := 0 })

def removeContact (contactID : String) : Except IdentityError Manager :=
  let contactID := trimSpace contactID
  if contactID = "" then .error .invalidContactID
  else if m.contacts.contains contactID = false then .error .invalidContactID
  else .ok { m with contacts := m.contacts.erase contactID }

/-! ## Devices of contacts -/

def isRevoked (contactID deviceID : String) : Bool :=
  match m.revokedDevices[contactID]? with
  | none => false
  | some revokedSet => revokedSet.contains deviceID

/-- `m.revokedDevices[contactID][deviceID] = struct`. -/
def recordRevoked (contactID deviceID : String) : Manager :=
  let revokedSet := (m.revokedDevices[contactID]?).getD ∅
  { m with revokedDevices := m.revokedDevices.insert contactID (revokedSet.insert deviceID ()) }

/-- `VerifyInboundDevice`. `ed25519.Verify` panics on a key of the wrong size, which is `none`. -/
def verifyInboundDevice (contactID : String) (device : Device)
    (payload sig : Bytes) : Option (Except IdentityError Unit) :=
  match m.contacts[contactID]? with
  | none => some (.error .invalidContactCard)
  | some contact =>
    if contact.publicKey.length ≠ publicKeySize then some (.error .unverifiedContact)
    else if m.isRevoked contactID device.id then some (.error .deviceRevoked)
    else if P.verify contact.publicKey (deviceCertBytes contactID device.id device.publicKey)
        device.certSig = false then some (.error .invalidDeviceCert)
    else if device.publicKey.length ≠ publicKeySize then none
    else if P.verify device.publicKey payload sig = false then some (.error .invalidDeviceSig)
    else some (.ok ())

/-- `ApplyDeviceRevocation`. There is nothing to check a revocation against where the contact has
no key, and nothing is recorded. -/
def applyDeviceRevocation (contactID : String) (rev : DeviceRevocation) :
    Except IdentityError Manager :=
  match m.contacts[contactID]? with
  | none => .error .invalidContactCard
  | some contact =>
    if contact.publicKey.length ≠ publicKeySize then .ok m
    else if rev.identityID ≠ contactID then .error .identityMismatch
    else if P.verify contact.publicKey
        (deviceRevocationBytes rev.identityID rev.deviceID rev.timestamp)
        rev.signature = false then
      .error .invalidDeviceSig
    else .ok (m.recordRevoked contactID rev.deviceID)

end Manager

end

/-! ## The runtime state on disk -/

/-- `persistedRuntimeState`. -/
structure RuntimeState where
  contacts : List Contact
  devices : List DevicePrivate
  activeDeviceID : String
  revokedDevices : GoMap String (List String)

structure RuntimeCodec (ι : Type) where
  marshal : RuntimeState → ι
  unmarshal : ι → Option RuntimeState
  unmarshal_marshal : ∀ state, unmarshal (marshal state) = some state

def revokedSetOf (ids : List String) : GoMap String Unit :=
  ids.foldl (fun set id => if id = "" then set else set.insert id ()) ∅

namespace Manager

variable {ι : Type} (codec : RuntimeCodec ι)

variable (m : Manager)

def runtimeState : RuntimeState :=
  { contacts := m.contacts.toList.map Prod.snd
    devices := m.devices.toList.map Prod.snd
    activeDeviceID := m.activeDeviceID
    revokedDevices := m.revokedDevices.map fun _ revokedSet => revokedSet.keys }

def snapshotRuntimeStateJSON : Option ι := some (codec.marshal m.runtimeState)

/-- The loops of `RestoreRuntimeStateJSON`. `first` is the id that the loop over the devices meets
first; Go leaves open which one that is. -/
def restoreRuntimeState (state : RuntimeState) (first : String) : Manager :=
  let devices := state.devices.foldl (fun devices (d : DevicePrivate) =>
    if d.model.id = "" ∨ d.priv.length ≠ privateKeySize then devices
    else devices.insert d.model.id d) ∅
  { m with
    contacts := state.contacts.foldl (fun contacts c => contacts.insert c.id c) ∅
    devices := devices
    revokedDevices := state.revokedDevices.filterMap fun _ ids =>
      if (revokedSetOf ids).isEmpty then none else some (revokedSetOf ids)
    activeDeviceID :=
      if state.activeDeviceID ∈ devices then state.activeDeviceID
      else if m.activeDeviceID ∈ devices then m.activeDeviceID
      else if first ∈ devices then first
      else "" }

/-- `RestoreRuntimeStateJSON`: an empty text leaves everything as it is. The error of the decoder
is `none`. -/
def restoreRuntimeStateJSON (raw : Option ι) (first : String) : Option Manager :=
  match raw with
  | none => some m
  | some raw => (codec.unmarshal raw).map fun state => m.restoreRuntimeState state first

theorem restoreRuntimeStateJSON_snapshot (into : Manager) (first : String) :
    into.restoreRuntimeStateJSON codec (m.snapshotRuntimeStateJSON codec) first =
      some (into.restoreRuntimeState m.runtimeState first) := by
  unfold restoreRuntimeStateJSON snapshotRuntimeStateJSON
  dsimp only
  rw [codec.unmarshal_marshal]
  rfl

/-! ## What the operations do -/

theorem contactPublicKey_eq_some {m : Manager} {contactID : String} {key : Bytes} :
    m.contactPublicKey contactID = some key ↔
      ∃ contact, m.contacts[contactID]? = some contact ∧ contact.publicKey = key ∧
        key.length = publicKeySize := by
  grind [contactPublicKey]

theorem contactPublicKey_putContact (contact : Contact) (a : String) :
    (m.putContact contact).contactPublicKey a =
      if contact.id = a then
        (if contact.publicKey.length = publicKeySize then some contact.publicKey else none)
      else m.contactPublicKey a := by
  unfold contactPublicKey putContact
  rw [get_insert]
  by_cases ha : contact.id = a
  · simp only [ha, if_true]
  · simp only [ha, if_false]

theorem hasContact_eq_false {m : Manager} {contactID : String} :
    m.hasContact contactID = false ↔ m.contacts[contactID]? = none := by
  simp [hasContact, ← Std.ExtTreeMap.contains_iff_mem]

theorem hasVerifiedContact_iff {m : Manager} {contactID : String} :
    m.hasVerifiedContact contactID = true ↔ ∃ key, m.contactPublicKey contactID = some key := by
  unfold hasVerifiedContact contactPublicKey
  cases hc : m.contacts[contactID]? with
  | none => simp
  | some contact => simp

section

variable {P : Primitives}

theorem verifyContactCard_true {card : ContactCard} (h : verifyContactCard P card = .ok true) :
    card.publicKey.length = publicKeySize ∧ buildIdentityID P card.publicKey = .ok card.identityID ∧
      P.verify card.publicKey (contactCardSigningBytes card) card.signature = true := by
  unfold verifyContactCard verifyIdentityID at h
  simp only [bind_ok, require_ok, pure_ok] at h
  obtain ⟨-, hsize, ok, ⟨expected, hexpected, rfl⟩, -, hid, hverify⟩ := h
  rw [of_decide_eq_true hid]
  exact ⟨hsize.1, hexpected, hverify⟩

theorem addContact_ok {m m' : Manager} {card : ContactCard} {now : Time}
    (h : m.addContact P card now = .ok m') : verifyContactCard P card = .ok true ∧
      (∀ key, m.contactPublicKey card.identityID = some key → key = card.publicKey) ∧
        m' = m.putContact ⟨card.identityID, card.displayName, card.publicKey, now, 0⟩ := by
  unfold addContact at h
  simp only [bind_ok, require_ok, pure_ok] at h
  obtain ⟨ok, hok, -, rfl, -, hpin, rfl⟩ := h
  exact ⟨hok, hpin, rfl⟩

/-- The ids that `AddContactByIdentityID` accepts. -/
def ValidContactID (contactID : String) : Prop :=
  (bytesOf "aim1").isPrefixOf (bytesOf (trimSpace contactID)) = true ∧
    12 ≤ (bytesOf (trimSpace contactID)).length

/-- The contact that `AddContactByIdentityID` puts in. -/
def contactByIdentityID (m : Manager) (contactID displayName : String) (now : Time) : Contact :=
  { id := trimSpace contactID
    displayName := if trimSpace displayName = "" then trimSpace contactID else trimSpace displayName
    publicKey := (m.contactPublicKey (trimSpace contactID)).getD [], addedAt := now, lastSeen := 0 }

variable {contactID : String}

theorem addContactByIdentityID_ok_iff {m m' : Manager} {displayName : String}
    {now : Time} : m.addContactByIdentityID contactID displayName now = .ok m' ↔
      ValidContactID contactID ∧
        m' = m.putContact (m.contactByIdentityID contactID displayName now) := by
  unfold addContactByIdentityID ValidContactID
  dsimp only
  split
  · grind
  · rename_i hgood
    rw [not_or, not_not, not_lt] at hgood
    rw [Except.ok.injEq]
    exact ⟨fun h => ⟨hgood, h.symm⟩, fun h => h.2.symm⟩

theorem addContactByIdentityID_ok {m m' : Manager} {displayName : String} {now : Time}
    (h : m.addContactByIdentityID contactID displayName now = .ok m') :
    ∃ contact : Contact, contact.publicKey = (m.contactPublicKey contact.id).getD [] ∧
      m' = m.putContact contact :=
  ⟨_, rfl, (addContactByIdentityID_ok_iff.mp h).2⟩

theorem removeContact_ok {m m' : Manager} (h : m.removeContact contactID = .ok m') :
    m' = { m with contacts := m.contacts.erase (trimSpace contactID) } := by
  grind [removeContact]

theorem applyDeviceRevocation_ok {m m' : Manager} {rev : DeviceRevocation}
    (h : m.applyDeviceRevocation P contactID rev = .ok m') :
    (m.contactPublicKey contactID = none ∧ m' = m) ∨
      m' = m.recordRevoked contactID rev.deviceID := by
  grind [applyDeviceRevocation, contactPublicKey]

theorem isRevoked_iff {m : Manager} {deviceID : String} : m.isRevoked contactID deviceID = true ↔
      ∃ set, m.revokedDevices[contactID]? = some set ∧ deviceID ∈ set := by
  unfold isRevoked
  cases hset : m.revokedDevices[contactID]? with
  | none => simp
  | some set => simp

theorem isRevoked_recordRevoked (m : Manager) (c d a b : String) :
    (m.recordRevoked c d).isRevoked a b = true ↔ (c = a ∧ d = b) ∨ m.isRevoked a b = true := by
  rw [isRevoked_iff, isRevoked_iff]
  unfold recordRevoked
  rw [get_insert]
  by_cases ha : c = a
  · subst ha
    cases hset : m.revokedDevices[c]? with
    | none => simp
    | some set => simp
  · simp [ha]

end

/-! ## Reading back what was written -/

theorem mem_revokedSetOf {ids : List String} {d : String} :
    d ∈ revokedSetOf ids ↔ d ∈ ids ∧ d ≠ "" := by
  have key : ∀ (ids : List String) (set : GoMap String Unit),
      d ∈ ids.foldl (fun set id => if id = "" then set else set.insert id ()) set ↔
        d ∈ set ∨ (d ∈ ids ∧ d ≠ "") := by
    intro ids
    induction ids with
    | nil => intro set; simp
    | cons id ids ih =>
      intro set
      rw [List.foldl_cons, ih, List.mem_cons]
      by_cases hid : id = ""
      · grind
      · grind
  rw [revokedSetOf, key]
  simp

def Filed : Prop :=
  ∀ (id : String) (contact : Contact), m.contacts[id]? = some contact → contact.id = id

theorem restoreRuntimeState_contacts {m : Manager} (h : m.Filed) (into : Manager) (first : String) :
    (into.restoreRuntimeState m.runtimeState first).contacts = m.contacts := by
  have hloop : (into.restoreRuntimeState m.runtimeState first).contacts =
      (m.contacts.toList.map Prod.snd).foldl
        (fun (contacts : GoMap String Contact) c => contacts.insert c.id c) ∅ := rfl
  rw [hloop, List.foldl_map]
  exact foldl_rebuild fun out k v hv => by rw [h k v hv]

theorem restoreRuntimeState_isRevoked (into : Manager) (first c d : String) :
    (into.restoreRuntimeState m.runtimeState first).isRevoked c d = true ↔
      m.isRevoked c d = true ∧ d ≠ "" := by
  rw [isRevoked_iff, isRevoked_iff]
  have hget : (into.restoreRuntimeState m.runtimeState first).revokedDevices[c]? =
      (m.revokedDevices[c]?).bind fun set =>
        if (revokedSetOf set.keys).isEmpty then none else some (revokedSetOf set.keys) := by
    show ((m.revokedDevices.map fun _ set => set.keys).filterMap _)[c]? = _
    grind
  rw [hget]
  cases hset : m.revokedDevices[c]? with
  | none => simp
  | some set =>
    simp only [Option.bind_some, Option.some.injEq, exists_eq_left']
    constructor
    · rintro ⟨restored, hrestored, hd⟩
      split at hrestored
      · exact absurd hrestored (by simp)
      · obtain rfl := Option.some.inj hrestored
        have := mem_revokedSetOf.mp hd
        exact ⟨Std.ExtTreeMap.mem_keys.mp this.1, this.2⟩
    · rintro ⟨hd, hne⟩
      have hmem : d ∈ revokedSetOf set.keys :=
        mem_revokedSetOf.mpr ⟨Std.ExtTreeMap.mem_keys.mpr hd, hne⟩
      refine ⟨_, if_neg ?_, hmem⟩
      intro hempty
      simp_all

end Manager

end Ardents.Identity
