import Ardents.Go.Run
import Ardents.Identity.Manager

/-!
# Revoked devices

A contact revokes a device by a signed statement that names the device's id, and
`VerifyInboundDevice` refuses that id. A device is presented under any id, so the key of a revoked
device is refused only as long as no other id goes with it in a certificate.
-/

namespace Ardents.Identity

open Go
open Crypto (Time)
open Manager

/-! ## What an identity key has signed -/

section

variable (P : Primitives)

/-- The statements that the holder of `key`, whose identity is `identityID`, makes: cards under
the names `published`, certificates of devices, revocations and node bindings. -/
def MadeBy (identityID : String) (key : Bytes) (published : String → Prop) : Statement → Prop
  | .contactCard card =>
    card.identityID = identityID ∧ published card.displayName ∧ card.publicKey = key
  | .deviceCert id deviceID pub =>
    id = identityID ∧ deviceID = deviceIDFromPub P pub ∧ pub.length = publicKeySize
  | .deviceRevocation id _ _ => id = identityID
  | .nodeBinding id _ _ _ => id = identityID

/-- What devices sign: the fields of a wire as a JSON object, and a constant text. -/
def IsDevicePayload (msg : Bytes) : Prop :=
  (∃ rest, msg = 123 :: rest) ∨ msg = bytesOf "group-device-id"

def SignedBy (identityID : String) (key : Bytes) (published : String → Prop) (msg : Bytes) : Prop :=
  (∃ s, MadeBy P identityID key published s ∧ msg = s.bytes P) ∨ IsDevicePayload msg

/-- Signatures verify for a key of `identityID` only if they were made. -/
def Unforgeable (identityID : String) (published : String → Prop) : Prop :=
  ∀ key msg sig, buildIdentityID P key = .ok identityID → P.verify key msg sig = true →
    SignedBy P identityID key published msg

end

section

variable {P : Primitives} {identityID : String} {key : Bytes} {published : String → Prop}

theorem not_isDevicePayload_cert (hid : IsIdentityID P identityID) (deviceID : String)
    (pub : Bytes) : ¬ IsDevicePayload (deviceCertBytes identityID deviceID pub) := by
  obtain ⟨rest, hrest⟩ := hid.bytesOf_eq
  have htext : bytesOf "group-device-id" = 103 :: bytesOf "roup-device-id" := by decide
  unfold IsDevicePayload deviceCertBytes
  rw [hrest, htext]
  simp

theorem SignedBy.cert (hkey : buildIdentityID P key = .ok identityID) {deviceID : String}
    {pub : Bytes} (hpub : pub.length = publicKeySize)
    (h : SignedBy P identityID key published (deviceCertBytes identityID deviceID pub)) :
    deviceID = deviceIDFromPub P pub ∨ (pub = key ∧ published deviceID) := by
  have hid : IsIdentityID P identityID := ⟨key, hkey⟩
  have hlen : key.length = publicKeySize := by
    grind [buildIdentityID]
  rcases h with ⟨s, hmade, hbytes⟩ | hpayload
  · cases s with
    | contactCard card =>
      obtain ⟨hcard, hname, hcardKey⟩ := hmade
      have hcardID : IsIdentityID P card.identityID := hcard ▸ hid
      obtain ⟨-, hoverlap⟩ := (card_eq_cert_iff hcardID hid).mp hbytes.symm
      grind [Overlap.eq, bytesOf_inj]
    | deviceCert id deviceID' pub' =>
      obtain ⟨rfl, rfl, hpub'⟩ := hmade
      obtain ⟨-, hoverlap⟩ := (labelled_key_eq_iff hid hid).mp hbytes
      obtain ⟨htext, rfl⟩ := hoverlap.eq (by rw [hpub, hpub'])
      exact .inl (bytesOf_inj htext)
    | deviceRevocation id deviceID' ts =>
      obtain rfl : id = identityID := hmade
      exact absurd hbytes (labelled_key_ne_revocation hid hid _ _ _ _)
    | nodeBinding id nodeID challenge ts =>
      exact absurd hbytes (id_ne_nodeBinding hid _ _ _ _ _)
  · exact absurd hpayload (not_isDevicePayload_cert hid deviceID pub)

end

/-! ## Contacts and revocations over time -/

inductive ContactCall where
  | addContact (card : ContactCard) (now : Time)
  | addContactByIdentityID (contactID displayName : String) (now : Time)
  | applyDeviceRevocation (contactID : String) (rev : DeviceRevocation)
  /-- The state is written out and read back into another manager. -/
  | reload (into : Manager) (first : String)

section

variable (P : Primitives) {ι : Type} (codec : RuntimeCodec ι)

def ContactCall.outcome (m : Manager) : ContactCall → Option Manager
  | .addContact card now => (m.addContact P card now).toOption
  | .addContactByIdentityID contactID displayName now =>
    (m.addContactByIdentityID contactID displayName now).toOption
  | .applyDeviceRevocation contactID rev => (m.applyDeviceRevocation P contactID rev).toOption
  | .reload into first =>
    into.restoreRuntimeStateJSON codec (m.snapshotRuntimeStateJSON codec) first

def ContactCall.apply (m : Manager) (call : ContactCall) : Manager :=
  (call.outcome P codec m).getD m

/-- The contacts are filed properly, and each pinned key is the key of its identity. -/
structure Pinned (m : Manager) : Prop where
  filed : m.Filed
  authentic : ∀ id key, m.contactPublicKey id = some key → buildIdentityID P key = .ok id

end

/-- What every call keeps: pinned keys, and revoked devices that have an id at all. -/
structure Retains (m m' : Manager) : Prop where
  keys : ∀ id key, m.contactPublicKey id = some key → m'.contactPublicKey id = some key
  revoked : ∀ id deviceID, deviceID ≠ "" → m.isRevoked id deviceID = true →
    m'.isRevoked id deviceID = true

theorem Retains.refl (m : Manager) : Retains m m := ⟨fun _ _ h => h, fun _ _ _ h => h⟩

theorem Retains.trans {m m' m'' : Manager} (h : Retains m m') (h' : Retains m' m'') :
    Retains m m'' :=
  ⟨fun id key hkey => h'.keys id key (h.keys id key hkey),
    fun id deviceID hne hrev => h'.revoked id deviceID hne (h.revoked id deviceID hne hrev)⟩

section

variable {P : Primitives} {ι : Type} {codec : RuntimeCodec ι} {m : Manager}

theorem pinned_of_empty (h : m.contacts = ∅) : Pinned P m := by
  refine ⟨fun id c hc => ?_, fun id key hid => ?_⟩
  · rw [h] at hc
    exact absurd hc (by simp)
  · obtain ⟨c, hc, -⟩ := contactPublicKey_eq_some.mp hid
    rw [h] at hc
    exact absurd hc (by simp)

theorem Retains.putContact {contact : Contact}
    (hkey : ∀ key, m.contactPublicKey contact.id = some key → contact.publicKey = key) :
    Retains m (m.putContact contact) := by
  refine ⟨fun id key hid => ?_, fun _ _ _ h => h⟩
  rw [contactPublicKey_putContact]
  split
  · rename_i hsame
    have hcontact := hkey key (hsame ▸ hid)
    obtain ⟨-, -, -, hlen⟩ := contactPublicKey_eq_some.mp hid
    rw [hcontact, if_pos hlen]
  · exact hid

theorem Pinned.putContact (hp : Pinned P m) {contact : Contact}
    (hkey : contact.publicKey.length = publicKeySize →
      buildIdentityID P contact.publicKey = .ok contact.id) : Pinned P (m.putContact contact) := by
  refine ⟨fun id c hc => ?_, fun id key hid => ?_⟩
  · have hget := get_insert m.contacts contact.id id contact
    rw [show (m.putContact contact).contacts = m.contacts.insert contact.id contact from rfl,
      hget] at hc
    split at hc
    · simp_all
    · exact hp.filed id c hc
  · grind [contactPublicKey_putContact, cases Pinned]

theorem contactPublicKey_congr {m m' : Manager} (h : m'.contacts = m.contacts) (id : String) :
    m'.contactPublicKey id = m.contactPublicKey id := by
  unfold contactPublicKey
  rw [h]

theorem Pinned.of_contacts {m' : Manager} (hp : Pinned P m) (h : m'.contacts = m.contacts) :
    Pinned P m' :=
  ⟨fun id c hc => hp.filed id c (h ▸ hc),
    fun id key hid => hp.authentic id key (contactPublicKey_congr h id ▸ hid)⟩

/-- **One call.** Pinned keys stay authentic, stay pinned, and revocations stay. -/
theorem ContactCall.outcome_keeps (hp : Pinned P m) {call : ContactCall} {m' : Manager}
    (h : call.outcome P codec m = some m') : Pinned P m' ∧ Retains m m' := by
  cases call with
  | addContact card now =>
    obtain ⟨hcard, hpin, rfl⟩ := addContact_ok (toOption_eq_some.mp h)
    obtain ⟨-, hid, -⟩ := verifyContactCard_true hcard
    exact ⟨hp.putContact fun _ => hid, .putContact fun key hkey => (hpin key hkey).symm⟩
  | addContactByIdentityID contactID displayName now =>
    obtain ⟨contact, hkey, rfl⟩ := addContactByIdentityID_ok (toOption_eq_some.mp h)
    refine ⟨hp.putContact fun hlen => ?_, .putContact fun key hpin => by simp [hkey, hpin]⟩
    cases hpin : m.contactPublicKey contact.id with
    | none =>
      -- a contact without a pinned key gets an empty one
      rw [hkey, hpin] at hlen
      exact absurd hlen (by decide)
    | some key =>
      rw [hkey, hpin]
      exact hp.authentic _ _ hpin
  | applyDeviceRevocation contactID rev =>
    rcases applyDeviceRevocation_ok (toOption_eq_some.mp h) with ⟨-, rfl⟩ | rfl
    · exact ⟨hp, .refl m'⟩
    · refine ⟨hp.of_contacts rfl, fun _ _ hid => hid, fun id deviceID _ hrev => ?_⟩
      exact (isRevoked_recordRevoked m contactID rev.deviceID id deviceID).mpr (.inr hrev)
  | reload into first =>
    obtain rfl : into.restoreRuntimeState m.runtimeState first = m' :=
      Option.some.inj ((restoreRuntimeStateJSON_snapshot codec m into first).symm.trans h)
    have hcontacts := restoreRuntimeState_contacts hp.filed into first
    refine ⟨hp.of_contacts hcontacts, fun id key hid => ?_, fun id deviceID hne hrev => ?_⟩
    · rw [contactPublicKey_congr hcontacts]
      exact hid
    · exact (restoreRuntimeState_isRevoked m into first id deviceID).mpr ⟨hrev, hne⟩

/-- **Every run.** -/
theorem run_keeps (codec : RuntimeCodec ι) (hp : Pinned P m) (calls : List ContactCall) :
    Pinned P (run (ContactCall.apply P codec) m calls) ∧
      Retains m (run (ContactCall.apply P codec) m calls) := by
  refine run_inv (I := fun m' => Pinned P m' ∧ Retains m m') (fun m' call h => ?_) ⟨hp, .refl m⟩
    calls
  unfold ContactCall.apply
  cases hcall : call.outcome P codec m' with
  | none => exact h
  | some m'' =>
    obtain ⟨hp'', hr''⟩ := ContactCall.outcome_keeps h.1 hcall
    exact ⟨hp'', h.2.trans hr''⟩

end

/-! ## Refusing a revoked device -/

structure IsDevice (P : Primitives) (d : Device) : Prop where
  id_eq : d.id = deviceIDFromPub P d.publicKey
  key_length : d.publicKey.length = publicKeySize

theorem IsDevice.id_ne_empty {P : Primitives} {d : Device} (hd : IsDevice P d) : d.id ≠ "" := by
  intro hempty
  have hchars := congrArg String.toList (hd.id_eq.symm.trans hempty)
  simp_all [deviceIDFromPub]

/-- Whatever is presented under the id or the key of `d` is refused with an error. -/
def Refused (P : Primitives) (m : Manager) (contactID : String) (d : Device) : Prop :=
  ∀ (d' : Device) (payload sig : Bytes), d'.id = d.id ∨ d'.publicKey = d.publicKey →
    ∃ e, m.verifyInboundDevice P contactID d' payload sig = some (.error e)

section

variable {P : Primitives} {m : Manager} {contactID : String} {key : Bytes} {d : Device}
  {published : String → Prop}

theorem refused_of_revoked (hp : Pinned P m) (hkey : m.contactPublicKey contactID = some key)
    (hrevoked : m.isRevoked contactID d.id = true) (hd : IsDevice P d)
    (hforge : Unforgeable P contactID published)
    (hcards : d.publicKey ≠ key ∨ ∀ name, published name → name = d.id) :
    Refused P m contactID d := by
  intro d' payload sig hsame
  obtain ⟨contact, hcontact, rfl, hlen⟩ := contactPublicKey_eq_some.mp hkey
  unfold verifyInboundDevice
  rw [hcontact]
  dsimp only
  rw [if_neg (by simp [hlen])]
  by_cases hid : d'.id = d.id
  · rw [if_pos (hid ▸ hrevoked)]
    exact ⟨_, rfl⟩
  · have hpub : d'.publicKey = d.publicKey := hsame.resolve_left hid
    split
    · exact ⟨_, rfl⟩
    · -- no signed certificate gives the key another id
      have hcert : P.verify contact.publicKey
          (deviceCertBytes contactID d'.id d'.publicKey) d'.certSig = false := by
        by_contra htrue
        rw [Bool.not_eq_false, hpub] at htrue
        have hauth := hp.authentic _ _ hkey
        rcases (hforge _ _ _ hauth htrue).cert hauth hd.key_length with hself | ⟨hsame, hname⟩
        · exact hid (hself.trans hd.id_eq.symm)
        · grind
      rw [if_pos hcert]
      exact ⟨_, rfl⟩

/-- **Revocation sticks to the key.** Once a verified contact has revoked a device, nothing
presented under its id or its key is accepted any more, provided the key is not the contact's
identity key, or the contact has published no card under another name than the device's id. -/
theorem revoked_device_refused {ι : Type} (codec : RuntimeCodec ι) {start m' : Manager}
    {before after : List ContactCall} {rev : DeviceRevocation} (hstart : start.contacts = ∅)
    (happly : (run (ContactCall.apply P codec) start before).applyDeviceRevocation P contactID rev =
      .ok m') (hd : IsDevice P d) (hrev : rev.deviceID = d.id)
    (hforge : Unforgeable P contactID published)
    (hverified : (run (ContactCall.apply P codec) start before).hasVerifiedContact contactID = true)
    (hcards : (run (ContactCall.apply P codec) start before).contactPublicKey contactID ≠
        some d.publicKey ∨ ∀ name, published name → name = d.id) :
    Refused P (run (ContactCall.apply P codec) m' after) contactID d := by
  obtain ⟨hp, -⟩ := run_keeps codec (pinned_of_empty hstart) before
  generalize run (ContactCall.apply P codec) start before = m at happly hverified hcards hp
  obtain ⟨key, hkey⟩ := hasVerifiedContact_iff.mp hverified
  rcases applyDeviceRevocation_ok happly with ⟨hnone, -⟩ | rfl
  · exact absurd (hkey.symm.trans hnone) (by simp)
  · have hrevoked : (m.recordRevoked contactID rev.deviceID).isRevoked contactID d.id = true :=
      (isRevoked_recordRevoked _ _ _ _ _).mpr (.inl ⟨rfl, hrev⟩)
    have hpinned : Pinned P (m.recordRevoked contactID rev.deviceID) := hp.of_contacts rfl
    obtain ⟨hp', hkeep⟩ := run_keeps codec hpinned after
    refine refused_of_revoked hp' (hkeep.keys _ _ hkey)
      (hkeep.revoked _ _ hd.id_ne_empty hrevoked) hd hforge ?_
    exact hcards.imp_left fun hne hsame => hne (hsame ▸ hkey)

end

/-! ## Alice and their devices -/

def aliceWorld (signed : List Bytes) : Primitives :=
  samplePrimitives fun key msg _ => key = aliceKey && signed.contains msg

theorem aliceWorld_unforgeable {signed : List Bytes} {published : String → Prop}
    (h : ∀ msg ∈ signed, SignedBy (aliceWorld signed) aliceID aliceKey published msg) :
    Unforgeable (aliceWorld signed) aliceID published := by
  intro key msg sig _ hverify
  grind [aliceWorld, samplePrimitives]

def sampleDevice (id : String) (key : Bytes) : Device :=
  { id := id, name := "", publicKey := key, certSig := [], createdAt := 0, isRevoked := false
    revokedAt := 0 }

def laptopKey : Bytes := List.replicate 32 9

def laptop : Device := sampleDevice "dev1_0909090909090909" laptopKey

def revocationOf (d : Device) : DeviceRevocation :=
  { identityID := aliceID, deviceID := d.id, timestamp := 5, signature := [] }

def strangers : Manager :=
  { identityID := "", signingPublicKey := [], selfPriv := [], contacts := ∅, devices := ∅
    activeDeviceID := "", revokedDevices := ∅ }

def sampleCodec : RuntimeCodec RuntimeState := ⟨id, some, fun _ => rfl⟩

def aliceKnown (signed : List Bytes) : Manager :=
  run (ContactCall.apply (aliceWorld signed) sampleCodec) strangers
    [.addContact (aliceCard "Alice") 1]

def laptopSigned : List Bytes :=
  [contactCardSigningBytes (aliceCard "Alice"), deviceCertBytes aliceID laptop.id laptopKey,
    deviceRevocationBytes aliceID laptop.id 5]

theorem laptopSigned_unforgeable :
    Unforgeable (aliceWorld laptopSigned) aliceID (fun name => name = "Alice") := by
  refine aliceWorld_unforgeable fun msg hmsg => .inl ?_
  simp only [laptopSigned, List.mem_cons, List.not_mem_nil, or_false] at hmsg
  rcases hmsg with rfl | rfl | rfl
  · exact ⟨.contactCard (aliceCard "Alice"), ⟨rfl, rfl, rfl⟩, rfl⟩
  · exact ⟨.deviceCert aliceID laptop.id laptopKey, ⟨rfl, by decide, by decide⟩, rfl⟩
  · exact ⟨.deviceRevocation aliceID laptop.id 5, rfl, rfl⟩

/-- The laptop stays revoked after a restart and after Alice's card comes in again. -/
theorem laptop_refused :
    ∃ m', (aliceKnown laptopSigned).applyDeviceRevocation (aliceWorld laptopSigned) aliceID
        (revocationOf laptop) = .ok m' ∧ Refused (aliceWorld laptopSigned)
        (run (ContactCall.apply (aliceWorld laptopSigned) sampleCodec) m'
          [.reload strangers "", .addContact (aliceCard "Alice") 9]) aliceID laptop := by
  have hsome : ((aliceKnown laptopSigned).applyDeviceRevocation (aliceWorld laptopSigned) aliceID
      (revocationOf laptop)).toOption.isSome = true := by decide
  obtain ⟨m', hm'⟩ := Option.isSome_iff_exists.mp hsome
  have happly := toOption_eq_some.mp hm'
  exact ⟨m', happly, revoked_device_refused sampleCodec rfl happly ⟨by decide, by decide⟩ rfl
    laptopSigned_unforgeable (by decide) (.inl (by decide))⟩

def firstDevice : Device := sampleDevice "dev1_0707070707070707" aliceKey

/-- What Alice has signed when the first device is revoked, and a message signed with its key. -/
def firstSigned : List Bytes :=
  [contactCardSigningBytes (aliceCard "Alice"), deviceCertBytes aliceID firstDevice.id aliceKey,
    deviceRevocationBytes aliceID firstDevice.id 5, bytesOf "\x7b\x7d"]

theorem firstSigned_unforgeable :
    Unforgeable (aliceWorld firstSigned) aliceID (fun name => name = "Alice") := by
  refine aliceWorld_unforgeable fun msg hmsg => ?_
  simp only [firstSigned, List.mem_cons, List.not_mem_nil, or_false] at hmsg
  rcases hmsg with rfl | rfl | rfl | rfl
  · exact .inl ⟨.contactCard (aliceCard "Alice"), ⟨rfl, rfl, rfl⟩, rfl⟩
  · exact .inl ⟨.deviceCert aliceID firstDevice.id aliceKey, ⟨rfl, by decide, by decide⟩, rfl⟩
  · exact .inl ⟨.deviceRevocation aliceID firstDevice.id 5, rfl, rfl⟩
  · exact .inr (.inl ⟨[125], by decide⟩)

/-- Presented under Alice's name, with the signature of Alice's card for a certificate, the key of
the revoked device is accepted. -/
theorem revoked_key_accepted :
    Unforgeable (aliceWorld firstSigned) aliceID (fun name => name = "Alice") ∧
      IsDevice (aliceWorld firstSigned) firstDevice ∧
      ∃ m', (aliceKnown firstSigned).applyDeviceRevocation (aliceWorld firstSigned) aliceID
          (revocationOf firstDevice) = .ok m' ∧
        m'.verifyInboundDevice (aliceWorld firstSigned) aliceID
          (sampleDevice "Alice" firstDevice.publicKey) (bytesOf "\x7b\x7d") [] = some (.ok ()) := by
  refine ⟨firstSigned_unforgeable, ⟨by decide, by decide⟩, ?_⟩
  have hall : (((aliceKnown firstSigned).applyDeviceRevocation (aliceWorld firstSigned) aliceID
      (revocationOf firstDevice)).toOption.map fun m' =>
          m'.verifyInboundDevice (aliceWorld firstSigned) aliceID
            (sampleDevice "Alice" firstDevice.publicKey) (bytesOf "\x7b\x7d") []) =
      some (some (.ok ())) := by decide
  obtain ⟨m', hm', hverdict⟩ := Option.map_eq_some_iff.mp hall
  exact ⟨m', toOption_eq_some.mp hm', hverdict⟩

end Ardents.Identity
