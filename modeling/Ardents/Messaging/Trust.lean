import Ardents.Identity.Revocation
import Ardents.Messaging.InboundDaemon

/-!
# What inbound messages can do to trust

A contact's key is pinned when its card is first accepted. Every way to change the contacts either
checks the pinned key or carries it over.
-/

namespace Ardents.Messaging

open Go
open Crypto (Time)
open Identity

/-! ## Pinned keys -/

/-- The contact operations, with the removal of a contact and the check of inbound wires. -/
inductive TrustCall where
  | contacts (call : ContactCall)
  | removeContact (contactID : String)
  | validateInboundContactTrust (senderID : String) (wire : WirePayload) (now : Time)

section

variable (P : Primitives) {ι : Type} (codec : RuntimeCodec ι)

def TrustCall.apply (m : Manager) : TrustCall → Manager
  | .contacts call => call.apply P codec m
  | .removeContact contactID => (m.removeContact contactID).toOption.getD m
  | .validateInboundContactTrust senderID wire now =>
    (Messaging.validateInboundContactTrust P m senderID wire now).2

end

def TrustCall.Removes (contactID : String) : TrustCall → Prop
  | .removeContact id => trimSpace id = contactID
  | _ => False

section

variable {P : Primitives} {ι : Type} {codec : RuntimeCodec ι} {m : Manager}

theorem validateInboundContactTrust_manager (m : Manager) (senderID : String) (wire : WirePayload)
    (now : Time) : (validateInboundContactTrust P m senderID wire now).2 = m ∨
      ∃ card, m.addContact P card now
        = .ok (validateInboundContactTrust P m senderID wire now).2 := by
  unfold validateInboundContactTrust
  split
  · split
    · exact .inl rfl
    · split
      · exact .inl rfl
      · split
        · exact .inl rfl
        · exact .inl rfl
  · grind

theorem contactPublicKey_erase (m : Manager) (contactID id : String) :
    ({ m with contacts := m.contacts.erase contactID } : Manager).contactPublicKey id =
      if contactID = id then none else m.contactPublicKey id := by
  grind [Manager.contactPublicKey]

theorem pinned_erase (hp : Pinned P m) (contactID : String) :
    Pinned P { m with contacts := m.contacts.erase contactID } := by
  refine ⟨fun id c hc => ?_, fun id key hkey => ?_⟩
  · simp only [get_erase] at hc
    split at hc
    · exact absurd hc (by simp)
    · exact hp.filed id c hc
  · grind [contactPublicKey_erase, cases Pinned]

theorem contactCall_apply_keeps (codec : RuntimeCodec ι) (hp : Pinned P m) (call : ContactCall) :
    Pinned P (call.apply P codec m) ∧ Retains m (call.apply P codec m) :=
  run_keeps codec hp [call]

/-- **One call.** Pinned keys stay authentic; and where the contact is not removed, its key stays
pinned. -/
theorem TrustCall.apply_keeps (codec : RuntimeCodec ι) (hp : Pinned P m) (call : TrustCall) :
    Pinned P (call.apply P codec m) ∧
      ∀ id key, ¬ call.Removes id → m.contactPublicKey id = some key →
        (call.apply P codec m).contactPublicKey id = some key := by
  cases call with
  | contacts call =>
    obtain ⟨hp', hretains⟩ := contactCall_apply_keeps codec hp call
    exact ⟨hp', fun id key _ hkey => hretains.keys id key hkey⟩
  | removeContact contactID =>
    unfold TrustCall.apply
    dsimp only
    cases hremove : m.removeContact contactID with
    | error e => exact ⟨hp, fun _ _ _ hkey => hkey⟩
    | ok m' =>
      obtain rfl := Manager.removeContact_ok hremove
      refine ⟨pinned_erase hp _, fun id key hother hkey => ?_⟩
      have hne : trimSpace contactID ≠ id := hother
      rw [Except.toOption, Option.getD_some, contactPublicKey_erase, if_neg hne]
      exact hkey
  | validateInboundContactTrust senderID wire now =>
    unfold TrustCall.apply
    dsimp only
    rcases validateInboundContactTrust_manager (P := P) m senderID wire now with
      hsame | ⟨card, hadd⟩
    · simp_all
    · have hcall : (ContactCall.addContact card now).outcome P codec m
          = some (Messaging.validateInboundContactTrust P m senderID wire now).2 :=
        toOption_eq_some.mpr hadd
      obtain ⟨hp', hretains⟩ := ContactCall.outcome_keeps hp hcall
      exact ⟨hp', fun id key _ hkey => hretains.keys id key hkey⟩

theorem pinned_run (codec : RuntimeCodec ι) (hp : Pinned P m) (calls : List TrustCall) :
    Pinned P (run (TrustCall.apply P codec) m calls) :=
  run_inv (I := Pinned P) (fun _ call h => (call.apply_keeps codec h).1) hp calls

/-- **Every run.** A key stays pinned as long as no call removes its contact. -/
theorem pinned_stays (codec : RuntimeCodec ι) (hp : Pinned P m) {calls : List TrustCall}
    {id : String} {key : Bytes} (hkept : ∀ call ∈ calls, ¬ call.Removes id)
    (hkey : m.contactPublicKey id = some key) :
    (run (TrustCall.apply P codec) m calls).contactPublicKey id = some key := by
  induction calls generalizing m with
  | nil => exact hkey
  | cons call rest ih =>
    grind [TrustCall.apply_keeps, run_cons]

/--
**Pinned keys are authentic and stable.** After every run from an empty contact list, every
contact whose key has the size of a key is stored under its id, which is the id of that
key; and through every further run that does not remove the contact it keeps that key.
-/
theorem pinned_keys_authentic_and_stable (codec : RuntimeCodec ι) {start : Manager}
    (hstart : start.contacts = ∅) (before after : List TrustCall) {id : String} {contact : Contact}
    (hcontact : (run (TrustCall.apply P codec) start before).contacts[id]? = some contact)
    (hsize : contact.publicKey.length = publicKeySize) :
    buildIdentityID P contact.publicKey = .ok contact.id ∧ contact.id = id ∧
      ((∀ call ∈ after, ¬ call.Removes id) →
        ∃ contact', (run (TrustCall.apply P codec) start (before ++ after)).contacts[id]?
            = some contact' ∧ contact'.publicKey = contact.publicKey) := by
  have hp := pinned_run codec (pinned_of_empty (P := P) hstart) before
  have hkey : (run (TrustCall.apply P codec) start before).contactPublicKey id
      = some contact.publicKey :=
    Manager.contactPublicKey_eq_some.mpr ⟨contact, hcontact, rfl, hsize⟩
  have hid := hp.filed id contact hcontact
  refine ⟨?_, hid, fun hkept => ?_⟩
  · rw [hid]
    exact hp.authentic id _ hkey
  · have hstays := pinned_stays codec hp hkept hkey
    rw [run_append]
    obtain ⟨contact', hcontact', hsame, -⟩ := Manager.contactPublicKey_eq_some.mp hstays
    exact ⟨contact', hcontact', hsame⟩

end

/-- A card from a wire, a restart and an entry by id alone: Alice keeps the key of the card. -/
theorem alice_key_pinned :
    let P := samplePrimitives fun _ _ _ => true
    let wire := { newPlainWire [] with card := some (aliceCard "Alice") }
    let arrive : TrustCall := .validateInboundContactTrust aliceID wire 1
    let later : List TrustCall := [.contacts (.reload strangers ""),
      .contacts (.addContactByIdentityID aliceID "Al" 2), .removeContact "aim1bobbobbob"]
    ∃ contact, (run (TrustCall.apply P sampleCodec) strangers [arrive]).contacts[aliceID]?
        = some contact ∧ contact.publicKey = aliceKey ∧
      buildIdentityID P contact.publicKey = .ok contact.id ∧
      ∃ contact',
        (run (TrustCall.apply P sampleCodec) strangers (arrive :: later)).contacts[aliceID]? =
          some contact' ∧ contact'.publicKey = aliceKey := by
  intro P wire arrive later
  have hfound : ((run (TrustCall.apply P sampleCodec) strangers [arrive]).contacts[aliceID]?).map
      (·.publicKey) = some aliceKey := by decide
  obtain ⟨contact, hcontact, hkey⟩ := Option.map_eq_some_iff.mp hfound
  obtain ⟨hid, -, hstays⟩ := pinned_keys_authentic_and_stable (P := P) sampleCodec
    (rfl : strangers.contacts = ∅) [arrive] later hcontact (by rw [hkey]; decide)
  have hkept : ∀ call ∈ later, ¬ call.Removes aliceID := by
    intro call hcall
    simp only [later, List.mem_cons, List.not_mem_nil, or_false] at hcall
    rcases hcall with rfl | rfl | rfl
    · exact id
    · exact id
    · exact (by decide : trimSpace "aim1bobbobbob" ≠ aliceID)
  obtain ⟨contact', hcontact', hsame⟩ := hstays hkept
  exact ⟨contact, hcontact, hkey, hid, contact', hcontact', hsame.trans hkey⟩

/-! ## Keys from certificates -/

section

variable {P : Primitives} {m : Manager} {contactID : String} {key : Bytes}

theorem verifyInboundDevice_panics_iff (hkey : m.contactPublicKey contactID = some key)
    {device : Device} {payload sig : Bytes} :
    m.verifyInboundDevice P contactID device payload sig = none ↔
      m.isRevoked contactID device.id = false ∧
        P.verify key (deviceCertBytes contactID device.id device.publicKey) device.certSig = true ∧
        device.publicKey.length ≠ publicKeySize := by
  obtain ⟨contact, hcontact, rfl, hlen⟩ := Manager.contactPublicKey_eq_some.mp hkey
  unfold Manager.verifyInboundDevice
  rw [hcontact]
  grind

theorem validateInboundDeviceAuth_panics {json : WireJSON} {msg : InboundPrivateMessage}
    {wire : WirePayload} (h : validateInboundDeviceAuth P json m msg wire = none) :
    ∃ device payload sig, m.verifyInboundDevice P msg.senderID device payload sig = none := by
  grind [validateInboundDeviceAuth]

/--
**The verifier returns.** For a contact with a pinned key: whatever device, payload and
signature are presented, `VerifyInboundDevice` gives `ed25519.Verify` keys of the right
size only, and `ValidateInboundDeviceAuth` returns, exactly when nothing the contact's key
has signed reads as a certificate of a key of another size for a device not revoked.
-/
theorem device_auth_returns_iff (json : WireJSON) (hkey : m.contactPublicKey contactID = some key) :
    ((∀ device payload sig, m.verifyInboundDevice P contactID device payload sig ≠ none) ∧
      ∀ msg wire, msg.senderID = contactID → validateInboundDeviceAuth P json m msg wire ≠ none) ↔
    ∀ deviceID pub sig, P.verify key (deviceCertBytes contactID deviceID pub) sig = true →
      m.isRevoked contactID deviceID = false → pub.length = publicKeySize := by
  constructor
  · rintro ⟨hreturns, -⟩ deviceID pub sig hsigned hvalid
    by_contra hsize
    -- whoever holds the signature presents the device
    let device : Device := { id := deviceID, name := "", publicKey := pub, certSig := sig
                             createdAt := 0, isRevoked := false, revokedAt := 0 }
    exact hreturns device [] []
      ((verifyInboundDevice_panics_iff hkey).mpr ⟨hvalid, hsigned, hsize⟩)
  · intro hsigned
    have hreturns : ∀ device payload sig,
        m.verifyInboundDevice P contactID device payload sig ≠ none := by
      intro device payload sig hpanic
      obtain ⟨hvalid, hcert, hsize⟩ := (verifyInboundDevice_panics_iff hkey).mp hpanic
      exact hsize (hsigned _ _ _ hcert hvalid)
    grind [validateInboundDeviceAuth_panics]

theorem deviceCertBytes_recut (identityID deviceID text : String) (pub : Bytes) :
    deviceCertBytes identityID deviceID (bytesOf text ++ 0 :: pub) =
      deviceCertBytes identityID (deviceID ++ "\x00" ++ text) pub := by
  have hzero : bytesOf "\x00" = [0] := by decide
  unfold deviceCertBytes
  simp [bytesOf_append, hzero]

end

def silentJSON : WireJSON := ⟨fun _ => .error "", fun _ => none, by simp⟩

/-- Nothing that Alice has signed when the laptop is revoked can be cut in two ways, so no device
makes the verifier panic. -/
theorem laptop_auth_returns : (aliceKnown laptopSigned).contactPublicKey aliceID = some aliceKey ∧
      ∀ device payload sig, (aliceKnown laptopSigned).verifyInboundDevice
        (aliceWorld laptopSigned) aliceID device payload sig ≠ none := by
  have hkey : (aliceKnown laptopSigned).contactPublicKey aliceID = some aliceKey := by
    decide
  have hid : IsIdentityID (aliceWorld laptopSigned) aliceID := aliceID_isIdentityID _
  refine ⟨hkey, ((device_auth_returns_iff silentJSON hkey).mpr ?_).1⟩
  intro deviceID pub sig hverify _
  have hmem : deviceCertBytes aliceID deviceID pub ∈ laptopSigned := by
    simpa [aliceWorld, samplePrimitives] using hverify
  simp only [laptopSigned, List.mem_cons, List.not_mem_nil, or_false] at hmem
  rcases hmem with hcard | hcert | hrevocation
  · obtain ⟨-, hcut⟩ := (labelled_key_eq_iff hid hid).mp hcard.symm
    rw [← (hcut.eq_of_no_zero (by decide) (by decide)).2]
    rfl
  · obtain ⟨-, hcut⟩ := (labelled_key_eq_iff hid hid).mp hcert.symm
    rw [← (hcut.eq_of_no_zero (by decide) (by decide)).2]
    rfl
  · exact absurd hrevocation (labelled_key_ne_revocation hid hid deviceID laptop.id pub 5)

def tablet : Device := sampleDevice "dev1_0009090909090909" (0 :: List.replicate 31 9)

/-- The tablet with the cut between its id and its key one byte further on. -/
def recutTablet : Device := sampleDevice (tablet.id ++ "\x00") (List.replicate 31 9)

def tabletSigned : List Bytes :=
  [contactCardSigningBytes (aliceCard "Alice"), deviceCertBytes aliceID tablet.id tablet.publicKey]

theorem tabletSigned_unforgeable :
    Unforgeable (aliceWorld tabletSigned) aliceID (fun name => name = "Alice") := by
  refine aliceWorld_unforgeable fun msg hmsg => .inl ?_
  simp only [tabletSigned, List.mem_cons, List.not_mem_nil, or_false] at hmsg
  rcases hmsg with rfl | rfl
  · exact ⟨.contactCard (aliceCard "Alice"), ⟨rfl, rfl, rfl⟩, rfl⟩
  · exact ⟨.deviceCert aliceID tablet.id tablet.publicKey, ⟨rfl, by decide, by decide⟩, rfl⟩

/-- A greeting under Alice's name, from whoever has seen the tablet's certificate. -/
def recutWire : WirePayload :=
  { newPlainWire (bytesOf "hi") with device := some recutTablet, deviceSig := [1] }

def recutMessage : InboundPrivateMessage :=
  { id := "m1", senderID := aliceID, recipient := "bob", payload := [1] }

def recutJSON : WireJSON := .only (wireAuth "m1" aliceID "bob" recutWire) recutWire

/-- Alice has signed cards and proper certificates only; the tablet's certificate, cut one byte
further on, makes the verifier panic. -/
theorem recut_tablet_panics :
    Unforgeable (aliceWorld tabletSigned) aliceID (fun name => name = "Alice") ∧
      (aliceKnown tabletSigned).contactPublicKey aliceID = some aliceKey ∧
      (aliceKnown tabletSigned).verifyInboundDevice (aliceWorld tabletSigned) aliceID recutTablet
        [2] [1] = none ∧
      validateInboundDeviceAuth (aliceWorld tabletSigned) recutJSON (aliceKnown tabletSigned)
        recutMessage recutWire = none := by
  have hkey : (aliceKnown tabletSigned).contactPublicKey aliceID = some aliceKey := by
    decide
  have hcert : deviceCertBytes aliceID recutTablet.id recutTablet.publicKey ∈ tabletSigned := by
    have hrecut := deviceCertBytes_recut aliceID tablet.id "" recutTablet.publicKey
    rw [show recutTablet.id = tablet.id ++ "\x00" ++ "" from by decide, ← hrecut]
    exact List.mem_cons_of_mem _ List.mem_cons_self
  have hpanic : (aliceKnown tabletSigned).verifyInboundDevice (aliceWorld tabletSigned) aliceID
      recutTablet [2] [1] = none :=
    (verifyInboundDevice_panics_iff hkey).mpr
      ⟨by decide, by simpa [aliceWorld, samplePrimitives] using hcert, by decide⟩
  refine ⟨tabletSigned_unforgeable, hkey, hpanic, ?_⟩
  have hmarshal : buildWireAuthPayload recutJSON "m1" aliceID "bob" recutWire = .ok [2] := by
    have hvalid : validateWirePayload recutWire = .ok () := by decide
    simp [buildWireAuthPayload, recutJSON, WireJSON.only, hvalid]
  unfold validateInboundDeviceAuth
  simp only [recutMessage, hmarshal]
  simp [recutWire, hpanic]

end Ardents.Messaging
