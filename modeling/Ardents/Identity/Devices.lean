import Ardents.Identity.Keys
import Ardents.Identity.Revocation

/-!
# One's own devices

The first device has the key of the identity. Every other device has a key derived from it at an
index, for which `AddDevice` takes one more than the number of devices. So a new device is new as
long as no device ever goes away.
-/

namespace Ardents.Identity

open Go
open Crypto (Time)

section

variable (P : Primitives) (G : KeyGen)

namespace Manager

/-- What `AddDevice` returns. -/
def addedDevice (m : Manager) (name : String) (now : Time) : Device :=
  let name := if trimSpace name = "" then "device" else trimSpace name
  let seed := G.deriveDeviceSeed (m.selfPriv.take 32) (m.devices.size + 1)
  (m.deviceWithKey P name (newKeyFromSeed G seed) now).model

/-- `ActiveDeviceAuth`: the device and its signature. -/
def activeDeviceAuth (m : Manager) (payload : Bytes) : Except IdentityError (Device × Bytes) :=
  match m.devices[m.activeDeviceID]? with
  | none => .error .deviceNotFound
  | some d =>
    if d.model.isRevoked then .error .deviceRevoked
    else .ok (d.model, P.sign d.priv payload)

def withIdentityOf (m into : Manager) : Manager :=
  { into with
    identityID := m.identityID, signingPublicKey := m.signingPublicKey, selfPriv := m.selfPriv }

/-- A device as `RevokeDevice` leaves it. -/
def markRevoked (d : DevicePrivate) (now : Time) : DevicePrivate :=
  { d with model := { d.model with isRevoked := true, revokedAt := now } }

def OwnRevoked (m : Manager) (deviceID : String) : Prop :=
  ∃ d, m.devices[deviceID]? = some d ∧ d.model.isRevoked = true

def Initialised (m : Manager) : Prop :=
  ∃ (before : Manager) (id : String) (priv : Bytes) (now : Time),
    priv.length = privateKeySize ∧ m = before.startOver P G id priv now

end Manager

inductive DeviceCall where
  | addDevice (name : String) (now : Time)
  | revokeDevice (deviceID : String) (now : Time)
  /-- The state is written out and read back into a manager of the same identity. -/
  | roundTrip (into : Manager) (first : String)

variable {ι : Type} (codec : RuntimeCodec ι)

def DeviceCall.apply (m : Manager) : DeviceCall → Manager
  | .addDevice name now => m.addDevice P G name now
  | .revokeDevice deviceID now =>
    match m.revokeDevice P deviceID now with
    | .error _ => m
    | .ok (_, m) => m
  | .roundTrip into first =>
    ((m.withIdentityOf into).restoreRuntimeStateJSON codec
      (m.snapshotRuntimeStateJSON codec) first).getD m

def added (calls : List DeviceCall) : Nat :=
  calls.countP fun call => match call with
    | .addDevice _ _ => true
    | _ => false

/-! ## Indexes -/

/-- The seed of the device with this index; the first device has the identity's own. -/
def deviceSeed (master : Bytes) (index : Nat) : Bytes :=
  if index = 1 then master else G.deriveDeviceSeed master index

def deviceIDAt (master : Bytes) (index : Nat) : String :=
  deviceIDFromPub P (G.publicOf (deviceSeed G master index))

/-- Up to the index `last`, the derived seeds differ from each other and from the master seed, and
two of these seeds have different device ids. -/
structure SeedsDistinct (master : Bytes) (last : Nat) : Prop where
  derived : ∀ i j, 1 < i → i ≤ last → 1 < j → j ≤ last →
    G.deriveDeviceSeed master i = G.deriveDeviceSeed master j → i = j
  fromMaster : ∀ i, 1 < i → i ≤ last → G.deriveDeviceSeed master i ≠ master
  ids : ∀ i j, 1 ≤ i → i ≤ last → 1 ≤ j → j ≤ last →
    deviceIDAt P G master i = deviceIDAt P G master j →
      deviceSeed G master i = deviceSeed G master j

end

open Manager

section

variable {P : Primitives} {G : KeyGen} {master : Bytes} {last : Nat}

theorem SeedsDistinct.index_eq (h : SeedsDistinct P G master last) {i j : Nat} (hi : 1 ≤ i)
    (hi' : i ≤ last) (hj : 1 ≤ j) (hj' : j ≤ last)
    (heq : deviceIDAt P G master i = deviceIDAt P G master j) : i = j := by
  grind [cases SeedsDistinct, deviceSeed]

theorem deviceIDAt_ne_empty (master : Bytes) (index : Nat) : deviceIDAt P G master index ≠ "" := by
  have hdevice : IsDevice P ⟨deviceIDAt P G master index, "",
    G.publicOf (deviceSeed G master index), [], 0, false, 0⟩ := ⟨rfl, G.publicOf_length _⟩
  exact hdevice.id_ne_empty

theorem publicHalf_newKeyFromSeed {seed : Bytes} (h : seed.length = 32) :
    publicHalf (newKeyFromSeed G seed) = G.publicOf seed := by
  unfold publicHalf newKeyFromSeed
  rw [← h, List.drop_left]

/-! ## The devices are those of the first indexes -/

/-- The devices are those of the indexes from one to their number, each filed under its id with a
key of the right size. -/
structure Numbered (P : Primitives) (G : KeyGen) (master : Bytes) (m : Manager) : Prop where
  seed_eq : m.selfPriv.take 32 = master
  seed_length : master.length = 32
  some_device : 1 ≤ m.devices.size
  indexes : ∀ id, id ∈ m.devices ↔ ∃ i, 1 ≤ i ∧ i ≤ m.devices.size ∧ id = deviceIDAt P G master i
  filed : ∀ (id : String) (d : DevicePrivate), m.devices[id]? = some d →
    d.model.id = id ∧ d.priv.length = privateKeySize

variable {ι : Type} (codec : RuntimeCodec ι) {m : Manager}

theorem numbered_startOver (before : Manager) (id : String) {priv : Bytes}
    (h : priv.length = privateKeySize) (now : Time) :
    Numbered P G (priv.take 32) (before.startOver P G id priv now) ∧
      (before.startOver P G id priv now).devices.size = 1 := by
  have hlength : (priv.take 32).length = 32 := by
    rw [List.length_take, h]
    rfl
  obtain ⟨d, hdevices, hid, hpriv⟩ : ∃ d : DevicePrivate,
      (before.startOver P G id priv now).devices =
        (∅ : GoMap String DevicePrivate).insert d.model.id d ∧
      d.model.id = deviceIDAt P G (priv.take 32) 1 ∧ d.priv.length = privateKeySize := by
    refine ⟨_, rfl, ?_, newKeyFromSeed_length hlength⟩
    simp only [deviceWithKey, deviceIDAt, deviceSeed, if_true,
      publicHalf_newKeyFromSeed hlength]
  have hsize : (before.startOver P G id priv now).devices.size = 1 := by
    rfl
  refine ⟨⟨rfl, hlength, hsize.ge, ?_, ?_⟩, hsize⟩
  · grind
  · intro x d' hd'
    rw [hdevices, get_insert] at hd'
    split at hd'
    · rename_i hx
      cases hd'
      exact ⟨hx, hpriv⟩
    · simp at hd'

theorem Numbered.roundTrip_devices (h : Numbered P G master m) (into : Manager) (first : String) :
    ((DeviceCall.roundTrip into first).apply P G codec m).devices = m.devices := by
  have hloop : ((DeviceCall.roundTrip into first).apply P G codec m).devices =
      (m.devices.toList.map Prod.snd).foldl (fun devices (d : DevicePrivate) =>
        if d.model.id = "" ∨ d.priv.length ≠ privateKeySize then devices
        else devices.insert d.model.id d) ∅ := by
    simp only [DeviceCall.apply, restoreRuntimeStateJSON_snapshot, Option.getD_some]
    rfl
  rw [hloop, List.foldl_map]
  refine foldl_rebuild fun out id d hd => ?_
  obtain ⟨hid, hlength⟩ := h.filed id d hd
  obtain ⟨i, -, -, hi⟩ := (h.indexes id).mp (mem_iff_get.mpr ⟨d, hd⟩)
  have hne : id ≠ "" := hi ▸ deviceIDAt_ne_empty master i
  rw [if_neg (by simp [hid, hne, hlength]), hid]

theorem apply_revokeDevice (P : Primitives) (G : KeyGen) (m : Manager) (deviceID : String)
    (now : Time) : (DeviceCall.revokeDevice deviceID now).apply P G codec m = m ∨
      ∃ d, m.devices[deviceID]? = some d ∧
        (DeviceCall.revokeDevice deviceID now).apply P G codec m =
          { m with devices := m.devices.insert deviceID (markRevoked d now) } := by
  grind [DeviceCall.apply, revokeDevice, markRevoked]

theorem Numbered.apply_cases (h : Numbered P G master m) (call : DeviceCall) :
    (call.apply P G codec m).selfPriv = m.selfPriv ∧
    ((∃ name now, ∃ d : DevicePrivate, call = .addDevice name now ∧
        d.model = m.addedDevice P G name now ∧
        d.model.id = deviceIDAt P G master (m.devices.size + 1) ∧ d.priv.length = privateKeySize ∧
        (call.apply P G codec m).devices = m.devices.insert d.model.id d) ∨
      (∃ (id : String) (d : DevicePrivate) (now : Time), added [call] = 0 ∧
        m.devices[id]? = some d ∧
        (call.apply P G codec m).devices = m.devices.insert id (markRevoked d now)) ∨
      (added [call] = 0 ∧ (call.apply P G codec m).devices = m.devices)) := by
  cases call with
  | addDevice name now =>
    have hlength := G.deriveDeviceSeed_length master (m.devices.size + 1)
    have hone : ¬ m.devices.size + 1 = 1 := by
      have hsome := h.some_device
      omega
    refine ⟨rfl, .inl ⟨name, now, _, rfl, rfl, ?_, ?_, rfl⟩⟩
    · simp only [deviceWithKey, deviceIDAt, deviceSeed, h.seed_eq, if_neg hone,
        publicHalf_newKeyFromSeed hlength]
    · simp only [deviceWithKey, h.seed_eq]
      exact newKeyFromSeed_length hlength
  | revokeDevice deviceID now =>
    rcases apply_revokeDevice codec P G m deviceID now with heq | ⟨d, hd, heq⟩
    · rw [heq]
      exact ⟨rfl, .inr (.inr ⟨rfl, rfl⟩)⟩
    · rw [heq]
      exact ⟨rfl, .inr (.inl ⟨deviceID, d, now, rfl, hd, rfl⟩)⟩
  | roundTrip into first =>
    refine ⟨?_, .inr (.inr ⟨rfl, h.roundTrip_devices codec into first⟩)⟩
    simp only [DeviceCall.apply, restoreRuntimeStateJSON_snapshot, Option.getD_some]
    rfl

theorem added_cons (call : DeviceCall) (calls : List DeviceCall) :
    added (call :: calls) = added [call] + added calls := by
  unfold added
  rw [← List.countP_append]
  rfl

theorem Numbered.next_not_mem (h : Numbered P G master m) (hs : SeedsDistinct P G master last)
    (hlast : m.devices.size + 1 ≤ last) :
    deviceIDAt P G master (m.devices.size + 1) ∉ m.devices := by
  intro hmem
  obtain ⟨i, hi, hi', heq⟩ := (h.indexes _).mp hmem
  have hindex := hs.index_eq (by omega) hlast hi (by omega) heq
  omega

theorem Numbered.step (h : Numbered P G master m) (hs : SeedsDistinct P G master last)
    (call : DeviceCall) (hlast : m.devices.size + added [call] ≤ last) :
    Numbered P G master (call.apply P G codec m) ∧
      (call.apply P G codec m).devices.size = m.devices.size + added [call] := by
  have hseed := h.seed_eq
  obtain ⟨hpriv, hcases⟩ := h.apply_cases codec call
  rcases hcases with ⟨name, now, d, rfl, -, hid, hlength, hdevices⟩ |
    ⟨id, d, now, hadded, hd, hdevices⟩ | ⟨hadded, hdevices⟩
  · -- the new device takes the index one past the last
    have hnew := h.next_not_mem hs hlast
    have hsize : (m.devices.insert d.model.id d).size = m.devices.size + 1 := by
      rw [Std.ExtTreeMap.size_insert, if_neg (hid ▸ hnew)]
    refine ⟨⟨hpriv ▸ hseed, h.seed_length, ?_, ?_, ?_⟩, hdevices ▸ hsize⟩
    · rw [hdevices, hsize]
      exact Nat.le_add_left 1 _
    · grind [cases Numbered]
    · intro x e he
      rw [hdevices, get_insert] at he
      split at he
      · rename_i hx
        cases he
        exact ⟨hx, hlength⟩
      · exact h.filed x e he
  · -- a device that is there is written again
    have hmem : id ∈ m.devices := mem_iff_get.mpr ⟨d, hd⟩
    have hsize : (call.apply P G codec m).devices.size = m.devices.size := by
      rw [hdevices, Std.ExtTreeMap.size_insert, if_pos (Std.ExtTreeMap.contains_iff_mem.mpr hmem)]
    refine ⟨⟨hpriv ▸ hseed, h.seed_length, hsize ▸ h.some_device, ?_, ?_⟩, by omega⟩
    · intro x
      rw [hsize, hdevices, Std.ExtTreeMap.mem_insert, compare_eq_iff_eq, ← h.indexes]
      constructor
      · rintro (rfl | hx)
        · exact hmem
        · exact hx
      · exact .inr
    · intro x e he
      rw [hdevices, get_insert] at he
      split at he
      · rename_i hx
        cases he
        obtain ⟨hfiled, hlength⟩ := h.filed id d hd
        exact ⟨hx ▸ hfiled, hlength⟩
      · exact h.filed x e he
  · rw [hadded, Nat.add_zero, hdevices]
    exact ⟨⟨hpriv ▸ hseed, h.seed_length, hdevices ▸ h.some_device, hdevices ▸ h.indexes,
      hdevices ▸ h.filed⟩, rfl⟩

theorem Numbered.run (h : Numbered P G master m) (hs : SeedsDistinct P G master last)
    (calls : List DeviceCall) (hlast : m.devices.size + added calls ≤ last) :
    Numbered P G master (run (DeviceCall.apply P G codec) m calls) ∧
      (run (DeviceCall.apply P G codec) m calls).devices.size = m.devices.size + added calls := by
  induction calls generalizing m with
  | nil => exact ⟨h, rfl⟩
  | cons call calls ih =>
    rw [added_cons] at hlast ⊢
    obtain ⟨hnext, hsize⟩ := h.step codec hs call (by omega)
    obtain ⟨hend, hsize'⟩ := ih hnext (by omega)
    exact ⟨hend, by rw [run_cons]; omega⟩

/-! ## Devices stay, and stay revoked -/

def DevicesStay (m m' : Manager) : Prop :=
  ∀ (id : String) (d : DevicePrivate), m.devices[id]? = some d →
    ∃ d', m'.devices[id]? = some d' ∧ (d.model.isRevoked = true → d'.model.isRevoked = true)

theorem DevicesStay.trans {m m' m'' : Manager} (h : DevicesStay m m') (h' : DevicesStay m' m'') :
    DevicesStay m m'' := by
  intro id d hd
  obtain ⟨d', hd', hrevoked⟩ := h id d hd
  obtain ⟨d'', hd'', hrevoked'⟩ := h' id d' hd'
  exact ⟨d'', hd'', fun hr => hrevoked' (hrevoked hr)⟩

theorem Numbered.devicesStay (h : Numbered P G master m) (hs : SeedsDistinct P G master last)
    (call : DeviceCall) (hlast : m.devices.size + added [call] ≤ last) :
    DevicesStay m (call.apply P G codec m) := by
  intro x e he
  obtain ⟨-, hcases⟩ := h.apply_cases codec call
  rcases hcases with ⟨name, now, d, rfl, -, hid, -, hdevices⟩ | ⟨id, d, now, -, hd, hdevices⟩ |
    ⟨-, hdevices⟩
  · have hne : d.model.id ≠ x := by
      rintro rfl
      exact h.next_not_mem hs hlast (hid ▸ mem_iff_get.mpr ⟨e, he⟩)
    rw [hdevices, get_insert, if_neg hne]
    exact ⟨e, he, id⟩
  · rw [hdevices, get_insert]
    by_cases hx : id = x
    · rw [if_pos hx]
      exact ⟨_, rfl, fun _ => rfl⟩
    · simp_all
  · rw [hdevices]
    exact ⟨e, he, id⟩

theorem Numbered.devicesStay_run (h : Numbered P G master m) (hs : SeedsDistinct P G master last)
    (calls : List DeviceCall) (hlast : m.devices.size + added calls ≤ last) :
    DevicesStay m (Go.run (DeviceCall.apply P G codec) m calls) := by
  induction calls generalizing m with
  | nil => exact fun id d hd => ⟨d, hd, fun hr => hr⟩
  | cons call calls ih =>
    rw [added_cons] at hlast
    obtain ⟨hnext, hsize⟩ := h.step codec hs call (by omega)
    have hone := h.devicesStay codec hs call (by omega)
    exact hone.trans (ih hnext (by omega))

theorem activeDeviceAuth_ok {payload sig : Bytes} {device : Device} (h : Numbered P G master m)
    (hok : m.activeDeviceAuth P payload = .ok (device, sig)) :
    device.id ∈ m.devices ∧ ¬ m.OwnRevoked device.id := by
  unfold activeDeviceAuth at hok
  split at hok
  · cases hok
  · rename_i d hd
    split at hok
    · cases hok
    · rename_i hrevoked
      cases hok
      rw [(h.filed _ d hd).1]
      refine ⟨mem_iff_get.mpr ⟨d, hd⟩, ?_⟩
      rintro ⟨d', hd', hrevoked'⟩
      simp_all

end

/-- At any two points of a run of an initialised manager: a device added at the later point has an
id that no device of the earlier one has, a device revoked at the earlier point is revoked at the
later one, and a device that signs at the later point is revoked at neither. -/
theorem own_devices_kept (P : Primitives) (G : KeyGen) {ι : Type} (codec : RuntimeCodec ι)
    (start : Manager) (hstart : start.Initialised P G) (calls : List DeviceCall)
    (hseeds : SeedsDistinct P G (start.selfPriv.take 32) (added calls + 1))
    (before between after : List DeviceCall) (hcalls : calls = before ++ between ++ after) :
    let s := run (DeviceCall.apply P G codec) start before
    let t := run (DeviceCall.apply P G codec) s between
    (∀ name now rest, after = .addDevice name now :: rest →
      (t.addedDevice P G name now).id ∉ s.devices ∧ (t.addedDevice P G name now).id ∉ t.devices ∧
        (t.addedDevice P G name now).id ∈ (t.addDevice P G name now).devices) ∧
    (∀ id, s.OwnRevoked id → t.OwnRevoked id) ∧
    ∀ payload device sig, t.activeDeviceAuth P payload = .ok (device, sig) →
      ¬ t.OwnRevoked device.id ∧ ¬ s.OwnRevoked device.id := by
  intro s t
  obtain ⟨old, id, priv, now, hlength, rfl⟩ := hstart
  have hadded : added calls = added before + added between + added after := by
    rw [hcalls]
    unfold added
    rw [List.countP_append, List.countP_append]
  obtain ⟨hfirst, hone⟩ := numbered_startOver (P := P) (G := G) old id hlength now
  obtain ⟨hs, hsize⟩ := hfirst.run codec hseeds before (by omega)
  obtain ⟨ht, hsize'⟩ := hs.run codec hseeds between (by omega)
  have hstay := hs.devicesStay_run codec hseeds between (by omega)
  have hsize : t.devices.size = 1 + added before + added between := by
    rw [← hone, ← hsize]
    exact hsize'
  have hrevoked : ∀ id, s.OwnRevoked id → t.OwnRevoked id := by
    rintro id ⟨d, hd, hr⟩
    obtain ⟨d', hd', hr'⟩ := hstay id d hd
    exact ⟨d', hd', hr' hr⟩
  refine ⟨?_, hrevoked, ?_⟩
  · rintro name now' rest rfl
    have hroom : t.devices.size + 1 ≤ added calls + 1 := by
      grind [added]
    obtain ⟨-, hcases⟩ := ht.apply_cases codec (.addDevice name now')
    obtain ⟨name', now'', d, heq, hd, hid, -, hdevices⟩ | ⟨_, _, _, hno, -⟩ | ⟨hno, -⟩ := hcases
    · cases heq
      have hnew : (t.addedDevice P G name now').id ∉ t.devices := by
        rw [← hd, hid]
        exact ht.next_not_mem hseeds hroom
      refine ⟨?_, hnew, ?_⟩
      · -- a device of the earlier point would still be there
        intro hmem
        obtain ⟨e, he⟩ := mem_iff_get.mp hmem
        obtain ⟨e', he', -⟩ := hstay _ e he
        exact hnew (mem_iff_get.mpr ⟨e', he'⟩)
      · have hput : (t.addDevice P G name now').devices = t.devices.insert d.model.id d := hdevices
        rw [hput, ← hd]
        exact Std.ExtTreeMap.mem_insert_self
    · cases hno
    · cases hno
  · intro payload device sig hok
    obtain ⟨-, hnot⟩ := activeDeviceAuth_ok ht hok
    exact ⟨hnot, fun hr => hnot (hrevoked _ hr)⟩

/-- Keys whose public half is the seed, and derived seeds that begin with their index. -/
def indexKeyGen : KeyGen where
  publicOf seed := (seed ++ List.replicate 32 0).take 32
  deriveDeviceSeed _ index := UInt8.ofNat index :: List.replicate 31 3
  signingSeed _ := List.replicate 32 5
  publicOf_length seed := by simp [publicKeySize]
  deriveDeviceSeed_length _ _ := rfl
  signingSeed_length := sampleKeyGen.signingSeed_length

def sevens : Manager :=
  Manager.startOver (samplePrimitives fun _ _ _ => true) indexKeyGen strangers "aim1sevens"
    (List.replicate 64 7) 1

/-- Two devices are added; between the two, the first device is revoked and the state reloaded. -/
def laptopThenPhone : List DeviceCall :=
  [.addDevice "laptop" 2, .revokeDevice "dev1_0707070707070707" 3, .roundTrip strangers "",
    .addDevice "phone" 4]

theorem sevens_distinct : SeedsDistinct (samplePrimitives fun _ _ _ => true) indexKeyGen
    (sevens.selfPriv.take 32) (added laptopThenPhone + 1) where
  derived i j hi hi' hj hj' heq := by
    have hbyte := (List.cons.inj heq).1
    have hlast : added laptopThenPhone + 1 = 3 := rfl
    rw [hlast] at hi' hj'
    interval_cases i <;> interval_cases j <;> revert hbyte <;> decide
  fromMaster i hi hi' := by
    have hlast : added laptopThenPhone + 1 = 3 := rfl
    rw [hlast] at hi'
    interval_cases i <;> decide
  ids i j hi hi' hj hj' heq := by
    have hlast : added laptopThenPhone + 1 = 3 := rfl
    rw [hlast] at hi' hj'
    interval_cases i <;> interval_cases j <;> revert heq <;> decide

/-- The laptop is added and the first device revoked; after a reload the phone gets a new id, and
the revoked device is still revoked. -/
theorem phone_is_new :
    let P := samplePrimitives fun _ _ _ => true
    let s := run (DeviceCall.apply P indexKeyGen sampleCodec) sevens
      [.addDevice "laptop" 2, .revokeDevice "dev1_0707070707070707" 3]
    let t := run (DeviceCall.apply P indexKeyGen sampleCodec) s [.roundTrip strangers ""]
    (t.addedDevice P indexKeyGen "phone" 4).id ∉ s.devices ∧
      s.OwnRevoked "dev1_0707070707070707" ∧ t.OwnRevoked "dev1_0707070707070707" := by
  intro P s t
  have hkept := own_devices_kept (samplePrimitives fun _ _ _ => true) indexKeyGen sampleCodec
    sevens ⟨strangers, "aim1sevens", List.replicate 64 7, 1, rfl, rfl⟩ laptopThenPhone
    sevens_distinct [.addDevice "laptop" 2, .revokeDevice "dev1_0707070707070707" 3]
    [.roundTrip strangers ""] [.addDevice "phone" 4] rfl
  have hrevoked : (s.devices["dev1_0707070707070707"]?).map (·.model.isRevoked) = some true := by
    decide +kernel
  have hown : s.OwnRevoked "dev1_0707070707070707" := Option.map_eq_some_iff.mp hrevoked
  exact ⟨(hkept.1 "phone" 4 [] rfl).1, hown, hkept.2.1 _ hown⟩

end Ardents.Identity
