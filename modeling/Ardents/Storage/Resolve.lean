import Ardents.Go.Text

/-!
# Finding the storage secret

`ResolveStorage` decides which secret opens the stores of a data directory: the one in the
environment, the one in `storage.key`, a new one, or the legacy secret. A secret that is new to
the directory is written to `storage.key` before the stores have been opened with it, and where
they do not open the file is left as it is.
-/

namespace Ardents.Storage

open Go

structure Environment where
  /-- `AIM_STORAGE_PASSPHRASE` -/
  storagePassphrase : Bytes
  /-- `AIM_LEGACY_STORAGE_PASSPHRASE` -/
  legacyStoragePassphrase : Bytes
  /-- `AIM_STORAGE_KEY_WRAPPED` -/
  storageKeyWrapped : Bytes
  /-- `AIM_ENV` -/
  aimEnv : Bytes

structure FileInfo where
  isDir : Bool
  size : Nat

/-- What becomes of `storage.key`. `os.WriteFile` truncates the file before it writes. -/
inductive WriteResult where
  /-- Making the directory or opening the file failed. -/
  | refused
  /-- Writing failed after so many bytes. -/
  | cutOff (n : Nat)
  | written
  deriving DecidableEq

inductive BundleError where
  | authFailed
  | other (text : String)
  deriving DecidableEq

/-- A data directory and what is around it; `β` are the bundles of stores. -/
structure World (β : Type) where
  env : Environment
  stat : String → Option FileInfo
  /-- The content of `storage.key`. -/
  key : Option Bytes
  /-- Reading `storage.key` fails, and not because there is none. -/
  readFails : Bool
  /-- What `rand.Read` gives. -/
  random : Option Bytes
  write : Bytes → WriteResult
  buildStorageBundle : Bytes → Except BundleError β

inductive StorageError where
  | insecureStorageKeyMode
  | legacyStorageSecretRequired
  | read
  | random
  | write
  /-- The bundle did not open, and there is no other secret to try. -/
  | authFailed
  | bundle (err : BundleError)
  deriving DecidableEq

/-! ## The policy for key files -/

def isProductionEnv (env : Environment) : Bool :=
  let v := toLowerBytes (trimSpaceBytes env.aimEnv)
  v = bytesOf "prod" || v = bytesOf "production"

/-- `parseBoolEnv`: is the variable set to true? -/
def parseBoolEnv (value : Bytes) : Bool :=
  let v := toLowerBytes (trimSpaceBytes value)
  v = bytesOf "1" || v = bytesOf "true" || v = bytesOf "yes" || v = bytesOf "on"

inductive KeySource where
  | file
  | autoGenerate
  | writeFile
  deriving DecidableEq

def enforceStorageKeyPolicy (env : Environment) (source : KeySource) : Except StorageError Unit :=
  if ¬ isProductionEnv env then .ok ()
  else if source = .autoGenerate then .error .insecureStorageKeyMode
  else if parseBoolEnv env.storageKeyWrapped then .ok ()
  else .error .insecureStorageKeyMode

def legacyMigrationSecret (env : Environment) : Bytes := trimSpaceBytes env.legacyStoragePassphrase

/-! ## Resolving -/

section

variable {β : Type} (w : World β)

def hasLegacyPersistentData : Bool :=
  ["messages.json", "sessions.json", "identity.enc", "privacy.enc", "blocklist.enc",
    "attachments/index.json"].any fun path =>
      match w.stat path with
      | none => false
      | some info => !info.isDir && 0 < info.size

/-- Each function returns `storage.key` as it leaves it. -/
abbrev Outcome (α : Type) : Type := Except StorageError α × Option Bytes

def writeStorageKey (key : Option Bytes) (secret : Bytes) : Outcome Unit :=
  match enforceStorageKeyPolicy w.env .writeFile with
  | .error e => (.error e, key)
  | .ok () =>
    match w.write secret with
    | .refused => (.error .write, key)
    | .cutOff n => (.error .write, some (secret.take n))
    | .written => (.ok (), some secret)

/-- The end of `StoragePassphrase`, where no secret has been found. -/
def generateSecret : Outcome Bytes :=
  match enforceStorageKeyPolicy w.env .autoGenerate with
  | .error e => (.error e, w.key)
  | .ok () =>
    if hasLegacyPersistentData w then (.error .legacyStorageSecretRequired, w.key)
    else
      match w.random with
      | none => (.error .random, w.key)
      | some buf =>
        match writeStorageKey w w.key (base64RawEncode buf) with
        | (.error e, key) => (.error e, key)
        | (.ok (), key) => (.ok (base64RawEncode buf), key)

/-- The secret in `storage.key`; empty where there is none. -/
def storedSecret : Bytes := trimSpaceBytes (w.key.getD [])

def storagePassphrase : Outcome Bytes :=
  let secret := trimSpaceBytes w.env.storagePassphrase
  if secret ≠ [] then (.ok secret, w.key)
  else if w.readFails then (.error .read, w.key)
  else if storedSecret w ≠ [] then
    match enforceStorageKeyPolicy w.env .file with
    | .error e => (.error e, w.key)
    | .ok () => (.ok (storedSecret w), w.key)
  else generateSecret w

/-- The second half of `ResolveStorage`: open the stores, with the legacy secret if need be. -/
def openStorage (dir : String) (secret : Bytes) (key : Option Bytes) :
    Outcome (String × Bytes × β) :=
  match w.buildStorageBundle secret with
  | .ok bundle => (.ok (dir, secret, bundle), key)
  | .error (.other text) => (.error (.bundle (.other text)), key)
  | .error .authFailed =>
    let legacySecret := legacyMigrationSecret w.env
    if legacySecret = [] ∨ legacySecret = secret then (.error .authFailed, key)
    else
      match writeStorageKey w key legacySecret with
      | (.error e, key) => (.error e, key)
      | (.ok (), key) =>
        match w.buildStorageBundle legacySecret with
        | .ok bundle => (.ok (dir, legacySecret, bundle), key)
        | .error e => (.error (.bundle e), key)

def resolveStorage (dataDir : String) : Outcome (String × Bytes × β) :=
  let dir := if trimSpace dataDir = "" then "go-backend/data" else trimSpace dataDir
  match storagePassphrase w with
  | (.ok secret, key) => openStorage w dir secret key
  | (.error e, key) =>
    if e ≠ .legacyStorageSecretRequired then (.error e, key)
    else
      let secret := legacyMigrationSecret w.env
      if secret = [] then (.error e, key)
      else
        match writeStorageKey w key secret with
        | (.error e, key) => (.error e, key)
        | (.ok (), key) => openStorage w dir secret key

/-! ## What a failed call leaves in `storage.key` -/

def KeepsKey {α : Type} (before : Option Bytes) (r : Outcome α) : Prop :=
  ∀ e, r.1 = .error e → r.2 = before

@[simp] theorem keepsKey_error {α : Type} {before key : Option Bytes} {e : StorageError} :
    KeepsKey before ((.error e, key) : Outcome α) ↔ key = before :=
  ⟨fun h => h e rfl, fun h _ _ => h⟩

@[simp] theorem keepsKey_ok {α : Type} {before key : Option Bytes} {a : α} :
    KeepsKey before ((.ok a, key) : Outcome α) :=
  fun _ h => absurd h (by simp)

def Opens (secret : Bytes) : Prop := ∃ bundle, w.buildStorageBundle secret = .ok bundle

/-- Writing this secret leaves other bytes than before, and no store that opens. -/
def Replaces (before : Option Bytes) (secret : Bytes) : Prop :=
  match w.write secret with
  | .refused => False
  | .cutOff n => some (secret.take n) ≠ before
  | .written => ¬ Opens w secret ∧ some secret ≠ before

/-- The stores do not authenticate with `secret`, and there is a legacy secret to try, which may be
written. -/
def Migrates (secret : Bytes) : Prop :=
  w.buildStorageBundle secret = .error .authFailed ∧ legacyMigrationSecret w.env ≠ [] ∧
    legacyMigrationSecret w.env ≠ secret ∧ enforceStorageKeyPolicy w.env .writeFile = .ok ()

variable {w}

variable {secret : Bytes}

theorem writeStorageKey_of_policy {key : Option Bytes}
    (h : enforceStorageKeyPolicy w.env .writeFile = .ok ()) : writeStorageKey w key secret =
      match w.write secret with
      | .refused => (.error .write, key)
      | .cutOff n => (.error .write, some (secret.take n))
      | .written => (.ok (), some secret) := by
  unfold writeStorageKey
  rw [h]

theorem openStorage_of_opens {dir : String} {key before : Option Bytes}
    (h : Opens w secret) : KeepsKey before (openStorage w dir secret key) := by
  obtain ⟨bundle, hbundle⟩ := h
  unfold openStorage
  rw [hbundle]
  exact keepsKey_ok

theorem openStorage_of_not_migrates {dir : String} {key before : Option Bytes}
    (hopens : ¬ Opens w secret) (h : ¬ Migrates w secret) :
    KeepsKey before (openStorage w dir secret key) ↔ key = before := by
  unfold openStorage
  cases hbuild : w.buildStorageBundle secret with
  | ok bundle => exact absurd ⟨bundle, hbuild⟩ hopens
  | error e =>
    cases e with
    | other text => exact keepsKey_error
    | authFailed =>
      dsimp only
      split
      · exact keepsKey_error
      · rename_i hlegacy
        obtain ⟨hne, hdiff⟩ := not_or.mp hlegacy
        -- the policy is all that is left to stop the migration
        unfold writeStorageKey
        cases hpolicy : enforceStorageKeyPolicy w.env .writeFile with
        | ok u => exact absurd ⟨hbuild, hne, hdiff, hpolicy⟩ h
        | error e => exact keepsKey_error

theorem openStorage_of_migrates {dir : String} {key before : Option Bytes} (h : Migrates w secret) :
    KeepsKey before (openStorage w dir secret key) ↔
      (w.write (legacyMigrationSecret w.env) = .refused → key = before) ∧
        ¬ Replaces w before (legacyMigrationSecret w.env) := by
  obtain ⟨hbuild, hne, hdiff, hpolicy⟩ := h
  unfold openStorage Replaces
  rw [hbuild]
  rw [if_neg (not_or.mpr ⟨hne, hdiff⟩), writeStorageKey_of_policy hpolicy]
  cases hwrite : w.write (legacyMigrationSecret w.env) with
  | refused | cutOff => simp
  | written =>
    cases hlegacy : w.buildStorageBundle (legacyMigrationSecret w.env) with
    | ok | error => simp [Opens, hlegacy]

/-! ## When the key is lost -/

variable (w)

/-- Neither the environment nor `storage.key` has a secret, and one may be generated. -/
def NoSecret : Prop :=
  trimSpaceBytes w.env.storagePassphrase = [] ∧ w.readFails = false ∧ storedSecret w = [] ∧
    isProductionEnv w.env = false

/-- The secret that is there: the one in the environment, or else the one in `storage.key`. -/
def IsSecret (secret : Bytes) : Prop :=
  secret ≠ [] ∧ (secret = trimSpaceBytes w.env.storagePassphrase ∨
    (trimSpaceBytes w.env.storagePassphrase = [] ∧ w.readFails = false ∧ secret = storedSecret w ∧
      enforceStorageKeyPolicy w.env .file = .ok ()))

/-- A secret is written, and the stores open neither with it nor with the legacy secret. -/
def WrittenLost (secret : Bytes) : Prop :=
  match w.write secret with
  | .refused => False
  | .cutOff n => some (secret.take n) ≠ w.key
  | .written => ¬ Opens w secret ∧
      ((Migrates w secret ∧ w.write (legacyMigrationSecret w.env) ≠ .refused ∧
          Replaces w w.key (legacyMigrationSecret w.env)) ∨
        (¬ (Migrates w secret ∧ w.write (legacyMigrationSecret w.env) ≠ .refused) ∧
          some secret ≠ w.key))

/-- The ways to lose the key: for the legacy secret, where the stores do not authenticate with the
secret that is there; for the legacy secret, where there is old data and no secret; for a new
secret. -/
def KeyReplaced : Prop :=
  (∃ secret, IsSecret w secret ∧ Migrates w secret ∧
      Replaces w w.key (legacyMigrationSecret w.env)) ∨
    (NoSecret w ∧ hasLegacyPersistentData w = true ∧ legacyMigrationSecret w.env ≠ [] ∧
      Replaces w w.key (legacyMigrationSecret w.env)) ∨
    (NoSecret w ∧ hasLegacyPersistentData w = false ∧
      ∃ buf ∈ w.random, WrittenLost w (base64RawEncode buf))

variable {w}

theorem isSecret_of_given (h : trimSpaceBytes w.env.storagePassphrase ≠ []) {s : Bytes} :
    IsSecret w s ↔ s = trimSpaceBytes w.env.storagePassphrase := by
  constructor
  · rintro ⟨-, hs | ⟨hempty, -⟩⟩
    · exact hs
    · exact absurd hempty h
  · rintro rfl
    exact ⟨h, .inl rfl⟩

theorem isSecret_of_not_given (h : trimSpaceBytes w.env.storagePassphrase = []) {s : Bytes} :
    IsSecret w s ↔ s ≠ [] ∧ w.readFails = false ∧ s = storedSecret w ∧
      enforceStorageKeyPolicy w.env .file = .ok () := by
  constructor
  · rintro ⟨hne, hs | ⟨-, hstored⟩⟩
    · exact absurd (hs.trans h) hne
    · exact ⟨hne, hstored⟩
  · rintro ⟨hne, hstored⟩
    exact ⟨hne, .inr ⟨h, hstored⟩⟩

theorem enforceStorageKeyPolicy_error {env : Environment} {source : KeySource} {e : StorageError}
    (h : enforceStorageKeyPolicy env source = .error e) : e = .insecureStorageKeyMode := by
  grind [enforceStorageKeyPolicy]

theorem storagePassphrase_cases (w : World β) :
    (∃ secret, (∀ s, IsSecret w s ↔ s = secret) ∧ ¬ NoSecret w ∧
        storagePassphrase w = (.ok secret, w.key)) ∨
      ((∀ s, ¬ IsSecret w s) ∧ NoSecret w ∧ storagePassphrase w = generateSecret w) ∨
      ((∀ s, ¬ IsSecret w s) ∧ ¬ NoSecret w ∧ ∃ e, e ≠ .legacyStorageSecretRequired ∧
        storagePassphrase w = (.error e, w.key)) := by
  unfold NoSecret storagePassphrase
  by_cases hgiven : trimSpaceBytes w.env.storagePassphrase = []
  · simp only [isSecret_of_not_given hgiven]
    cases hread : w.readFails with
    | true => exact .inr (.inr ⟨by simp, by simp, .read, by simp, by simp [hgiven]⟩)
    | false =>
      by_cases hstored : storedSecret w = []
      · grind [enforceStorageKeyPolicy, generateSecret]
      · grind [enforceStorageKeyPolicy_error]
  · exact .inl ⟨_, fun s => isSecret_of_given hgiven, by simp [hgiven], by simp [hgiven]⟩

/-! ## The three ways -/

theorem keepsKey_of_secret {dir : String} : KeepsKey w.key (openStorage w dir secret w.key) ↔
      ¬ (Migrates w secret ∧ Replaces w w.key (legacyMigrationSecret w.env)) := by
  grind [openStorage_of_opens, openStorage_of_migrates, openStorage_of_not_migrates]

theorem enforceStorageKeyPolicy_of_not_production {env : Environment}
    (h : isProductionEnv env = false) (source : KeySource) :
    enforceStorageKeyPolicy env source = .ok () := by
  unfold enforceStorageKeyPolicy
  simp [h]

theorem keepsKey_of_written (h : NoSecret w) (dir : String) :
    KeepsKey w.key (match writeStorageKey w w.key secret with
      | (.error e, key) => (.error e, key)
      | (.ok (), key) => openStorage w dir secret key) ↔ ¬ WrittenLost w secret := by
  rw [writeStorageKey_of_policy (enforceStorageKeyPolicy_of_not_production h.2.2.2 .writeFile)]
  unfold WrittenLost
  cases w.write secret with
  | refused | cutOff => simp
  | written =>
    grind [openStorage_of_opens, openStorage_of_migrates, Replaces, openStorage_of_not_migrates]

theorem writtenLost_legacy : WrittenLost w (legacyMigrationSecret w.env) ↔
      Replaces w w.key (legacyMigrationSecret w.env) := by
  simp [Migrates, WrittenLost, Replaces]

theorem keepsKey_of_noSecret {dataDir : String} (h : NoSecret w)
    (hpass : storagePassphrase w = generateSecret w) : KeepsKey w.key (resolveStorage w dataDir) ↔
      ¬ ((hasLegacyPersistentData w = true ∧ legacyMigrationSecret w.env ≠ [] ∧
            Replaces w w.key (legacyMigrationSecret w.env)) ∨ (hasLegacyPersistentData w = false ∧
            ∃ buf ∈ w.random, WrittenLost w (base64RawEncode buf))) := by
  have hpolicy := enforceStorageKeyPolicy_of_not_production h.2.2.2 .autoGenerate
  unfold resolveStorage
  rw [hpass]
  unfold generateSecret
  rw [hpolicy]
  cases hdata : hasLegacyPersistentData w with
  | true =>
    by_cases hlegacy : legacyMigrationSecret w.env = []
    · simp [hlegacy]
    · simp only [if_true, ne_eq, not_true, if_false, hlegacy]
      rw [keepsKey_of_written h, writtenLost_legacy]
      simp
  | false =>
    cases hrandom : w.random with
    | none => simp
    | some buf =>
      simp only [Option.mem_def, Option.some.injEq, exists_eq_left', Bool.false_eq_true,
        if_false, false_and, false_or, true_and]
      rw [← keepsKey_of_written h (if trimSpace dataDir = "" then "go-backend/data"
        else trimSpace dataDir), writeStorageKey_of_policy
        (enforceStorageKeyPolicy_of_not_production h.2.2.2 .writeFile)]
      -- a failed write is reported as it is
      cases w.write (base64RawEncode buf) with
      | refused | cutOff => simp
      | written => rfl

/--
**A failed resolution keeps the key**, unless a secret has been written with which nothing
opens: the legacy secret in place of one that is there or where none is there, or a new one.
-/
theorem resolveStorage_keeps_key_iff (w : World β) (dataDir : String) :
    KeepsKey w.key (resolveStorage w dataDir) ↔ ¬ KeyReplaced w := by
  unfold KeyReplaced
  rcases storagePassphrase_cases w with
    ⟨secret, hsecret, hnone, hpass⟩ | ⟨hsecret, hnone, hpass⟩ | ⟨hsecret, hnone, e, he, hpass⟩
  · unfold resolveStorage
    rw [hpass]
    simp only [hsecret, hnone, exists_eq_left, false_and, or_false]
    exact keepsKey_of_secret
  · rw [keepsKey_of_noSecret hnone hpass]
    simp only [hsecret, hnone, false_and, exists_false, true_and, false_or]
  · unfold resolveStorage
    rw [hpass]
    simp [hsecret, hnone, he]

/-! ## A migration that fails -/

/-- The stores open with no secret but `opening`; the disk takes every write. -/
def sampleWorld (stored legacy opening : String) : World Unit where
  env := ⟨[], bytesOf legacy, [], []⟩
  stat := fun _ => none
  key := some (bytesOf stored)
  readFails := false
  random := none
  write := fun _ => .written
  buildStorageBundle := fun secret =>
    if secret = bytesOf opening then .ok () else .error .authFailed

/-- One store is under a secret that is nowhere: the call fails, and the key to the others is
gone. -/
theorem key_lost_in_migration : resolveStorage (sampleWorld "key" "legacy" "other") "data" =
      (.error (.bundle .authFailed), some (bytesOf "legacy")) ∧
    (sampleWorld "key" "legacy" "other").key = some (bytesOf "key") := by
  decide

end

end Ardents.Storage
