import Ardents.Messaging.MessageStore
import Ardents.Privacy.Settings

/-!
# The stores of the daemon

The daemon keeps content in six places of a data directory. The stores of messages, sessions and
attachments have a persistence flag; node bindings, message requests and groups are written
whatever the policy says. Where nothing may be retained, applying a policy wipes all six.
-/

namespace Ardents.Daemon

open Go
open Crypto (SessionState Time)
open Messaging (Message MessageStore)
open Privacy (PrivacySettings StoragePolicy normalizeStoragePolicy retentionOf
  storagePolicyFromSettings)

inductive ContentFile where
  /-- `messages.json` -/
  | messages
  /-- `sessions.json` -/
  | sessions
  /-- `attachments/` -/
  | attachments
  /-- `node_binding.enc` -/
  | bindings
  /-- `requests.enc` -/
  | requests
  /-- `groups.enc` -/
  | groups
  deriving DecidableEq, Repr

structure AttachmentMeta where
  id : String
  name : String
  mimeType : String
  attachmentClass : String
  lastAccessAt : Time
  pinState : String
  size : Int
  createdAt : Time
  deriving DecidableEq, Repr

structure Attachments where
  items : GoMap String AttachmentMeta
  blobs : GoMap String Bytes

/-- What each file says; `β` are node bindings and `γ` groups with their events. -/
abbrev ContentFile.Data (γ β : Type) : ContentFile → Type
  | .messages => MessageStore
  | .sessions => GoMap String SessionState
  | .attachments => Attachments
  | .bindings => GoMap String β
  | .requests => GoMap String (List Message)
  | .groups => GoMap String γ

def ContentFile.empty {γ β : Type} : (f : ContentFile) → f.Data γ β
  | .messages => .empty
  | .sessions => ∅
  | .attachments => ⟨∅, ∅⟩
  | .bindings => ∅
  | .requests => ∅
  | .groups => ∅

/-- The files, in the order in which `wipeContentState` goes through them. -/
def contentFiles : List ContentFile :=
  [.messages, .sessions, .attachments, .bindings, .requests, .groups]

theorem mem_contentFiles (f : ContentFile) : f ∈ contentFiles := by
  cases f <;> decide

/-- The stores that `SetPersistenceEnabled` is for. -/
def ContentFile.hasFlag : ContentFile → Bool
  | .messages => true
  | .sessions => true
  | .attachments => true
  | _ => false

/-- The stores and what is on disk; `δ` are the data directories. -/
structure Stores (δ γ β : Type) where
  disk : δ → (f : ContentFile) → f.Data γ β
  /-- The directory in which the store has its file, once it has a path. -/
  dir : ContentFile → Option δ
  memory : (f : ContentFile) → f.Data γ β
  persist : ContentFile → Bool
  /-- The settings that the privacy service holds. -/
  privacy : PrivacySettings

namespace Stores

variable {δ γ β : Type} [DecidableEq δ]

/-- `wipeContentState`, with the `Wipe` of each store and `resetVolatileRuntimeState`. All six are
tried: what they hold is dropped, and their files are removed where that works. -/
def wipeContentState (removed : δ → ContentFile → Bool) (s : Stores δ γ β) : Bool × Stores δ γ β :=
  (contentFiles.all fun f => (s.dir f).all fun d => removed d f,
    { s with
      disk := fun d f => if s.dir f = some d ∧ removed d f = true then f.empty else s.disk d f
      memory := fun f => f.empty })

def setPersistenceEnabled (s : Stores δ γ β) (enabled : Bool) : Stores δ γ β :=
  { s with persist := fun f => if f.hasFlag then enabled else s.persist f }

def applyStoragePolicy (removed : δ → ContentFile → Bool) (s : Stores δ γ β)
    (policy : StoragePolicy) : Bool × Stores δ γ β :=
  let persistentContentAllowed :=
    decide ((normalizeStoragePolicy policy).contentRetentionMode ≠ .zeroRetention)
  let s := s.setPersistenceEnabled persistentContentAllowed
  if persistentContentAllowed then (true, s) else s.wipeContentState removed

def applyStoragePolicyFromSettings (removed : δ → ContentFile → Bool) (s : Stores δ γ β)
    (settings : PrivacySettings) : Bool × Stores δ γ β :=
  s.applyStoragePolicy removed (storagePolicyFromSettings settings)

def cleanupOnStopIfZeroRetention (removed : δ → ContentFile → Bool) (s : Stores δ γ β) :
    Bool × Stores δ γ β :=
  if (storagePolicyFromSettings s.privacy).contentRetentionMode ≠ .zeroRetention then (true, s)
  else s.wipeContentState removed

/-! ## What a policy does -/

variable {removed : δ → ContentFile → Bool} {s : Stores δ γ β}

theorem applyStoragePolicy_of_retained {policy : StoragePolicy}
    (h : retentionOf policy ≠ .zeroRetention) :
    s.applyStoragePolicy removed policy = (true, s.setPersistenceEnabled true) := by
  have hallowed : decide ((normalizeStoragePolicy policy).contentRetentionMode ≠ .zeroRetention)
      = true := decide_eq_true h
  grind [applyStoragePolicy]

theorem applyStoragePolicy_of_zeroRetention {policy : StoragePolicy}
    (h : retentionOf policy = .zeroRetention) : s.applyStoragePolicy removed policy =
      (s.setPersistenceEnabled false).wipeContentState removed := by
  have hallowed : decide ((normalizeStoragePolicy policy).contentRetentionMode ≠ .zeroRetention)
      = false := decide_eq_false (not_not.mpr h)
  grind [applyStoragePolicy]

theorem cleanupOnStop_of_retained (h : retentionOf s.privacy ≠ .zeroRetention) :
    s.cleanupOnStopIfZeroRetention removed = (true, s) := if_pos h

theorem wipeContentState_ok :
    (s.wipeContentState removed).1 = true ↔ ∀ f d, s.dir f = some d → removed d f = true := by
  simp only [wipeContentState, List.all_eq_true, mem_contentFiles, forall_const,
    Option.all_eq_true]

end Stores

end Ardents.Daemon
