import Ardents.Groups.Snapshot
import Ardents.Messaging.InboundDaemon
import Ardents.Privacy.Service

/-!
# Four encrypted files

Groups, message requests, privacy settings and the blocklist are kept in memory and in one
encrypted file each. `Bootstrap` reads the file once. Where that fails the daemon goes on with
nothing, or with the defaults; every later change writes the whole file anew from what is in
memory.
-/

namespace Ardents.Daemon

open Go
open Groups (GroupOperation GroupEvent GroupError OperationInputs InboundInputs PersistedGroupState
  normalizeGroupSnapshot handleInboundGroupEvent createGroup deleteGroup)
open Crypto (Time)
open Messaging (Message normalizeIdentityID)
open Privacy (ProfileSettings PolicyArguments StoragePolicy Ranging Update defaultProfileSettings
  normalizeProfileSettings currentProfileSchemaVersion parseStoragePolicy retentionOf)

inductive StateFile where
  /-- `groups.enc` -/
  | groups
  /-- `requests.enc` -/
  | requests
  /-- `privacy.enc` -/
  | settings
  /-- `blocklist.enc` -/
  | blocklist
  deriving DecidableEq, Repr

inductive WriteOutcome (ι : Type) where
  | written
  /-- It fails before the file is opened. -/
  | refused
  /-- It fails after that, and leaves this. -/
  | torn (left : Option ι)

namespace WriteOutcome

variable {ι : Type}

def ok : WriteOutcome ι → Bool
  | .written => true
  | _ => false

def leaves (w : WriteOutcome ι) (file : Option ι) (image : ι) : Option ι :=
  match w with
  | .written => some image
  | .refused => file
  | .torn left => left

end WriteOutcome

/-! ## Reading -/

structure FileCodec (ι α : Type) where
  encode : α → ι
  decode : ι → Option α
  decode_encode : ∀ a, decode (encode a) = some a

structure Versioned (α : Type) where
  version : Int
  content : α

structure StateCodecs (ι : Type) where
  groups : FileCodec ι PersistedGroupState
  requests : FileCodec ι (Versioned (GoMap String (List Message)))
  settings : FileCodec ι (Versioned ProfileSettings)
  blocklist : FileCodec ι (Versioned (List String))

/-- `NewBlocklist`; `none` where an id is not one. -/
def newBlocklist (ids : List String) : Option (GoMap String Unit) :=
  ids.foldlM (fun entries raw => (normalizeIdentityID raw).map fun id => entries.insert id ()) ∅

/-- The order in which the overrides are gone through: when settings are read, when they are
normalised after a change and when they are written. -/
structure SettingsOrders where
  reads : Ranging
  normalises : Ranging
  persists : Ranging

structure BootOutcomes (ι : Type) where
  /-- A file that is there can be read. -/
  readable : StateFile → Bool
  write : StateFile → WriteOutcome ι
  orders : SettingsOrders

section

variable {ι σ : Type}

/-- What the four `Bootstrap` have in common. `load` gives the content, and what the file is
replaced with if it is in an older form. The content is missing where it fails. -/
def bootstrapFile (configured readable : Bool) (file : Option ι) (w : WriteOutcome ι)
    (load : ι → Option (σ × Option ι)) (default : σ) (fresh : ι) : Option σ × Option ι :=
  if configured = false then (some default, file)
  else
    match file with
    | none => (if w.ok then some default else none, w.leaves none fresh)
    | some image =>
      if readable = false then (none, some image)
      else
        match load image with
        | none => (none, some image)
        | some (content, none) => (some content, some image)
        | some (content, some image') =>
          (if w.ok then some content else none, w.leaves (some image) image')

end

structure StateStores (ι : Type) where
  configured : StateFile → Bool
  file : StateFile → Option ι
  groups : Groups.Stores
  inbox : GoMap String (List Message)
  privacy : ProfileSettings
  blocklist : GoMap String Unit

section

variable {ι : Type} (C : StateCodecs ι)

def loadGroups (image : ι) : Option (Groups.Stores × Option ι) := do
  let persisted ← C.groups.decode image
  if persisted.version ≠ 1 then none
  else
    let stores ← (normalizeGroupSnapshot persisted.snapshot).toOption
    return (stores, none)

def loadRequests (image : ι) : Option (GoMap String (List Message) × Option ι) := do
  let persisted ← C.requests.decode image
  if persisted.version ≠ 1 then none else return (persisted.content, none)

def loadBlocklist (image : ι) : Option (GoMap String Unit × Option ι) := do
  let persisted ← C.blocklist.decode image
  if persisted.version ≠ 1 then none
  else
    let list ← newBlocklist persisted.content
    return (list, none)

def requiresPrivacySettingsMigration (before after : ProfileSettings) : Bool :=
  before.profileSchemaVersion < currentProfileSchemaVersion ∨ before.nodePolicies = none ∨
    before ≠ after

variable [LowerCase]

def loadSettings (orders : SettingsOrders) (image : ι) : Option (ProfileSettings × Option ι) := do
  let persisted ← C.settings.decode image
  if persisted.version ≠ 1 then none
  else
    let normalized := normalizeProfileSettings orders.reads persisted.content
    if requiresPrivacySettingsMigration persisted.content normalized then
      return (normalized,
        some (C.settings.encode ⟨1, normalizeProfileSettings orders.persists normalized⟩))
    else return (normalized, none)

/-- `BootstrapPartial` and `bootstrapStateStores`. -/
def bootstrapState (B : BootOutcomes ι) (configured : StateFile → Bool)
    (file : StateFile → Option ι) : StateStores ι :=
  let boot {σ : Type} (f : StateFile) (load : ι → Option (σ × Option ι)) :=
    bootstrapFile (configured f) (B.readable f) (file f) (B.write f) load
  let groups := boot .groups (loadGroups C) Groups.Stores.empty
    (C.groups.encode ⟨1, Groups.Stores.empty.snapshot⟩)
  let requests := boot .requests (loadRequests C) ∅ (C.requests.encode ⟨1, ∅⟩)
  let settings := boot .settings (loadSettings C B.orders) defaultProfileSettings
    (C.settings.encode ⟨1, normalizeProfileSettings B.orders.persists defaultProfileSettings⟩)
  let blocklist := boot .blocklist (loadBlocklist C) ∅ (C.blocklist.encode ⟨1, []⟩)
  { configured := configured
    file := fun
      | .groups => groups.2
      | .requests => requests.2
      | .settings => settings.2
      | .blocklist => blocklist.2
    groups := groups.1.getD Groups.Stores.empty
    inbox := requests.1.getD ∅
    privacy := normalizeProfileSettings B.orders.normalises
      (settings.1.getD defaultProfileSettings)
    blocklist := blocklist.1.getD ∅ }

end

/-! ## Changing -/

inductive GroupCall where
  | operation (inp : OperationInputs) (op : GroupOperation)
  | create (title identityID : String) (now : Time) (groupIDs : List (Option String))
      (eventID : Option String)
  | delete (groupID actorID : String) (inp : OperationInputs)
  | inbound (event : GroupEvent) (inp : InboundInputs)

namespace GroupCall

def after (s : Groups.Stores) (persist : Option GroupError) : GroupCall → Groups.Stores
  | .operation inp op => (Groups.perform s inp persist op).stores
  | .create title identityID now groupIDs eventID =>
    (createGroup s title identityID now groupIDs eventID persist).stores
  | .delete groupID actorID inp => (deleteGroup s groupID actorID inp persist).stores
  | .inbound event inp => (handleInboundGroupEvent s event { inp with persist := persist }).1

/-- What the call saves, if it gets that far: the stores as they are if saving works. -/
def saves (s : Groups.Stores) : GroupCall → Option Groups.Stores
  | .operation inp op =>
    let outcome := Groups.perform s inp none op
    if outcome.notified = [] then none else some outcome.stores
  | .create title identityID now groupIDs eventID =>
    let outcome := createGroup s title identityID now groupIDs eventID none
    if outcome.notified = [] then none else some outcome.stores
  | .delete groupID actorID inp =>
    let outcome := deleteGroup s groupID actorID inp none
    match outcome.result with
    | .error _ => none
    | .ok _ => some outcome.stores
  | .inbound event inp =>
    match handleInboundGroupEvent s event { inp with persist := none } with
    | (s, .applied _) => some s
    | _ => none

end GroupCall

inductive RequestCall where
  /-- `persistInboundRequest` -/
  | inbound (msg : Message)
  /-- `takeMessageRequestThread` -/
  | take (senderID : String)
  /-- `restoreMessageRequestThreadIfEmpty` -/
  | restore (senderID : String) (thread : List Message)
  /-- `removeMessageRequest` -/
  | remove (senderID : String)

def RequestCall.saves (inbox : GoMap String (List Message)) :
    RequestCall → Option (GoMap String (List Message))
  | .inbound msg =>
    let thread := (inbox[msg.contactID]?).getD []
    if thread.any fun m => m.id = msg.id then none
    else some (inbox.insert msg.contactID (thread ++ [msg]))
  | .take senderID =>
    if (inbox[senderID]?).getD [] = [] then none else some (inbox.erase senderID)
  | .restore senderID thread =>
    if (inbox[senderID]?).getD [] ≠ [] then none else some (inbox.insert senderID thread)
  | .remove senderID =>
    match inbox[senderID]? with
    | none => none
    | some _ => some (inbox.erase senderID)

inductive BlocklistCall where
  | add (identityID : String)
  | remove (identityID : String)

namespace BlocklistCall

def identityID : BlocklistCall → String
  | .add id => id
  | .remove id => id

/-- `updateBlocklist`: the list that the call saves, if it gets that far. -/
def saves (entries : GoMap String Unit) (call : BlocklistCall) : Option (GoMap String Unit) := do
  let next ← newBlocklist entries.keys
  let id ← normalizeIdentityID call.identityID
  match call with
  | .add _ => return next.insert id ()
  | .remove _ => return next.erase id

end BlocklistCall

/-- How a wipe of all content goes: the files of this model, and everything else. -/
structure WipeOutcome where
  removed : StateFile → Bool
  others : Bool

namespace StateStores

variable {ι : Type} (C : StateCodecs ι)

/-- `Persist` of one of the stores. -/
def persist (s : StateStores ι) (f : StateFile) (image : ι) (w : WriteOutcome ι) :
    Bool × StateStores ι :=
  if s.configured f = false then (true, s)
  else
    (w.ok,
      { s with file := fun g => if g = f then w.leaves (s.file f) image else s.file g })

/-- `Persist` of the group states; what does not normalise is not written. -/
def persistGroups (s : StateStores ι) (stores : Groups.Stores) (w : WriteOutcome ι) :
    Bool × StateStores ι :=
  if s.configured .groups = false then (true, s)
  else
    match normalizeGroupSnapshot stores.snapshot with
    | .error _ => (false, s)
    | .ok normalized => s.persist .groups (C.groups.encode ⟨1, normalized.snapshot⟩) w

def groupCall (s : StateStores ι) (call : GroupCall) (w : WriteOutcome ι) : StateStores ι :=
  match call.saves s.groups with
  | none => { s with groups := call.after s.groups none }
  | some stores =>
    match s.persistGroups C stores w with
    | (true, s) => { s with groups := call.after s.groups none }
    | (false, s) => { s with groups := call.after s.groups (some (.external "storage")) }

def requestCall (s : StateStores ι) (call : RequestCall) (w : WriteOutcome ι) : StateStores ι :=
  match call.saves s.inbox with
  | none => s
  | some inbox =>
    match s.persist .requests (C.requests.encode ⟨1, inbox⟩) w with
    | (true, s) => { s with inbox := inbox }
    | (false, s) => s

def blocklistCall (s : StateStores ι) (call : BlocklistCall) (w : WriteOutcome ι) : StateStores ι :=
  match call.saves s.blocklist with
  | none => s
  | some list =>
    match s.persist .blocklist (C.blocklist.encode ⟨1, list.keys⟩) w with
    | (true, s) => { s with blocklist := list }
    | (false, s) => s

variable [LowerCase]

def updateSettings (s : StateStores ι) (u : Update) (orders : SettingsOrders)
    (w : WriteOutcome ι) : Bool × StateStores ι :=
  match u.change (normalizeProfileSettings orders.reads s.privacy) with
  | .error _ => (false, s)
  | .ok none => (true, s)
  | .ok (some changed) =>
    let updated := normalizeProfileSettings orders.normalises changed
    match s.persist .settings
        (C.settings.encode ⟨1, normalizeProfileSettings orders.persists updated⟩) w with
    | (true, s) => (true, { s with privacy := updated })
    | (false, s) => (false, s)

omit [LowerCase] in
/-- `wipeContentState`: groups and message requests are content. -/
def wipe (o : WipeOutcome) (s : StateStores ι) : Bool × StateStores ι :=
  (o.others && [StateFile.groups, .requests].all fun f => !s.configured f || o.removed f,
    { s with
      file := fun f =>
        if (f = .groups ∨ f = .requests) ∧ s.configured f = true ∧ o.removed f = true then none
        else s.file f
      groups := Groups.Stores.empty
      inbox := ∅ })

omit [LowerCase] in
def applyStoragePolicy (o : WipeOutcome) (s : StateStores ι) (policy : StoragePolicy) :
    Bool × StateStores ι :=
  if retentionOf policy ≠ .zeroRetention then (true, s) else s.wipe o

/-- `UpdateStoragePolicy` of the daemon; `again` is the wipe that a rollback may bring. -/
def updateStoragePolicy (s : StateStores ι) (args : PolicyArguments) (orders : SettingsOrders)
    (o again : WipeOutcome) (w : WriteOutcome ι) : StateStores ι :=
  let previous := (normalizeProfileSettings orders.reads s.privacy).storage
  match parseStoragePolicy args with
  | .error _ => s
  | .ok policy =>
    match s.applyStoragePolicy o policy with
    | (false, s) => s
    | (true, s) =>
      match s.updateSettings C (.storagePolicy args) orders w with
      | (true, s) => s
      | (false, s) => (s.applyStoragePolicy again previous).2

inductive Change (ι : Type) where
  | group (call : GroupCall) (w : WriteOutcome ι)
  | request (call : RequestCall) (w : WriteOutcome ι)
  | settings (u : Update) (orders : SettingsOrders) (w : WriteOutcome ι)
  | storagePolicy (args : PolicyArguments) (orders : SettingsOrders) (o again : WipeOutcome)
      (w : WriteOutcome ι)
  | blocklist (call : BlocklistCall) (w : WriteOutcome ι)

def step (s : StateStores ι) : Change ι → StateStores ι
  | .group call w => s.groupCall C call w
  | .request call w => s.requestCall C call w
  | .settings u orders w => (s.updateSettings C u orders w).2
  | .storagePolicy args orders o again w => s.updateStoragePolicy C args orders o again w
  | .blocklist call w => s.blocklistCall C call w

end StateStores

end Ardents.Daemon
