import Ardents.Crypto.SessionStore
import Ardents.Daemon.Service
import Ardents.Daemon.StateFiles
import Ardents.Messaging.FileStore

/-!
# Zero retention and the disk

Under zero retention no content should reach the disk. The stores of messages, sessions and
attachments have a flag for that, which `UpdateStoragePolicy` sets. The store of message requests
has none: it writes its inbox whenever it has a path.
-/

namespace Ardents.Daemon

open Go
open Ardents.Attachments (AttachmentStore FileSystem)
open Crypto (Time SessionState FileSessionStore SessionCodec SkippedKeys)
open Messaging (Message MessageStore MessageOp FileMessageStore SnapshotCodec)
open Privacy (PrivacySettings StoragePolicy PolicyArguments normalizeStoragePolicy
  normalizePrivacySettings storagePolicyFromSettings parseStoragePolicy retentionOf)

open Attachments.AttachmentStore
open Privacy

/-! ## Attachments while the flag is off -/

inductive AttachmentCall where
  | put (name mimeType : String) (data : Bytes) (newID : Option String) (now : Time)
  | putExisting (info : AttachmentMeta) (data : Bytes) (now : Time)
  | setPinState (id pinState : String) (now : Time)
  | get (id : String) (now : Time)
  | runGC (now clock : Time) (imageTTLSeconds fileTTLSeconds : Int) (dryRun : Bool)
      (order : List String)
  | purgeOlderThan (cutoff : Time) (order : List String)
  | purgeOlderThanByClass (className : String) (cutoff : Time) (order : List String)

namespace AttachmentCall

def data : AttachmentCall → List Bytes
  | .put _ _ data _ _ => [data]
  | .putExisting _ data _ => [data]
  | _ => []

variable [LowerCase]

def after (s : AttachmentStore) (fs : FileSystem) : AttachmentCall → AttachmentStore
  | .put name mimeType data newID now => (s.put name mimeType data newID now fs).2
  | .putExisting info data now => (s.putExisting info data now fs).2
  | .setPinState id pinState now => (s.setPinState id pinState now fs).2
  | .get id now => (s.get id now fs).2
  | .runGC now clock imageTTLSeconds fileTTLSeconds dryRun order =>
    (s.runGC now clock imageTTLSeconds fileTTLSeconds dryRun order fs).2
  | .purgeOlderThan cutoff order => (s.purgeOlderThan cutoff order fs).2
  | .purgeOlderThanByClass className cutoff order =>
    (s.purgeOlderThanByClass className cutoff order fs).2

end AttachmentCall

structure OffDisk (s t : AttachmentStore) : Prop where
  persist : t.persist = false
  files : t.files = s.files
  index : t.index = s.index

section OffDisk

variable {s t : AttachmentStore} (fs : FileSystem)

theorem OffDisk.trans {u : AttachmentStore} (h : OffDisk s t) (h' : OffDisk t u) : OffDisk s u :=
  ⟨h'.persist, h'.files.trans h.files, h'.index.trans h.index⟩

theorem persistItems_off (h : s.persist = false) (items : GoMap String AttachmentMeta) :
    s.persistItems items fs = (true, s) := if_pos (.inr h)

theorem offDisk_items (h : s.persist = false) (items : GoMap String AttachmentMeta) :
    OffDisk s { s with items := items } := ⟨h, rfl, rfl⟩

theorem dropData_off (h : s.persist = false) (ids : List String) :
    OffDisk s (s.dropData fs ids).2 := by
  induction ids generalizing s with
  | nil => exact ⟨h, rfl, rfl⟩
  | cons id rest ih =>
    have hkeeps : ¬ s.RemovesFiles := fun hr => absurd (h.symm.trans hr.1) (by simp)
    simp only [dropData, if_neg hkeeps]
    have hdrop : OffDisk s (s.dropBlob id) := ⟨h, rfl, rfl⟩
    exact hdrop.trans (ih hdrop.persist)

theorem deleteIDs_off (h : s.persist = false) (ids : List String) :
    OffDisk s (s.deleteIDs ids fs).2 := by
  unfold deleteIDs
  by_cases hids : ids = []
  · rw [if_pos hids]
    exact ⟨h, rfl, rfl⟩
  · rw [if_neg hids]
    have hdrop := dropData_off fs h ids
    dsimp only
    generalize s.dropData fs ids = r at hdrop
    obtain ⟨ok, t⟩ := r
    cases ok with
    | false => exact hdrop
    | true =>
      dsimp only
      rw [persistItems_off fs hdrop.persist]
      exact hdrop.trans (offDisk_items hdrop.persist _)

theorem putData_off (h : s.persist = false) (info : AttachmentMeta) (data : Bytes)
    (removeAgain : Bool) : OffDisk s (s.putData info data removeAgain fs).2 := by
  unfold putData
  by_cases hdir : s.dir = ""
  · rw [if_pos hdir]
    exact ⟨h, rfl, rfl⟩
  · rw [if_neg hdir, if_pos h]
    exact ⟨h, rfl, rfl⟩

theorem touchLastAccess_off (h : s.persist = false) (id : String) (at_ : Time) :
    OffDisk s (s.touchLastAccess id at_ fs) := by
  unfold touchLastAccess
  split
  · exact ⟨h, rfl, rfl⟩
  · split
    · exact ⟨h, rfl, rfl⟩
    · dsimp only
      rw [persistItems_off fs h]
      exact offDisk_items h _

theorem reported_off {ε : Type} (h : s.persist = false) (ids : List String) (failed done : ε) :
    OffDisk s (match s.deleteIDs ids fs with
      | (false, t) => (failed, t)
      | (true, t) => (done, t)).2 := by
  have hdelete := deleteIDs_off fs h ids
  generalize s.deleteIDs ids fs = r at hdelete
  obtain ⟨ok, t⟩ := r
  cases ok with
  | false | true => exact hdelete

theorem purge_off (h : s.persist = false) (gone : AttachmentMeta → Bool) (order : List String) :
    OffDisk s (s.purge gone order fs).2 := by
  exact reported_off fs h _ _ _

variable [LowerCase]

theorem enforceClassLimits_off (h : s.persist = false) (className : String) (size : Int) :
    OffDisk s (s.enforceClassLimits className size fs).2 := by
  unfold enforceClassLimits
  split
  · exact ⟨h, rfl, rfl⟩
  · rename_i toDelete _
    have hdelete := deleteIDs_off fs h toDelete
    generalize s.deleteIDs toDelete fs = r at hdelete
    obtain ⟨ok, t⟩ := r
    cases ok with
    | false => exact hdelete
    | true =>
      dsimp only
      split
      · exact hdelete
      · exact hdelete

theorem putWithin_off (h : s.persist = false) (info : AttachmentMeta) (data : Bytes)
    (removeAgain : Bool) : OffDisk s (s.putWithin info data removeAgain fs).2 := by
  unfold putWithin
  have hroom := enforceClassLimits_off fs h info.attachmentClass info.size
  generalize s.enforceClassLimits info.attachmentClass info.size fs = r at hroom
  obtain ⟨result, t⟩ := r
  cases result with
  | error e => exact hroom
  | ok u => exact hroom.trans (putData_off fs hroom.persist info data removeAgain)

theorem runGC_off (h : s.persist = false) (now clock : Time)
    (imageTTLSeconds fileTTLSeconds : Int) (dryRun : Bool) (order : List String) :
    OffDisk s (s.runGC now clock imageTTLSeconds fileTTLSeconds dryRun order fs).2 := by
  unfold runGC
  dsimp only
  generalize s.gcMarks (if now = 0 then clock else now) imageTTLSeconds fileTTLSeconds = marks
  by_cases hidle : (s.gcReport marks dryRun).deletedCount = 0 ∨ dryRun = true
  · rw [if_pos hidle]
    exact ⟨h, rfl, rfl⟩
  · rw [if_neg hidle]
    exact reported_off fs h _ _ _

theorem AttachmentCall.after_off (h : s.persist = false) (call : AttachmentCall) :
    OffDisk s (call.after s fs) := by
  have hsame : OffDisk s s := ⟨h, rfl, rfl⟩
  cases call with
  | put name mimeType data newID now =>
    simp only [after, AttachmentStore.put]
    split
    · exact hsame
    · split
      · exact hsame
      · rename_i id
        have hput := putWithin_off fs h
          (AttachmentStore.newMeta id name mimeType data now) data true
        generalize s.putWithin _ data true fs = r at hput
        obtain ⟨result, t⟩ := r
        cases result with
        | error | ok => exact hput
  | putExisting info data now =>
    simp only [after, AttachmentStore.putExisting]
    split
    · exact hsame
    · split
      · exact hsame
      · exact putWithin_off fs h _ data false
  | setPinState id pinState now =>
    simp only [after, AttachmentStore.setPinState]
    split
    · exact hsame
    · split
      · exact hsame
      · split
        · exact hsame
        · split
          · exact hsame
          · rw [persistItems_off fs h]
            exact offDisk_items h _
  | get id now =>
    simp only [after, AttachmentStore.get]
    split
    · exact hsame
    · split
      · exact hsame
      · exact touchLastAccess_off fs h id now
  | runGC now clock imageTTLSeconds fileTTLSeconds dryRun order =>
    exact runGC_off fs h now clock imageTTLSeconds fileTTLSeconds dryRun order
  | purgeOlderThan cutoff order =>
    simp only [after, AttachmentStore.purgeOlderThan]
    exact purge_off fs h _ order
  | purgeOlderThanByClass className cutoff order =>
    simp only [after, AttachmentStore.purgeOlderThanByClass]
    split
    · exact hsame
    · exact purge_off fs h _ order

end OffDisk

/-! ## The four stores -/

/-- What a store writes to a file. The index of the attachments says nothing of what is in them and
is left out. -/
inductive StoreWrite where
  | messages (snapshot : MessageStore)
  | sessions (sessions : GoMap String SessionState)
  | attachment (data : Bytes)
  | requests (inbox : GoMap String (List Message))

def InboxHasContent (inbox : GoMap String (List Message)) : Prop :=
  ∃ (senderID : String) (thread : List Message), inbox[senderID]? = some thread ∧
    ∃ msg ∈ thread, msg.content ≠ []

def StoreWrite.HasContent : StoreWrite → Prop
  | .messages snapshot =>
    (∃ (id : String) (msg : Message), snapshot.messages[id]? = some msg ∧ msg.content ≠ []) ∨
      ∃ (id : String) (p : Messaging.PendingMessage), snapshot.pending[id]? = some p ∧
        p.message.content ≠ []
  -- a session has keys and counters
  | .sessions _ => False
  | .attachment data => data ≠ []
  | .requests inbox => InboxHasContent inbox

structure ContentStores (ι κ : Type) where
  messages : FileMessageStore ι
  sessions : FileSessionStore SkippedKeys κ
  attachments : AttachmentStore
  /-- The store of message requests has a path and a secret. -/
  requestsConfigured : Bool
  inbox : GoMap String (List Message)
  privacy : PrivacySettings
  nodePreset : BlobNodePresetConfig

/-- Which files a wipe removes, or finds already gone. Where the directory of the attachments cannot
be removed, some of what is in it may be gone. -/
structure WipeResults where
  messages : Bool
  sessions : Bool
  attachments : Bool
  gone : Path → Bool
  bindings : Bool
  requests : Bool
  groups : Bool

structure RetentionCourse where
  wipe : WipeResults
  /-- `privacy.enc` is written. -/
  persisted : Bool
  /-- The wipe when the policy of before is applied again. -/
  wipeAgain : WipeResults

/-- `Wipe` of the attachments. -/
def wipeAttachments (s : AttachmentStore) (w : WipeResults) : Bool × AttachmentStore :=
  let s := { s with items := ∅, blobs := ∅ }
  if trimSpace s.dir = "" then (true, s)
  else
    let dir := Path.clean s.dir
    (w.attachments,
      { s with
        index := if w.attachments then .missing else s.index
        files := fun p =>
          if (p.rooted = dir.rooted ∧ dir.parts.isPrefixOf p.parts) ∧
            (w.attachments ∨ w.gone p) then none else s.files p })

namespace ContentStores

variable {ι κ : Type} (M : SnapshotCodec ι) (S : SessionCodec κ)

/-- `wipeContentState`. Node bindings and groups are wiped too, and can fail to be. -/
def wipeContentState (w : WipeResults) (s : ContentStores ι κ) : Bool × ContentStores ι κ :=
  let messages := s.messages.wipe w.messages
  let attachments := wipeAttachments s.attachments w
  (messages.1 && w.sessions && attachments.1 && w.bindings && w.requests && w.groups,
    { s with
      messages := messages.2
      sessions := s.sessions.wipe w.sessions
      attachments := attachments.2
      inbox := ∅ })

/-- The flags and limits that `applyStoragePolicy` sets. -/
def configure (s : ContentStores ι κ) (policy : StoragePolicy) (allowed : Bool) :
    ContentStores ι κ :=
  { s with
    messages := s.messages.setPersistenceEnabled allowed
    attachments := ((s.attachments.setPersistenceEnabled allowed).setClassPolicies
      policy.imageQuotaMB policy.imageMaxItemSizeMB policy.fileQuotaMB
      policy.fileMaxItemSizeMB).setHardCapPolicy s.nodePreset.highWatermarkPercent
      s.nodePreset.fullCapPercent s.nodePreset.aggressiveTargetPercent
    sessions := s.sessions.setPersistenceEnabled allowed }

def applyStoragePolicy (w : WipeResults) (s : ContentStores ι κ) (policy : StoragePolicy) :
    Bool × ContentStores ι κ :=
  let policy := normalizeStoragePolicy policy
  let persistentContentAllowed := decide (policy.contentRetentionMode ≠ .zeroRetention)
  let s := s.configure policy persistentContentAllowed
  if persistentContentAllowed then (true, s) else s.wipeContentState w

def updateStoragePolicy (C : RetentionCourse) (s : ContentStores ι κ) (args : PolicyArguments) :
    Except ServiceError StoragePolicy × ContentStores ι κ :=
  let previousPolicy := storagePolicyFromSettings (normalizePrivacySettings s.privacy)
  match parseStoragePolicy args with
  | .error e => (.error (.policy e), s)
  | .ok policy =>
    match s.applyStoragePolicy C.wipe policy with
    | (false, s) => (.error .wipe, s)
    | (true, s) =>
      if C.persisted then
        (.ok (storagePolicyFromSettings (normalizePrivacySettings policy)),
          { s with privacy := normalizePrivacySettings policy })
      else (.error .storage, (s.applyStoragePolicy C.wipeAgain previousPolicy).2)

/-- `StopNetworking`, with `cleanupOnStopIfZeroRetention`. -/
def stopNetworking (w : WipeResults) (running stopped : Bool) (s : ContentStores ι κ) :
    ContentStores ι κ :=
  if running ∧ ¬ stopped then s
  else if (storagePolicyFromSettings s.privacy).contentRetentionMode ≠ .zeroRetention then s
  else (s.wipeContentState w).2

/-- What happens to the stores. Sending, receiving and the operations of groups come down to these:
their messages are saved, their sessions, and what is attached. -/
inductive Step where
  | message (op : MessageOp) (written : Bool)
  | session (state : SessionState) (written : Bool)
  | attachment (call : AttachmentCall) (fs : FileSystem)
  | request (call : RequestCall) (written : Bool)
  | updateStoragePolicy (C : RetentionCourse) (args : PolicyArguments)
  | stopNetworking (w : WipeResults) (running stopped : Bool)

variable [LowerCase]

def step (s : ContentStores ι κ) : Step → ContentStores ι κ
  | .message op written => { s with messages := (s.messages.call M op written).2 }
  | .session state written =>
    match s.sessions.saveWritten S state written with
    | .error _ => s
    | .ok sessions => { s with sessions := sessions }
  | .attachment call fs => { s with attachments := call.after s.attachments fs }
  | .request call written =>
    match call.saves s.inbox with
    | none => s
    | some inbox =>
      if s.requestsConfigured = false ∨ written then { s with inbox := inbox } else s
  | .updateStoragePolicy C args => (s.updateStoragePolicy C args).2
  | .stopNetworking w running stopped => s.stopNetworking w running stopped

omit [LowerCase] in
/-- What the four stores write in a step, whether or not the write succeeds. Of an attachment it is
what they write at most: it can still be refused. -/
def writes (s : ContentStores ι κ) : Step → List StoreWrite
  | .message op _ =>
    if s.messages.Writes then (op.snapshot s.messages.memory).toList.map .messages else []
  | .session state _ =>
    if s.sessions.persist then
      match s.sessions.loadAll S with
      | .error _ => []
      | .ok all => [.sessions (all.insert state.contactID state)]
    else []
  | .attachment call _ =>
    if s.attachments.persist = true ∧ s.attachments.dir ≠ "" then
      call.data.map .attachment else []
  | .request call _ =>
    if s.requestsConfigured then (call.saves s.inbox).toList.map .requests else []
  | .updateStoragePolicy _ _ => []
  | .stopNetworking _ _ _ => []

/-! ## Runs under zero retention -/

omit [LowerCase] in
def WritesNoContent (s : ContentStores ι κ) (a : Step) : Prop :=
  ∀ write ∈ s.writes S a, ¬ write.HasContent

structure NothingNew (s t : ContentStores ι κ) : Prop where
  messages : t.messages.file = s.messages.file ∨ t.messages.file = none
  sessions : t.sessions.file = s.sessions.file ∨ t.sessions.file = none
  attachments : ∀ p, t.attachments.files p = s.attachments.files p ∨ t.attachments.files p = none
  index : t.attachments.index = s.attachments.index ∨ t.attachments.index = .missing

/-- No content is written in the step, and where there is a flag nothing comes to be on disk at
all. -/
def KeepsContentOff (s : ContentStores ι κ) (a : Step) : Prop :=
  s.WritesNoContent S a ∧ NothingNew s (s.step M S a)

def StaysZero (s : ContentStores ι κ) (a : Step) : Prop :=
  retentionOf (s.step M S a).privacy = .zeroRetention

end ContentStores

def RequestCall.Silent : RequestCall → Prop
  | .inbound msg => msg.content = []
  | .restore _ thread => ∀ msg ∈ thread, msg.content = []
  | _ => True

open ContentStores

namespace ContentStores

variable {ι κ : Type}

/-- No message request with content is put into the inbox of a store that has a path. -/
def Discreet (s : ContentStores ι κ) : Step → Prop
  | .request call _ => s.requestsConfigured = true → call.Silent
  | _ => True

/-- The flags are off, and there is no content in an inbox that would be written. -/
structure Off (s : ContentStores ι κ) : Prop where
  messages : s.messages.persist = false
  sessions : s.sessions.persist = false
  attachments : s.attachments.persist = false
  inbox : s.requestsConfigured = true → ¬ InboxHasContent s.inbox

theorem not_inboxHasContent_empty : ¬ InboxHasContent ∅ := by
  rintro ⟨senderID, thread, hget, -⟩
  simp at hget

theorem not_inboxHasContent_saves {inbox next : GoMap String (List Message)} {call : RequestCall}
    (h : ¬ InboxHasContent inbox) (hcall : call.Silent) (hsaves : call.saves inbox = some next) :
    ¬ InboxHasContent next := by
  have herase : ∀ senderID, ¬ InboxHasContent (inbox.erase senderID) := by
    rintro senderID ⟨x, thread, hget, hmsg⟩
    rw [get_erase] at hget
    split at hget
    · cases hget
    · exact h ⟨x, thread, hget, hmsg⟩
  have hinsert : ∀ senderID thread, (∀ msg ∈ thread, msg.content = []) →
      ¬ InboxHasContent (inbox.insert senderID thread) := by
    rintro senderID thread hthread ⟨x, thread', hget, msg, hmem, hne⟩
    rw [get_insert] at hget
    split at hget
    · cases hget
      exact hne (hthread msg hmem)
    · exact h ⟨x, thread', hget, msg, hmem, hne⟩
  cases call with
  | inbound msg =>
    simp only [RequestCall.saves] at hsaves
    split at hsaves
    · cases hsaves
    · cases hsaves
      refine hinsert msg.contactID _ fun m hm => ?_
      rcases List.mem_append.mp hm with hm | hm
      · by_contra hne
        cases hthread : inbox[msg.contactID]? with
        | none =>
          rw [hthread] at hm
          exact absurd hm List.not_mem_nil
        | some thread =>
          rw [hthread] at hm
          exact h ⟨msg.contactID, thread, hthread, m, hm, hne⟩
      · rw [List.mem_singleton.mp hm]
        exact hcall
  | take | remove =>
    grind [RequestCall.saves]
  | restore senderID thread =>
    simp only [RequestCall.saves] at hsaves
    split at hsaves
    · cases hsaves
    · cases hsaves
      exact hinsert senderID thread hcall

theorem Off.wiped {s : ContentStores ι κ} (hmessages : s.messages.persist = false)
    (hsessions : s.sessions.persist = false) (hattachments : s.attachments.persist = false)
    (w : WipeResults) : Off (s.wipeContentState w).2 where
  messages := by
    simp only [wipeContentState, FileMessageStore.wipe]
    split
    · exact hmessages
    · exact hmessages
  sessions := hsessions
  attachments := by
    simp only [wipeContentState, wipeAttachments]
    split
    · exact hattachments
    · exact hattachments
  inbox _ := not_inboxHasContent_empty

theorem off_of_apply {policy : StoragePolicy} (h : retentionOf policy = .zeroRetention)
    (w : WipeResults) (s : ContentStores ι κ) : Off (s.applyStoragePolicy w policy).2 := by
  have hallowed : decide ((normalizeStoragePolicy policy).contentRetentionMode ≠ .zeroRetention)
      = false := decide_eq_false (not_not.mpr h)
  unfold applyStoragePolicy
  dsimp only
  rw [hallowed, if_neg (by simp)]
  exact Off.wiped rfl rfl rfl w

theorem Off.updateStoragePolicy {s : ContentStores ι κ} (h : Off s)
    (hmode : retentionOf s.privacy = .zeroRetention) (C : RetentionCourse) (args : PolicyArguments)
    (hafter : retentionOf (s.updateStoragePolicy C args).2.privacy = .zeroRetention) :
    Off (s.updateStoragePolicy C args).2 := by
  unfold ContentStores.updateStoragePolicy at hafter ⊢
  dsimp only at hafter ⊢
  cases hparse : parseStoragePolicy args with
  | error e =>
    rw [hparse] at hafter
    exact h
  | ok policy =>
    rw [hparse] at hafter
    dsimp only at hafter ⊢
    have hoff : retentionOf policy = .zeroRetention →
        Off (s.applyStoragePolicy C.wipe policy).2 :=
      fun hzero => off_of_apply hzero C.wipe s
    have hallowed : retentionOf policy ≠ .zeroRetention →
        (s.applyStoragePolicy C.wipe policy).1 = true := by
      intro hne
      have hdecide : decide ((normalizeStoragePolicy policy).contentRetentionMode ≠
          .zeroRetention) = true := decide_eq_true hne
      grind [applyStoragePolicy]
    generalize s.applyStoragePolicy C.wipe policy = r at hafter hoff hallowed ⊢
    obtain ⟨ok, t⟩ := r
    cases ok with
    | false =>
      -- only a wipe can fail
      simp_all
    | true =>
      dsimp only at hafter ⊢
      cases hpersisted : C.persisted with
      | true =>
        rw [hpersisted, if_pos rfl] at hafter
        rw [if_pos rfl]
        dsimp only at hafter
        rw [retentionOf_normalize] at hafter
        obtain ⟨hmessages, hsessions, hattachments, hinbox⟩ := hoff hafter
        exact ⟨hmessages, hsessions, hattachments, hinbox⟩
      | false =>
        grind [off_of_apply, retentionOf_storagePolicyFromSettings,
          retentionOf_normalize]

theorem off_of_updated {s s' : ContentStores ι κ} {C : RetentionCourse} {args : PolicyArguments}
    {policy : StoragePolicy} (h : s.updateStoragePolicy C args = (.ok policy, s'))
    (hzero : retentionOf policy = .zeroRetention) :
    Off s' ∧ retentionOf s'.privacy = .zeroRetention := by
  unfold updateStoragePolicy at h
  dsimp only at h
  cases hparse : parseStoragePolicy args with
  | error e =>
    rw [hparse] at h
    cases h
  | ok parsed =>
    rw [hparse] at h
    dsimp only at h
    have hoff : retentionOf parsed = .zeroRetention →
        Off (s.applyStoragePolicy C.wipe parsed).2 :=
      fun hz => off_of_apply hz C.wipe s
    generalize s.applyStoragePolicy C.wipe parsed = r at h hoff
    obtain ⟨ok, t⟩ := r
    cases ok with
    | false => cases h
    | true =>
      dsimp only at h
      split at h
      · cases h
        rw [retentionOf_storagePolicyFromSettings,
          retentionOf_normalize] at hzero
        obtain ⟨hmessages, hsessions, hattachments, hinbox⟩ := hoff hzero
        exact ⟨⟨hmessages, hsessions, hattachments, hinbox⟩,
          (retentionOf_normalize parsed).trans hzero⟩
      · cases h

/-! ### The files -/

theorem NothingNew.refl (s : ContentStores ι κ) : NothingNew s s :=
  ⟨.inl rfl, .inl rfl, fun _ => .inl rfl, .inl rfl⟩

theorem NothingNew.trans {s t u : ContentStores ι κ} (h : NothingNew s t) (h' : NothingNew t u) :
    NothingNew s u where
  messages := by
    rcases h'.messages with heq | hnone
    · rw [heq]
      exact h.messages
    · exact .inr hnone
  sessions := by
    rcases h'.sessions with heq | hnone
    · rw [heq]
      exact h.sessions
    · exact .inr hnone
  attachments := by
    intro p
    rcases h'.attachments p with heq | hnone
    · rw [heq]
      exact h.attachments p
    · exact .inr hnone
  index := by
    rcases h'.index with heq | hnone
    · rw [heq]
      exact h.index
    · exact .inr hnone

theorem nothingNew_wiped (w : WipeResults) (s : ContentStores ι κ) :
    NothingNew s (s.wipeContentState w).2 where
  messages := by
    simp only [wipeContentState, FileMessageStore.wipe]
    split
    · exact .inl rfl
    · cases w.messages with
      | true => exact .inr rfl
      | false => exact .inl rfl
  sessions := by
    cases hremoved : w.sessions with
    | true => exact .inr (by simp [wipeContentState, FileSessionStore.wipe, hremoved])
    | false => exact .inl (by simp [wipeContentState, FileSessionStore.wipe, hremoved])
  attachments := by
    intro p
    simp only [wipeContentState, wipeAttachments]
    split
    · exact .inl rfl
    · dsimp only
      split
      · exact .inr rfl
      · exact .inl rfl
  index := by
    simp only [wipeContentState, wipeAttachments]
    split
    · exact .inl rfl
    · cases w.attachments with
      | true => exact .inr rfl
      | false => exact .inl rfl

theorem nothingNew_applied (w : WipeResults) (s : ContentStores ι κ) (policy : StoragePolicy) :
    NothingNew s (s.applyStoragePolicy w policy).2 := by
  have hconfigured : ∀ policy allowed, NothingNew s (s.configure policy allowed) :=
    fun _ _ => ⟨.inl rfl, .inl rfl, fun _ => .inl rfl, .inl rfl⟩
  unfold applyStoragePolicy
  dsimp only
  split
  · exact hconfigured _ _
  · exact (hconfigured _ _).trans (nothingNew_wiped w _)

theorem nothingNew_updated (C : RetentionCourse) (s : ContentStores ι κ)
    (args : PolicyArguments) : NothingNew s (s.updateStoragePolicy C args).2 := by
  unfold updateStoragePolicy
  dsimp only
  cases parseStoragePolicy args with
  | error e => exact .refl s
  | ok policy =>
    have happlied := nothingNew_applied C.wipe s policy
    dsimp only
    generalize s.applyStoragePolicy C.wipe policy = r at happlied
    obtain ⟨ok, t⟩ := r
    cases ok with
    | false => exact happlied
    | true =>
      dsimp only
      split
      · exact ⟨happlied.messages, happlied.sessions, happlied.attachments, happlied.index⟩
      · exact happlied.trans (nothingNew_applied C.wipeAgain t _)

section Runs

variable {M : SnapshotCodec ι} {S : SessionCodec κ} {s : ContentStores ι κ}

theorem save_off {sessions : FileSessionStore SkippedKeys κ} (h : sessions.persist = false)
    {state : SessionState} {written : Bool} : sessions.saveWritten S state written =
      .ok { sessions with sessions := sessions.sessions.insert state.contactID state } := by
  simp [FileSessionStore.saveWritten, FileSessionStore.save, h]

theorem Off.writesNoContent (h : Off s) {a : Step} (ha : s.Discreet a) : s.WritesNoContent S a := by
  intro write hwrite
  cases a with
  | message op written =>
    have hidle : ¬ s.messages.Writes := fun hw => absurd (h.messages.symm.trans hw.2) (by simp)
    grind [writes]
  | session state written =>
    simp only [writes, h.sessions] at hwrite
    exact absurd hwrite List.not_mem_nil
  | attachment call fs =>
    simp only [writes, h.attachments] at hwrite
    exact absurd hwrite (by simp)
  | request call written =>
    simp only [writes] at hwrite
    split at hwrite
    · rename_i hconfigured
      obtain ⟨next, hnext, rfl⟩ := List.mem_map.mp hwrite
      rw [Option.mem_toList] at hnext
      exact not_inboxHasContent_saves (h.inbox hconfigured) (ha hconfigured) hnext
    · exact absurd hwrite List.not_mem_nil
  | updateStoragePolicy | stopNetworking => exact absurd hwrite List.not_mem_nil

variable [LowerCase]

theorem Off.nothingNew (h : Off s) (a : Step) : NothingNew s (s.step M S a) := by
  cases a with
  | message op written =>
    have hidle : ¬ s.messages.Writes := fun hw => absurd (h.messages.symm.trans hw.2) (by simp)
    refine ⟨.inl ?_, .inl rfl, fun _ => .inl rfl, .inl rfl⟩
    simp only [ContentStores.step, FileMessageStore.call]
    split
    · rfl
    · rename_i next _
      have hskip : s.messages.persistSnapshot M next written = .ok s.messages := if_pos hidle
      rw [hskip]
  | session state written =>
    simp only [ContentStores.step, save_off h.sessions]
    exact ⟨.inl rfl, .inl rfl, fun _ => .inl rfl, .inl rfl⟩
  | attachment call fs =>
    have hoff := call.after_off fs h.attachments
    exact ⟨.inl rfl, .inl rfl, fun p => .inl (congrFun hoff.files p), .inl hoff.index⟩
  | request call written =>
    simp only [ContentStores.step]
    split
    · exact .refl s
    · split
      · exact ⟨.inl rfl, .inl rfl, fun _ => .inl rfl, .inl rfl⟩
      · exact .refl s
  | updateStoragePolicy C args => exact nothingNew_updated C s args
  | stopNetworking w running stopped =>
    simp only [ContentStores.step, stopNetworking]
    split
    · exact .refl s
    · split
      · exact .refl s
      · exact nothingNew_wiped w s

theorem Off.step (h : Off s) (hmode : retentionOf s.privacy = .zeroRetention) {a : Step}
    (hstays : s.StaysZero M S a) (ha : s.Discreet a) : Off (s.step M S a) := by
  cases a with
  | message op written =>
    simp only [ContentStores.step]
    have hflag := (s.messages.call_config M op written).2.trans h.messages
    exact ⟨hflag, h.sessions, h.attachments, h.inbox⟩
  | session state written =>
    simp only [ContentStores.step, save_off h.sessions]
    exact { h with sessions := h.sessions }
  | attachment call fs =>
    simp only [ContentStores.step]
    have hflag := (call.after_off fs h.attachments).persist
    exact ⟨h.messages, h.sessions, hflag, h.inbox⟩
  | request call written =>
    simp only [ContentStores.step]
    cases hsaves : call.saves s.inbox with
    | none => exact h
    | some next =>
      dsimp only
      split
      · exact { h with
          inbox := fun hconfigured =>
            not_inboxHasContent_saves (h.inbox hconfigured) (ha hconfigured) hsaves }
      · exact h
  | updateStoragePolicy C args =>
    grind [StaysZero, ContentStores.step, updateStoragePolicy]
  | stopNetworking w running stopped =>
    grind [ContentStores.step, stopNetworking, Off.wiped, cases Off]

end Runs

end ContentStores

/-- In a run that begins with a change to zero retention and never leaves that mode, and in which no
message request with content comes in where requests have a file, no store writes content. The
stores with a flag write nothing at all. -/
theorem zero_retention_writes_no_content [LowerCase] {ι κ : Type} (M : SnapshotCodec ι)
    (S : SessionCodec κ) (s s' : ContentStores ι κ) (C : RetentionCourse) (args : PolicyArguments)
    (policy : StoragePolicy) (hok : s.updateStoragePolicy C args = (.ok policy, s'))
    (hzero : retentionOf policy = .zeroRetention) (steps : List ContentStores.Step)
    (hstays : Along (ContentStores.step M S) (ContentStores.StaysZero M S) s' steps)
    (hdiscreet : Along (ContentStores.step M S) ContentStores.Discreet s' steps) :
    Along (ContentStores.step M S) (ContentStores.KeepsContentOff M S) s' steps := by
  obtain ⟨hoff, hmode⟩ := off_of_updated hok hzero
  refine along_of_inv (I := fun t => t.Off ∧ retentionOf t.privacy = .zeroRetention) ?_
    ⟨hoff, hmode⟩ (hstays.and hdiscreet)
  intro t a ht ha
  exact ⟨⟨ht.1.step ht.2 ha.1 ha.2, ha.1⟩, ht.1.writesNoContent ha.2, ht.1.nothingNew a⟩

/-! ## A request that is written -/

def newStores : ContentStores Messaging.Snapshot (GoMap String SessionState) where
  messages := ⟨"data/messages.json", true, .empty, none⟩
  sessions := .fresh
  attachments :=
    { dir := "data/attachments", items := ∅, blobs := ∅, persist := true, limits := ⟨0, 0, 0, 0⟩
      hardCap := ⟨90, 100, 75⟩, index := .missing, files := fun _ => none }
  requestsConfigured := true
  inbox := ∅
  privacy := Privacy.defaultPrivacySettings
  nodePreset := defaultBlobNodePresetProfile

def retainNothing : PolicyArguments := ⟨"standard", "zero_retention", 0, 0, 0, 0, 0, 0, 0⟩

def allRemoved : WipeResults := ⟨true, true, true, fun _ => true, true, true, true⟩

def smoothCourse : RetentionCourse := ⟨allRemoved, true, allRemoved⟩

def retainingNothing : ContentStores Messaging.Snapshot (GoMap String SessionState) :=
  (newStores.updateStoragePolicy smoothCourse retainNothing).2

def strangersMessage (content : Bytes) : Message :=
  { id := "m1", contactID := "aim1stranger", conversationID := "", conversationType := .direct
    threadID := "", content := content, timestamp := 5, direction := .inbound
    status := .delivered, contentType := .text, edited := false }

theorem request_is_written :
    letI := asciiLowerCase
    ∃ policy, newStores.updateStoragePolicy smoothCourse retainNothing =
        (.ok policy, retainingNothing) ∧ retentionOf policy = .zeroRetention ∧
      Along (ContentStores.step FileMessageStore.plainSnapshots Crypto.plainCodec)
        (ContentStores.StaysZero FileMessageStore.plainSnapshots Crypto.plainCodec) retainingNothing
        [.request (.inbound (strangersMessage [104, 105])) true] ∧
      ¬ Along (ContentStores.step FileMessageStore.plainSnapshots Crypto.plainCodec)
        (ContentStores.KeepsContentOff FileMessageStore.plainSnapshots Crypto.plainCodec)
        retainingNothing [.request (.inbound (strangersMessage [104, 105])) true] := by
  let _ := asciiLowerCase
  refine ⟨_, rfl, rfl, ⟨rfl, trivial⟩, ?_⟩
  rintro ⟨⟨hwrites, -⟩, -⟩
  refine hwrites (.requests ((∅ : GoMap String (List Message)).insert "aim1stranger"
    [strangersMessage [104, 105]])) (List.mem_singleton.mpr rfl) ?_
  refine ⟨"aim1stranger", [strangersMessage [104, 105]], ?_, strangersMessage [104, 105],
    List.mem_singleton.mpr rfl, by decide⟩
  rw [get_insert, if_pos rfl]

theorem silent_run_writes_no_content :
    letI := asciiLowerCase
    Along (ContentStores.step FileMessageStore.plainSnapshots Crypto.plainCodec)
      (ContentStores.KeepsContentOff FileMessageStore.plainSnapshots Crypto.plainCodec)
      retainingNothing
      [.message (.saveMessage (strangersMessage [104, 105])) true,
        .request (.inbound (strangersMessage [])) true] := by
  let _ := asciiLowerCase
  exact zero_retention_writes_no_content FileMessageStore.plainSnapshots Crypto.plainCodec newStores
    retainingNothing smoothCourse retainNothing _ rfl rfl _ ⟨rfl, rfl, trivial⟩
    ⟨trivial, fun _ => rfl, trivial⟩

end Ardents.Daemon
