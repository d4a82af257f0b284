import Ardents.Daemon.Stores
import Ardents.Go.Machine
import Ardents.Go.Sum

/-!
# The attachment store

`storage.AttachmentStore`: an index in memory and in `index.json`, and the data of each attachment
in a file. With persistence switched off new data is kept in memory and nothing is written.
-/

namespace Ardents.Attachments

open Go
open Crypto (Time)
open Daemon (AttachmentMeta)

/-! ## The store and its directory -/

/-- `models.AttachmentClass`. -/
inductive AttachmentClass where
  | image
  | file
  deriving DecidableEq, Repr

def AttachmentClass.text : AttachmentClass → String
  | .image => "image"
  | .file => "file"

def pinned : String := "pinned"

def unpinned : String := "unpinned"

structure AttachmentClassLimits where
  imageQuotaBytes : Int
  imageMaxItemBytes : Int
  fileQuotaBytes : Int
  fileMaxItemBytes : Int
  deriving DecidableEq, Repr

structure AttachmentHardCapPolicy where
  highWatermarkPercent : Int
  fullCapPercent : Int
  aggressiveTargetPercent : Int
  deriving DecidableEq, Repr

def attachmentIndexSchemaVersion : Int := 2

/-- `index.json`. A file that is not there or empty is missing. -/
inductive IndexFile where
  | missing
  | unreadable
  | listing (schemaVersion : Int) (items : GoMap String AttachmentMeta)

abbrev Content : Type := Option Bytes

structure AttachmentStore where
  dir : String
  items : GoMap String AttachmentMeta
  blobs : GoMap String Bytes
  persist : Bool
  limits : AttachmentClassLimits
  hardCap : AttachmentHardCapPolicy
  /-- `index.json` in the directory -/
  index : IndexFile
  /-- The files there are, anywhere. -/
  files : Path → Option Content

/-- What became of writing a file of data: done, or failed with the file as it was or with something
else in it. -/
inductive FileWrite where
  | done
  | failed (left : Option Content)
  deriving DecidableEq

/-- What a failed write leaves of the index. `os.WriteFile` empties the file first; it can also fail
after it has written everything. -/
inductive IndexLeft where
  | asItWas
  | emptied
  | cutOff
  | written
  deriving DecidableEq, Repr

def IndexLeft.index (old new : IndexFile) : IndexLeft → IndexFile
  | .asItWas => old
  | .emptied => .missing
  | .cutOff => .unreadable
  | .written => new

inductive IndexWrite where
  | done
  | failed (left : IndexLeft)
  deriving DecidableEq, Repr

structure FileSystem where
  mkdirAll : Bool
  /-- `securestore.Encrypt` of the data; without a secret it cannot fail. -/
  encrypt : Bool
  writeFile : FileWrite
  writeIndex : IndexWrite
  /-- Whether `os.Remove` succeeds, or finds nothing to remove. -/
  remove : Path → Bool

def FileSystem.working : FileSystem := ⟨true, true, .done, .done, fun _ => true⟩

inductive AttachmentError where
  | dataEmpty
  | idRequired
  | classRequired
  | invalidPinState
  | generateID
  | exceedsMaxItemSize
  | hardCapReached
  | quotaExceeded
  | notFound
  | unreadable
  | storage
  deriving DecidableEq, Repr

/-! ## Classes and limits -/

section

variable [LowerCase]

def classifyAttachmentMime (mimeType : String) : AttachmentClass :=
  if "image/".toList <+: (toLower (trimSpace mimeType)).toList then .image else .file

variable (info : AttachmentMeta)

/-- The class of an attachment for `usageByClassLocked`. -/
def classText : String :=
  let text := toLower (trimSpace info.attachmentClass)
  if text = "" then (classifyAttachmentMime info.mimeType).text else text

def normalizedClass : AttachmentClass :=
  if classText info = "image" then .image else .file

def isPinned : Bool := trimSpace info.pinState = pinned

def lastAccess : Time :=
  if info.lastAccessAt = 0 then info.createdAt else info.lastAccessAt

end

/-- The comparison that `lruCandidatesLocked` sorts by. -/
def before (a b : String × AttachmentMeta) : Prop :=
  lastAccess a.2 < lastAccess b.2 ∨ lastAccess a.2 = lastAccess b.2 ∧ a.1 ≤ b.1

instance : DecidableRel before := fun a b =>
  inferInstanceAs (Decidable (lastAccess a.2 < lastAccess b.2 ∨
    lastAccess a.2 = lastAccess b.2 ∧ a.1 ≤ b.1))

def mbToBytes (mb : Int) : Int := if mb ≤ 0 then 0 else int64 (int64 (mb * 1024) * 1024)

/-- A percentage of a quota, in bytes; the quota where that comes to nothing. -/
def capBytes (quotaBytes percent : Int) : Int :=
  let bytes := (int64 (quotaBytes * percent)).tdiv 100
  if bytes ≤ 0 then quotaBytes else bytes

namespace AttachmentStore

def setClassPolicies (s : AttachmentStore) (imageQuotaMB imageMaxItemSizeMB fileQuotaMB
    fileMaxItemSizeMB : Int) : AttachmentStore :=
  { s with limits :=
      { imageQuotaBytes := mbToBytes imageQuotaMB
        imageMaxItemBytes := mbToBytes imageMaxItemSizeMB
        fileQuotaBytes := mbToBytes fileQuotaMB
        fileMaxItemBytes := mbToBytes fileMaxItemSizeMB } }

def setHardCapPolicy (s : AttachmentStore) (highWatermarkPercent fullCapPercent
    aggressiveTargetPercent : Int) : AttachmentStore :=
  let high := min (max highWatermarkPercent 1) 100
  { s with hardCap :=
      { highWatermarkPercent := high
        fullCapPercent := min (max fullCapPercent high) 100
        aggressiveTargetPercent := min (max aggressiveTargetPercent 1) high } }

def setPersistenceEnabled (s : AttachmentStore) (enabled : Bool) : AttachmentStore :=
  { s with persist := enabled }

def filePath (s : AttachmentStore) (id : String) : Path := Path.join s.dir (id ++ ".bin")

section

variable [LowerCase]

def classLimits (s : AttachmentStore) (className : String) : Int × Int :=
  if toLower (trimSpace className) = "image" then
    (s.limits.imageMaxItemBytes, s.limits.imageQuotaBytes)
  else (s.limits.fileMaxItemBytes, s.limits.fileQuotaBytes)

def usageByClass (s : AttachmentStore) (className : String) : Int :=
  int64 (sumBy (fun info =>
    if classText info = toLower (trimSpace className) then info.size else 0) s.items)

def itemSize (s : AttachmentStore) (id : String) : Int := (s.items[id]?).elim 0 AttachmentMeta.size

/-- `lruCandidatesLocked`: those of a class that are not pinned and not excluded, least recently
used first. -/
def lruCandidates (s : AttachmentStore) (className : String) (excluded : String → Bool) :
    List String :=
  let candidates := s.items.toList.filter fun entry =>
    !excluded entry.1 && !isPinned entry.2 &&
      (normalizedClass entry.2).text = toLower (trimSpace className)
  (candidates.insertionSort before).map Prod.fst

end

/-- The loop over the candidates: one after the other goes, until the usage is at most the
target. -/
def evictUntil (size : String → Int) (target : Int) : Int → List String → List String
  | _, [] => []
  | usage, id :: rest =>
    let usage := int64 (usage - size id)
    id :: if usage ≤ target then [] else evictUntil size target usage rest

/-! ## Files -/

/-- `persistItemsLocked`: whether it succeeds. -/
def persistItems (s : AttachmentStore) (items : GoMap String AttachmentMeta) (fs : FileSystem) :
    Bool × AttachmentStore :=
  if s.dir = "" ∨ s.persist = false then (true, s)
  else
    let next := .listing attachmentIndexSchemaVersion items
    match fs.writeIndex with
    | .done => (true, { s with index := next })
    | .failed left => (false, { s with index := left.index s.index next })

def RemovesFiles (s : AttachmentStore) : Prop := s.persist = true ∧ trimSpace s.dir ≠ ""

instance (s : AttachmentStore) : Decidable s.RemovesFiles :=
  inferInstanceAs (Decidable (s.persist = true ∧ trimSpace s.dir ≠ ""))

def dropBlob (s : AttachmentStore) (id : String) : AttachmentStore :=
  { s with blobs := s.blobs.erase id }

def setFile (s : AttachmentStore) (id : String) (content : Option Content) : AttachmentStore :=
  { s with files := Function.update s.files (s.filePath id) content }

/-- The loop of `deleteIDsLocked`, which stops where a file cannot be removed. -/
def dropData (fs : FileSystem) : AttachmentStore → List String → Bool × AttachmentStore
  | s, [] => (true, s)
  | s, id :: rest =>
    if s.RemovesFiles then
      if fs.remove (s.filePath id) = true then
        dropData fs ((s.dropBlob id).setFile id none) rest
      else (false, s.dropBlob id)
    else dropData fs (s.dropBlob id) rest

def deleteIDs (s : AttachmentStore) (ids : List String) (fs : FileSystem) :
    Bool × AttachmentStore :=
  if ids = [] then (true, s)
  else
    let nextItems := s.items.filter fun id _ => id ∉ ids
    match s.dropData fs ids with
    | (false, s) => (false, s)
    | (true, s) =>
      match s.persistItems nextItems fs with
      | (false, s) => (false, s)
      | (true, s) => (true, { s with items := nextItems })

/-! ## Putting attachments in -/

section

variable [LowerCase]

/-- What `enforceClassLimitsLocked` rejects at once, and whom it evicts otherwise. -/
def evictions (s : AttachmentStore) (className : String) (size : Int) :
    Except AttachmentError (List String) :=
  let (maxItemBytes, quotaBytes) := s.classLimits className
  let usage := s.usageByClass className
  if maxItemBytes > 0 ∧ size > maxItemBytes then .error .exceedsMaxItemSize
  else if quotaBytes > 0 ∧ usage ≥ capBytes quotaBytes s.hardCap.fullCapPercent then
    .error .hardCapReached
  else if quotaBytes > 0 ∧ int64 (usage + size) > quotaBytes then
    let targetUsage := max (int64 (quotaBytes - size)) 0
    if usage > targetUsage then
      .ok (evictUntil s.itemSize targetUsage usage (s.lruCandidates className fun _ => false))
    else .ok []
  else .ok []

def ExceedsQuota (s : AttachmentStore) (className : String) (size : Int) : Prop :=
  (s.classLimits className).2 > 0 ∧
    int64 (s.usageByClass className + size) > (s.classLimits className).2

instance (s : AttachmentStore) (className : String) (size : Int) :
    Decidable (s.ExceedsQuota className size) :=
  inferInstanceAs (Decidable ((s.classLimits className).2 > 0 ∧
    int64 (s.usageByClass className + size) > (s.classLimits className).2))

/-- `enforceClassLimitsLocked`. -/
def enforceClassLimits (s : AttachmentStore) (className : String) (size : Int)
    (fs : FileSystem) : Except AttachmentError Unit × AttachmentStore :=
  match s.evictions className size with
  | .error e => (.error e, s)
  | .ok toDelete =>
    match s.deleteIDs toDelete fs with
    | (false, s) => (.error .storage, s)
    | (true, s) =>
      if s.ExceedsQuota className size then (.error .quotaExceeded, s) else (.ok (), s)

/-- The second half of `Put` and `PutExisting`. When the index cannot be written, `Put` removes
the file again. -/
def putData (s : AttachmentStore) (info : AttachmentMeta) (data : Bytes) (removeAgain : Bool)
    (fs : FileSystem) : Except AttachmentError Unit × AttachmentStore :=
  let nextItems := s.items.insert info.id info
  if s.dir = "" then (.ok (), { s with items := nextItems })
  else if s.persist = false then
    (.ok (), { s with items := nextItems, blobs := s.blobs.insert info.id data })
  else if fs.mkdirAll = false then (.error .storage, s)
  else if fs.encrypt = false then (.error .storage, s)
  else
    match fs.writeFile with
    | .failed none => (.error .storage, s)
    | .failed (some left) => (.error .storage, s.setFile info.id (some left))
    | .done =>
      match (s.setFile info.id (some (some data))).persistItems nextItems fs with
      | (false, s) =>
        if removeAgain = true ∧ fs.remove (s.filePath info.id) = true then
          (.error .storage, s.setFile info.id none)
        else (.error .storage, s)
      | (true, s) => (.ok (), { s with items := nextItems })

def putWithin (s : AttachmentStore) (info : AttachmentMeta) (data : Bytes) (removeAgain : Bool)
    (fs : FileSystem) : Except AttachmentError Unit × AttachmentStore :=
  match s.enforceClassLimits info.attachmentClass info.size fs with
  | (.error e, s) => (.error e, s)
  | (.ok (), s) => s.putData info data removeAgain fs

/-- The entry `Put` makes. -/
def newMeta (id name mimeType : String) (data : Bytes) (now : Time) : AttachmentMeta :=
  let mimeType := if mimeType = "" then "application/octet-stream" else mimeType
  { id := id, name := name, mimeType := mimeType
    attachmentClass := (classifyAttachmentMime mimeType).text, lastAccessAt := now
    pinState := unpinned, size := data.length, createdAt := now }

/-- `Put`, with the id that `newAttachmentID` generates. -/
def put (s : AttachmentStore) (name mimeType : String) (data : Bytes) (newID : Option String)
    (now : Time) (fs : FileSystem) : Except AttachmentError AttachmentMeta × AttachmentStore :=
  if data = [] then (.error .dataEmpty, s)
  else
    match newID with
    | none => (.error .generateID, s)
    | some id =>
      let info := newMeta id name mimeType data now
      match s.putWithin info data true fs with
      | (.error e, s) => (.error e, s)
      | (.ok (), s) => (.ok info, s)

/-- What `PutExisting` makes of the entry it is given. -/
def completeMeta (info : AttachmentMeta) (data : Bytes) (now : Time) : AttachmentMeta :=
  let mimeType :=
    if trimSpace info.mimeType = "" then "application/octet-stream" else info.mimeType
  let createdAt := if info.createdAt = 0 then now else info.createdAt
  { info with
    mimeType := mimeType
    attachmentClass := if trimSpace info.attachmentClass = "" then
        (classifyAttachmentMime mimeType).text else info.attachmentClass
    size := if info.size ≤ 0 then data.length else info.size
    createdAt := createdAt
    lastAccessAt := if info.lastAccessAt = 0 then createdAt else info.lastAccessAt
    pinState := if trimSpace info.pinState = "" then unpinned else info.pinState }

def putExisting (s : AttachmentStore) (info : AttachmentMeta) (data : Bytes) (now : Time)
    (fs : FileSystem) : Except AttachmentError Unit × AttachmentStore :=
  if trimSpace info.id = "" then (.error .idRequired, s)
  else if data = [] then (.error .dataEmpty, s)
  else s.putWithin (completeMeta info data now) data false fs

end

/-! ## Getting them out -/

def readContent : Option Content → Except AttachmentError Bytes
  | none => .error .notFound
  | some none => .error .unreadable
  | some (some data) => .ok data

def readFile (s : AttachmentStore) (id : String) : Except AttachmentError Bytes :=
  if s.dir = "" then .error .notFound else readContent (s.files (s.filePath id))

/-- The data that `Get` finds for an indexed attachment. -/
def readData (s : AttachmentStore) (id : String) : Except AttachmentError Bytes :=
  match s.blobs[id]? with
  | some blob => .ok blob
  | none => s.readFile id

def touchLastAccess (s : AttachmentStore) (id : String) (at_ : Time) (fs : FileSystem) :
    AttachmentStore :=
  match s.items[id]? with
  | none => s
  | some info =>
    if info.lastAccessAt ≥ at_ then s
    else
      let nextItems := s.items.insert id { info with lastAccessAt := at_ }
      match s.persistItems nextItems fs with
      | (false, s) => s
      | (true, s) => { s with items := nextItems }

def get (s : AttachmentStore) (id : String) (now : Time) (fs : FileSystem) :
    Except AttachmentError (AttachmentMeta × Bytes) × AttachmentStore :=
  match s.items[id]? with
  | none => (.error .notFound, s)
  | some info =>
    match s.readData id with
    | .error e => (.error e, s)
    | .ok data => (.ok (info, data), s.touchLastAccess id now fs)

def setPinState [LowerCase] (s : AttachmentStore) (id pinState : String) (now : Time)
    (fs : FileSystem) : Except AttachmentError Unit × AttachmentStore :=
  let id := trimSpace id
  let pinState := toLower (trimSpace pinState)
  if id = "" then (.error .idRequired, s)
  else if pinState ≠ pinned ∧ pinState ≠ unpinned then (.error .invalidPinState, s)
  else
    match s.items[id]? with
    | none => (.error .notFound, s)
    | some info =>
      if info.pinState = pinState then (.ok (), s)
      else
        let nextItems := s.items.insert id { info with pinState := pinState, lastAccessAt := now }
        match s.persistItems nextItems fs with
        | (false, s) => (.error .storage, s)
        | (true, s) => (.ok (), { s with items := nextItems })

/-! ## Collecting garbage -/

def ranged (ids order : List String) : List String := if order.Perm ids then order else ids

def idsWhere (s : AttachmentStore) (p : AttachmentMeta → Bool) : List String :=
  (s.items.toList.filter fun entry => p entry.2).map Prod.fst

def purge (s : AttachmentStore) (gone : AttachmentMeta → Bool) (order : List String)
    (fs : FileSystem) : Except AttachmentError Nat × AttachmentStore :=
  match s.deleteIDs (ranged (s.idsWhere gone) order) fs with
  | (false, t) => (.error .storage, t)
  | (true, t) => (.ok (s.idsWhere gone).length, t)

def purgeOlderThan (s : AttachmentStore) (cutoff : Time) (order : List String)
    (fs : FileSystem) : Except AttachmentError Nat × AttachmentStore :=
  s.purge (fun info => info.createdAt ≤ cutoff) order fs

def purgeOlderThanByClass [LowerCase] (s : AttachmentStore) (className : String) (cutoff : Time)
    (order : List String) (fs : FileSystem) : Except AttachmentError Nat × AttachmentStore :=
  let className := toLower (trimSpace className)
  if className = "" then (.error .classRequired, s)
  else s.purge (fun info => classText info = className && info.createdAt ≤ cutoff) order fs

/-- `now.Add(-time.Duration(ttl) * time.Second)`. -/
def ttlCutoff (now : Time) (ttlSeconds : Int) : Time :=
  now + int64 (int64 (-ttlSeconds) * 1000000000)

inductive GCCause where
  | expired
  | lru
  deriving DecidableEq, Repr

section

variable [LowerCase]

def expiryCutoff (now : Time) (ttlSeconds : Int) : Option Time :=
  if ttlSeconds ≤ 0 then none else some (ttlCutoff now ttlSeconds)

def isExpired (now : Time) (imageTTLSeconds fileTTLSeconds : Int) (info : AttachmentMeta) : Bool :=
  let ttlSeconds := if normalizedClass info = .image then imageTTLSeconds else fileTTLSeconds
  !isPinned info && (expiryCutoff now ttlSeconds).any fun cutoff => info.createdAt ≤ cutoff

def gcTarget (s : AttachmentStore) (quotaBytes usage : Int) : Int :=
  let highWatermarkBytes := capBytes quotaBytes s.hardCap.highWatermarkPercent
  let aggressiveTargetBytes := (int64 (quotaBytes * s.hardCap.aggressiveTargetPercent)).tdiv 100
  if usage ≥ highWatermarkBytes ∧ aggressiveTargetBytes > 0 ∧ aggressiveTargetBytes < quotaBytes
  then aggressiveTargetBytes
  else quotaBytes

/-- `usageByClassExcludingLocked`. -/
def usageExcluding (s : AttachmentStore) (attachmentClass : AttachmentClass)
    (excluded : String → Bool) : Int :=
  int64 (sumBy (fun info => if normalizedClass info = attachmentClass then info.size else 0)
    (s.items.filter fun id _ => !excluded id))

def gcClass (s : AttachmentStore) (toDelete : GoMap String GCCause)
    (attachmentClass : AttachmentClass) : GoMap String GCCause :=
  let quotaBytes := (s.classLimits attachmentClass.text).2
  if quotaBytes ≤ 0 then toDelete
  else
    let excluded := fun id => decide (id ∈ toDelete)
    let usage := s.usageExcluding attachmentClass excluded
    let targetUsage := s.gcTarget quotaBytes usage
    if usage ≤ targetUsage then toDelete
    else
      (evictUntil s.itemSize targetUsage usage
        (s.lruCandidates attachmentClass.text excluded)).foldl
          (fun marks id => marks.insert id .lru) toDelete

def expiredMarks (s : AttachmentStore) (now : Time) (imageTTLSeconds fileTTLSeconds : Int) :
    GoMap String GCCause :=
  (s.items.filter fun _ info => isExpired now imageTTLSeconds fileTTLSeconds info).map
    fun _ _ => .expired

/-- The two phases of `runGCLocked`: what is to be deleted, and why. -/
def gcMarks (s : AttachmentStore) (now : Time) (imageTTLSeconds fileTTLSeconds : Int) :
    GoMap String GCCause :=
  [AttachmentClass.image, .file].foldl s.gcClass
    (s.expiredMarks now imageTTLSeconds fileTTLSeconds)

structure AttachmentGCReport where
  dryRun : Bool
  deletedCount : Nat
  deletedByClass : AttachmentClass → Nat
  deletedByCause : GCCause → Nat

def gcReport (s : AttachmentStore) (marks : GoMap String GCCause) (dryRun : Bool) :
    AttachmentGCReport :=
  let deleted := marks.toList.filterMap fun entry =>
    (s.items[entry.1]?).map fun info => (normalizedClass info, entry.2)
  { dryRun := dryRun, deletedCount := deleted.length
    deletedByClass := fun c => deleted.countP fun d => d.1 = c
    deletedByCause := fun c => deleted.countP fun d => d.2 = c }

/-- `RunGC`; the clock is read where no time is given. -/
def runGC (s : AttachmentStore) (now clock : Time) (imageTTLSeconds fileTTLSeconds : Int)
    (dryRun : Bool) (order : List String) (fs : FileSystem) :
    Except AttachmentError AttachmentGCReport × AttachmentStore :=
  let now := if now = 0 then clock else now
  let marks := s.gcMarks now imageTTLSeconds fileTTLSeconds
  let report := s.gcReport marks dryRun
  if report.deletedCount = 0 ∨ dryRun = true then (.ok report, s)
  else
    match s.deleteIDs (ranged marks.keys order) fs with
    | (false, s) => (.error .storage, s)
    | (true, s) => (.ok report, s)

end

/-! ## Opening a store -/

section

variable [LowerCase]

/-- What `load` makes of an entry of the index. -/
def loadMeta (now : Time) (info : AttachmentMeta) : AttachmentMeta :=
  { info with
    attachmentClass := if trimSpace info.attachmentClass = "" then
        (classifyAttachmentMime info.mimeType).text else info.attachmentClass
    pinState := if trimSpace info.pinState = "" then unpinned else info.pinState
    lastAccessAt := if info.lastAccessAt ≠ 0 then info.lastAccessAt
      else if info.createdAt ≠ 0 then info.createdAt else now }

/-- A new store on the directory of an old one: `NewAttachmentStoreWithSecret`. An index of an old
schema, or with gaps, is written again. Where that fails there is no new store. -/
def reopen (s : AttachmentStore) (now : Time) (fs : FileSystem) : Bool × AttachmentStore :=
  let fresh : AttachmentStore :=
    { dir := s.dir, items := ∅, blobs := ∅, persist := true
      limits := ⟨0, 0, 0, 0⟩, hardCap := ⟨90, 100, 75⟩, index := s.index, files := s.files }
  if s.dir = "" then (true, fresh)
  else
    match s.index with
    | .missing => (true, fresh)
    | .unreadable => (false, s)
    | .listing schemaVersion items =>
      if schemaVersion > attachmentIndexSchemaVersion then (false, s)
      else
        let loaded := { fresh with items := items.map fun _ info => loadMeta now info }
        if schemaVersion < attachmentIndexSchemaVersion ∨
            ∃ entry ∈ items.toList, loadMeta now entry.2 ≠ entry.2 then
          match loaded.persistItems loaded.items fs with
          | (false, t) => (false, { s with index := t.index })
          | (true, t) => (true, t)
        else (true, loaded)

end

/-! ## What the operations change -/

def removable (s : AttachmentStore) (fs : FileSystem) (id : String) : Bool :=
  !s.RemovesFiles || fs.remove (s.filePath id)

/-- Those of the ids whose files are removed: all, or those in front of one that cannot be. -/
def removed (s : AttachmentStore) (fs : FileSystem) (ids : List String) : List String :=
  if s.RemovesFiles then ids.takeWhile (s.removable fs) else []

/-- Those whose data in memory is dropped: also the one whose file cannot be removed. -/
def dropped (s : AttachmentStore) (fs : FileSystem) (ids : List String) : List String :=
  ids.takeWhile (s.removable fs) ++ (ids.dropWhile (s.removable fs)).take 1

def without (s : AttachmentStore) (gone cleared : List String) : AttachmentStore :=
  { s with
    blobs := s.blobs.filter fun id _ => id ∉ gone
    files := fun p => if ∃ id ∈ cleared, s.filePath id = p then none else s.files p }

theorem readContent_inj {c c' : Option Content} (h : readContent c = readContent c') : c = c' := by
  cases c with
  | none =>
    cases c' with
    | none => rfl
    | some c' => cases c' <;> simp [readContent] at h
  | some c =>
    cases c' with
    | none => cases c <;> simp [readContent] at h
    | some c' =>
      cases c with
      | none =>
        cases c' with
        | none => rfl
        | some data => simp [readContent] at h
      | some data =>
        cases c' with
        | none => simp [readContent] at h
        | some data' => rw [Except.ok.inj h]

variable {s : AttachmentStore} {id : String}

theorem get_data (h : id ∈ s.items) (now : Time)
    (fs : FileSystem) : (s.get id now fs).1.map Prod.snd = s.readData id := by
  obtain ⟨info, hinfo⟩ := mem_iff_get.mp h
  simp only [get, hinfo]
  cases s.readData id with
  | error e => rfl
  | ok data => rfl

theorem get_of_not_mem (h : id ∉ s.items) (now : Time)
    (fs : FileSystem) : s.get id now fs = (.error .notFound, s) := by
  grind [get]

theorem without_nil (s : AttachmentStore) : s.without [] [] = s := by
  have hblobs : (s.blobs.filter fun id _ => decide (id ∉ ([] : List String))) = s.blobs := by
    refine map_ext fun id => ?_
    rw [get_filter]
    simp
  unfold without
  rw [hblobs]
  simp

theorem without_dropBlob (s : AttachmentStore) (id : String) (gone cleared : List String) :
    (s.dropBlob id).without gone cleared = s.without (id :: gone) cleared := by
  have hblobs : ((s.blobs.erase id).filter fun k _ => decide (k ∉ gone)) =
      s.blobs.filter fun k _ => decide (k ∉ id :: gone) := by
    refine map_ext fun k => ?_
    rw [get_filter, get_filter, get_erase]
    by_cases hk : id = k
    · subst hk
      simp
    · simp [hk, Ne.symm hk]
  unfold without dropBlob
  rw [hblobs]
  rfl

theorem without_setFile (s : AttachmentStore) (id : String) (gone cleared : List String) :
    (s.setFile id none).without gone cleared = s.without gone (id :: cleared) := by
  have hfiles : (fun p => if ∃ k ∈ cleared, s.filePath k = p then none
      else Function.update s.files (s.filePath id) none p) =
      fun p => if ∃ k ∈ id :: cleared, s.filePath k = p then none else s.files p := by
    funext p
    by_cases hp : s.filePath id = p
    · subst hp
      simp
    · simp [hp, Function.update_of_ne (Ne.symm hp)]
  unfold without
  rw [← hfiles]
  rfl

theorem dropData_eq (s : AttachmentStore) (fs : FileSystem) (ids : List String) :
    s.dropData fs ids =
      (ids.all (s.removable fs), s.without (s.dropped fs ids) (s.removed fs ids)) := by
  induction ids generalizing s with
  | nil => simp [dropData, dropped, removed, without_nil]
  | cons id rest ih =>
    simp only [dropData]
    split
    · rename_i hfiles
      split
      · rename_i hremove
        have hremovable : s.removable fs id = true := by simp [removable, hremove]
        rw [ih, without_setFile, without_dropBlob]
        simp only [dropped, removed, List.all_cons, hremovable, List.takeWhile_cons_of_pos,
          List.dropWhile_cons_of_pos, Bool.true_and, if_pos hfiles]
        have hsame : ((s.dropBlob id).setFile id none).RemovesFiles := hfiles
        rw [if_pos hsame]
        rfl
      · rename_i hremove
        have hstuck : s.removable fs id = false := by simpa [removable, hfiles] using hremove
        have hnil : s.dropBlob id = s.without [id] [] := by
          rw [← without_dropBlob, without_nil]
        simp [dropped, removed, hstuck, hnil]
    · rename_i hfiles
      have hremovable : s.removable fs id = true := by simp [removable, hfiles]
      have hsame : ¬ (s.dropBlob id).RemovesFiles := hfiles
      rw [ih, without_dropBlob]
      simp only [dropped, removed, List.all_cons, hremovable, List.takeWhile_cons_of_pos,
        List.dropWhile_cons_of_pos, Bool.true_and, if_neg hfiles, if_neg hsame]
      rfl

def indexWritten (s : AttachmentStore) (fs : FileSystem) : Bool :=
  s.dir = "" || !s.persist || fs.writeIndex matches .done

/-- What the index says when it was to say `items`. -/
def indexAfter (s : AttachmentStore) (items : GoMap String AttachmentMeta) (fs : FileSystem) :
    IndexFile :=
  if s.dir = "" ∨ s.persist = false then s.index
  else
    let next := .listing attachmentIndexSchemaVersion items
    match fs.writeIndex with
    | .done => next
    | .failed left => left.index s.index next

theorem persistItems_eq (s : AttachmentStore) (items : GoMap String AttachmentMeta)
    (fs : FileSystem) :
    s.persistItems items fs = (s.indexWritten fs, { s with index := s.indexAfter items fs }) := by
  unfold persistItems indexWritten indexAfter
  by_cases hidle : s.dir = "" ∨ s.persist = false
  · simp_all
  · grind

variable {fs : FileSystem}

theorem persistItems_done {items : GoMap String AttachmentMeta}
    (hdir : s.dir ≠ "") (hpersist : s.persist = true)
    (hindex : fs.writeIndex = .done) : s.persistItems items fs =
      (true, { s with index := .listing attachmentIndexSchemaVersion items }) := by
  grind [persistItems]

theorem persistItems_failed {items : GoMap String AttachmentMeta}
    {left : IndexLeft} (hdir : s.dir ≠ "") (hpersist : s.persist = true)
    (hindex : fs.writeIndex = .failed left) : s.persistItems items fs = (false, { s with
        index := left.index s.index (.listing attachmentIndexSchemaVersion items) }) := by
  grind [persistItems]

/-- The ways in which `putData` can go. -/
inductive Storing (s : AttachmentStore) (info : AttachmentMeta) (data : Bytes)
    (removeAgain : Bool) (fs : FileSystem) :
    Except AttachmentError Unit × AttachmentStore → Prop where
  | unsaved (hdir : s.dir = "") :
      Storing s info data removeAgain fs (.ok (), { s with items := s.items.insert info.id info })
  | inMemory (hdir : s.dir ≠ "") (hpersist : s.persist = false) :
      Storing s info data removeAgain fs (.ok (), { s with
        items := s.items.insert info.id info, blobs := s.blobs.insert info.id data })
  | untouched (hdir : s.dir ≠ "") (hpersist : s.persist = true)
      (hfails : fs.mkdirAll = false ∨ fs.encrypt = false ∨ fs.writeFile = .failed none) :
      Storing s info data removeAgain fs (.error .storage, s)
  | cutOff (hdir : s.dir ≠ "") (hpersist : s.persist = true) (hmkdir : fs.mkdirAll = true)
      (hencrypt : fs.encrypt = true) (left : Content)
      (hfails : fs.writeFile = .failed (some left)) :
      Storing s info data removeAgain fs (.error .storage, s.setFile info.id (some left))
  | unindexed (hdir : s.dir ≠ "") (hpersist : s.persist = true) (hmkdir : fs.mkdirAll = true)
      (hencrypt : fs.encrypt = true) (hwrite : fs.writeFile = .done) (left : IndexLeft)
      (hfails : fs.writeIndex = .failed left) (content : Option Content)
      (hcontent : content = if removeAgain = true ∧ fs.remove (s.filePath info.id) = true then none
        else some (some data)) :
      Storing s info data removeAgain fs (.error .storage, { s.setFile info.id content with
        index := left.index s.index
          (.listing attachmentIndexSchemaVersion (s.items.insert info.id info)) })
  | stored (hdir : s.dir ≠ "") (hpersist : s.persist = true) (hmkdir : fs.mkdirAll = true)
      (hencrypt : fs.encrypt = true) (hwrite : fs.writeFile = .done)
      (hindex : fs.writeIndex = .done) :
      Storing s info data removeAgain fs (.ok (), { s.setFile info.id (some (some data)) with
        index := .listing attachmentIndexSchemaVersion (s.items.insert info.id info)
        items := s.items.insert info.id info })

theorem setFile_setFile (s : AttachmentStore) (id : String) (content content' : Option Content)
    (index : IndexFile) : { s.setFile id content with index := index }.setFile id content' =
      { s.setFile id content' with index := index } := by
  have hfiles : Function.update (Function.update s.files (s.filePath id) content)
      (s.filePath id) content' = Function.update s.files (s.filePath id) content' :=
    Function.update_idem _ _ _
  simp only [setFile]
  rw [← hfiles]
  rfl

theorem storing_of_written {info : AttachmentMeta} {data : Bytes}
    {removeAgain : Bool} (hdir : s.dir ≠ "") (hpersist : s.persist = true)
    (hmkdir : fs.mkdirAll = true) (hencrypt : fs.encrypt = true) (hwrite : fs.writeFile = .done) :
    Storing s info data removeAgain fs
      (match (s.setFile info.id (some (some data))).persistItems
          (s.items.insert info.id info) fs with
        | (false, s) =>
          if removeAgain = true ∧ fs.remove (s.filePath info.id) = true then
            (.error .storage, s.setFile info.id none)
          else (.error .storage, s)
        | (true, t) => (.ok (), { t with items := s.items.insert info.id info })) := by
  have hdir' : (s.setFile info.id (some (some data))).dir ≠ "" := hdir
  have hpersist' : (s.setFile info.id (some (some data))).persist = true := hpersist
  cases hindex : fs.writeIndex with
  | done =>
    rw [persistItems_done hdir' hpersist' hindex]
    exact .stored hdir hpersist hmkdir hencrypt hwrite hindex
  | failed left =>
    rw [persistItems_failed hdir' hpersist' hindex]
    dsimp only
    rw [setFile_setFile]
    split
    · rename_i hremove
      exact .unindexed hdir hpersist hmkdir hencrypt hwrite left hindex none
        (if_pos hremove).symm
    · rename_i hremove
      exact .unindexed hdir hpersist hmkdir hencrypt hwrite left hindex _ (if_neg hremove).symm

theorem putData_storing (s : AttachmentStore) (info : AttachmentMeta) (data : Bytes)
    (removeAgain : Bool) (fs : FileSystem) :
    Storing s info data removeAgain fs (s.putData info data removeAgain fs) := by
  unfold putData
  by_cases hdir : s.dir = ""
  · rw [if_pos hdir]
    exact .unsaved hdir
  rw [if_neg hdir]
  by_cases hpersist : s.persist = false
  · rw [if_pos hpersist]
    exact .inMemory hdir hpersist
  rw [if_neg hpersist]
  have hpersist : s.persist = true := by simpa using hpersist
  cases hmkdir : fs.mkdirAll with
  | false => exact .untouched hdir hpersist (.inl hmkdir)
  | true =>
    cases hencrypt : fs.encrypt with
    | false => exact .untouched hdir hpersist (.inr (.inl hencrypt))
    | true =>
      rw [if_neg (by simp), if_neg (by simp)]
      cases hwrite : fs.writeFile with
      | failed left =>
        cases left with
        | none => exact .untouched hdir hpersist (.inr (.inr hwrite))
        | some left => exact .cutOff hdir hpersist hmkdir hencrypt left hwrite
      | done => exact storing_of_written hdir hpersist hmkdir hencrypt hwrite

variable {ids : List String}

theorem dropped_of_all (h : ids.all (s.removable fs) = true) : s.dropped fs ids = ids := by
  have hall : ∀ id ∈ ids, s.removable fs id = true := List.all_eq_true.mp h
  simp [dropped, List.takeWhile_eq_self_iff.mpr hall, List.dropWhile_eq_nil_iff.mpr hall]

theorem mem_of_mem_dropped (h : id ∈ s.dropped fs ids) : id ∈ ids := by
  rcases List.mem_append.mp h with h | h
  · exact (List.takeWhile_subset _) h
  · exact (List.dropWhile_subset _) (List.mem_of_mem_take h)

theorem mem_dropped_of_mem_removed (h : id ∈ s.removed fs ids) : id ∈ s.dropped fs ids := by
  unfold removed at h
  split at h
  · exact List.mem_append_left _ h
  · exact absurd h List.not_mem_nil

theorem deleteIDs_eq (s : AttachmentStore) (hids : ids ≠ []) (fs : FileSystem) :
    s.deleteIDs ids fs =
      let nextItems := s.items.filter fun id _ => id ∉ ids
      if ids.all (s.removable fs) then
        (s.indexWritten fs,
          { s.without ids (s.removed fs ids) with
            index := s.indexAfter nextItems fs
            items := if s.indexWritten fs then nextItems else s.items })
      else (false, s.without (s.dropped fs ids) (s.removed fs ids)) := by
  unfold deleteIDs
  rw [if_neg hids, dropData_eq]
  cases hall : ids.all (s.removable fs) with
  | false => rfl
  | true =>
    rw [dropped_of_all hall]
    simp only [persistItems_eq, if_true]
    have hwritten : (s.without ids (s.removed fs ids)).indexWritten fs = s.indexWritten fs := rfl
    rw [hwritten]
    cases s.indexWritten fs with
    | true => rfl
    | false => rfl

theorem indexWritten_working (s : AttachmentStore) : s.indexWritten .working = true := by
  simp [indexWritten, FileSystem.working]

theorem deleteIDs_working (s : AttachmentStore) (ids : List String) :
    ∃ t, s.deleteIDs ids .working = (true, t) ∧
    t.dir = s.dir ∧ t.persist = s.persist ∧ t.limits = s.limits ∧
    t.items = s.items.filter fun id _ => decide (id ∉ ids) := by
  by_cases hids : ids = []
  · subst hids
    refine ⟨s, rfl, rfl, rfl, rfl, map_ext fun id => ?_⟩
    rw [get_filter]
    simp
  · have hall : ids.all (s.removable .working) = true := by
      simp [removable, FileSystem.working]
    rw [deleteIDs_eq s hids]
    rw [if_pos hall, indexWritten_working]
    exact ⟨_, rfl, rfl, rfl, rfl, rfl⟩

theorem mem_ranged {order : List String} (h : id ∈ ranged ids order) : id ∈ ids := by
  grind [ranged]

theorem get_deleteIDs (hid : id ∉ ids) : (s.deleteIDs ids fs).2.items[id]? = s.items[id]? := by
  by_cases hids : ids = []
  · subst hids
    rfl
  · rw [deleteIDs_eq s hids]
    split
    · split
      · rw [get_filter]
        simp [hid]
      · rfl
    · rfl

theorem mem_evictUntil {size : String → Int} {target usage : Int}
    (h : id ∈ evictUntil size target usage ids) : id ∈ ids := by
  induction ids generalizing usage with
  | nil => exact absurd h List.not_mem_nil
  | cons first rest ih =>
    grind [evictUntil]

section

variable [LowerCase]

theorem toLower_trimSpace_text (c : AttachmentClass) : toLower (trimSpace c.text) = c.text := by
  have htrim : trimSpace c.text = c.text := by cases c <;> decide
  rw [htrim]
  refine toLower_eq_self ?_
  cases c <;> simp [AttachmentClass.text, Char.isUpper]

omit [LowerCase] in
theorem text_inj {c d : AttachmentClass} (h : c.text = d.text) : c = d := by
  cases c <;> cases d <;> first | rfl | exact absurd h (by decide)

theorem classText_of_text {info : AttachmentMeta} {c : AttachmentClass}
    (h : info.attachmentClass = c.text) : classText info = c.text := by
  unfold classText
  rw [h, toLower_trimSpace_text]
  exact if_neg (by cases c <;> decide)

theorem normalizedClass_of_text {info : AttachmentMeta} {c : AttachmentClass}
    (h : info.attachmentClass = c.text) : normalizedClass info = c := by
  unfold normalizedClass
  rw [classText_of_text h]
  cases c <;> rfl

variable {s : AttachmentStore} {id className : String}

theorem mem_lruCandidates {excluded : String → Bool} : id ∈ s.lruCandidates className excluded ↔
      ∃ info, s.items[id]? = some info ∧ excluded id = false ∧ isPinned info = false ∧
        (normalizedClass info).text = toLower (trimSpace className) := by
  simp only [lruCandidates, List.mem_map, List.mem_insertionSort, List.mem_filter,
    Bool.and_eq_true, Bool.not_eq_true', decide_eq_true_eq, Prod.exists,
    Std.ExtTreeMap.mem_toList_iff_getElem?_eq_some, and_assoc]
  simp

theorem evictions_ok {size : Int}
    {toDelete : List String} (h : s.evictions className size = .ok toDelete) :
    let quotaBytes := (s.classLimits className).2
    let usage := s.usageByClass className
    let targetUsage := max (int64 (quotaBytes - size)) 0
    ((s.classLimits className).1 > 0 → size ≤ (s.classLimits className).1) ∧
      (toDelete = [] ∨ quotaBytes > 0 ∧ int64 (usage + size) > quotaBytes ∧ usage > targetUsage ∧
        toDelete =
          evictUntil s.itemSize targetUsage usage (s.lruCandidates className fun _ => false)) := by
  dsimp only [evictions] at h ⊢
  by_cases hitem : (s.classLimits className).1 > 0 ∧ size > (s.classLimits className).1
  · simp_all
  · grind

theorem evictions_mem {size : Int}
    {toDelete : List String} (h : s.evictions className size = .ok toDelete)
    (hid : id ∈ toDelete) : id ∈ s.lruCandidates className fun _ => false := by
  rcases (evictions_ok h).2 with rfl | ⟨-, -, -, rfl⟩
  · exact absurd hid List.not_mem_nil
  · exact mem_evictUntil hid

/-- The ways in which `putWithin` can go: how far it gets, and with which store. -/
inductive Putting (s : AttachmentStore) (info : AttachmentMeta) (data : Bytes)
    (removeAgain : Bool) (fs : FileSystem) :
    Except AttachmentError Unit × AttachmentStore → Prop where
  | rejected (e : AttachmentError) (h : s.evictions info.attachmentClass info.size = .error e) :
      Putting s info data removeAgain fs (.error e, s)
  | stuck (toDelete : List String) (t : AttachmentStore)
      (h : s.evictions info.attachmentClass info.size = .ok toDelete)
      (hdelete : s.deleteIDs toDelete fs = (false, t)) :
      Putting s info data removeAgain fs (.error .storage, t)
  | full (toDelete : List String) (t : AttachmentStore)
      (h : s.evictions info.attachmentClass info.size = .ok toDelete)
      (hdelete : s.deleteIDs toDelete fs = (true, t))
      (hquota : t.ExceedsQuota info.attachmentClass info.size) :
      Putting s info data removeAgain fs (.error .quotaExceeded, t)
  | within (toDelete : List String) (t : AttachmentStore)
      (h : s.evictions info.attachmentClass info.size = .ok toDelete)
      (hdelete : s.deleteIDs toDelete fs = (true, t))
      (hquota : ¬ t.ExceedsQuota info.attachmentClass info.size) :
      Putting s info data removeAgain fs (t.putData info data removeAgain fs)

theorem putWithin_putting (s : AttachmentStore) (info : AttachmentMeta) (data : Bytes)
    (removeAgain : Bool) (fs : FileSystem) :
    Putting s info data removeAgain fs (s.putWithin info data removeAgain fs) := by
  unfold putWithin enforceClassLimits
  cases hevictions : s.evictions info.attachmentClass info.size with
  | error e => exact .rejected e hevictions
  | ok toDelete =>
    dsimp only
    rcases hdelete : s.deleteIDs toDelete fs with ⟨deleted, t⟩
    cases deleted with
    | false => exact .stuck toDelete t hevictions hdelete
    | true =>
      dsimp only
      by_cases hquota : t.ExceedsQuota info.attachmentClass info.size
      · rw [if_pos hquota]
        exact .full toDelete t hevictions hdelete hquota
      · rw [if_neg hquota]
        exact .within toDelete t hevictions hdelete hquota

theorem put_some {data : Bytes} (hdata : data ≠ []) (s : AttachmentStore)
    (name mimeType id : String) (now : Time) (fs : FileSystem) :
    s.put name mimeType data (some id) now fs =
      let info := newMeta id name mimeType data now
      ((s.putWithin info data true fs).1.map fun _ => info, (s.putWithin info data true fs).2) := by
  simp only [put, if_neg hdata]
  rcases s.putWithin (newMeta id name mimeType data now) data true fs with ⟨_ | _, _⟩
  · rfl
  · rfl

theorem evictions_indexed {size : Int}
    {toDelete : List String} (h : s.evictions className size = .ok toDelete)
    (hid : id ∈ toDelete) : id ∈ s.items := by
  obtain ⟨info, hinfo, -⟩ := mem_lruCandidates.mp (evictions_mem h hid)
  exact mem_iff_get.mpr ⟨info, hinfo⟩

omit [LowerCase] in
theorem get_marked {marks : GoMap String GCCause} {ids : List String} {cause : GCCause} :
    (ids.foldl (fun marks id => marks.insert id cause) marks)[id]? =
      if id ∈ ids then some cause else marks[id]? := by
  induction ids generalizing marks with
  | nil => simp
  | cons first rest ih =>
    rw [List.foldl_cons, ih, get_insert]
    by_cases hrest : id ∈ rest
    · simp [hrest]
    · by_cases hfirst : first = id
      · simp [hfirst]
      · simp [hrest, hfirst, Ne.symm hfirst]

theorem gcClass_get (s : AttachmentStore) (marks : GoMap String GCCause) (c : AttachmentClass)
    (id : String) : (s.gcClass marks c)[id]? = marks[id]? ∨
      marks[id]? = none ∧ id ∈ s.items ∧ (s.gcClass marks c)[id]? = some .lru := by
  unfold gcClass
  dsimp only
  split
  · exact .inl rfl
  split
  · exact .inl rfl
  rw [get_marked]
  split
  · rename_i hid
    obtain ⟨info, hinfo, hexcluded, -⟩ := mem_lruCandidates.mp (mem_evictUntil hid)
    grind
  · exact .inl rfl

theorem expiredMarks_get {now : Time} {imageTTLSeconds fileTTLSeconds : Int} {cause : GCCause}
    (h : (s.expiredMarks now imageTTLSeconds fileTTLSeconds)[id]? = some cause) :
    ∃ info, s.items[id]? = some info ∧
      isExpired now imageTTLSeconds fileTTLSeconds info = true := by
  obtain ⟨info, hinfo, -⟩ := get_map h
  simp_all

theorem expiredMarks_of_isExpired {now : Time}
    {imageTTLSeconds fileTTLSeconds : Int} {info : AttachmentMeta}
    (hinfo : s.items[id]? = some info)
    (hexpired : isExpired now imageTTLSeconds fileTTLSeconds info = true) :
    (s.expiredMarks now imageTTLSeconds fileTTLSeconds)[id]? = some .expired := by
  unfold expiredMarks
  rw [Std.ExtTreeMap.getElem?_map, get_sweep, hinfo]
  simp [Option.filter, hexpired]

theorem gcMarks_get (s : AttachmentStore) (now : Time) (imageTTLSeconds fileTTLSeconds : Int)
    (id : String) :
    let marks := s.gcMarks now imageTTLSeconds fileTTLSeconds
    let expired := s.expiredMarks now imageTTLSeconds fileTTLSeconds
    marks[id]? = expired[id]? ∨ expired[id]? = none ∧ id ∈ s.items ∧ marks[id]? = some .lru := by
  grind [gcMarks, gcClass_get]

theorem gcMarks_indexed {now : Time} {imageTTLSeconds fileTTLSeconds : Int}
    (h : id ∈ s.gcMarks now imageTTLSeconds fileTTLSeconds) : id ∈ s.items := by
  obtain ⟨cause, hcause⟩ := mem_iff_get.mp h
  grind [gcMarks_get, expiredMarks_get]

end

end AttachmentStore

end Ardents.Attachments
