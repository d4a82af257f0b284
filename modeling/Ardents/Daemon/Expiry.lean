import Ardents.Attachments.Store

/-!
# Expiry

What `enforceRetentionPolicies` deletes because it is old. A policy gives times to live in seconds
and quotas in megabytes; they are turned into nanoseconds and bytes in 64 bits. Beyond some 292
years and 8 exabytes that wraps around, and what has just arrived is old.
-/

namespace Ardents.Daemon

open Go
open Crypto (Time)
open Privacy (PrivacySettings StoragePolicy PolicyArguments parseStoragePolicy
  storagePolicyFromSettings)
open Messaging (Message MessageStore recorded)
open Ardents.Attachments
open Ardents.Attachments.AttachmentStore (ttlCutoff GCCause)
open Privacy

section

variable [LowerCase]

def gcTTLs (policy : StoragePolicy) : Int × Int :=
  if policy.contentRetentionMode = .ephemeral then (policy.imageTTLSeconds, policy.fileTTLSeconds)
  else (0, 0)

/-- `enforceRetentionPolicies`. Errors are only recorded. -/
def enforceRetentionPolicies (settings : PrivacySettings) (messageStore : MessageStore)
    (written : Bool) (attachmentStore : AttachmentStore) (now clock : Time) (order : List String)
    (fs : FileSystem) : MessageStore × AttachmentStore :=
  let policy := storagePolicyFromSettings settings
  let messages :=
    if policy.contentRetentionMode = .ephemeral ∧ policy.messageTTLSeconds > 0 then
      recorded messageStore
        (messageStore.purgeOlderThan (ttlCutoff now policy.messageTTLSeconds) written)
    else messageStore
  let (imageTTL, fileTTL) := gcTTLs policy
  (messages, (attachmentStore.runGC now clock imageTTL fileTTL false order fs).2)

def retentionMarks (settings : PrivacySettings) (attachmentStore : AttachmentStore) (now : Time) :
    GoMap String GCCause :=
  let (imageTTL, fileTTL) := gcTTLs (storagePolicyFromSettings settings)
  attachmentStore.gcMarks now imageTTL fileTTL

/-! ## Deleting early -/

def unixEpoch : Time := 62135596800 * 1000000000

def ClockShows (now : Time) : Prop :=
  unixEpoch ≤ now ∧ now < unixEpoch + 9246182400 * 1000000000

def Young (ttlSeconds : Int) (age : Int) : Prop := ttlSeconds = 0 ∨ age < ttlSeconds * 1000000000

def attachmentTTL (policy : StoragePolicy) (info : AttachmentMeta) : Int :=
  if normalizedClass info = .image then policy.imageTTLSeconds else policy.fileTTLSeconds

/-- Nothing is deleted before its time. An attachment can still have to go for the quota. -/
structure KeepsYoung (policy : StoragePolicy) : Prop where
  messages : ∀ now, ClockShows now → ∀ messageStore written attachmentStore clock order fs,
    ∀ (id : String) (msg : Message), messageStore.messages[id]? = some msg →
      Young policy.messageTTLSeconds (now - msg.timestamp) →
      (enforceRetentionPolicies policy messageStore written attachmentStore now clock order
        fs).1.messages[id]? = some msg
  attachments : ∀ now, ClockShows now → ∀ messageStore written attachmentStore clock order fs,
    ∀ (id : String) (info : AttachmentMeta), attachmentStore.items[id]? = some info →
      Young (attachmentTTL policy info) (now - info.createdAt) →
      (enforceRetentionPolicies policy messageStore written attachmentStore now clock order
        fs).2.items[id]? = some info ∨
      (retentionMarks policy attachmentStore now)[id]? = some .lru

/-- Every store that the policy is applied to has the quotas that were entered. -/
def QuotasExact (args : PolicyArguments) (policy : StoragePolicy) : Prop :=
  ∀ s : AttachmentStore,
    let limited := s.setClassPolicies policy.imageQuotaMB policy.imageMaxItemSizeMB
      policy.fileQuotaMB policy.fileMaxItemSizeMB
    (limited.classLimits "image").2 = args.imageQuotaMB * 1048576 ∧
      (limited.classLimits "file").2 = args.fileQuotaMB * 1048576

def PolicyFits (args : PolicyArguments) : Prop :=
  (trimSpace args.retention = "ephemeral" → args.messageTTLSeconds ≤ 9223372036 ∧
    args.imageTTLSeconds ≤ 9223372036 ∧ args.fileTTLSeconds ≤ 9223372036) ∧
  args.imageQuotaMB < 2 ^ 43 ∧ args.fileQuotaMB < 2 ^ 43

end

/-! ## The policy that was entered -/

structure Accepted (args : PolicyArguments) (policy : StoragePolicy) : Prop where
  normal : storagePolicyFromSettings policy = policy
  ephemeral : policy.contentRetentionMode = .ephemeral ↔ trimSpace args.retention = "ephemeral"
  ttls : policy.contentRetentionMode = .ephemeral →
    policy.messageTTLSeconds = (if args.messageTTLSeconds = 0 then 86400
      else args.messageTTLSeconds) ∧
    policy.imageTTLSeconds = args.imageTTLSeconds ∧ policy.fileTTLSeconds = args.fileTTLSeconds
  nonneg : 0 ≤ args.messageTTLSeconds ∧ 0 ≤ args.imageTTLSeconds ∧ 0 ≤ args.fileTTLSeconds
  quotas : policy.imageQuotaMB = args.imageQuotaMB ∧ policy.fileQuotaMB = args.fileQuotaMB
  quotas_nonneg : 0 ≤ args.imageQuotaMB ∧ 0 ≤ args.fileQuotaMB

theorem accepted_of_parse {args : PolicyArguments} {policy : StoragePolicy}
    (h : parseStoragePolicy args = .ok policy) : Accepted args policy := by
  unfold parseStoragePolicy at h
  simp only [bind_ok, require_ok, pure_ok] at h
  obtain ⟨protectionMode, -, mode, hmode, -, httls, -, hlimits, rfl⟩ := h
  have hvalid := valid_of_parseContentRetentionMode hmode
  have hephemeral : mode = .ephemeral ↔ trimSpace args.retention = "ephemeral" := by
    grind [parseContentRetentionMode]
  have hkept := fun {v : Int} => @normalizeLimitValue_of_nonneg v
  refine ⟨normalizePrivacySettings_idem _, ?_, fun h => ?_, httls, ?_, hlimits.1,
    hlimits.2.1⟩
  · simp [normalizeStoragePolicy, normalizePrivacySettings, hvalid, hephemeral]
  · grind [normalizeStoragePolicy, normalizePrivacySettings,
      defaultEphemeralMessageTTLSeconds, defaultEphemeralFileTTLSeconds]
  · simp [normalizeStoragePolicy, normalizePrivacySettings, hkept hlimits.1,
      hkept hlimits.2.1]

/-! ## Times -/

theorem ttlCutoff_exact {now : Time} {ttl : Int} (hpos : 0 ≤ ttl) (hfits : ttl ≤ 9223372036) :
    ttlCutoff now ttl = now - ttl * 1000000000 := by
  grind [ttlCutoff, int64_eq_self]

theorem ttlCutoff_late (now : Time) {ttl : Int} (hbig : 9223372036 < ttl) :
    now - ttl * 1000000000 < ttlCutoff now ttl := by
  grind [int64, ttlCutoff]

theorem mbToBytes_exact_iff {mb : Int} (hmb : 0 ≤ mb) :
    mbToBytes mb = mb * 1048576 ↔ mb < 2 ^ 43 := by
  grind [mbToBytes, int64]

/-! ## What expires -/

theorem purgeOlderThan_keeps {store : MessageStore} {cutoff : Time} {written : Bool} {id : String}
    {msg : Message} (hmsg : store.messages[id]? = some msg) (hyoung : cutoff < msg.timestamp) :
    (recorded store (store.purgeOlderThan cutoff written)).messages[id]? = some msg := by
  unfold MessageStore.purgeOlderThan
  dsimp only
  split
  · cases written with
    | false => exact hmsg
    | true =>
      simp only [MessageStore.commit, if_true, recorded]
      rw [get_filter]
      simp [hmsg, hyoung]
  · exact hmsg

theorem purgeOlderThan_deletes {store : MessageStore} {cutoff : Time} {id : String}
    {msg : Message} (hmsg : store.messages[id]? = some msg) (hold : msg.timestamp ≤ cutoff) :
    (recorded store (store.purgeOlderThan cutoff true)).messages[id]? = none := by
  grind [MessageStore.purgeOlderThan, MessageStore.commit, recorded]

section

variable [LowerCase]

open AttachmentStore

theorem runGC_keeps {s : AttachmentStore} {now clock : Time} {imageTTL fileTTL : Int}
    {dryRun : Bool} {order : List String} {fs : FileSystem} (hnow : now ≠ 0) {id : String}
    (hmarks : id ∉ s.gcMarks now imageTTL fileTTL) :
    (s.runGC now clock imageTTL fileTTL dryRun order fs).2.items[id]? = s.items[id]? := by
  unfold runGC
  rw [if_neg hnow]
  dsimp only
  split
  · rfl
  · have hkept : id ∉ ranged (s.gcMarks now imageTTL fileTTL).keys order := by
      intro hid
      exact hmarks (Std.ExtTreeMap.mem_keys.mp (mem_ranged hid))
    rw [← get_deleteIDs (s := s) hkept]
    rcases s.deleteIDs _ fs with ⟨_ | _, t⟩
    · rfl
    · rfl

theorem isExpired_true {now : Time} {imageTTL fileTTL : Int} {info : AttachmentMeta}
    (h : isExpired now imageTTL fileTTL info = true) :
    let ttl := if normalizedClass info = .image then imageTTL else fileTTL
    0 < ttl ∧ info.createdAt ≤ ttlCutoff now ttl := by
  grind [isExpired, expiryCutoff]

theorem runGC_deletes {s : AttachmentStore} {now clock : Time} {imageTTL fileTTL : Int}
    {order : List String} (hnow : now ≠ 0) {id : String}
    (hmarks : id ∈ s.gcMarks now imageTTL fileTTL) :
    (s.runGC now clock imageTTL fileTTL false order .working).2.items[id]? = none := by
  have hmarked : id ∈ ranged (s.gcMarks now imageTTL fileTTL).keys order := by
    grind [ranged]
  have hcount : ¬ ((s.gcReport (s.gcMarks now imageTTL fileTTL) false).deletedCount = 0 ∨
      false = true) := by
    rintro (hzero | hdry)
    · obtain ⟨cause, hcause⟩ := mem_iff_get.mp hmarks
      obtain ⟨info, hinfo⟩ := mem_iff_get.mp (gcMarks_indexed hmarks)
      have hmem : (normalizedClass info, cause) ∈ (s.gcMarks now imageTTL fileTTL).toList.filterMap
          fun entry => (s.items[entry.1]?).map fun info => (normalizedClass info, entry.2) :=
        List.mem_filterMap.mpr ⟨(id, cause),
          Std.ExtTreeMap.mem_toList_iff_getElem?_eq_some.mpr hcause, by simp [hinfo]⟩
      rw [List.eq_nil_of_length_eq_zero hzero] at hmem
      exact absurd hmem List.not_mem_nil
    · exact absurd hdry (by simp)
  unfold runGC
  rw [if_neg hnow]
  rw [if_neg hcount]
  obtain ⟨t, hdelete, -, -, -, hitems⟩ := s.deleteIDs_working
    (ranged (s.gcMarks now imageTTL fileTTL).keys order)
  simp_all

variable {args : PolicyArguments} {policy : StoragePolicy}

theorem keepsYoung_of_fits (h : Accepted args policy) (hfits : PolicyFits args) :
    KeepsYoung policy := by
  constructor
  · intro now _ messageStore written attachmentStore clock order fs id msg hmsg hyoung
    unfold enforceRetentionPolicies
    rw [h.normal]
    dsimp only
    split
    · rename_i hpurges
      obtain ⟨hmode, hpos⟩ := hpurges
      have hbound := (hfits.1 (h.ephemeral.mp hmode)).1
      have httl : policy.messageTTLSeconds ≤ 9223372036 := by
        rw [(h.ttls hmode).1]
        split
        · decide
        · exact hbound
      refine purgeOlderThan_keeps hmsg ?_
      rw [ttlCutoff_exact hpos.le httl]
      rcases hyoung with hnone | hage
      · omega
      · linarith
    · exact hmsg
  · intro now hnow messageStore written attachmentStore clock order fs id info hinfo hyoung
    have hzero : now ≠ 0 := ne_of_gt (lt_of_lt_of_le (by decide) hnow.1)
    have hfresh : isExpired now (gcTTLs policy).1 (gcTTLs policy).2 info = false := by
      by_contra hexpired
      obtain ⟨hpos, hold⟩ := isExpired_true (by simpa using hexpired)
      unfold gcTTLs at hpos hold
      by_cases hmode : policy.contentRetentionMode = .ephemeral
      · rw [if_pos hmode] at hpos hold
        dsimp only at hpos hold
        have hbound : attachmentTTL policy info ≤ 9223372036 := by
          obtain ⟨-, himage, hfile⟩ := hfits.1 (h.ephemeral.mp hmode)
          grind [cases Accepted, attachmentTTL]
        change 0 < attachmentTTL policy info at hpos
        change info.createdAt ≤ ttlCutoff now (attachmentTTL policy info) at hold
        rw [ttlCutoff_exact hpos.le hbound] at hold
        rcases hyoung with hnone | hage
        · exact absurd hnone (ne_of_gt hpos)
        · linarith
      · simp_all
    have hunmarked : (attachmentStore.expiredMarks now (gcTTLs policy).1 (gcTTLs policy).2)[id]? =
        none := by
      grind [expiredMarks_get]
    unfold retentionMarks enforceRetentionPolicies
    rw [h.normal]
    dsimp only
    rcases attachmentStore.gcMarks_get now (gcTTLs policy).1 (gcTTLs policy).2 id with
      hsame | ⟨-, -, hlru⟩
    · refine .inl ?_
      rw [runGC_keeps hzero, hinfo]
      intro hin
      obtain ⟨cause, hcause⟩ := mem_iff_get.mp hin
      rw [hsame, hunmarked] at hcause
      exact absurd hcause (by simp)
    · exact .inr hlru

end

/-! ## Policies that do not -/

def messageAt (timestamp : Time) : Message :=
  { id := "msg_1", contactID := "bob", conversationID := "bob", conversationType := .direct
    threadID := "", content := [1], timestamp := timestamp, direction := .inbound
    status := .delivered, contentType := .text, edited := false }

def attachmentAt (c : AttachmentClass) (createdAt : Time) : AttachmentMeta :=
  { id := "att1_a", name := "", mimeType := "", attachmentClass := c.text
    lastAccessAt := createdAt, pinState := unpinned, size := 1, createdAt := createdAt }

def storeOfMessage (msg : Message) : MessageStore :=
  { messages := (∅ : GoMap String Message).insert msg.id msg, pending := ∅ }

def storeOfAttachment (info : AttachmentMeta) : AttachmentStore :=
  { dir := "attachments", items := (∅ : GoMap String AttachmentMeta).insert info.id info
    blobs := ∅, persist := true, limits := ⟨0, 0, 0, 0⟩, hardCap := ⟨90, 100, 75⟩
    index := .missing, files := fun _ => none }

theorem get_storeOfMessage (msg : Message) : (storeOfMessage msg).messages[msg.id]? = some msg := by
  simp [storeOfMessage]

theorem get_storeOfAttachment (info : AttachmentMeta) :
    (storeOfAttachment info).items[info.id]? = some info := by
  simp [storeOfAttachment]

theorem clockShows_unixEpoch : ClockShows unixEpoch := ⟨le_rfl, by decide⟩

section

variable [LowerCase] {args : PolicyArguments} {policy : StoragePolicy}

open AttachmentStore

theorem message_fits (hyoung : KeepsYoung policy) (h : Accepted args policy)
    (hmode : policy.contentRetentionMode = .ephemeral) : policy.messageTTLSeconds ≤ 9223372036 := by
  by_contra hbig
  have hlate := ttlCutoff_late unixEpoch (not_le.mp hbig)
  let msg := messageAt (ttlCutoff unixEpoch policy.messageTTLSeconds)
  have htime : msg.timestamp = ttlCutoff unixEpoch policy.messageTTLSeconds := rfl
  have hkept := hyoung.messages unixEpoch clockShows_unixEpoch (storeOfMessage msg) true
    (storeOfAttachment (attachmentAt .image 0)) 0 [] .working msg.id msg (get_storeOfMessage msg)
    (.inr (by rw [htime]; linarith))
  unfold enforceRetentionPolicies at hkept
  rw [h.normal] at hkept
  dsimp only at hkept
  rw [if_pos ⟨hmode, by omega⟩, purgeOlderThan_deletes (get_storeOfMessage msg) htime.le] at hkept
  exact absurd hkept (by simp)

theorem attachment_fits (hyoung : KeepsYoung policy) (h : Accepted args policy)
    (hmode : policy.contentRetentionMode = .ephemeral) (c : AttachmentClass) :
    (if c = .image then policy.imageTTLSeconds else policy.fileTTLSeconds) ≤ 9223372036 := by
  by_contra hbig
  generalize httl : (if c = .image then policy.imageTTLSeconds else policy.fileTTLSeconds) = ttl
    at hbig
  have hlate := ttlCutoff_late unixEpoch (not_le.mp hbig)
  let info := attachmentAt c (ttlCutoff unixEpoch ttl)
  have hclass : normalizedClass info = c := normalizedClass_of_text rfl
  have hinfo := get_storeOfAttachment info
  have hexpired : isExpired unixEpoch policy.imageTTLSeconds policy.fileTTLSeconds info = true := by
    have hfree : isPinned info = false := by
      change decide (trimSpace unpinned = pinned) = false
      decide
    unfold isExpired expiryCutoff
    dsimp only
    rw [hclass, httl, hfree, if_neg (by omega)]
    simp [info, attachmentAt]
  have hmarked : ((storeOfAttachment info).gcMarks unixEpoch policy.imageTTLSeconds
      policy.fileTTLSeconds)[info.id]? = some .expired := by
    have hbase := expiredMarks_of_isExpired hinfo hexpired
    rcases gcMarks_get _ unixEpoch policy.imageTTLSeconds policy.fileTTLSeconds info.id with
      hsame | ⟨hnone, -⟩
    · exact hsame.trans hbase
    · rw [hbase] at hnone
      exact absurd hnone (by simp)
  have hage : Young (attachmentTTL policy info) (unixEpoch - info.createdAt) := by
    have htime : info.createdAt = ttlCutoff unixEpoch ttl := rfl
    unfold attachmentTTL
    rw [hclass, httl, htime]
    exact .inr (by linarith)
  have hgc : gcTTLs policy = (policy.imageTTLSeconds, policy.fileTTLSeconds) := if_pos hmode
  have hkept := hyoung.attachments unixEpoch clockShows_unixEpoch
    (storeOfMessage (messageAt 0)) true (storeOfAttachment info) 0 [] .working info.id info hinfo
    hage
  unfold enforceRetentionPolicies retentionMarks at hkept
  rw [h.normal] at hkept
  simp only [hgc] at hkept
  rcases hkept with hkept | hlru
  · rw [runGC_deletes (by decide) (mem_iff_get.mpr ⟨_, hmarked⟩)] at hkept
    exact absurd hkept (by simp)
  · simp_all

theorem quotasExact_iff (h : Accepted args policy) :
    QuotasExact args policy ↔ args.imageQuotaMB < 2 ^ 43 ∧ args.fileQuotaMB < 2 ^ 43 := by
  have himage : toLower (trimSpace "image") = "image" := toLower_trimSpace_text .image
  have hfile : toLower (trimSpace "file") ≠ "image" := by
    have hsame : toLower (trimSpace "file") = "file" := toLower_trimSpace_text .file
    rw [hsame]
    decide
  rw [← mbToBytes_exact_iff h.quotas_nonneg.1, ← mbToBytes_exact_iff h.quotas_nonneg.2]
  unfold QuotasExact classLimits
  simp only [if_pos himage, if_neg hfile, setClassPolicies, h.quotas.1, h.quotas.2]
  exact ⟨fun hexact => hexact (storeOfAttachment (attachmentAt .image 0)), fun hexact _ => hexact⟩

/-- For every policy that is accepted: nothing is deleted early and the quotas are what was entered,
exactly when the times to live and the quotas do not overflow. -/
theorem retention_exact_iff (h : parseStoragePolicy args = .ok policy) :
    KeepsYoung policy ∧ QuotasExact args policy ↔ PolicyFits args := by
  have haccepted := accepted_of_parse h
  rw [quotasExact_iff haccepted]
  constructor
  · rintro ⟨hyoung, hfit⟩
    refine ⟨fun hraw => ?_, hfit⟩
    have hmode := haccepted.ephemeral.mpr hraw
    obtain ⟨hmessage, himage, hfile⟩ := haccepted.ttls hmode
    have hmessage' := message_fits hyoung haccepted hmode
    have himage' := attachment_fits hyoung haccepted hmode .image
    have hfile' := attachment_fits hyoung haccepted hmode .file
    grind
  · intro hfits
    exact ⟨keepsYoung_of_fits haccepted hfits, hfits.2⟩

end

def hourly : PolicyArguments :=
  { storageProtection := "standard", retention := "ephemeral", messageTTLSeconds := 3600
    imageTTLSeconds := 86400, fileTTLSeconds := 0, imageQuotaMB := 1024, fileQuotaMB := 1024
    imageMaxItemSizeMB := 25, fileMaxItemSizeMB := 100 }

theorem hourly_exact :
    letI := asciiLowerCase
    ∃ policy, parseStoragePolicy hourly = .ok policy ∧ KeepsYoung policy ∧
      QuotasExact hourly policy := by
  let _ := asciiLowerCase
  have hparse : parseStoragePolicy hourly = .ok
      { storageProtection := .standard, contentRetentionMode := .ephemeral
        messageTTLSeconds := 3600, imageTTLSeconds := 86400, fileTTLSeconds := 0
        imageQuotaMB := 1024, fileQuotaMB := 1024, imageMaxItemSizeMB := 25
        fileMaxItemSizeMB := 100 } := by decide
  exact ⟨_, hparse, (retention_exact_iff hparse).mpr ⟨fun _ => by decide, by decide⟩⟩

def centuries : PolicyArguments := { hourly with messageTTLSeconds := 9223372037 }

/-- A message that has just arrived is deleted, since it is not 292 years old. -/
theorem centuries_deletes_new :
    letI := asciiLowerCase
    let now := unixEpoch + 1800000000 * 1000000000
    ∃ policy, parseStoragePolicy centuries = .ok policy ∧
      Young policy.messageTTLSeconds (now - (messageAt now).timestamp) ∧
      (enforceRetentionPolicies policy (storeOfMessage (messageAt now)) true
        (storeOfAttachment (attachmentAt .image now)) now now [] .working).1.messages["msg_1"]? =
          none := by
  refine ⟨_, rfl, .inr (by decide), by decide +kernel⟩

end Ardents.Daemon
