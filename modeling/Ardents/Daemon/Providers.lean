import Ardents.Daemon.Runtime
import Ardents.Daemon.Service

/-!
# Fetching attachments from peers

`GetAttachment` looks for an attachment in the store and in the cache of public blobs, and then
asks the providers that have announced it, in up to three rounds. What the first of them answers
is kept, in the store or in the cache, and announced in turn.
-/

namespace Ardents.Daemon

open Go
open Crypto (Time)
open Ardents.Attachments (AttachmentStore AttachmentError FileSystem)

/-! ## The registry of providers -/

namespace BlobProviderRegistry

/-- The comparison that `listProviders` sorts by: who is good for longest comes first. -/
def before (a b : String × Time) : Prop := b.2 < a.2 ∨ a.2 = b.2 ∧ a.1 ≤ b.1

instance : DecidableRel before := fun a b =>
  inferInstanceAs (Decidable (b.2 < a.2 ∨ a.2 = b.2 ∧ a.1 ≤ b.1))

def current (providers : GoMap String Time) (now : Time) : GoMap String Time :=
  providers.filter fun _ expires => now < expires

variable (byBlob : BlobProviderRegistry)

/-- `listProviders`. Providers that have expired are taken out. -/
def listProviders (blobID : String) (now : Time) : List String × BlobProviderRegistry :=
  let blobID := trimSpace blobID
  if blobID = "" then ([], byBlob)
  else
    match byBlob[blobID]? with
    | none => ([], byBlob)
    | some providers =>
      if providers.isEmpty then ([], byBlob)
      else
        let left := current providers now
        ((left.toList.insertionSort before).map Prod.fst,
          if left.isEmpty then byBlob.erase blobID else byBlob.insert blobID left)

/-- `announceBlob`, with the answer of the rate limiter. -/
def announceBlob (blobID peerID : String) (ttl : Int)
    (allowed : Bool) (now : Time) : BlobProviderRegistry :=
  let blobID := trimSpace blobID
  let peerID := trimSpace peerID
  if blobID = "" ∨ peerID = "" then byBlob
  else if ttl ≤ 0 then byBlob
  else if allowed = false then byBlob
  else byBlob.insert blobID (((byBlob[blobID]?).getD ∅).insert peerID (now + ttl))

theorem get_listProviders {blobID id : String} (hid : id ≠ trimSpace blobID) (now : Time) :
    (byBlob.listProviders blobID now).2[id]? = byBlob[id]? := by
  unfold listProviders
  grind

theorem get_announceBlob {blobID id : String}
    (hid : id ≠ trimSpace blobID) (peerID : String) (ttl : Int) (allowed : Bool) (now : Time) :
    (byBlob.announceBlob blobID peerID ttl allowed now)[id]? = byBlob[id]? := by
  grind [announceBlob]

theorem announceBlob_blank {blobID : String}
    (h : trimSpace blobID = "") (peerID : String) (ttl : Int) (allowed : Bool) (now : Time) :
    byBlob.announceBlob blobID peerID ttl allowed now = byBlob := if_pos (.inl h)

end BlobProviderRegistry

/-! ## The cache of public blobs -/

structure PublicEphemeralBlobCache where
  ttl : Int
  maxBytes : Int
  used : Int
  items : GoMap String PublicEphemeralBlobEntry

namespace PublicEphemeralBlobCache

variable (c : PublicEphemeralBlobCache)

/-- `pruneExpiredLocked`. -/
def pruneExpired (now : Time) : PublicEphemeralBlobCache :=
  if c.items.isEmpty then c
  else
    let expired := c.items.filter fun _ entry => entry.expiresAt ≤ now
    { c with
      used := max (c.used - sumBy PublicEphemeralBlobEntry.size expired) 0
      items := c.items.filter fun _ entry => now < entry.expiresAt }

def drop (id : String) : PublicEphemeralBlobCache :=
  match c.items[id]? with
  | none => c
  | some entry => { c with used := c.used - entry.size, items := c.items.erase id }

def older (oldest : String × Time) (entry : String × PublicEphemeralBlobEntry) : String × Time :=
  if oldest.1 = "" ∨ entry.2.lastAccess < oldest.2 then (entry.1, entry.2.lastAccess) else oldest

/-- The entry that the loop of `enforceBudgetLocked` finds. -/
def oldestID (entries : List (String × PublicEphemeralBlobEntry)) : String :=
  (entries.foldl older ("", 0)).1

def Crowded : Prop :=
  0 < c.maxBytes ∧ c.maxBytes < c.used ∧ c.items.isEmpty = false

instance (c : PublicEphemeralBlobCache) : Decidable c.Crowded :=
  inferInstanceAs (Decidable (0 < c.maxBytes ∧ c.maxBytes < c.used ∧ c.items.isEmpty = false))

/-- The loop, at most so many times; each time Go ranges over the entries anew. -/
def evictOldest (orders : Nat → RangeOrder String PublicEphemeralBlobEntry) :
    Nat → PublicEphemeralBlobCache → PublicEphemeralBlobCache
  | 0, c => c
  | n + 1, c =>
    if c.Crowded then
      let id := oldestID ((orders n).entries c.items)
      if id = "" then c else evictOldest orders n (c.drop id)
    else c

/-- `enforceBudgetLocked`. Every time round the loop takes an entry out. -/
def enforceBudget
    (orders : Nat → RangeOrder String PublicEphemeralBlobEntry) : PublicEphemeralBlobCache :=
  let c := evictOldest orders c.items.size c
  { c with used := max c.used 0 }

def insert (id : String) (info : AttachmentMeta) (data : Bytes)
    (now : Time) : PublicEphemeralBlobCache :=
  let c := c.drop id
  { c with
    used := c.used + data.length
    items := c.items.insert id
      { info := info, data := data, size := data.length, expiresAt := now + c.ttl
        lastAccess := now } }

def put (info : AttachmentMeta) (data : Bytes) (now : Time)
    (orders : Nat → RangeOrder String PublicEphemeralBlobEntry) : Bool × PublicEphemeralBlobCache :=
  let id := trimSpace info.id
  if id = "" ∨ data = [] then (false, c)
  else if c.maxBytes ≤ 0 ∨ c.ttl ≤ 0 then (false, c)
  else
    let c := c.pruneExpired now
    if c.maxBytes < data.length then (false, c)
    else (true, (c.insert id info data now).enforceBudget orders)

def get (id : String) (now : Time) : Option (AttachmentMeta × Bytes) × PublicEphemeralBlobCache :=
  let id := trimSpace id
  if id = "" then (none, c)
  else
    let c := c.pruneExpired now
    match c.items[id]? with
    | none => (none, c)
    | some entry =>
      (some (entry.info, entry.data), { c with
        items := c.items.insert id
          { entry with expiresAt := now + c.ttl, lastAccess := now } })

/-! ### What the operations leave -/

theorem get_pruneExpired (now : Time) (id : String) :
    (c.pruneExpired now).items[id]? = (c.items[id]?).filter fun entry => now < entry.expiresAt := by
  unfold pruneExpired
  split
  · simp_all
  · exact get_sweep _ _ _

theorem get_drop (id k : String) :
    (c.drop id).items[k]? = if id = k then none else c.items[k]? := by
  grind [drop]

theorem get_evictOldest (orders : Nat → RangeOrder String PublicEphemeralBlobEntry) (n : Nat)
    (c : PublicEphemeralBlobCache) (id : String) :
    (evictOldest orders n c).items[id]? = c.items[id]? ∨
      (evictOldest orders n c).items[id]? = none ∧ c.Crowded := by
  induction n generalizing c with
  | zero => exact .inl rfl
  | succ n ih =>
    unfold evictOldest
    split
    · rename_i hcrowded
      dsimp only
      split
      · exact .inl rfl
      · rename_i hnamed
        rcases ih (c.drop (oldestID ((orders n).entries c.items))) with hsame | ⟨hgone, -⟩
        · rw [hsame, get_drop]
          split
          · exact .inr ⟨rfl, hcrowded⟩
          · exact .inl rfl
        · exact .inr ⟨hgone, hcrowded⟩
    · exact .inl rfl

theorem get_enforceBudget
    (orders : Nat → RangeOrder String PublicEphemeralBlobEntry) (id : String) :
    (c.enforceBudget orders).items[id]? = c.items[id]? ∨
      (c.enforceBudget orders).items[id]? = none ∧ c.Crowded :=
  get_evictOldest orders c.items.size c id

theorem get_insert_of_ne {id k : String} (hk : k ≠ id)
    (info : AttachmentMeta) (data : Bytes) (now : Time) :
    (c.insert id info data now).items[k]? = c.items[k]? := by
  unfold insert
  rw [get_insert, if_neg (Ne.symm hk), get_drop, if_neg (Ne.symm hk)]

theorem get_insert_self (id : String) (info : AttachmentMeta)
    (data : Bytes) (now : Time) : ∃ entry, (c.insert id info data now).items[id]? = some entry ∧
      entry.info = info ∧ entry.data = data ∧ entry.size = data.length := by
  simp [insert]

end PublicEphemeralBlobCache

/-! ## The node -/

inductive ProviderAnswer where
  | accessDenied
  | failed
  | found (info : AttachmentMeta) (data : Bytes)

/-- How things turn out during a call of `GetAttachment`. -/
structure FetchCourse where
  lookedUpAt : Time
  listedAt : Nat → Time
  cachedAt : Time
  announcedAt : Time
  /-- The file system when the store is read, and when the answer is put there. -/
  reading : FileSystem
  storing : FileSystem
  ranges : Nat → RangeOrder String PublicEphemeralBlobEntry
  /-- The request is still alive at the start of a round, and before a provider is asked. -/
  alive : Nat → Bool
  aliveFor : Nat → String → Bool
  /-- `waitWithContext` after a round. -/
  waited : Nat → Bool
  allowFetch : Nat → String → Bool
  answer : Nat → String → ProviderAnswer
  /-- `fetchLimiter.AllowBytes`. -/
  allowBytes : Nat → String → Bool
  allowAnnounce : Bool

/-- `strings.EqualFold` with a text in ASCII letters other than `k` and `s`: no letters beyond ASCII
fold to the others. -/
def equalFold (s t : String) : Bool := s.toList.map Char.toLower == t.toList.map Char.toLower

/-- `fnv.New32a`. -/
def fnv32a (bytes : Bytes) : UInt32 :=
  bytes.foldl (fun hash byte => (hash ^^^ byte.toUInt32) * 16777619) 2166136261

structure BlobNode where
  store : AttachmentStore
  publicBlobCache : PublicEphemeralBlobCache
  blobProviders : BlobProviderRegistry
  identityID : String
  replicationMode : BlobReplicationMode
  blobFlags : BlobFeatureFlags
  networking : Bool
  publicStoreEnabled : Bool

inductive GetAttachmentError where
  | idRequired
  | store (e : AttachmentError)
  | accessDenied
  | temporarilyUnavailable
  deriving DecidableEq, Repr

def defaultBlobProviderTTL : Int := 5 * 60 * 1000000000

def blobFetchMaxAttempts : Nat := 3

def BlobFeatureFlags.allowsPeer (f : BlobFeatureFlags) (peerID : String) : Bool :=
  let peerID := trimSpace peerID
  if peerID = "" then false
  else if f.rolloutPercent ≤ 0 then false
  else if 100 ≤ f.rolloutPercent then true
  else ((fnv32a (bytesOf peerID) % 100).toNat : Int) < f.rolloutPercent

namespace BlobNode

/-- The providers of one round, one after the other: what the first of them sends, and whether some
have denied it. -/
def askProviders (C : FetchCourse) (attempt : Nat) (blobID requesterPeerID : String) :
    Bool → List String → Option (AttachmentMeta × Bytes) × Bool
  | forbidden, [] => (none, forbidden)
  | forbidden, peerID :: rest =>
    if C.aliveFor attempt peerID = false then (none, forbidden)
    else if trimSpace peerID = requesterPeerID ∨ C.allowFetch attempt peerID = false then
      askProviders C attempt blobID requesterPeerID forbidden rest
    else
      match C.answer attempt peerID with
      | .accessDenied => askProviders C attempt blobID requesterPeerID true rest
      | .failed => askProviders C attempt blobID requesterPeerID forbidden rest
      | .found info data =>
        if C.allowBytes attempt peerID = false then
          askProviders C attempt blobID requesterPeerID forbidden rest
        else (some ({ info with id := if info.id = "" then blobID else info.id }, data),
          forbidden)

def fetchError (forbidden : Bool) : GetAttachmentError :=
  if forbidden then .accessDenied else .temporarilyUnavailable

def fetchRounds (C : FetchCourse) (blobID requesterPeerID : String) :
    Nat → Bool → BlobProviderRegistry →
      Except GetAttachmentError (AttachmentMeta × Bytes) × BlobProviderRegistry
  | 0, forbidden, byBlob => (.error (fetchError forbidden), byBlob)
  | left + 1, forbidden, byBlob =>
    let attempt := blobFetchMaxAttempts - (left + 1)
    if C.alive attempt = false then (.error (fetchError forbidden), byBlob)
    else
      let listed := byBlob.listProviders blobID (C.listedAt attempt)
      match askProviders C attempt blobID requesterPeerID forbidden listed.1 with
      | (some fetched, _) => (.ok fetched, listed.2)
      | (none, forbidden) =>
        if left = 0 ∨ C.waited attempt = true then
          fetchRounds C blobID requesterPeerID left forbidden listed.2
        else (.error (fetchError forbidden), listed.2)

def fetchAttachmentFromProviders (C : FetchCourse) (byBlob : BlobProviderRegistry)
    (blobID requesterPeerID : String) :
    Except GetAttachmentError (AttachmentMeta × Bytes) × BlobProviderRegistry :=
  fetchRounds C blobID requesterPeerID blobFetchMaxAttempts false byBlob

variable (n : BlobNode)

def localPeerID : String := trimSpace n.identityID

def shouldFetchBlobFromPeers (peerID : String) : Bool :=
  n.blobFlags.fetchEnabled && n.blobFlags.allowsPeer peerID

def shouldAnnounceBlobFromPeer (peerID : String) : Bool :=
  n.blobFlags.announceEnabled && n.blobFlags.allowsPeer peerID

def shouldAnnounceBlob (info : AttachmentMeta) : Bool :=
  if trimSpace info.id = "" then false
  else
    match n.replicationMode with
    | .none => false
    | .pinnedOnly => equalFold (trimSpace info.pinState) Ardents.Attachments.pinned
    | .onDemand => true

def announceLocalBlobProvider (C : FetchCourse) (info : AttachmentMeta) : BlobNode :=
  if n.networking = false then n
  else if n.shouldAnnounceBlob info = false then n
  else if n.localPeerID = "" then n
  else if n.shouldAnnounceBlobFromPeer n.localPeerID = false then n
  else
    let byBlob := n.blobProviders.announceBlob info.id n.localPeerID defaultBlobProviderTTL
      C.allowAnnounce C.announcedAt
    { n with blobProviders := byBlob }

section

variable [LowerCase]

/-- The answer goes into the store where the node keeps public blobs, else into the cache. -/
def cacheFetchedAttachment (n : BlobNode) (C : FetchCourse) (info : AttachmentMeta)
    (data : Bytes) : BlobNode :=
  if data = [] then n
  else if n.publicStoreEnabled = false then
    { n with publicBlobCache := (n.publicBlobCache.put info data C.cachedAt C.ranges).2 }
  else { n with store := (n.store.putExisting info data C.cachedAt C.storing).2 }

def keepFetched (n : BlobNode) (C : FetchCourse) (info : AttachmentMeta) (data : Bytes) :
    BlobNode :=
  let n := if n.replicationMode = .none then n else n.cacheFetchedAttachment C info data
  n.announceLocalBlobProvider C info

def fetchMissing (n : BlobNode) (C : FetchCourse) (attachmentID : String)
    (e : AttachmentError) : Except GetAttachmentError (AttachmentMeta × Bytes) × BlobNode :=
  if n.localPeerID = "" then (.error (.store e), n)
  else if n.shouldFetchBlobFromPeers n.localPeerID = false then (.error (.store e), n)
  else
    match fetchAttachmentFromProviders C n.blobProviders attachmentID n.localPeerID with
    | (.error e, byBlob) => (.error e, { n with blobProviders := byBlob })
    | (.ok (info, data), byBlob) =>
      (.ok (info, data), { n with blobProviders := byBlob }.keepFetched C info data)

def getAttachment (n : BlobNode) (C : FetchCourse) (attachmentID : String) :
    Except GetAttachmentError (AttachmentMeta × Bytes) × BlobNode :=
  let attachmentID := trimSpace attachmentID
  if attachmentID = "" then (.error .idRequired, n)
  else
    match n.store.get attachmentID C.lookedUpAt C.reading with
    | (.ok found, store) => (.ok found, { n with store := store })
    | (.error e, store) =>
      match n.publicBlobCache.get attachmentID C.lookedUpAt with
      | (some cached, cache) => (.ok cached, { n with store := store, publicBlobCache := cache })
      | (none, cache) =>
        { n with store := store, publicBlobCache := cache }.fetchMissing C attachmentID e

end

end BlobNode

end Ardents.Daemon
