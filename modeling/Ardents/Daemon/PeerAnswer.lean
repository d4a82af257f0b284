import Ardents.Daemon.Providers

/-!
# What a peer's answer changes

An attachment that is fetched from a peer is kept under the id, the size and the pin state that
the answer names. `GetAttachment` compares none of these with the request or the data.
-/

namespace Ardents.Daemon

open Go
open Crypto (Time)
open Ardents.Attachments (AttachmentStore AttachmentError FileSystem isPinned normalizedClass)
open Attachments.AttachmentStore PublicEphemeralBlobCache

/-! ## Frames -/

section

variable [LowerCase]

/-- An attachment that may be evicted to make room for data: it is not pinned, and the quota of its
class would be exceeded. -/
def Evictable (s : AttachmentStore) (data : Bytes) (id : String) : Prop :=
  ∃ info, s.items[id]? = some info ∧ isPinned info = false ∧
    s.ExceedsQuota (normalizedClass info).text data.length

/-- The store is changed at one entry at most, apart from evictions; what is new there has the size
of the data and is not pinned, and no file is written outside the directory. `index.json` says
what all the items are and is not compared. -/
structure StoreFrame (blobID : String) (data : Bytes) (s s' : AttachmentStore) : Prop where
  items : ∀ id, id ≠ blobID → s'.items[id]? = s.items[id]? ∨
    s'.items[id]? = none ∧ Evictable s data id
  blobs : ∀ id, id ≠ blobID → s'.blobs[id]? = s.blobs[id]? ∨
    s'.blobs[id]? = none ∧ Evictable s data id
  files : ∀ p, p ≠ s.filePath blobID → s'.files p = s.files p ∨
    s'.files p = none ∧ ∃ id, s.filePath id = p ∧ Evictable s data id
  entry : ∀ info, s'.items[blobID]? = some info →
    (∃ old, s.items[blobID]? = some old ∧ info = { old with lastAccessAt := info.lastAccessAt }) ∨
      info.size = data.length ∧ isPinned info = false
  written : ∀ p, s'.files p ≠ s.files p → s'.files p = none ∨ Path.Inside (Path.clean s.dir) p

end

/-- An entry of the cache that may go: it expires before the answer is there, or there is no room
for it beside the data. -/
def Replaceable (C : FetchCourse) (blobID : String) (data : Bytes) (c : PublicEphemeralBlobCache)
    (id : String) : Prop :=
  ∃ entry, c.items[id]? = some entry ∧
    (entry.expiresAt ≤ C.lookedUpAt ∨ entry.expiresAt ≤ C.cachedAt ∨
      c.maxBytes <
        (((c.pruneExpired C.lookedUpAt).pruneExpired C.cachedAt).drop blobID).used + data.length)

structure CacheFrame (C : FetchCourse) (blobID : String) (data : Bytes)
    (c c' : PublicEphemeralBlobCache) : Prop where
  items : ∀ id, id ≠ blobID → c'.items[id]? = c.items[id]? ∨
    c'.items[id]? = none ∧ Replaceable C blobID data c id
  entry : ∀ entry, c'.items[blobID]? = some entry →
    (∃ old, c.items[blobID]? = some old ∧ entry.size = old.size) ∨ entry.size = data.length

structure OnlyAt [LowerCase] (C : FetchCourse) (blobID : String) (data : Bytes)
    (n n' : BlobNode) : Prop where
  store : StoreFrame blobID data n.store n'.store
  cache : CacheFrame C blobID data n.publicBlobCache n'.publicBlobCache
  providers : ∀ id, id ≠ blobID → n'.blobProviders[id]? = n.blobProviders[id]?

/-! ## The attachment store -/

section

variable [LowerCase] {s t : AttachmentStore} {blobID : String} {data : Bytes}

theorem StoreFrame.refl (s : AttachmentStore) (blobID : String) (data : Bytes) :
    StoreFrame blobID data s s where
  items := fun _ _ => .inl rfl
  blobs := fun _ _ => .inl rfl
  files := fun _ _ => .inl rfl
  entry := fun info hinfo => .inl ⟨info, hinfo, rfl⟩
  written := fun _ hne => absurd rfl hne

theorem StoreFrame.touchLastAccess (s : AttachmentStore) (blobID : String) (data : Bytes)
    (now : Time) (fs : FileSystem) :
    StoreFrame blobID data s (s.touchLastAccess blobID now fs) := by
  unfold AttachmentStore.touchLastAccess
  cases hold : s.items[blobID]? with
  | none => exact .refl s blobID data
  | some old =>
    dsimp only
    split
    · exact .refl s blobID data
    · rw [AttachmentStore.persistItems_eq]
      cases s.indexWritten fs with
      | false =>
        exact { StoreFrame.refl s blobID data with }
      | true =>
        refine { items := ?_, blobs := fun _ _ => .inl rfl, files := fun _ _ => .inl rfl,
                 entry := ?_, written := fun _ hne => absurd rfl hne }
        · grind
        · simp_all

theorem get_frame {now : Time} {fs : FileSystem}
    {r : Except AttachmentError (AttachmentMeta × Bytes)}
    (h : s.get blobID now fs = (r, t)) (data : Bytes) :
    StoreFrame blobID data s t ∧ (∀ e, r = .error e → t = s) := by
  unfold AttachmentStore.get at h
  split at h
  · obtain ⟨rfl, rfl⟩ := Prod.mk.inj h
    exact ⟨.refl _ _ _, fun _ _ => rfl⟩
  · split at h
    · obtain ⟨rfl, rfl⟩ := Prod.mk.inj h
      exact ⟨.refl _ _ _, fun _ _ => rfl⟩
    · obtain ⟨rfl, rfl⟩ := Prod.mk.inj h
      exact ⟨.touchLastAccess _ _ _ _ _, fun _ he => nomatch he⟩

structure Deletes (ids : List String) (s t : AttachmentStore) : Prop where
  dir : t.dir = s.dir
  items : ∀ id : String, t.items[id]? = s.items[id]? ∨ t.items[id]? = none ∧ id ∈ ids
  blobs : ∀ id : String, t.blobs[id]? = s.blobs[id]? ∨ t.blobs[id]? = none ∧ id ∈ ids
  files : ∀ p, t.files p = s.files p ∨ t.files p = none ∧ ∃ id ∈ ids, s.filePath id = p

omit [LowerCase] in
theorem Deletes.without {gone cleared ids : List String} (hgone : ∀ id ∈ gone, id ∈ ids)
    (hcleared : ∀ id ∈ cleared, id ∈ ids) (s : AttachmentStore) :
    Deletes ids s (s.without gone cleared) where
  dir := rfl
  items := fun _ => .inl rfl
  blobs := fun id => by
    by_cases hid : id ∈ gone
    · refine .inr ⟨?_, hgone id hid⟩
      dsimp only [AttachmentStore.without]
      rw [get_filter, if_neg (by simpa using hid)]
    · left
      dsimp only [AttachmentStore.without]
      rw [get_filter, if_pos (by simpa using hid)]
  files := fun p => by
    by_cases hp : ∃ id ∈ cleared, s.filePath id = p
    · obtain ⟨id, hid, hpath⟩ := hp
      exact .inr ⟨if_pos ⟨id, hid, hpath⟩, id, hcleared id hid, hpath⟩
    · exact .inl (if_neg hp)

omit [LowerCase] in
theorem deletes_deleteIDs (s : AttachmentStore) (ids : List String) (fs : FileSystem) :
    Deletes ids s (s.deleteIDs ids fs).2 := by
  by_cases hids : ids = []
  · subst hids
    exact ⟨rfl, fun _ => .inl rfl, fun _ => .inl rfl, fun _ => .inl rfl⟩
  rw [deleteIDs_eq s hids]
  have hremoved : ∀ id ∈ s.removed fs ids, id ∈ ids := fun id hid =>
    mem_of_mem_dropped (mem_dropped_of_mem_removed hid)
  split
  · have hdata := Deletes.without (fun _ hid => hid) hremoved s
    refine ⟨rfl, ?_, hdata.blobs, hdata.files⟩
    grind
  · exact .without (fun _ hid => mem_of_mem_dropped hid) hremoved s

theorem exceedsQuota_congr {className className' : String}
    (h : toLower (trimSpace className) = toLower (trimSpace className')) (s : AttachmentStore)
    (size : Int) : s.ExceedsQuota className size ↔ s.ExceedsQuota className' size := by
  unfold AttachmentStore.ExceedsQuota AttachmentStore.classLimits AttachmentStore.usageByClass
  rw [h]

theorem evictable_of_evictions {className : String} {size : Int} {toDelete : List String}
    (h : s.evictions className size = .ok toDelete) (hsize : size = data.length) {id : String}
    (hid : id ∈ toDelete) : Evictable s data id := by
  obtain ⟨info, hinfo, -, hunpinned, hclass⟩ :=
    mem_lruCandidates.mp (evictions_mem h hid)
  refine ⟨info, hinfo, hunpinned, ?_⟩
  have hspelled : toLower (trimSpace (normalizedClass info).text) =
      toLower (trimSpace className) := by
    rw [toLower_trimSpace_text, hclass]
  rw [exceedsQuota_congr hspelled, ← hsize]
  rcases (evictions_ok h).2 with rfl | ⟨hquota, hexceeds, -, -⟩
  · exact absurd hid List.not_mem_nil
  · exact ⟨hquota, hexceeds⟩

theorem StoreFrame.of_deletes {ids : List String} (h : Deletes ids s t)
    (hids : ∀ id ∈ ids, Evictable s data id) : StoreFrame blobID data s t where
  items := fun id _ => (h.items id).imp_right fun hgone => ⟨hgone.1, hids id hgone.2⟩
  blobs := fun id _ => (h.blobs id).imp_right fun hgone => ⟨hgone.1, hids id hgone.2⟩
  files := fun p _ => (h.files p).imp_right fun hgone => by
    obtain ⟨hnone, id, hid, hpath⟩ := hgone
    exact ⟨hnone, id, hpath, hids id hid⟩
  entry := fun info hinfo => by
    rcases h.items blobID with hsame | ⟨hnone, -⟩
    · exact .inl ⟨info, hsame ▸ hinfo, rfl⟩
    · rw [hnone] at hinfo
      exact nomatch hinfo
  written := fun p hne => .inl ((h.files p).resolve_left hne).1

/-- What putting data in may change beyond that: one entry, its data and its file. -/
structure PutsAt (info : AttachmentMeta) (t u : AttachmentStore) : Prop where
  items : u.items = t.items ∨ u.items = t.items.insert info.id info
  blobs : ∀ id, id ≠ info.id → u.blobs[id]? = t.blobs[id]?
  files : ∀ p, u.files p = t.files p ∨ t.dir ≠ "" ∧ p = t.filePath info.id

omit [LowerCase] in
theorem putsAt_setFile (t : AttachmentStore) (info : AttachmentMeta)
    (content : Option Attachments.Content) (hdir : t.dir ≠ "") (p : Path) :
    (t.setFile info.id content).files p = t.files p ∨ t.dir ≠ "" ∧ p = t.filePath info.id := by
  by_cases hp : p = t.filePath info.id
  · exact .inr ⟨hdir, hp⟩
  · exact .inl (Function.update_of_ne hp _ _)

omit [LowerCase] in
theorem putsAt_putData (t : AttachmentStore) (info : AttachmentMeta) (data : Bytes)
    (removeAgain : Bool) (fs : FileSystem) :
    PutsAt info t (t.putData info data removeAgain fs).2 := by
  have hstoring := putData_storing t info data removeAgain fs
  generalize t.putData info data removeAgain fs = r at hstoring
  cases hstoring with
  | unsaved hdir => exact ⟨.inr rfl, fun _ _ => rfl, fun _ => .inl rfl⟩
  | inMemory hdir hpersist =>
    refine ⟨.inr rfl, fun id hid => ?_, fun _ => .inl rfl⟩
    grind
  | untouched hdir hpersist hfails => exact ⟨.inl rfl, fun _ _ => rfl, fun _ => .inl rfl⟩
  | cutOff hdir hpersist hmkdir hencrypt left hfails =>
    exact ⟨.inl rfl, fun _ _ => rfl, putsAt_setFile t info _ hdir⟩
  | unindexed hdir hpersist hmkdir hencrypt hwrite left hfails content hcontent =>
    exact ⟨.inl rfl, fun _ _ => rfl, putsAt_setFile t info content hdir⟩
  | stored hdir hpersist hmkdir hencrypt hwrite hindex =>
    exact ⟨.inr rfl, fun _ _ => rfl, putsAt_setFile t info _ hdir⟩

variable {info : AttachmentMeta}

theorem StoreFrame.put {ids : List String} {u : AttachmentStore}
    (h : Deletes ids s t) (hids : ∀ id ∈ ids, Evictable s data id) (hputs : PutsAt info t u)
    (hinside : s.dir ≠ "" → Path.Inside (Path.clean s.dir) (s.filePath info.id))
    (hsize : info.size = data.length) (hunpinned : isPinned info = false) :
    StoreFrame info.id data s u := by
  have hbefore : StoreFrame info.id data s t := .of_deletes h hids
  have hpath : t.filePath info.id = s.filePath info.id := by
    unfold filePath
    rw [h.dir]
  refine ⟨?_, ?_, ?_, ?_, ?_⟩
  · intro id hid
    have hsame : u.items[id]? = t.items[id]? := by
      rcases hputs.items with hitems | hitems
      · rw [hitems]
      · rw [hitems, get_insert, if_neg (Ne.symm hid)]
    rw [hsame]
    exact hbefore.items id hid
  · intro id hid
    rw [hputs.blobs id hid]
    exact hbefore.blobs id hid
  · intro p hp
    rcases hputs.files p with hsame | ⟨-, heq⟩
    · rw [hsame]
      exact hbefore.files p hp
    · exact absurd (heq.trans hpath) hp
  · intro found hfound
    rcases hputs.items with hitems | hitems
    · rw [hitems] at hfound
      exact hbefore.entry found hfound
    · rw [hitems, get_insert, if_pos rfl] at hfound
      obtain rfl := Option.some.inj hfound
      exact .inr ⟨hsize, hunpinned⟩
  · grind [cases PutsAt, cases Deletes]

theorem putWithin_frame (hinside : s.dir ≠ "" → Path.Inside (Path.clean s.dir) (s.filePath info.id))
    (hsize : info.size = data.length) (hunpinned : isPinned info = false) (removeAgain : Bool)
    (fs : FileSystem) : StoreFrame info.id data s (s.putWithin info data removeAgain fs).2 := by
  have hputting := putWithin_putting s info data removeAgain fs
  generalize s.putWithin info data removeAgain fs = r at hputting
  -- however far it gets, those it deletes are evictable
  have hevictable : ∀ {toDelete}, s.evictions info.attachmentClass info.size = .ok toDelete →
      ∀ id ∈ toDelete, Evictable s data id :=
    fun h _ hid => evictable_of_evictions h hsize hid
  have hdeletes : ∀ {toDelete : List String} {ok : Bool} {t : AttachmentStore},
      s.deleteIDs toDelete fs = (ok, t) → Deletes toDelete s t := by
    grind [deletes_deleteIDs]
  cases hputting with
  | rejected e h => exact .refl _ _ _
  | stuck toDelete t h hdelete | full toDelete t h hdelete hquota =>
    exact .of_deletes (hdeletes hdelete) (hevictable h)
  | within toDelete t h hdelete hquota =>
    exact .put (hdeletes hdelete) (hevictable h) (putsAt_putData t info data removeAgain fs)
      hinside hsize hunpinned

theorem completeMeta_size {now : Time} :
    (completeMeta info data now).size = data.length ↔
      info.size ≤ 0 ∨ info.size = data.length := by
  grind [completeMeta]

theorem isPinned_completeMeta (info : AttachmentMeta) (now : Time) :
    isPinned (completeMeta info data now) = isPinned info := by
  unfold completeMeta isPinned
  dsimp only
  split
  · rename_i hblank
    rw [hblank]
    decide
  · rfl

theorem putExisting_frame (hid : info.id = blobID)
    (hinside : s.dir ≠ "" → Path.Inside (Path.clean s.dir) (s.filePath blobID))
    (hsize : info.size ≤ 0 ∨ info.size = data.length) (hunpinned : isPinned info = false)
    (now : Time) (fs : FileSystem) :
    StoreFrame blobID data s (s.putExisting info data now fs).2 := by
  subst hid
  unfold putExisting
  split
  · exact .refl _ _ _
  · split
    · exact .refl _ _ _
    · have hinside' : s.dir ≠ "" → Path.Inside (Path.clean s.dir)
          (s.filePath (completeMeta info data now).id) := hinside
      grind [completeMeta, isPinned_completeMeta, putWithin_frame]

end

/-! ## The cache -/

section

variable {C : FetchCourse} {c : PublicEphemeralBlobCache} {blobID : String} {data : Bytes}

theorem get_pruneExpired_cases (c : PublicEphemeralBlobCache) (now : Time) (id : String) :
    (c.pruneExpired now).items[id]? = c.items[id]? ∨ (c.pruneExpired now).items[id]? = none ∧
        ∃ entry, c.items[id]? = some entry ∧ entry.expiresAt ≤ now := by
  grind [get_pruneExpired]

theorem pruneExpired_maxBytes (c : PublicEphemeralBlobCache) (now : Time) :
    (c.pruneExpired now).maxBytes = c.maxBytes := by
  unfold pruneExpired
  split
  · rfl
  · rfl

theorem drop_maxBytes (c : PublicEphemeralBlobCache) (id : String) :
    (c.drop id).maxBytes = c.maxBytes := by
  unfold PublicEphemeralBlobCache.drop
  split
  · rfl
  · rfl

theorem crowded_room {info : AttachmentMeta}
    (h : (((c.pruneExpired C.lookedUpAt).pruneExpired C.cachedAt).insert blobID info data
      C.cachedAt).Crowded) : c.maxBytes <
      (((c.pruneExpired C.lookedUpAt).pruneExpired C.cachedAt).drop blobID).used + data.length := by
  have hroom := h.2.1
  dsimp only [PublicEphemeralBlobCache.insert] at hroom
  rwa [drop_maxBytes, pruneExpired_maxBytes, pruneExpired_maxBytes] at hroom

theorem CacheFrame.refl (C : FetchCourse) (blobID : String) (data : Bytes)
    (c : PublicEphemeralBlobCache) : CacheFrame C blobID data c c where
  items := fun _ _ => .inl rfl
  entry := fun entry hentry => .inl ⟨entry, hentry, rfl⟩

theorem CacheFrame.lookedUp (C : FetchCourse) (blobID : String) (data : Bytes)
    (c : PublicEphemeralBlobCache) : CacheFrame C blobID data c (c.pruneExpired C.lookedUpAt) where
  items := fun id _ => (get_pruneExpired_cases c C.lookedUpAt id).imp_right fun hgone => by
    obtain ⟨hnone, entry, hentry, hexpired⟩ := hgone
    exact ⟨hnone, entry, hentry, .inl hexpired⟩
  entry := fun entry hentry => by
    rcases get_pruneExpired_cases c C.lookedUpAt blobID with hsame | ⟨hnone, -⟩
    · exact .inl ⟨entry, hsame ▸ hentry, rfl⟩
    · rw [hnone] at hentry
      exact nomatch hentry

theorem get_cacheFrame (hblob : trimSpace blobID = blobID) (hne : blobID ≠ "") (data : Bytes)
    {r : Option (AttachmentMeta × Bytes)} {c' : PublicEphemeralBlobCache}
    (h : c.get blobID C.lookedUpAt = (r, c')) :
    CacheFrame C blobID data c c' ∧ (r = none → c' = c.pruneExpired C.lookedUpAt) := by
  have hpruned := CacheFrame.lookedUp C blobID data c
  unfold PublicEphemeralBlobCache.get at h
  dsimp only at h
  rw [hblob, if_neg hne] at h
  split at h
  · simp_all
  · rename_i entry hentry
    obtain ⟨rfl, rfl⟩ := Prod.mk.inj h
    refine ⟨⟨?_, ?_⟩, fun hr => nomatch hr⟩
    · intro id hid
      dsimp only
      rw [get_insert, if_neg (Ne.symm hid)]
      exact hpruned.items id hid
    · intro found hfound
      rw [get_insert, if_pos rfl] at hfound
      obtain rfl := Option.some.inj hfound
      exact hpruned.entry entry hentry

theorem put_cacheFrame {info : AttachmentMeta} (hid : trimSpace info.id = blobID) :
    CacheFrame C blobID data c
      ((c.pruneExpired C.lookedUpAt).put info data C.cachedAt C.ranges).2 := by
  have hlooked := CacheFrame.lookedUp C blobID data c
  -- what the second sweep leaves
  have hpruned : CacheFrame C blobID data c
      ((c.pruneExpired C.lookedUpAt).pruneExpired C.cachedAt) := by
    refine ⟨?_, ?_⟩
    · intro id hne
      rcases get_pruneExpired_cases (c.pruneExpired C.lookedUpAt) C.cachedAt id with
        hsame | ⟨hnone, entry, hentry, hexpired⟩
      · rw [hsame]
        exact hlooked.items id hne
      · rcases get_pruneExpired_cases c C.lookedUpAt id with hsame | ⟨hgone, -⟩
        · exact .inr ⟨hnone, entry, hsame ▸ hentry, .inr (.inl hexpired)⟩
        · simp_all
    · grind [get_pruneExpired_cases]
  unfold PublicEphemeralBlobCache.put
  dsimp only
  rw [hid]
  split
  · exact hlooked
  split
  · exact hlooked
  split
  · exact hpruned
  dsimp only
  refine ⟨?_, ?_⟩
  · intro id hne
    rcases get_enforceBudget (((c.pruneExpired C.lookedUpAt).pruneExpired
      C.cachedAt).insert blobID info data C.cachedAt) C.ranges id with hsame | ⟨hnone, hcrowded⟩
    · rw [hsame, get_insert_of_ne _ hne]
      exact hpruned.items id hne
    · cases hentry : c.items[id]? with
      | none => exact .inl hnone
      | some entry => exact .inr ⟨hnone, entry, hentry, .inr (.inr (crowded_room hcrowded))⟩
  · intro entry hentry
    obtain ⟨inserted, hinserted, -, -, hsize⟩ := get_insert_self
      ((c.pruneExpired C.lookedUpAt).pruneExpired C.cachedAt) blobID info data C.cachedAt
    grind [get_enforceBudget]

end

/-! ## What is fetched -/

def FetchCourse.Answers (C : FetchCourse) (info : AttachmentMeta) (data : Bytes) : Prop :=
  ∀ attempt peerID info' data', C.answer attempt peerID = .found info' data' →
    info' = info ∧ data' = data

def answeredID (blobID : String) (info : AttachmentMeta) : String :=
  if info.id = "" then blobID else info.id

def answered (blobID : String) (info : AttachmentMeta) : AttachmentMeta :=
  { info with id := answeredID blobID info }

theorem isPinned_answered (blobID : String) (info : AttachmentMeta) :
    isPinned (answered blobID info) = isPinned info := rfl

namespace BlobNode

variable {C : FetchCourse} {info : AttachmentMeta} {data : Bytes} {blobID : String}

theorem askProviders_found (hanswers : C.Answers info data) {attempt : Nat}
    {requesterPeerID : String} {peers : List String} {forbidden forbidden' : Bool}
    {fetched : AttachmentMeta × Bytes}
    (h : askProviders C attempt blobID requesterPeerID forbidden peers =
      (some fetched, forbidden')) : fetched = (answered blobID info, data) := by
  induction peers generalizing forbidden with
  | nil => exact nomatch (Prod.mk.inj h).1
  | cons peerID rest ih =>
    unfold askProviders at h
    split at h
    · exact nomatch (Prod.mk.inj h).1
    split at h
    · exact ih h
    split at h
    · exact ih h
    · exact ih h
    · rename_i info' data' hanswer
      split at h
      · exact ih h
      · obtain ⟨rfl, rfl⟩ := hanswers attempt peerID info' data' hanswer
        exact (Option.some.inj (Prod.mk.inj h).1).symm

theorem fetchRounds_spec (hanswers : C.Answers info data) (hblob : trimSpace blobID = blobID)
    (requesterPeerID : String) (left : Nat) (forbidden : Bool) (byBlob : BlobProviderRegistry) :
    (∀ id, id ≠ blobID →
      (fetchRounds C blobID requesterPeerID left forbidden byBlob).2[id]? = byBlob[id]?) ∧
    ∀ fetched, (fetchRounds C blobID requesterPeerID left forbidden byBlob).1 = .ok fetched →
      fetched = (answered blobID info, data) := by
  induction left generalizing forbidden byBlob with
  | zero => exact ⟨fun _ _ => rfl, fun _ h => nomatch h⟩
  | succ left ih =>
    have hlisted : ∀ now id, id ≠ blobID →
        (byBlob.listProviders blobID now).2[id]? = byBlob[id]? := by
      intro now id hid
      exact byBlob.get_listProviders (hblob.symm ▸ hid) now
    unfold fetchRounds
    dsimp only
    split
    · exact ⟨fun _ _ => rfl, fun _ h => nomatch h⟩
    split
    · rename_i fetched forbidden' hasked
      refine ⟨hlisted _, fun other hother => ?_⟩
      rw [← Except.ok.inj hother]
      exact askProviders_found hanswers hasked
    · rename_i forbidden' hasked
      split
      · obtain ⟨hframe, hfetched⟩ := ih forbidden' (byBlob.listProviders blobID
          (C.listedAt (blobFetchMaxAttempts - (left + 1)))).2
        exact ⟨fun id hid => (hframe id hid).trans (hlisted _ id hid), hfetched⟩
      · exact ⟨hlisted _, fun _ h => nomatch h⟩

/-! ## What is kept -/

variable (n : BlobNode)

theorem announceLocalBlobProvider_store : (n.announceLocalBlobProvider C info).store = n.store ∧
      (n.announceLocalBlobProvider C info).publicBlobCache = n.publicBlobCache := by
  grind [announceLocalBlobProvider]

theorem get_announceLocalBlobProvider {id : String}
    (hid : trimSpace info.id = "" ∨ id ≠ trimSpace info.id) :
    (n.announceLocalBlobProvider C info).blobProviders[id]? = n.blobProviders[id]? := by
  unfold announceLocalBlobProvider
  split
  · rfl
  split
  · rfl
  split
  · rfl
  split
  · rfl
  rcases hid with hblank | hne
  · rw [n.blobProviders.announceBlob_blank hblank]
  · exact n.blobProviders.get_announceBlob hne _ _ _ _

variable [LowerCase]

theorem keepFetched_store : (n.keepFetched C info data).store = n.store ∨
    data ≠ [] ∧ (n.keepFetched C info data).store =
      (n.store.putExisting info data C.cachedAt C.storing).2 := by
  grind [keepFetched, announceLocalBlobProvider_store, cacheFetchedAttachment]

theorem keepFetched_cache : (n.keepFetched C info data).publicBlobCache = n.publicBlobCache ∨
    data ≠ [] ∧ (n.keepFetched C info data).publicBlobCache =
      (n.publicBlobCache.put info data C.cachedAt C.ranges).2 := by
  grind [keepFetched, announceLocalBlobProvider_store, cacheFetchedAttachment]

theorem get_keepFetched {id : String} (hid : trimSpace info.id = "" ∨ id ≠ trimSpace info.id) :
    (n.keepFetched C info data).blobProviders[id]? = n.blobProviders[id]? := by
  grind [keepFetched, get_announceLocalBlobProvider, cacheFetchedAttachment]

end BlobNode

/-! ## Answers that change one entry -/

/-- An answer that is about what was asked for: nothing is kept of it, or it names the blob. Where
it has data, it also names their size, or none, does not say that they are pinned, and they go into
a file of the directory. -/
def Harmless (dir attachmentID : String) (info : AttachmentMeta) (data : Bytes) : Prop :=
  let blobID := trimSpace attachmentID
  blobID = "" ∨ trimSpace (answeredID blobID info) = "" ∨
    if data = [] then trimSpace (answeredID blobID info) = blobID
    else
      answeredID blobID info = blobID ∧ (info.size ≤ 0 ∨ info.size = data.length) ∧
        isPinned info = false ∧
        (dir ≠ "" → Path.Inside (Path.clean dir) (Path.join dir (blobID ++ ".bin")))

/-- Whatever the node is like and however the call goes, an answer changes one entry. -/
def ChangesOneEntry [LowerCase] (dir attachmentID : String) (info : AttachmentMeta)
    (data : Bytes) : Prop :=
  ∀ (n : BlobNode) (C : FetchCourse), n.store.dir = dir → C.Answers info data →
    OnlyAt C (trimSpace attachmentID) data n (n.getAttachment C attachmentID).2

open BlobNode

section

variable [LowerCase] {C : FetchCourse} {info : AttachmentMeta} {data : Bytes}
  {attachmentID : String} {n : BlobNode}

theorem keepFetched_storeFrame (hblob : trimSpace attachmentID ≠ "")
    (h : Harmless n.store.dir attachmentID info data) :
    StoreFrame (trimSpace attachmentID) data n.store (n.keepFetched C
      (answered (trimSpace attachmentID) info) data).store := by
  rcases n.keepFetched_store with hsame | ⟨hdata, hput⟩
  · rw [hsame]
    exact .refl _ _ _
  rw [hput]
  rcases h.resolve_left hblob with hblank | hkept
  · have hblank' : trimSpace (answered (trimSpace attachmentID) info).id = "" := hblank
    rw [putExisting, if_pos hblank']
    exact .refl _ _ _
  · rw [if_neg hdata] at hkept
    obtain ⟨hid, hsize, hunpinned, hinside⟩ := hkept
    have hid' : (answered (trimSpace attachmentID) info).id = trimSpace attachmentID := hid
    rw [← isPinned_answered (trimSpace attachmentID)] at hunpinned
    exact putExisting_frame hid' hinside hsize hunpinned C.cachedAt C.storing

theorem keepFetched_cacheFrame (hblob : trimSpace attachmentID ≠ "") {dir : String}
    (h : Harmless dir attachmentID info data) {c : PublicEphemeralBlobCache}
    (hcache : n.publicBlobCache = c.pruneExpired C.lookedUpAt) :
    CacheFrame C (trimSpace attachmentID) data c (n.keepFetched C
      (answered (trimSpace attachmentID) info) data).publicBlobCache := by
  rcases n.keepFetched_cache with hsame | ⟨hdata, hput⟩
  · rw [hsame, hcache]
    exact .lookedUp _ _ _ _
  rw [hput, hcache]
  rcases h.resolve_left hblob with hblank | hkept
  · have hblank' : trimSpace (answered (trimSpace attachmentID) info).id = "" := hblank
    rw [PublicEphemeralBlobCache.put, if_pos (.inl hblank')]
    exact .lookedUp _ _ _ _
  · grind [answered, trimSpace_idem, put_cacheFrame]

omit [LowerCase] in
theorem answeredID_harmless (hblob : trimSpace attachmentID ≠ "") {dir : String}
    (h : Harmless dir attachmentID info data) {id : String} (hid : id ≠ trimSpace attachmentID) :
    trimSpace (answeredID (trimSpace attachmentID) info) = "" ∨
      id ≠ trimSpace (answeredID (trimSpace attachmentID) info) := by
  rcases h.resolve_left hblob with hblank | hkept
  · exact .inl hblank
  · grind [trimSpace_idem]

theorem keepFetched_onlyAt (hblob : trimSpace attachmentID ≠ "")
    (h : Harmless n.store.dir attachmentID info data) {m : BlobNode} (hstore : m.store = n.store)
    (hcache : m.publicBlobCache = n.publicBlobCache.pruneExpired C.lookedUpAt)
    (hproviders : ∀ id, id ≠ trimSpace attachmentID → m.blobProviders[id]? = n.blobProviders[id]?) :
    OnlyAt C (trimSpace attachmentID) data n
      (m.keepFetched C (answered (trimSpace attachmentID) info) data) := by
  refine ⟨?_, keepFetched_cacheFrame hblob h hcache, ?_⟩
  · rw [← hstore] at h ⊢
    exact keepFetched_storeFrame hblob h
  · intro id hid
    have hother : trimSpace (answered (trimSpace attachmentID) info).id = "" ∨
        id ≠ trimSpace (answered (trimSpace attachmentID) info).id :=
      answeredID_harmless hblob h hid
    rw [m.get_keepFetched hother]
    exact hproviders id hid

theorem fetchMissing_onlyAt (hblob : trimSpace attachmentID ≠ "")
    (h : Harmless n.store.dir attachmentID info data) (hanswers : C.Answers info data)
    {m : BlobNode} (hstore : m.store = n.store)
    (hcache : m.publicBlobCache = n.publicBlobCache.pruneExpired C.lookedUpAt)
    (hproviders : m.blobProviders = n.blobProviders) (e : AttachmentError) :
    OnlyAt C (trimSpace attachmentID) data n (m.fetchMissing C (trimSpace attachmentID) e).2 := by
  have hlooked : ∀ byBlob : BlobProviderRegistry,
      (∀ id, id ≠ trimSpace attachmentID → byBlob[id]? = n.blobProviders[id]?) →
      OnlyAt C (trimSpace attachmentID) data n { m with blobProviders := byBlob } := by
    intro byBlob hframe
    refine ⟨?_, ?_, hframe⟩
    · dsimp only
      rw [hstore]
      exact .refl _ _ _
    · dsimp only
      rw [hcache]
      exact .lookedUp _ _ _ _
  unfold fetchMissing
  split
  · exact hlooked _ fun id _ => by rw [hproviders]
  split
  · exact hlooked _ fun id _ => by rw [hproviders]
  have hspec := fetchRounds_spec hanswers (trimSpace_idem attachmentID)
    m.localPeerID blobFetchMaxAttempts false m.blobProviders
  grind [fetchAttachmentFromProviders, keepFetched_onlyAt]

theorem getAttachment_onlyAt (h : Harmless n.store.dir attachmentID info data)
    (hanswers : C.Answers info data) :
    OnlyAt C (trimSpace attachmentID) data n (n.getAttachment C attachmentID).2 := by
  unfold getAttachment
  dsimp only
  split
  · exact ⟨.refl _ _ _, .refl _ _ _ _, fun _ _ => rfl⟩
  rename_i hblob
  rcases hget : n.store.get (trimSpace attachmentID) C.lookedUpAt C.reading with ⟨r, store⟩
  obtain ⟨hstore, hfailed⟩ := get_frame hget data
  cases r with
  | ok found => exact ⟨hstore, .refl _ _ _ _, fun _ _ => rfl⟩
  | error e =>
    rcases hcached : n.publicBlobCache.get (trimSpace attachmentID) C.lookedUpAt with ⟨r, cache⟩
    obtain ⟨hcache, hmissed⟩ := get_cacheFrame (trimSpace_idem attachmentID) hblob data hcached
    cases r with
    | some cached => exact ⟨hstore, hcache, fun _ _ => rfl⟩
    | none =>
      exact fetchMissing_onlyAt (m := { n with store := store, publicBlobCache := cache }) hblob
        h hanswers (hfailed e rfl) (hmissed rfl) rfl e

end

/-! ## Answers that change more -/

def emptyStore (dir : String) : AttachmentStore where
  dir := dir
  items := ∅
  blobs := ∅
  persist := true
  limits := ⟨0, 0, 0, 0⟩
  hardCap := ⟨90, 100, 75⟩
  index := .missing
  files := fun _ => none

def publicNode (dir blobID : String) : BlobNode where
  store := emptyStore dir
  publicBlobCache := ⟨0, 0, 0, ∅⟩
  blobProviders := (∅ : BlobProviderRegistry).insert blobID
    ((∅ : GoMap String Time).insert "aim1peer" 1)
  identityID := "aim1local"
  replicationMode := .onDemand
  blobFlags := ⟨true, true, 100⟩
  networking := true
  publicStoreEnabled := true

def answering (info : AttachmentMeta) (data : Bytes) : FetchCourse where
  lookedUpAt := 0
  listedAt := fun _ => 0
  cachedAt := 0
  announcedAt := 0
  reading := .working
  storing := .working
  ranges := fun _ => .sorted
  alive := fun _ => true
  aliveFor := fun _ _ => true
  waited := fun _ => true
  allowFetch := fun _ _ => true
  answer := fun _ _ => .found info data
  allowBytes := fun _ _ => true
  allowAnnounce := true

theorem answering_answers (info : AttachmentMeta) (data : Bytes) :
    (answering info data).Answers info data := by
  intro attempt peerID info' data' h
  obtain ⟨rfl, rfl⟩ := ProviderAnswer.found.inj h
  exact ⟨rfl, rfl⟩

theorem fetch_publicNode (dir : String) {blobID : String} (hblob : trimSpace blobID = blobID)
    (hne : blobID ≠ "") (info : AttachmentMeta) (data : Bytes) :
    ∃ byBlob, fetchAttachmentFromProviders (answering info data)
      (publicNode dir blobID).blobProviders blobID "aim1local" =
        (.ok (answered blobID info, data), byBlob) := by
  have hlisted : ((publicNode dir blobID).blobProviders.listProviders blobID 0).1 =
      ["aim1peer"] := by
    have hget : (publicNode dir blobID).blobProviders[blobID]? =
        some ((∅ : GoMap String Time).insert "aim1peer" 1) := by
      simp [publicNode]
    have hsome : ((∅ : GoMap String Time).insert "aim1peer" 1).isEmpty = false := by
      decide +kernel
    have hsorted : (((BlobProviderRegistry.current ((∅ : GoMap String Time).insert "aim1peer" 1)
        0).toList.insertionSort BlobProviderRegistry.before).map Prod.fst) = ["aim1peer"] := by
      decide +kernel
    unfold BlobProviderRegistry.listProviders
    dsimp only
    rw [hblob, if_neg hne, hget]
    dsimp only
    rw [hsome]
    exact hsorted
  have hasked : askProviders (answering info data) 0 blobID "aim1local" false
      ["aim1peer"] = (some (answered blobID info, data), false) := by
    rfl
  simp_all [fetchAttachmentFromProviders, fetchRounds, blobFetchMaxAttempts,
    answering]

section

variable [LowerCase]

theorem getAttachment_publicNode (dir : String) {attachmentID : String}
    (hne : trimSpace attachmentID ≠ "") (info : AttachmentMeta) (data : Bytes) :
    ∃ byBlob, ((publicNode dir (trimSpace attachmentID)).getAttachment (answering info data)
      attachmentID).2 =
        { publicNode dir (trimSpace attachmentID) with blobProviders := byBlob }.keepFetched
          (answering info data) (answered (trimSpace attachmentID) info) data := by
  obtain ⟨byBlob, hfetch⟩ :=
    fetch_publicNode dir (trimSpace_idem attachmentID) hne info data
  refine ⟨byBlob, ?_⟩
  have hmissing : (publicNode dir (trimSpace attachmentID)).store.get (trimSpace attachmentID)
      (answering info data).lookedUpAt (answering info data).reading =
        (.error .notFound, emptyStore dir) :=
    get_of_not_mem (by simp [publicNode, emptyStore]) _ _
  have huncached : (publicNode dir (trimSpace attachmentID)).publicBlobCache.get
      (trimSpace attachmentID) (answering info data).lookedUpAt = (none, ⟨0, 0, 0, ∅⟩) := by
    simp [PublicEphemeralBlobCache.get, publicNode, pruneExpired]
  have hpeer : (publicNode dir (trimSpace attachmentID)).localPeerID = "aim1local" := by
    show trimSpace "aim1local" = "aim1local"
    decide
  have hfetches : (publicNode dir (trimSpace attachmentID)).shouldFetchBlobFromPeers "aim1local" =
      true := by
    rfl
  grind [publicNode, BlobNode.getAttachment, BlobNode.fetchMissing]

omit [LowerCase] in
theorem announced {C : FetchCourse} {n : BlobNode} {info : AttachmentMeta}
    (hid : trimSpace info.id ≠ "") (hidentity : n.identityID = "aim1local")
    (hmode : n.replicationMode = .onDemand) (hflags : n.blobFlags = ⟨true, true, 100⟩)
    (hnetworking : n.networking = true) (hallowed : C.allowAnnounce = true) :
    (n.announceLocalBlobProvider C info).blobProviders[trimSpace info.id]? ≠ none := by
  have hpeer : n.localPeerID = "aim1local" := by
    unfold localPeerID
    rw [hidentity]
    decide
  have hannounces : n.shouldAnnounceBlob info = true := by
    grind [shouldAnnounceBlob]
  have hflag : n.shouldAnnounceBlobFromPeer "aim1local" = true := by
    unfold shouldAnnounceBlobFromPeer
    rw [hflags]
    decide
  have htrim : trimSpace "aim1local" = "aim1local" := by decide
  unfold announceLocalBlobProvider BlobProviderRegistry.announceBlob
  rw [hnetworking, hannounces, hpeer, hflag, hallowed]
  dsimp only
  rw [htrim, if_neg (by simp), if_neg (by simp), if_neg (by simp), if_neg (by simp),
    if_neg (not_or.mpr ⟨hid, by simp⟩), if_neg (by decide), if_neg (by simp)]
  simp

theorem announced_publicNode (dir blobID : String) (byBlob : BlobProviderRegistry)
    {answer : AttachmentMeta} (hid : trimSpace answer.id ≠ "") (info : AttachmentMeta)
    (data : Bytes) :
    ({ publicNode dir blobID with blobProviders := byBlob }.keepFetched (answering info data)
      answer data).blobProviders[trimSpace answer.id]? ≠ none := by
  unfold keepFetched
  dsimp only
  rw [if_neg (by simp [publicNode])]
  unfold cacheFetchedAttachment
  split
  · exact announced hid rfl rfl rfl rfl rfl
  · exact announced hid rfl rfl rfl rfl rfl

theorem stored_publicNode (dir blobID : String) (byBlob : BlobProviderRegistry)
    (answer info : AttachmentMeta) {data : Bytes} (hdata : data ≠ []) :
    ({ publicNode dir blobID with blobProviders := byBlob }.keepFetched (answering info data)
      answer data).store = ((emptyStore dir).putExisting answer data 0 .working).2 := by
  unfold keepFetched
  dsimp only
  rw [(announceLocalBlobProvider_store _).1, if_neg (by simp [publicNode])]
  unfold cacheFetchedAttachment
  rw [if_neg hdata, if_neg (by simp [publicNode])]
  rfl

theorem putExisting_emptyStore (dir : String) {info : AttachmentMeta} {data : Bytes}
    (hid : trimSpace info.id ≠ "") (hdata : data ≠ []) (now : Time) :
    (emptyStore dir).putExisting info data now .working =
      (emptyStore dir).putData (AttachmentStore.completeMeta info data now) data false
        .working := by
  have hlimits : ∀ className, (emptyStore dir).classLimits className = (0, 0) := by
    intro className
    unfold AttachmentStore.classLimits
    split
    · rfl
    · rfl
  unfold AttachmentStore.putExisting AttachmentStore.putWithin AttachmentStore.enforceClassLimits
    AttachmentStore.evictions
  rw [if_neg hid, if_neg hdata, hlimits]
  simp [AttachmentStore.deleteIDs, AttachmentStore.ExceedsQuota, hlimits]

omit [LowerCase] in
theorem putData_emptyStore (dir : String) (info : AttachmentMeta) (data : Bytes) :
    let s := ((emptyStore dir).putData info data false .working).2
    s.items[info.id]? = some info ∧
      (dir ≠ "" → s.files ((emptyStore dir).filePath info.id) = some (some data)) := by
  have hstoring := putData_storing (emptyStore dir) info data false .working
  generalize (emptyStore dir).putData info data false .working = r at hstoring
  have hitem : ((emptyStore dir).items.insert info.id info)[info.id]? = some info := by
    rw [get_insert, if_pos rfl]
  cases hstoring with
  | unsaved hdir => exact ⟨hitem, fun hne => absurd hdir hne⟩
  | inMemory hdir hpersist => cases hpersist
  | untouched hdir hpersist hfails => simp [FileSystem.working] at hfails
  | cutOff hdir hpersist hmkdir hencrypt left hfails => cases hfails
  | unindexed hdir hpersist hmkdir hencrypt hwrite left hfails content hcontent =>
    cases hfails
  | stored hdir hpersist hmkdir hencrypt hwrite hindex =>
    exact ⟨hitem, fun _ => Function.update_self _ _ _⟩

theorem harmless_of_changesOneEntry {dir attachmentID : String} {info : AttachmentMeta}
    {data : Bytes} (h : ChangesOneEntry dir attachmentID info data) :
    Harmless dir attachmentID info data := by
  refine or_iff_not_imp_left.mpr fun hblob => or_iff_not_imp_left.mpr fun hnamed => ?_
  have hframe := h (publicNode dir (trimSpace attachmentID)) (answering info data) rfl
    (answering_answers info data)
  obtain ⟨byBlob, hafter⟩ := getAttachment_publicNode dir hblob info data
  rw [hafter] at hframe
  have hnamed' : trimSpace (answered (trimSpace attachmentID) info).id ≠ "" := hnamed
  -- it is announced under the id that the answer names
  have hannounced : trimSpace (answeredID (trimSpace attachmentID) info) =
      trimSpace attachmentID := by
    by_contra hother
    have hsame := hframe.providers _ hother
    have hentry := announced_publicNode dir (trimSpace attachmentID) byBlob hnamed' info data
    refine hentry (hsame.trans ?_)
    show ((∅ : BlobProviderRegistry).insert _ _)[_]? = none
    rw [get_insert, if_neg (Ne.symm hother)]
    exact Std.ExtTreeMap.getElem?_empty
  by_cases hdata : data = []
  · rw [if_pos hdata]
    exact hannounced
  rw [if_neg hdata]
  -- and it is stored as the answer describes it
  have hstore := hframe.store
  rw [stored_publicNode dir _ byBlob _ info hdata,
    putExisting_emptyStore dir hnamed' hdata 0] at hstore
  have hkept : (completeMeta (answered (trimSpace attachmentID) info) data 0).id =
      answeredID (trimSpace attachmentID) info := rfl
  have hsize : (completeMeta (answered (trimSpace attachmentID) info) data 0).size =
      data.length ↔ info.size ≤ 0 ∨ info.size = data.length := completeMeta_size
  have hpinned : isPinned (completeMeta (answered (trimSpace attachmentID) info)
      data 0) = isPinned info := isPinned_completeMeta _ 0
  generalize completeMeta (answered (trimSpace attachmentID) info) data 0 = kept
    at *
  obtain ⟨hitem, hfile⟩ := putData_emptyStore dir kept data
  have hempty : ∀ id : String, (publicNode dir (trimSpace attachmentID)).store.items[id]? = none :=
    fun _ => Std.ExtTreeMap.getElem?_empty
  rw [hkept] at hitem hfile
  have hid : answeredID (trimSpace attachmentID) info = trimSpace attachmentID := by
    by_contra hother
    rcases hstore.items _ hother with hsame | ⟨hnone, -⟩
    · rw [hitem, hempty] at hsame
      exact nomatch hsame
    · rw [hitem] at hnone
      exact nomatch hnone
  rw [hid] at hitem hfile
  obtain ⟨old, hold, -⟩ | ⟨hlength, hunpinned⟩ := hstore.entry kept hitem
  · rw [hempty] at hold
    exact nomatch hold
  refine ⟨hid, hsize.mp hlength, hpinned ▸ hunpinned, fun hdir => ?_⟩
  have hchanged : ((emptyStore dir).putData kept data false .working).2.files
      ((emptyStore dir).filePath (trimSpace attachmentID)) ≠ none := by
    rw [hfile hdir]
    simp
  exact (hstore.written _ hchanged).resolve_left hchanged

/-- An answer of a peer changes one entry just where it is harmless. -/
theorem changesOneEntry_iff (dir attachmentID : String) (info : AttachmentMeta) (data : Bytes) :
    ChangesOneEntry dir attachmentID info data ↔ Harmless dir attachmentID info data := by
  constructor
  · exact harmless_of_changesOneEntry
  · intro h n C hdir hanswers
    exact getAttachment_onlyAt (hdir.symm ▸ h) hanswers

end

/-- An answer that names another attachment, in another directory, of another size, and pinned. -/
def hostileAnswer : AttachmentMeta where
  id := "../../wallet"
  name := "x"
  mimeType := ""
  attachmentClass := ""
  lastAccessAt := 0
  pinState := "pinned"
  size := 1
  createdAt := 0

/-- The node asks for one attachment. What it is sent is written outside the directory, indexed and
announced as another one, and counted as one byte. -/
theorem hostile_answer_kept :
    letI := asciiLowerCase
    let after := ((publicNode "data/attachments" "att_1").getAttachment
      (answering hostileAnswer [1, 2, 3]) "att_1").2
    after.store.items["att_1"]? = none ∧
    (after.store.items["../../wallet"]?).map (fun info => (info.size, info.pinState)) =
      some (1, "pinned") ∧
    after.store.files ⟨false, ["wallet.bin"]⟩ = some (some [1, 2, 3]) ∧
    (after.blobProviders["../../wallet"]?).isSome = true ∧
    ¬ ChangesOneEntry "data/attachments" "att_1" hostileAnswer [1, 2, 3] := by
  let _ := asciiLowerCase
  refine ⟨by decide +kernel, by decide +kernel, by decide +kernel, by decide +kernel, ?_⟩
  intro h
  have hproviders := (h (publicNode "data/attachments" "att_1")
    (answering hostileAnswer [1, 2, 3]) rfl (answering_answers _ _)).providers "../../wallet"
    (by decide +kernel)
  have hbefore : ((publicNode "data/attachments" "att_1").blobProviders["../../wallet"]?).isSome =
      false := by decide +kernel
  have hafter : ((((publicNode "data/attachments" "att_1").getAttachment
      (answering hostileAnswer [1, 2, 3]) "att_1").2).blobProviders["../../wallet"]?).isSome =
      true := by decide +kernel
  simp_all

end Ardents.Daemon
