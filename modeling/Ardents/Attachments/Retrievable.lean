import Ardents.Attachments.Store
import Ardents.Go.Run

/-!
# What is indexed can be read

An attachment is in three places: the index in memory, the index on disk, and its data, in a file
or in memory. No operation updates them at once, and each write and removal can fail.
-/

namespace Ardents.Attachments

open Go
open Crypto (Time)
open Daemon (AttachmentMeta)

def IndexFile.Lists : IndexFile → String → Prop
  | .listing _ items, id => id ∈ items
  | _, _ => False

theorem IndexLeft.lists {old new : IndexFile} {left : IndexLeft} {id : String}
    (h : (left.index old new).Lists id) : old.Lists id ∨ left = .written ∧ new.Lists id := by
  cases left with
  | asItWas => exact .inl h
  | emptied => exact h.elim
  | cutOff => exact h.elim
  | written => exact .inr ⟨rfl, h⟩

namespace AttachmentStore

def Filed (s : AttachmentStore) (id : String) : Prop :=
  id ∈ s.items ∧ s.blobs[id]? = none ∨ s.index.Lists id

/-- `Get` returns for every indexed attachment what is said here. -/
def Returns (s : AttachmentStore) (last : GoMap String Bytes) : Prop :=
  ∀ id ∈ s.items, ∃ data, last[id]? = some data ∧
    ∀ now fs, (s.get id now fs).1.map Prod.snd = .ok data

end AttachmentStore

/-! ## Runs -/

inductive ArchiveOp where
  | put (name mimeType : String) (data : Bytes) (newID : Option String) (now : Time)
  | putExisting (info : AttachmentMeta) (data : Bytes) (now : Time)
  | setPersistenceEnabled (enabled : Bool)
  | setPinState (id pinState : String) (now : Time)
  | get (id : String) (now : Time)
  | runGC (now clock : Time) (imageTTLSeconds fileTTLSeconds : Int) (dryRun : Bool)
      (order : List String)
  | purgeOlderThan (cutoff : Time) (order : List String)
  | purgeOlderThanByClass (className : String) (cutoff : Time) (order : List String)
  | setClassPolicies (imageQuotaMB imageMaxItemSizeMB fileQuotaMB fileMaxItemSizeMB : Int)
  | setHardCapPolicy (highWatermarkPercent fullCapPercent aggressiveTargetPercent : Int)
  | reopen (now : Time)

structure ArchiveEvent where
  op : ArchiveOp
  fs : FileSystem

structure Archive where
  store : AttachmentStore
  last : GoMap String Bytes

namespace Archive

section

variable [LowerCase]

def step (a : Archive) (e : ArchiveEvent) : Archive :=
  match e.op with
  | .put name mimeType data newID now =>
    match a.store.put name mimeType data newID now e.fs with
    | (.ok info, t) => ⟨t, a.last.insert info.id data⟩
    | (.error _, t) => ⟨t, a.last⟩
  | .putExisting info data now =>
    match a.store.putExisting info data now e.fs with
    | (.ok _, t) => ⟨t, a.last.insert info.id data⟩
    | (.error _, t) => ⟨t, a.last⟩
  | .setPersistenceEnabled enabled => ⟨a.store.setPersistenceEnabled enabled, a.last⟩
  | .setPinState id pinState now => ⟨(a.store.setPinState id pinState now e.fs).2, a.last⟩
  | .get id now => ⟨(a.store.get id now e.fs).2, a.last⟩
  | .runGC now clock imageTTLSeconds fileTTLSeconds dryRun order =>
    ⟨(a.store.runGC now clock imageTTLSeconds fileTTLSeconds dryRun order e.fs).2, a.last⟩
  | .purgeOlderThan cutoff order => ⟨(a.store.purgeOlderThan cutoff order e.fs).2, a.last⟩
  | .purgeOlderThanByClass className cutoff order =>
    ⟨(a.store.purgeOlderThanByClass className cutoff order e.fs).2, a.last⟩
  | .setClassPolicies imageQuotaMB imageMaxItemSizeMB fileQuotaMB fileMaxItemSizeMB =>
    ⟨a.store.setClassPolicies imageQuotaMB imageMaxItemSizeMB fileQuotaMB fileMaxItemSizeMB,
      a.last⟩
  | .setHardCapPolicy highWatermarkPercent fullCapPercent aggressiveTargetPercent =>
    ⟨a.store.setHardCapPolicy highWatermarkPercent fullCapPercent aggressiveTargetPercent,
      a.last⟩
  | .reopen now => ⟨(a.store.reopen now e.fs).2, a.last⟩

/-- What is indexed can be read, in the store as it is and in one that is opened again. -/
def Retrievable (a : Archive) : Prop :=
  a.store.Returns a.last ∧
    ∀ now fs t, a.store.reopen now fs = (true, t) → t.Returns a.last

end

def opened (dir : String) : Archive :=
  { store :=
      { dir := dir, items := ∅, blobs := ∅, persist := true, limits := ⟨0, 0, 0, 0⟩
        hardCap := ⟨90, 100, 75⟩, index := .missing, files := fun _ => none }
    last := ∅ }

end Archive

namespace AttachmentStore

/-! ## What may fail -/

/-- A deletion that removes files breaks off at the first one or not at all. -/
def DeletesCleanly (s : AttachmentStore) (ids : List String) (fs : FileSystem) : Prop :=
  s.RemovesFiles → ids = [] ∨ (∃ id, ids.head? = some id ∧ fs.remove (s.filePath id) = false) ∨
    (∀ id ∈ ids, fs.remove (s.filePath id) = true) ∧ fs.writeIndex = .done

/-- Storing data under an id. While persistence is off, the index on disk does not list the id.
Otherwise no file is written, or it is written to a file nobody else is read from; and then all
goes well, or the id is a new one and the failed write leaves no index that lists it. -/
def StoresSafely (s : AttachmentStore) (id : String) (fs : FileSystem) : Prop :=
  (s.persist = false → ¬ s.index.Lists id) ∧
  (s.persist = true → fs.mkdirAll = false ∨ fs.encrypt = false ∨ fs.writeFile = .failed none ∨
    (∀ k, s.Filed k → k ≠ id → s.filePath k ≠ s.filePath id) ∧
      (fs.writeFile = .done ∧ fs.writeIndex = .done ∨
        ¬ s.Filed id ∧ fs.writeIndex ≠ .failed .written))

section

variable [LowerCase]

def evictionsFor (s : AttachmentStore) (info : AttachmentMeta) : List String :=
  match s.evictions info.attachmentClass info.size with
  | .ok toDelete => toDelete
  | .error _ => []

def deletions (s : AttachmentStore) : ArchiveOp → List String
  | .put name mimeType data (some id) now => s.evictionsFor (newMeta id name mimeType data now)
  | .putExisting info data now => s.evictionsFor (completeMeta info data now)
  | .runGC now clock imageTTLSeconds fileTTLSeconds dryRun order =>
    if dryRun = true then []
    else ranged (s.gcMarks (if now = 0 then clock else now) imageTTLSeconds
      fileTTLSeconds).keys order
  | .purgeOlderThan cutoff order => ranged (s.idsWhere fun info => info.createdAt ≤ cutoff) order
  | .purgeOlderThanByClass className cutoff order =>
    ranged (s.idsWhere fun info =>
      classText info = toLower (trimSpace className) && info.createdAt ≤ cutoff) order
  | _ => []

/-- What an operation may meet. Persistence is switched on only when nothing is in memory. -/
def Careful (s : AttachmentStore) (e : ArchiveEvent) : Prop :=
  s.DeletesCleanly (s.deletions e.op) e.fs ∧
    match e.op with
    | .put _ _ _ (some id) _ => s.StoresSafely id e.fs
    | .putExisting info _ _ => s.StoresSafely info.id e.fs
    | .setPersistenceEnabled enabled => enabled = true → s.blobs = ∅
    | _ => True

end

/-! ## What the operations change -/

theorem filePath_congr {s t : AttachmentStore} (h : t.dir = s.dir) (id : String) :
    t.filePath id = s.filePath id := by
  unfold filePath
  rw [h]

theorem indexAfter_lists {s : AttachmentStore} {items : GoMap String AttachmentMeta}
    {fs : FileSystem} {id : String} (h : (s.indexAfter items fs).Lists id) :
    s.index.Lists id ∨ s.persist = true ∧ id ∈ items := by
  unfold indexAfter at h
  split at h
  · exact .inl h
  · rename_i hwrites
    have hpersist : s.persist = true := by
      simpa using (not_or.mp hwrites).2
    split at h
    · exact .inr ⟨hpersist, h⟩
    · rcases IndexLeft.lists h with h | ⟨-, h⟩
      · exact .inl h
      · exact .inr ⟨hpersist, h⟩

theorem idsWhere_indexed {s : AttachmentStore} {p : AttachmentMeta → Bool} {id : String}
    (h : id ∈ s.idsWhere p) : id ∈ s.items := by
  obtain ⟨entry, hentry, rfl⟩ := List.mem_map.mp h
  grind

end AttachmentStore

/-- Every filed attachment has a file of its own, which says what was stored last; so does what is
in memory. Nothing is in memory while persistence is on. -/
structure Faithful (s : AttachmentStore) (last : GoMap String Bytes) : Prop where
  dir : s.dir ≠ ""
  memory : s.persist = true → ∀ id : String, s.blobs[id]? = none
  blobs : ∀ id ∈ s.items, ∀ blob, s.blobs[id]? = some blob → last[id]? = some blob
  files : ∀ id, s.Filed id → ∃ data, last[id]? = some data ∧
    s.files (s.filePath id) = some (some data)
  paths : ∀ k id, s.Filed k → s.Filed id → k ≠ id → s.filePath k ≠ s.filePath id

namespace Faithful

open AttachmentStore

variable {s t : AttachmentStore} {last : GoMap String Bytes} {fs : FileSystem}

theorem returns (h : Faithful s last) : s.Returns last := by
  intro id hid
  cases hblob : s.blobs[id]? with
  | some blob =>
    refine ⟨blob, h.blobs id hid blob hblob, fun now fs => ?_⟩
    rw [get_data hid, readData, hblob]
  | none =>
    obtain ⟨data, hlast, hfile⟩ := h.files id (.inl ⟨hid, hblob⟩)
    refine ⟨data, hlast, fun now fs => ?_⟩
    rw [get_data hid, readData, hblob]
    rw [readFile, if_neg h.dir, hfile]
    rfl

theorem of_sub (h : Faithful s last) (hdir : t.dir = s.dir)
    (hmemory : t.persist = true → ∀ id : String, t.blobs[id]? = none)
    (hblobs : ∀ id ∈ t.items, ∀ blob, t.blobs[id]? = some blob →
      id ∈ s.items ∧ s.blobs[id]? = some blob) (hfiled : ∀ id, t.Filed id → s.Filed id)
    (hfiles : ∀ id, t.Filed id → t.files (s.filePath id) = s.files (s.filePath id)) :
    Faithful t last := by
  refine ⟨hdir ▸ h.dir, hmemory, fun id hid blob hblob => ?_, fun id hid => ?_, ?_⟩
  · obtain ⟨hin, hsame⟩ := hblobs id hid blob hblob
    exact h.blobs id hin blob hsame
  · rw [filePath_congr hdir, hfiles id hid]
    exact h.files id (hfiled id hid)
  · intro k id hk hid hne
    rw [filePath_congr hdir, filePath_congr hdir]
    exact h.paths k id (hfiled k hk) (hfiled id hid) hne

variable {id : String}

theorem filed (h : Faithful s last) (hpersist : s.persist = true)
    (hid : id ∈ s.items) : s.Filed id := .inl ⟨hid, h.memory hpersist id⟩

theorem reindex (h : Faithful s last) {items next : GoMap String AttachmentMeta}
    (hitems : ∀ id ∈ items, id ∈ s.items) (hnext : ∀ id ∈ next, id ∈ s.items) :
    Faithful { s with items := items, index := s.indexAfter next fs } last := by
  refine h.of_sub rfl h.memory (fun id hid blob hblob => ⟨hitems id hid, hblob⟩) ?_
    fun id _ => rfl
  rintro id (⟨hid, hblob⟩ | hlists)
  · exact .inl ⟨hitems id hid, hblob⟩
  · rcases indexAfter_lists hlists with hlists | ⟨hpersist, hid⟩
    · exact .inr hlists
    · exact h.filed hpersist (hnext id hid)

/-! ## Deletions -/

structure Reduces (s t : AttachmentStore) : Prop where
  dir : t.dir = s.dir
  persist : t.persist = s.persist
  filed : ∀ id, t.Filed id → s.Filed id
  index : s.persist = false → t.index = s.index

theorem Reduces.refl (s : AttachmentStore) : Reduces s s := ⟨rfl, rfl, fun _ h => h, fun _ => rfl⟩

theorem blobs_without {gone cleared : List String} :
    (s.without gone cleared).blobs[id]? = if id ∈ gone then none else s.blobs[id]? := by
  have hfilter : (s.without gone cleared).blobs = s.blobs.filter fun id _ => decide (id ∉ gone) :=
    rfl
  rw [hfilter, get_filter]
  by_cases hid : id ∈ gone
  · simp [hid]
  · simp [hid]

theorem mem_of_mem_filter {items : GoMap String AttachmentMeta} {ids : List String}
    (h : id ∈ items.filter fun id _ => decide (id ∉ ids)) : id ∈ items ∧ id ∉ ids := by
  grind

theorem without_nil_files (h : Faithful s last) {gone : List String}
    {items : GoMap String AttachmentMeta} (hitems : ∀ id ∈ items, id ∈ s.items)
    (hgone : s.persist = false → ∀ id ∈ items, id ∉ gone) {index : IndexFile}
    (hindex : ∀ id, index.Lists id → s.index.Lists id ∨ s.persist = true ∧ id ∈ s.items)
    (hsame : s.persist = false → index = s.index) :
    Faithful { s.without gone [] with items := items, index := index } last ∧
      Reduces s { s.without gone [] with items := items, index := index } := by
  have hblobs : ∀ id ∈ items, (s.without gone []).blobs[id]? = s.blobs[id]? := by
    intro id hid
    rw [blobs_without]
    split
    · rename_i hin
      cases hpersist : s.persist with
      | false => exact absurd hin (hgone hpersist id hid)
      | true => exact (h.memory hpersist id).symm
    · rfl
  have hfiled : ∀ id,
      { s.without gone [] with items := items, index := index }.Filed id → s.Filed id := by
    rintro id (⟨hid, hblob⟩ | hlists)
    · exact .inl ⟨hitems id hid, (hblobs id hid).symm.trans hblob⟩
    · rcases hindex id hlists with hlists | ⟨hpersist, hid⟩
      · exact .inr hlists
      · exact h.filed hpersist hid
  have hfiles : ∀ p, (s.without gone []).files p = s.files p := fun p => by simp [without]
  refine ⟨h.of_sub rfl (fun hpersist id => ?_) (fun id hid blob hblob => ?_) hfiled
    fun id _ => hfiles _, rfl, rfl, hfiled, hsame⟩
  · have hnone := h.memory hpersist id
    rw [blobs_without, hnone, ite_self]
  · exact ⟨hitems id hid, (hblobs id hid).symm.trans hblob⟩

theorem without_files (h : Faithful s last) (hpersist : s.persist = true) {ids : List String}
    (hids : ∀ id ∈ ids, id ∈ s.items) {index : IndexFile}
    (hindex : ∀ id, index.Lists id → id ∈ s.items.filter fun id _ => decide (id ∉ ids)) :
    Faithful { s.without ids ids with
        items := s.items.filter fun id _ => decide (id ∉ ids), index := index } last ∧
      Reduces s { s.without ids ids with
        items := s.items.filter fun id _ => decide (id ∉ ids), index := index } := by
  have hstill : ∀ id, { s.without ids ids with
      items := s.items.filter fun id _ => decide (id ∉ ids), index := index }.Filed id →
      id ∈ s.items ∧ id ∉ ids := by
    rintro id (⟨hid, -⟩ | hlists)
    · exact mem_of_mem_filter hid
    · exact mem_of_mem_filter (hindex id hlists)
  have hblobs : ∀ id : String, (s.without ids ids).blobs[id]? = none := by
    intro id
    rw [blobs_without, h.memory hpersist id, ite_self]
  refine ⟨h.of_sub rfl (fun _ => hblobs) (fun id _ blob hblob => ?_)
    (fun id hid => h.filed hpersist (hstill id hid).1) fun id hid => ?_,
    rfl, rfl, fun id hid => h.filed hpersist (hstill id hid).1, fun hoff => ?_⟩
  · rw [hblobs id] at hblob
    exact absurd hblob (by simp)
  · -- the files that are removed are those of others
    obtain ⟨hin, hout⟩ := hstill id hid
    refine if_neg ?_
    rintro ⟨k, hk, hsame⟩
    exact h.paths k id (h.filed hpersist (hids k hk)) (h.filed hpersist hin)
      (fun heq => hout (heq ▸ hk)) hsame
  · simp_all

theorem deleteIDs (h : Faithful s last) {ids : List String} (hids : ∀ id ∈ ids, id ∈ s.items)
    (hclean : s.DeletesCleanly ids fs) :
    Faithful (s.deleteIDs ids fs).2 last ∧ Reduces s (s.deleteIDs ids fs).2 := by
  by_cases hnil : ids = []
  · subst hnil
    exact ⟨h, .refl s⟩
  rw [deleteIDs_eq s hnil fs]
  dsimp only
  have hnext : ∀ id ∈ s.items.filter fun id _ => decide (id ∉ ids), id ∈ s.items :=
    fun id hid => (mem_of_mem_filter hid).1
  by_cases hfiles : s.RemovesFiles
  · have hpersist := hfiles.1
    rcases hclean hfiles with hnil' | ⟨first, hfirst, hstuck⟩ | ⟨hall, hindex⟩
    · exact absurd hnil' hnil
    · -- the first file cannot be removed, so nothing has been
      obtain ⟨rest, rfl⟩ : ∃ rest, ids = first :: rest := by
        cases ids with
        | nil => exact absurd rfl hnil
        | cons id rest => exact ⟨rest, by rw [Option.some.inj hfirst]⟩
      have hremovable : s.removable fs first = false := by simp [removable, hfiles, hstuck]
      have hremoved : s.removed fs (first :: rest) = [] := by simp [removed, hremovable]
      rw [if_neg (by simp [hremovable]), hremoved]
      refine h.without_nil_files (fun _ hid => hid) (fun hoff => ?_) (fun _ hlists => .inl hlists)
        fun _ => rfl
      simp_all
    · have hremovable : ∀ id ∈ ids, s.removable fs id = true := by
        grind [removable]
      have hremoved : s.removed fs ids = ids := by
        rw [removed, if_pos hfiles, List.takeWhile_eq_self_iff.mpr hremovable]
      have hwritten : s.indexWritten fs = true := by simp [indexWritten, hindex]
      rw [if_pos (List.all_eq_true.mpr hremovable), hremoved, if_pos hwritten]
      refine h.without_files hpersist hids fun id hlists => ?_
      rw [indexAfter, if_neg (by simp [h.dir, hpersist]), hindex] at hlists
      exact hlists
  · have hremovable : ids.all (s.removable fs) = true := by simp [removable, hfiles]
    have hremoved : s.removed fs ids = [] := by simp [removed, hfiles]
    rw [if_pos hremovable, hremoved]
    refine h.without_nil_files (fun id hid => ?_) (fun hoff id hid => ?_)
      (fun id hlists => (indexAfter_lists hlists).imp_right (.imp_right (hnext id)))
      fun hoff => if_pos (.inr hoff)
    · split at hid
      · exact hnext id hid
      · exact hid
    · grind [indexWritten]

/-! ## Storing -/

theorem storesSafely_of_reduces (h : s.StoresSafely id fs) (ht : Reduces s t) :
    t.StoresSafely id fs := by
  constructor
  · intro hoff hlists
    rw [ht.persist] at hoff
    rw [ht.index hoff] at hlists
    exact h.1 hoff hlists
  · intro hon
    rw [ht.persist] at hon
    rcases h.2 hon with hmkdir | hencrypt | hwrite | ⟨hpaths, hcase⟩
    · exact .inl hmkdir
    · exact .inr (.inl hencrypt)
    · exact .inr (.inr (.inl hwrite))
    · grind [filePath_congr, cases Reduces]

theorem setFile_new (h : Faithful s last) (hnew : ¬ s.Filed id)
    (hpaths : ∀ k, s.Filed k → k ≠ id → s.filePath k ≠ s.filePath id) {content : Option Content}
    {index : IndexFile} (hindex : ∀ k, index.Lists k → s.index.Lists k) :
    Faithful { s.setFile id content with index := index } last := by
  have hfiled : ∀ k, { s.setFile id content with index := index }.Filed k → s.Filed k :=
    fun k hk => hk.imp_right (hindex k)
  refine h.of_sub rfl h.memory (fun k hk blob hblob => ⟨hk, hblob⟩) hfiled fun k hk => ?_
  exact Function.update_of_ne
    (hpaths k (hfiled k hk) fun heq => hnew (heq ▸ hfiled k hk)) _ _

theorem setFile_stored (h : Faithful s last) (hpersist : s.persist = true) {info : AttachmentMeta}
    {data : Bytes} (hpaths : ∀ k, s.Filed k → k ≠ info.id → s.filePath k ≠ s.filePath info.id)
    {version : Int} : Faithful { s.setFile info.id (some (some data)) with
        index := .listing version (s.items.insert info.id info)
        items := s.items.insert info.id info } (last.insert info.id data) := by
  have hfiled : ∀ k, { s.setFile info.id (some (some data)) with
      index := .listing version (s.items.insert info.id info)
      items := s.items.insert info.id info }.Filed k → k = info.id ∨ s.Filed k := by
    intro k hk
    have hin : k ∈ s.items.insert info.id info := hk.elim And.left fun hlists => hlists
    obtain ⟨other, hother⟩ := mem_iff_get.mp hin
    rw [get_insert] at hother
    split at hother
    · rename_i heq
      exact .inl heq.symm
    · exact .inr (h.filed hpersist (mem_iff_get.mpr ⟨other, hother⟩))
  refine ⟨h.dir, h.memory, fun k _ blob hblob => ?_, fun k hk => ?_, ?_⟩
  · exact absurd ((h.memory hpersist k).symm.trans hblob) (by simp)
  · by_cases hself : k = info.id
    · subst hself
      refine ⟨data, by rw [get_insert, if_pos rfl], Function.update_self _ _ _⟩
    · obtain ⟨old, hlast, hfile⟩ := h.files k ((hfiled k hk).resolve_left hself)
      refine ⟨old, by rw [get_insert, if_neg (Ne.symm hself), hlast], ?_⟩
      rw [← hfile]
      exact Function.update_of_ne (hpaths k ((hfiled k hk).resolve_left hself) hself) _ _
  · intro k id hk hid hne
    rcases hfiled k hk with rfl | hk'
    · exact (hpaths id ((hfiled id hid).resolve_left (Ne.symm hne)) (Ne.symm hne)).symm
    · rcases hfiled id hid with rfl | hid'
      · exact hpaths k hk' hne
      · exact h.paths k id hk' hid' hne

theorem inMemory (h : Faithful s last) (hoff : s.persist = false) {info : AttachmentMeta}
    {data : Bytes} (hnew : ¬ s.index.Lists info.id) : Faithful { s with
        items := s.items.insert info.id info, blobs := s.blobs.insert info.id data }
      (last.insert info.id data) := by
  have hfiled : ∀ k, { s with items := s.items.insert info.id info
                              blobs := s.blobs.insert info.id data }.Filed k →
      k ≠ info.id ∧ s.Filed k := by
    rintro k (⟨hk, hblob⟩ | hlists)
    · rw [get_insert] at hblob
      split at hblob
      · exact absurd hblob (by simp)
      · rename_i hne
        obtain ⟨other, hother⟩ := mem_iff_get.mp hk
        rw [get_insert, if_neg hne] at hother
        exact ⟨Ne.symm hne, .inl ⟨mem_iff_get.mpr ⟨other, hother⟩, hblob⟩⟩
    · exact ⟨fun heq => hnew (heq ▸ hlists), .inr hlists⟩
  refine ⟨h.dir, fun hon => ?_, fun k hk blob hblob => ?_, fun k hk => ?_, ?_⟩
  · simp_all
  · rw [get_insert] at hblob ⊢
    by_cases hself : info.id = k
    · rw [if_pos hself] at hblob ⊢
      exact hblob
    · rw [if_neg hself] at hblob ⊢
      obtain ⟨other, hother⟩ := mem_iff_get.mp hk
      rw [get_insert, if_neg hself] at hother
      exact h.blobs k (mem_iff_get.mpr ⟨other, hother⟩) blob hblob
  · obtain ⟨hne, hk'⟩ := hfiled k hk
    obtain ⟨old, hlast, hfile⟩ := h.files k hk'
    exact ⟨old, by rw [get_insert, if_neg (Ne.symm hne), hlast], hfile⟩
  · intro k id hk hid hne
    exact h.paths k id (hfiled k hk).2 (hfiled id hid).2 hne

def lastAfter {ε β : Type} (last : GoMap String Bytes) (id : String) (data : Bytes) :
    Except ε β → GoMap String Bytes
  | .ok _ => last.insert id data
  | .error _ => last

theorem putData (h : Faithful s last) {info : AttachmentMeta} {data : Bytes} {removeAgain : Bool}
    (hsafe : s.StoresSafely info.id fs) : Faithful (s.putData info data removeAgain fs).2
      (lastAfter last info.id data (s.putData info data removeAgain fs).1) := by
  have hstoring := s.putData_storing info data removeAgain fs
  generalize s.putData info data removeAgain fs = result at hstoring ⊢
  cases hstoring with
  | unsaved hdir => exact absurd hdir h.dir
  | inMemory hdir hpersist => exact h.inMemory hpersist (hsafe.1 hpersist)
  | untouched hdir hpersist hfails => exact h
  | cutOff hdir hpersist hmkdir hencrypt left hfails =>
    rcases hsafe.2 hpersist with hfail | hfail | hfail | ⟨hpaths, hcase⟩
    · simp [hmkdir] at hfail
    · simp [hencrypt] at hfail
    · simp [hfails] at hfail
    · rcases hcase with ⟨hwrite, -⟩ | ⟨hnew, -⟩
      · simp [hfails] at hwrite
      · exact h.setFile_new hnew hpaths fun _ hlists => hlists
  | unindexed hdir hpersist hmkdir hencrypt hwrite left hfails content hcontent =>
    rcases hsafe.2 hpersist with hfail | hfail | hfail | ⟨hpaths, hcase⟩
    · simp [hmkdir] at hfail
    · simp [hencrypt] at hfail
    · simp [hwrite] at hfail
    · rcases hcase with ⟨-, hindex⟩ | ⟨hnew, hleft⟩
      · simp [hfails] at hindex
      · refine h.setFile_new hnew hpaths fun k hlists => ?_
        refine (IndexLeft.lists hlists).resolve_right fun hwritten => hleft ?_
        rw [hfails, hwritten.1]
  | stored hdir hpersist hmkdir hencrypt hwrite hindex =>
    rcases hsafe.2 hpersist with hfail | hfail | hfail | ⟨hpaths, -⟩
    · simp [hmkdir] at hfail
    · simp [hencrypt] at hfail
    · simp [hwrite] at hfail
    · exact h.setFile_stored hpersist hpaths

section

variable [LowerCase]

theorem putWithin (h : Faithful s last) (info : AttachmentMeta) (data : Bytes)
    (removeAgain : Bool) (hclean : s.DeletesCleanly (s.evictionsFor info) fs)
    (hsafe : s.StoresSafely info.id fs) : Faithful (s.putWithin info data removeAgain fs).2
      (lastAfter last info.id data (s.putWithin info data removeAgain fs).1) := by
  have hputting := s.putWithin_putting info data removeAgain fs
  generalize s.putWithin info data removeAgain fs = result at hputting ⊢
  have hdeleted : ∀ {toDelete t done}, s.evictions info.attachmentClass info.size = .ok toDelete →
      s.deleteIDs toDelete fs = (done, t) → Faithful t last ∧ Reduces s t := by
    grind [evictionsFor, deleteIDs, evictions_indexed]
  cases hputting with
  | rejected e hevictions => exact h
  | stuck toDelete t hevictions hdelete | full toDelete t hevictions hdelete hquota =>
    exact (hdeleted hevictions hdelete).1
  | within toDelete t hevictions hdelete hquota =>
    obtain ⟨ht, hreduces⟩ := hdeleted hevictions hdelete
    exact ht.putData (storesSafely_of_reduces hsafe hreduces)

/-! ## The other operations -/

omit [LowerCase] in
theorem rewrite (h : Faithful s last) (fs : FileSystem) {id : String} (hid : id ∈ s.items)
    (info : AttachmentMeta) :
    Faithful { s with index := s.indexAfter (s.items.insert id info) fs } last ∧
      Faithful { s with
        index := s.indexAfter (s.items.insert id info) fs
        items := s.items.insert id info } last := by
  have hnext : ∀ k ∈ s.items.insert id info, k ∈ s.items := by
    grind
  exact ⟨h.reindex (fun _ hk => hk) hnext, h.reindex hnext hnext⟩

omit [LowerCase] in
theorem touchLastAccess (h : Faithful s last) (id : String) (now : Time) :
    Faithful (s.touchLastAccess id now fs) last := by
  unfold AttachmentStore.touchLastAccess
  cases hinfo : s.items[id]? with
  | none => exact h
  | some info =>
    split
    · exact h
    · have hafter := h.rewrite fs (mem_iff_get.mpr ⟨info, hinfo⟩)
        { info with lastAccessAt := now }
      grind [persistItems_eq]

omit [LowerCase] in
theorem get (h : Faithful s last) (id : String) (now : Time) :
    Faithful (s.get id now fs).2 last := by
  grind [AttachmentStore.get, touchLastAccess]

theorem setPinState (h : Faithful s last) (id pinState : String) (now : Time) :
    Faithful (s.setPinState id pinState now fs).2 last := by
  unfold AttachmentStore.setPinState
  dsimp only
  split
  · exact h
  split
  · exact h
  cases hinfo : s.items[trimSpace id]? with
  | none => exact h
  | some info =>
    split
    · exact h
    · have hafter := h.rewrite fs (mem_iff_get.mpr ⟨info, hinfo⟩)
        { info with pinState := toLower (trimSpace pinState), lastAccessAt := now }
      grind [persistItems_eq]

omit [LowerCase] in
theorem reported (h : Faithful s last) {ε : Type} {ids : List String}
    (hids : ∀ id ∈ ids, id ∈ s.items) (hclean : s.DeletesCleanly ids fs) (failed done : ε) :
    Faithful (match s.deleteIDs ids fs with
      | (false, t) => (failed, t)
      | (true, t) => (done, t)).2 last := by
  grind [deleteIDs]

omit [LowerCase] in
theorem purge (h : Faithful s last) {gone : AttachmentMeta → Bool} {order : List String}
    (hclean : s.DeletesCleanly (ranged (s.idsWhere gone) order) fs) :
    Faithful (s.purge gone order fs).2 last :=
  h.reported (fun _ hid => idsWhere_indexed (mem_ranged hid)) hclean _ _

theorem runGC (h : Faithful s last) {now clock : Time} {imageTTLSeconds fileTTLSeconds : Int}
    {dryRun : Bool} {order : List String} (hclean : s.DeletesCleanly (s.deletions
      (.runGC now clock imageTTLSeconds fileTTLSeconds dryRun order)) fs) :
    Faithful (s.runGC now clock imageTTLSeconds fileTTLSeconds dryRun order fs).2 last := by
  simp only [deletions] at hclean
  unfold AttachmentStore.runGC
  generalize (if now = 0 then clock else now) = now at hclean ⊢
  dsimp only
  split
  · exact h
  · rename_i hruns
    rw [if_neg (not_or.mp hruns).2] at hclean
    exact h.reported (fun id hid => gcMarks_indexed
      (Std.ExtTreeMap.mem_keys.mp (mem_ranged hid))) hclean _ _

theorem reopen_spec (hdir : s.dir ≠ "") (now : Time) (fs : FileSystem) :
    (∀ t, s.reopen now fs = (true, t) → t.dir = s.dir ∧ t.files = s.files ∧ t.blobs = ∅ ∧
      ∀ id, id ∈ t.items ∨ t.index.Lists id → s.index.Lists id) ∧
    ∀ t, s.reopen now fs = (false, t) → ∃ index, t = { s with index := index } ∧
      ∀ id, index.Lists id → s.index.Lists id := by
  have hnone : ∀ {id : String}, id ∉ (∅ : GoMap String AttachmentMeta) :=
    Std.ExtTreeMap.not_mem_empty
  unfold AttachmentStore.reopen
  rw [if_neg hdir]
  cases hindex : s.index with
  | missing =>
    simp
  | unreadable =>
    refine ⟨fun t ht => absurd (Prod.mk.inj ht).1 (by simp), fun t ht => ?_⟩
    obtain rfl := (Prod.mk.inj ht).2
    exact ⟨s.index, rfl, fun _ hlists => hindex ▸ hlists⟩
  | listing version items =>
    dsimp only
    by_cases hversion : version > attachmentIndexSchemaVersion
    · rw [if_pos hversion]
      refine ⟨fun t ht => absurd (Prod.mk.inj ht).1 (by simp), fun t ht => ?_⟩
      obtain rfl := (Prod.mk.inj ht).2
      exact ⟨s.index, rfl, fun _ hlists => hindex ▸ hlists⟩
    rw [if_neg hversion]
    have hloaded : ∀ id, id ∈ items.map (fun _ info => loadMeta now info) → id ∈ items :=
      fun id hid => Std.ExtTreeMap.mem_map.mp hid
    split
    · rw [persistItems_eq]
      have hafter : ∀ {loaded : AttachmentStore} id, loaded.index = .listing version items →
          loaded.items = items.map (fun _ info => loadMeta now info) →
          (loaded.indexAfter loaded.items fs).Lists id → id ∈ items := by
        intro loaded id hsame hitems hlists
        rcases indexAfter_lists hlists with hlists | ⟨-, hid⟩
        · rw [hsame] at hlists
          exact hlists
        · rw [hitems] at hid
          exact hloaded id hid
      generalize hwritten : AttachmentStore.indexWritten _ fs = written
      cases written with
      | true =>
        refine ⟨fun t ht => ?_, fun t ht => absurd (Prod.mk.inj ht).1 (by simp)⟩
        obtain rfl := (Prod.mk.inj ht).2
        exact ⟨rfl, rfl, rfl, fun id hid => hid.elim (hloaded id) (hafter id rfl rfl)⟩
      | false =>
        refine ⟨fun t ht => absurd (Prod.mk.inj ht).1 (by simp), fun t ht => ?_⟩
        obtain rfl := (Prod.mk.inj ht).2
        exact ⟨_, rfl, fun id hlists => hafter id rfl rfl hlists⟩
    · refine ⟨fun t ht => ?_, fun t ht => absurd (Prod.mk.inj ht).1 (by simp)⟩
      obtain rfl := (Prod.mk.inj ht).2
      exact ⟨rfl, rfl, rfl, fun id hid => hid.elim (hloaded id) fun hlists => hlists⟩

theorem of_reopen (h : Faithful s last) {now : Time} (ht : s.reopen now fs = (true, t)) :
    Faithful t last := by
  obtain ⟨hdir, hfiles, hblobs, hlisted⟩ := (reopen_spec h.dir now fs).1 t ht
  have hnone : ∀ id : String, t.blobs[id]? = none := fun id => by simp [hblobs]
  refine h.of_sub hdir (fun _ => hnone) (fun id _ blob hblob => ?_)
    (fun id hid => .inr (hlisted id (hid.imp_left And.left))) fun id _ => by rw [hfiles]
  simp_all

theorem reopen (h : Faithful s last) (now : Time) : Faithful (s.reopen now fs).2 last := by
  rcases hresult : s.reopen now fs with ⟨opened, t⟩
  cases opened with
  | true => exact h.of_reopen hresult
  | false =>
    obtain ⟨index, rfl, hlisted⟩ := (reopen_spec h.dir now fs).2 t hresult
    exact h.of_sub rfl h.memory (fun id hid blob hblob => ⟨hid, hblob⟩)
      (fun id hid => hid.imp_right (hlisted id)) fun id _ => rfl

theorem retrievable (h : Faithful s last) : Archive.Retrievable ⟨s, last⟩ :=
  ⟨h.returns, fun _ _ _ ht => (h.of_reopen ht).returns⟩

theorem put_none {a : Archive} (h : Faithful a.store a.last) (name mimeType : String) (data : Bytes)
    (now : Time) {fs : FileSystem} : Faithful (a.step ⟨.put name mimeType data none now, fs⟩).store
      (a.step ⟨.put name mimeType data none now, fs⟩).last := by
  grind [Archive.step, AttachmentStore.put]

theorem put_some {a : Archive} (h : Faithful a.store a.last) (name mimeType : String) (data : Bytes)
    (id : String) (now : Time) {fs : FileSystem}
    (hclean : a.store.DeletesCleanly (a.store.evictionsFor (newMeta id name mimeType data now)) fs)
    (hsafe : a.store.StoresSafely id fs) :
    Faithful (a.step ⟨.put name mimeType data (some id) now, fs⟩).store
      (a.step ⟨.put name mimeType data (some id) now, fs⟩).last := by
  simp only [Archive.step]
  by_cases hdata : data = []
  · grind [AttachmentStore.put]
  · have hafter := h.putWithin (newMeta id name mimeType data now) data true hclean hsafe
    rw [AttachmentStore.put_some hdata]
    dsimp only
    generalize a.store.putWithin (newMeta id name mimeType data now) data true fs = result
      at hafter ⊢
    obtain ⟨_ | _, t⟩ := result
    · exact hafter
    · exact hafter

theorem putExisting {a : Archive} (h : Faithful a.store a.last) (info : AttachmentMeta)
    (data : Bytes) (now : Time) {fs : FileSystem}
    (hclean : a.store.DeletesCleanly (a.store.evictionsFor (completeMeta info data now)) fs)
    (hsafe : a.store.StoresSafely info.id fs) :
    Faithful (a.step ⟨.putExisting info data now, fs⟩).store
      (a.step ⟨.putExisting info data now, fs⟩).last := by
  simp only [Archive.step, AttachmentStore.putExisting]
  by_cases hid : trimSpace info.id = ""
  · simp only [if_pos hid]
    exact h
  by_cases hdata : data = []
  · simp_all
  have hsame : (completeMeta info data now).id = info.id := rfl
  rw [← hsame] at hsafe
  have hafter := h.putWithin (completeMeta info data now) data false hclean hsafe
  rw [hsame] at hafter
  simp only [if_neg hid, if_neg hdata]
  generalize a.store.putWithin (completeMeta info data now) data false fs = result at hafter ⊢
  obtain ⟨_ | _, t⟩ := result
  · exact hafter
  · exact hafter

theorem step {a : Archive} (h : Faithful a.store a.last) {e : ArchiveEvent}
    (hcareful : a.store.Careful e) : Faithful (a.step e).store (a.step e).last := by
  obtain ⟨op, fs⟩ := e
  obtain ⟨hclean, hcase⟩ := hcareful
  cases op with
  | put name mimeType data newID now =>
    cases newID with
    | none => exact h.put_none name mimeType data now
    | some id => exact h.put_some name mimeType data id now hclean hcase
  | putExisting info data now => exact h.putExisting info data now hclean hcase
  | setPersistenceEnabled enabled =>
    refine h.of_sub rfl (fun hon id => ?_) (fun id hid blob hblob => ⟨hid, hblob⟩)
      (fun id hid => hid) fun id _ => rfl
    have hempty : a.store.blobs = ∅ := hcase hon
    have hnone : a.store.blobs[id]? = none := by simp [hempty]
    exact hnone
  | setPinState id pinState now =>
    grind [Archive.step, setPinState]
  | get id now => exact h.get id now
  | runGC now clock imageTTLSeconds fileTTLSeconds dryRun order =>
    simp only [Archive.step]
    exact h.runGC hclean
  | purgeOlderThan cutoff order => exact h.purge hclean
  | purgeOlderThanByClass className cutoff order =>
    simp only [Archive.step, purgeOlderThanByClass]
    split
    · exact h
    · exact h.purge hclean
  | setClassPolicies | setHardCapPolicy =>
    exact h.of_sub rfl h.memory (fun id hid blob hblob => ⟨hid, hblob⟩) (fun id hid => hid)
      fun id _ => rfl
  | reopen now => exact h.reopen now

end

end Faithful

namespace Archive

open AttachmentStore

theorem opened_not_filed (dir id : String) : ¬ (opened dir).store.Filed id := by
  rintro (⟨hid, -⟩ | hlists)
  · exact absurd hid Std.ExtTreeMap.not_mem_empty
  · exact hlists

theorem faithful_opened {dir : String} (hdir : dir ≠ "") :
    Faithful (opened dir).store (opened dir).last := by
  refine ⟨hdir, fun _ id => ?_, fun id hid => ?_, fun id hid => ?_, fun k _ hk => ?_⟩
  · exact Std.ExtTreeMap.getElem?_empty
  · exact absurd hid Std.ExtTreeMap.not_mem_empty
  · exact absurd hid (opened_not_filed dir id)
  · exact absurd hk (opened_not_filed dir k)

/-- In every run in which nothing fails but what may, everything that is indexed can be read, also
when the store is opened again. -/
theorem run_retrievable [LowerCase] {dir : String} (hdir : dir ≠ "") {events : List ArchiveEvent}
    (h : Along step (fun a e => a.store.Careful e) (opened dir) events) :
    (run step (opened dir) events).Retrievable := by
  refine Faithful.retrievable ?_
  exact along_run (I := fun a : Archive => Faithful a.store a.last)
    (fun a e ha hcareful => ha.step hcareful) (faithful_opened hdir) h

/-- An attachment is put in, a purge cannot remove its file, and the store is opened again. -/
def spared : List ArchiveEvent :=
  [⟨.put "note" "text/plain" [1, 2, 3] (some "att1_a") 10, .working⟩,
    ⟨.purgeOlderThan 20 [], { FileSystem.working with remove := fun _ => false }⟩,
    ⟨.get "att1_a" 30, .working⟩,
    ⟨.reopen 40, .working⟩]

theorem spared_retrievable :
    letI := asciiLowerCase
    (run step (opened "attachments") spared).Retrievable ∧
      (run step (opened "attachments") spared).store.items.keys = ["att1_a"] := by
  let _ := asciiLowerCase
  have hsafe : (opened "attachments").store.StoresSafely "att1_a" .working :=
    ⟨fun hoff => absurd hoff (by decide), fun _ => .inr (.inr (.inr
      ⟨fun k hk => absurd hk (opened_not_filed _ k), .inl ⟨rfl, rfl⟩⟩))⟩
  refine ⟨run_retrievable (by decide) ⟨⟨fun _ => .inl ?_, hsafe⟩,
    ⟨fun _ => .inr (.inl ?_), trivial⟩, ⟨fun _ => .inl rfl, trivial⟩, ⟨fun _ => .inl rfl, trivial⟩,
    trivial⟩, by decide⟩
  · decide
  · exact ⟨"att1_a", by decide, rfl⟩

def halfPurged : List ArchiveEvent :=
  [⟨.put "note" "text/plain" [1, 2, 3] (some "att1_a") 10, .working⟩,
    ⟨.put "note" "text/plain" [4, 5, 6] (some "att1_b") 11, .working⟩,
    ⟨.purgeOlderThan 20 [], { FileSystem.working with
      remove := fun p => p ≠ Path.join "attachments" "att1_b.bin" }⟩]

/-- The first one is indexed still, but its file is gone. -/
theorem halfPurged_lost :
    letI := asciiLowerCase
    ¬ (run step (opened "attachments") halfPurged).Retrievable := by
  let _ := asciiLowerCase
  intro h
  obtain ⟨data, -, hdata⟩ := h.1 "att1_a" (by decide +kernel)
  have hlost : ((run step (opened "attachments") halfPurged).store.get "att1_a" 0 .working).1.map
      Prod.snd = .error .notFound := by decide +kernel
  simp_all

end Archive

end Ardents.Attachments
