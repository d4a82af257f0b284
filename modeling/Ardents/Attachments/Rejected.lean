import Ardents.Attachments.Store

/-!
# Attachments that are not taken

`Put` and `PutExisting` first make room for an attachment and then find out whether it can be
taken. When it is not, those that had to make room are gone all the same.
-/

namespace Ardents.Attachments

open Go
open Crypto (Time)
open Daemon (AttachmentMeta)

namespace AttachmentStore

/-- The same attachments are indexed, and `Get` returns the same data for each of them, whenever it
is called and whatever becomes of its own write. -/
def Unchanged (s s' : AttachmentStore) : Prop :=
  ∀ id, (id ∈ s'.items ↔ id ∈ s.items) ∧ ∀ now fs,
    (s'.get id now fs).1.map Prod.snd = (s.get id now fs).1.map Prod.snd

def SameData (s s' : AttachmentStore) : Prop :=
  ∀ id, (id ∈ s'.items ↔ id ∈ s.items) ∧ (id ∈ s.items → s'.readData id = s.readData id)

theorem SameData.refl (s : AttachmentStore) : s.SameData s := fun _ => ⟨Iff.rfl, fun _ => rfl⟩

theorem unchanged_iff_sameData {s s' : AttachmentStore} : s.Unchanged s' ↔ s.SameData s' := by
  refine forall_congr' fun id => and_congr_right fun hindexed => ?_
  constructor
  · intro h hid
    rw [← get_data hid 0 .working, ← get_data (hindexed.mpr hid) 0 .working, h]
  · grind [get_data, get_of_not_mem]

/-! ## A deletion that breaks off -/

/-- What is removed was not there, and what is dropped from memory is also in its file. -/
def LosesNothing (s : AttachmentStore) (gone cleared : List String) : Prop :=
  (∀ id ∈ cleared, s.blobs[id]? = none ∧ s.files (s.filePath id) = none) ∧
    ∀ id ∈ gone, id ∉ cleared → ∀ blob, s.blobs[id]? = some blob →
      s.files (s.filePath id) = some (some blob)

section

variable {s : AttachmentStore} {gone cleared : List String}

theorem readData_without_of_mem {id : String} (hid : id ∈ gone) :
    (s.without gone cleared).readData id = (s.without gone cleared).readFile id := by
  have hblob : (s.without gone cleared).blobs[id]? = none := by
    simp only [without]
    rw [get_filter]
    simp [hid]
  simp only [readData, hblob]

theorem readData_without_of_not_mem {id : String} (hid : id ∉ gone) :
    (s.without gone cleared).readData id =
      (s.blobs[id]?).elim ((s.without gone cleared).readFile id) .ok := by
  grind [without, readData]

theorem readFile_without {id : String}
    (h : ∀ k ∈ cleared, s.filePath k = s.filePath id → s.files (s.filePath id) = none) :
    (s.without gone cleared).readFile id = s.readFile id := by
  have hpath : (s.without gone cleared).files (s.filePath id) = s.files (s.filePath id) := by
    simp only [without]
    split
    · grind
    · rfl
  unfold readFile
  have hsame : (s.without gone cleared).filePath id = s.filePath id := rfl
  rw [hsame, hpath]
  rfl

theorem files_without_of_mem {id : String} (hid : id ∈ cleared) :
    (s.without gone cleared).files (s.filePath id) = none := if_pos ⟨id, hid, rfl⟩

theorem sameData_without_iff (hdir : s.dir ≠ "") (hcleared : ∀ id ∈ cleared, id ∈ gone)
    (hgone : ∀ id ∈ gone, id ∈ s.items) :
    s.SameData (s.without gone cleared) ↔ s.LosesNothing gone cleared := by
  constructor
  · intro h
    have hread : ∀ id ∈ gone, (s.without gone cleared).readFile id = s.readData id := by
      intro id hid
      rw [← (h id).2 (hgone id hid), readData_without_of_mem hid]
    have hfile : ∀ id : String, (s.without gone cleared).readFile id =
        readContent ((s.without gone cleared).files (s.filePath id)) := fun _ => if_neg hdir
    refine ⟨fun id hid => ?_, fun id hid _ blob hblob => ?_⟩
    · -- it is not found now, so it was not found before
      grind [files_without_of_mem, readData, readContent, readFile, readContent_inj]
    · have hbefore := hread id hid
      rw [hfile] at hbefore
      simp only [readData, hblob] at hbefore
      have hcontent : (s.without gone cleared).files (s.filePath id) = some (some blob) :=
        readContent_inj (hbefore.trans rfl)
      simp only [without] at hcontent
      split at hcontent
      · exact absurd hcontent (by simp)
      · exact hcontent
  · rintro ⟨hremoved, hdropped⟩ id
    refine ⟨Iff.rfl, fun _ => ?_⟩
    -- whatever file is removed was not there
    have hfile : (s.without gone cleared).readFile id = s.readFile id :=
      readFile_without fun k hk hsame => hsame ▸ (hremoved k hk).2
    by_cases hid : id ∈ gone
    · rw [readData_without_of_mem hid, hfile]
      cases hblob : s.blobs[id]? with
      | none => simp only [readData, hblob]
      | some blob =>
        have hin : id ∉ cleared := fun hin => by
          rw [(hremoved id hin).1] at hblob
          exact absurd hblob (by simp)
        have hcopy := hdropped id hid hin blob hblob
        simp only [readData, hblob, readFile, if_neg hdir, hcopy, readContent]
    · rw [readData_without_of_not_mem hid, hfile]
      unfold readData
      cases s.blobs[id]? with
      | none | some => rfl

end

/-! ## A file that is left behind -/

/-- What a call that fails leaves in the file of the attachment, if it has touched it. -/
def fileLeft (s : AttachmentStore) (info : AttachmentMeta) (data : Bytes) (removeAgain : Bool)
    (fs : FileSystem) : Option (Option Content) :=
  if s.dir = "" ∨ s.persist = false ∨ fs.mkdirAll = false ∨ fs.encrypt = false then none
  else
    match fs.writeFile with
    | .failed none => none
    | .failed (some left) => some (some left)
    | .done =>
      if removeAgain = true ∧ fs.remove (s.filePath info.id) = true then some none
      else some (some (some data))

def OverwritesNothing (s : AttachmentStore) (info : AttachmentMeta) (data : Bytes)
    (removeAgain : Bool) (fs : FileSystem) : Prop :=
  ∀ left, s.fileLeft info data removeAgain fs = some left →
    ∀ id ∈ s.items, s.blobs[id]? = none → s.filePath id = s.filePath info.id →
      s.files (s.filePath info.id) = left

theorem putData_error {s : AttachmentStore} {info : AttachmentMeta} {data : Bytes}
    {removeAgain : Bool} {fs : FileSystem} {e : AttachmentError}
    (h : (s.putData info data removeAgain fs).1 = .error e) :
    ∃ index, (s.putData info data removeAgain fs).2 =
      { (s.fileLeft info data removeAgain fs).elim s (s.setFile info.id) with index := index } := by
  have hstoring := s.putData_storing info data removeAgain fs
  generalize s.putData info data removeAgain fs = result at h hstoring ⊢
  unfold fileLeft
  cases hstoring with
  | unsaved | inMemory | stored => exact absurd h (by simp)
  | untouched hdir hpersist hfails =>
    refine ⟨s.index, ?_⟩
    rcases hfails with hmkdir | hencrypt | hwrite
    · rw [if_pos (.inr (.inr (.inl hmkdir)))]
      rfl
    · rw [if_pos (.inr (.inr (.inr hencrypt)))]
      rfl
    · simp only [hwrite, ite_self]
      rfl
  | cutOff hdir hpersist hmkdir hencrypt left hfails =>
    rw [if_neg (by simp [hdir, hpersist, hmkdir, hencrypt]), hfails]
    exact ⟨s.index, rfl⟩
  | unindexed hdir hpersist hmkdir hencrypt hwrite left hfails content hcontent =>
    rw [if_neg (by simp [hdir, hpersist, hmkdir, hencrypt]), hwrite, hcontent]
    split
    · exact ⟨_, rfl⟩
    · exact ⟨_, rfl⟩

theorem readData_setFile {s : AttachmentStore} (hdir : s.dir ≠ "") {id : String}
    {content : Option Content} {k : String} : (s.setFile id content).readData k = s.readData k ↔
      (s.blobs[k]? = none → s.filePath k = s.filePath id → s.files (s.filePath id) = content) := by
  have hblobs : (s.setFile id content).blobs = s.blobs := rfl
  unfold readData
  rw [hblobs]
  cases s.blobs[k]? with
  | some blob => simp
  | none =>
    have hbefore : s.readFile k = readContent (s.files (s.filePath k)) := if_neg hdir
    have hafter : (s.setFile id content).readFile k = readContent
        (Function.update s.files (s.filePath id) content (s.filePath k)) := if_neg hdir
    simp only [forall_const, hbefore, hafter]
    constructor
    · intro hread hk
      rw [hk, Function.update_self] at hread
      exact (readContent_inj hread).symm
    · intro hcontent
      by_cases hk : s.filePath k = s.filePath id
      · rw [hk, Function.update_self, hcontent hk]
      · rw [Function.update_of_ne hk]

theorem sameData_putData_iff {s : AttachmentStore} {info : AttachmentMeta} {data : Bytes}
    {removeAgain : Bool} {fs : FileSystem} {e : AttachmentError}
    (h : (s.putData info data removeAgain fs).1 = .error e) :
    s.SameData (s.putData info data removeAgain fs).2 ↔
      s.OverwritesNothing info data removeAgain fs := by
  obtain ⟨index, hafter⟩ := putData_error h
  rw [hafter]
  unfold OverwritesNothing
  cases hleft : s.fileLeft info data removeAgain fs with
  | none =>
    refine iff_of_true (fun id => ⟨Iff.rfl, fun _ => rfl⟩) fun left hcontra => ?_
    exact absurd hcontra (by simp)
  | some left =>
    have hdir : s.dir ≠ "" := by
      grind [fileLeft]
    constructor
    · intro hsameData left' hleft' id hid
      obtain rfl := Option.some.inj hleft'
      exact (readData_setFile hdir).mp ((hsameData id).2 hid)
    · intro hsame id
      exact ⟨Iff.rfl, fun hid => (readData_setFile hdir).mpr (hsame left rfl id hid)⟩

/-! ## A call that fails -/

section

variable [LowerCase]

/-- A call that fails leaves everything as it was. It is rejected at once; or it evicts nobody, and
is over the quota or leaves alone the files that attachments are read from; or it is to evict
some, and that breaks off before it has taken anything that could be read. -/
def KeepsAll (s : AttachmentStore) (info : AttachmentMeta) (data : Bytes) (removeAgain : Bool)
    (fs : FileSystem) : Prop :=
  ∀ toDelete, s.evictions info.attachmentClass info.size = .ok toDelete →
    (toDelete = [] → s.ExceedsQuota info.attachmentClass info.size ∨
      s.OverwritesNothing info data removeAgain fs) ∧
    (toDelete ≠ [] → (toDelete.all (s.removable fs) && s.indexWritten fs) = false ∧
      s.LosesNothing (s.dropped fs toDelete) (s.removed fs toDelete))

variable {s : AttachmentStore} {fs : FileSystem} {data : Bytes} {info : AttachmentMeta}

theorem keepsAll_iff {removeAgain : Bool} {toDelete : List String}
    (h : s.evictions info.attachmentClass info.size = .ok toDelete) :
    s.KeepsAll info data removeAgain fs ↔
      (toDelete = [] → s.ExceedsQuota info.attachmentClass info.size ∨
        s.OverwritesNothing info data removeAgain fs) ∧
      (toDelete ≠ [] → (toDelete.all (s.removable fs) && s.indexWritten fs) = false ∧
        s.LosesNothing (s.dropped fs toDelete) (s.removed fs toDelete)) := by
  constructor
  · exact fun hkeeps => hkeeps toDelete h
  · intro hkeeps toDelete' h'
    obtain rfl := Except.ok.inj (h.symm.trans h')
    exact hkeeps

variable {e : AttachmentError}

omit [LowerCase] in
theorem putData_error_items {removeAgain : Bool}
    (h : (s.putData info data removeAgain fs).1 = .error e) :
    (s.putData info data removeAgain fs).2.items = s.items := by
  obtain ⟨index, hafter⟩ := putData_error h
  rw [hafter]
  cases s.fileLeft info data removeAgain fs with
  | none | some => rfl

theorem not_sameData_of_evicted {t s' : AttachmentStore}
    {toDelete : List String} {className : String} {size : Int}
    (hevictions : s.evictions className size = .ok toDelete) (hsome : toDelete ≠ [])
    (hdelete : s.deleteIDs toDelete fs = (true, t)) (hitems : s'.items = t.items) :
    (toDelete.all (s.removable fs) && s.indexWritten fs) = true ∧ ¬ s.SameData s' := by
  rw [deleteIDs_eq s hsome fs] at hdelete
  split at hdelete
  · rename_i hall
    obtain ⟨hwritten, rfl⟩ := Prod.mk.inj hdelete
    refine ⟨by rw [hall, hwritten]; rfl, fun hsameData => ?_⟩
    obtain ⟨id, hid⟩ := List.exists_mem_of_ne_nil toDelete hsome
    -- the first of them is no longer indexed
    have hin : id ∈ s'.items := (hsameData id).1.mpr (evictions_indexed hevictions hid)
    grind
  · exact absurd (Prod.mk.inj hdelete).1 (by simp)

theorem sameData_of_stuck_iff {t : AttachmentStore}
    {toDelete : List String} {className : String} {size : Int}
    (hevictions : s.evictions className size = .ok toDelete)
    (hdelete : s.deleteIDs toDelete fs = (false, t)) :
    toDelete ≠ [] ∧ (toDelete.all (s.removable fs) && s.indexWritten fs) = false ∧
      (s.SameData t ↔ s.LosesNothing (s.dropped fs toDelete) (s.removed fs toDelete)) := by
  have hsome : toDelete ≠ [] := by
    rintro rfl
    exact absurd (Prod.mk.inj hdelete).1 (by simp)
  rw [deleteIDs_eq s hsome fs] at hdelete
  have hdropped : ∀ id ∈ s.dropped fs toDelete, id ∈ s.items :=
    fun id hid => evictions_indexed hevictions (mem_of_mem_dropped hid)
  have hremoved : ∀ id ∈ s.removed fs toDelete, id ∈ s.dropped fs toDelete :=
    fun id hid => mem_dropped_of_mem_removed hid
  split at hdelete
  · rename_i hall
    obtain ⟨hwritten, rfl⟩ := Prod.mk.inj hdelete
    have hdir : s.dir ≠ "" := by
      grind [indexWritten]
    refine ⟨hsome, by rw [hall, hwritten]; rfl, ?_⟩
    rw [← sameData_without_iff hdir hremoved hdropped, dropped_of_all hall]
    rw [if_neg (by simp [hwritten])]
    exact Iff.rfl
  · rename_i hall
    obtain ⟨-, rfl⟩ := Prod.mk.inj hdelete
    have hdir : s.dir ≠ "" := by
      intro hdir
      refine hall (List.all_eq_true.mpr fun id _ => ?_)
      have hblank : trimSpace s.dir = "" := by rw [hdir]; decide
      simp [removable, RemovesFiles, hblank]
    refine ⟨hsome, by simp [hall], sameData_without_iff hdir hremoved hdropped⟩

theorem sameData_putWithin_iff {removeAgain : Bool}
    (h : (s.putWithin info data removeAgain fs).1 = .error e) :
    s.SameData (s.putWithin info data removeAgain fs).2 ↔ s.KeepsAll info data removeAgain fs := by
  have hputting := s.putWithin_putting info data removeAgain fs
  generalize s.putWithin info data removeAgain fs = result at h hputting ⊢
  cases hputting with
  | rejected e hevictions =>
    refine iff_of_true (SameData.refl s) fun toDelete hsome => ?_
    simp_all
  | stuck toDelete t hevictions hdelete =>
    obtain ⟨hsome, hbroken, hiff⟩ := sameData_of_stuck_iff hevictions hdelete
    rw [keepsAll_iff hevictions, hiff]
    simp [hsome, hbroken]
  | full toDelete t hevictions hdelete hquota =>
    rw [keepsAll_iff hevictions]
    by_cases hnil : toDelete = []
    · subst hnil
      obtain rfl := (Prod.mk.inj hdelete).2
      simpa [hquota] using SameData.refl s
    · obtain ⟨hdone, hnoticed⟩ := not_sameData_of_evicted hevictions hnil hdelete rfl
      simp [hnil, hdone, hnoticed]
  | within toDelete t hevictions hdelete hquota =>
    rw [keepsAll_iff hevictions]
    by_cases hnil : toDelete = []
    · subst hnil
      obtain rfl := (Prod.mk.inj hdelete).2
      rw [sameData_putData_iff h]
      simp [hquota]
    · obtain ⟨hdone, hnoticed⟩ := not_sameData_of_evicted hevictions hnil hdelete
        (putData_error_items h)
      simp [hnil, hdone, hnoticed]

theorem sameData_put_iff {name mimeType : String} {newID : Option String} {now : Time}
    (h : (s.put name mimeType data newID now fs).1 = .error e) :
    s.SameData (s.put name mimeType data newID now fs).2 ↔ (data ≠ [] → ∀ id, newID = some id →
        s.KeepsAll (newMeta id name mimeType data now) data true fs) := by
  by_cases hdata : data = []
  · have hput : s.put name mimeType data newID now fs = (.error .dataEmpty, s) := if_pos hdata
    grind [SameData.refl]
  cases newID with
  | none =>
    grind [put, SameData.refl]
  | some id =>
    rw [put_some hdata] at h ⊢
    dsimp only at h ⊢
    cases hresult : (s.putWithin (newMeta id name mimeType data now) data true fs).1 with
    | ok _ =>
      rw [hresult] at h
      exact absurd h (by simp [Except.map])
    | error e =>
      rw [sameData_putWithin_iff hresult]
      simp [hdata]

theorem sameData_putExisting_iff {now : Time} (h : (s.putExisting info data now fs).1 = .error e) :
    s.SameData (s.putExisting info data now fs).2 ↔ (trimSpace info.id ≠ "" → data ≠ [] →
        s.KeepsAll (completeMeta info data now) data false fs) := by
  grind [putExisting, SameData.refl, sameData_putWithin_iff]

/-- An attachment that is not taken leaves the others as they were exactly when the room it was to
have does not have to be made first, or making it breaks off at once. -/
theorem rejected_keeps_iff (s : AttachmentStore) : (∀ name mimeType data newID now fs e,
      (s.put name mimeType data newID now fs).1 = .error e →
      (s.Unchanged (s.put name mimeType data newID now fs).2 ↔ (data ≠ [] → ∀ id, newID = some id →
          s.KeepsAll (newMeta id name mimeType data now) data true fs))) ∧
    ∀ info data now fs e, (s.putExisting info data now fs).1 = .error e →
      (s.Unchanged (s.putExisting info data now fs).2 ↔ (trimSpace info.id ≠ "" → data ≠ [] →
          s.KeepsAll (completeMeta info data now) data false fs)) := by
  simp only [unchanged_iff_sameData]
  exact ⟨fun _ _ _ _ _ _ _ h => sameData_put_iff h,
    fun _ _ _ _ _ h => sameData_putExisting_iff h⟩

end

/-- Ten bytes for images, of which a pinned one takes six and another three. -/
def smallImages : AttachmentStore :=
  let image (id pinState : String) (size : Int) : AttachmentMeta :=
    { id := id, name := "", mimeType := "image/png", attachmentClass := "image"
      lastAccessAt := 1, pinState := pinState, size := size, createdAt := 1 }
  { dir := "attachments"
    items := (∅ : GoMap String AttachmentMeta).insert "att1_a" (image "att1_a" pinned 6)
      |>.insert "att1_b" (image "att1_b" unpinned 3)
    blobs := ∅, persist := true
    limits := ⟨10, 0, 0, 0⟩, hardCap := ⟨90, 100, 75⟩
    index := .missing, files := fun _ => some (some [1, 2, 3]) }

/-- Five more do not fit even without the one that is not pinned, which is deleted for them. -/
theorem rejected_image_evicts :
    letI := asciiLowerCase
    let after := smallImages.put "" "image/png" [1, 2, 3, 4, 5] (some "att1_c") 2 .working
    after.1 = .error .quotaExceeded ∧ ¬ smallImages.Unchanged after.2 := by
  refine ⟨by decide +kernel, fun h => ?_⟩
  have hstill := (h "att1_b").1.mpr (by decide +kernel)
  exact absurd hstill (by decide +kernel)

end AttachmentStore

end Ardents.Attachments
