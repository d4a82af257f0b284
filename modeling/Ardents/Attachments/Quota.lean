import Ardents.Attachments.Store
import Ardents.Go.Run

/-!
# Quotas and whom they cost

A store keeps the attachments of each class within its quota and gives up no more of them than it
has to: those that are not pinned go in the order in which they were used last, until the rest
leaves room.
-/

namespace Ardents.Attachments

open Go
open Crypto (Time)
open Daemon (AttachmentMeta)

namespace AttachmentStore

section

variable [LowerCase]

/-! ## Totals -/

def classSize (c : AttachmentClass) (info : AttachmentMeta) : Int :=
  if normalizedClass info = c then info.size else 0

def total (s : AttachmentStore) (c : AttachmentClass) : Int := sumBy (classSize c) s.items

def maxItemOf (s : AttachmentStore) (c : AttachmentClass) : Int := (s.classLimits c.text).1

def quotaOf (s : AttachmentStore) (c : AttachmentClass) : Int := (s.classLimits c.text).2

structure WithinLimits (s : AttachmentStore) : Prop where
  quota : ∀ c, 0 < s.quotaOf c → s.total c ≤ s.quotaOf c
  item : ∀ (id : String) info, s.items[id]? = some info → 0 < s.maxItemOf (normalizedClass info) →
    info.size ≤ s.maxItemOf (normalizedClass info)

/-- An attachment of this length, if its class takes it at all, does not make the count of the class
overflow. -/
def NoOverflow (s : AttachmentStore) (length : Nat) : Prop :=
  ∀ c, 0 < s.quotaOf c → (0 < s.maxItemOf c → length ≤ s.maxItemOf c) →
    s.quotaOf c + length < 2 ^ 63

/-! ## Evicting the least -/

def usedAt (s : AttachmentStore) (id : String) : Time := (s.items[id]?).elim 0 lastAccess

structure LRUOrder (s : AttachmentStore) (c : AttachmentClass) (ids : List String) : Prop where
  mem : ∀ id, id ∈ ids ↔
    ∃ info, s.items[id]? = some info ∧ isPinned info = false ∧ normalizedClass info = c
  sorted : ids.Pairwise fun a b => s.usedAt a < s.usedAt b ∨ s.usedAt a = s.usedAt b ∧ a < b

def MakesRoom (s : AttachmentStore) (c : AttachmentClass) (size : Int) (gone : List String) :
    Prop :=
  0 < s.quotaOf c → s.total c - (gone.map s.itemSize).sum + size ≤ s.quotaOf c

/-- The attachment has been put in and none that is pinned is gone for it. Of the others exactly the
first few in that order are gone, no more of them than it takes. -/
def EvictsLeast (s s' : AttachmentStore) (info : AttachmentMeta) : Prop :=
  s'.items[info.id]? = some info ∧
  (∀ id other, id ≠ info.id → s.items[id]? = some other → isPinned other = true →
    s'.items[id]? = some other) ∧
  ∃ order n, s.LRUOrder (normalizedClass info) order ∧
    (∀ id, id ≠ info.id →
      s'.items[id]? = if id ∈ order.take n then none else s.items[id]?) ∧
    s.MakesRoom (normalizedClass info) info.size (order.take n) ∧
    ∀ m < n, ¬ s.MakesRoom (normalizedClass info) info.size (order.take m)

/-! ## Calls -/

inductive Call where
  | put (name mimeType : String) (data : Bytes) (newID : Option String) (now : Time)
  | setPinState (id pinState : String) (now : Time)
  | get (id : String) (now : Time)
  | runGC (now clock : Time) (imageTTLSeconds fileTTLSeconds : Int) (dryRun : Bool)
      (order : List String)
  | purgeOlderThan (cutoff : Time) (order : List String)
  | purgeOlderThanByClass (className : String) (cutoff : Time) (order : List String)
  deriving DecidableEq

def call (s : AttachmentStore) : Call → AttachmentStore
  | .put name mimeType data newID now => (s.put name mimeType data newID now .working).2
  | .setPinState id pinState now => (s.setPinState id pinState now .working).2
  | .get id now => (s.get id now .working).2
  | .runGC now clock imageTTLSeconds fileTTLSeconds dryRun order =>
    (s.runGC now clock imageTTLSeconds fileTTLSeconds dryRun order .working).2
  | .purgeOlderThan cutoff order => (s.purgeOlderThan cutoff order .working).2
  | .purgeOlderThanByClass className cutoff order =>
    (s.purgeOlderThanByClass className cutoff order .working).2

/-! ## What a store makes sure of -/

structure Steady (limits : AttachmentClassLimits) (s : AttachmentStore) : Prop where
  dir : s.dir ≠ ""
  persist : s.persist = true
  limits : s.limits = limits
  plain : ∀ (id : String) info, s.items[id]? = some info →
    info.attachmentClass = (normalizedClass info).text ∧ 0 ≤ info.size
  within : s.WithinLimits

section

variable {limits : AttachmentClassLimits} {s t : AttachmentStore}

theorem Steady.valueAt_nonneg (hs : Steady limits s) (c : AttachmentClass) (id : String) :
    0 ≤ valueAt (classSize c) s.items id := by
  refine Go.valueAt_nonneg (fun id info hinfo => ?_) id
  unfold classSize
  split
  · exact (hs.plain id info hinfo).2
  · exact le_rfl

theorem Steady.total_nonneg (hs : Steady limits s) (c : AttachmentClass) : 0 ≤ s.total c :=
  sumBy_nonneg (hs.valueAt_nonneg c)

theorem Steady.usageByClass (hs : Steady limits s) (c : AttachmentClass) :
    s.usageByClass c.text = int64 (s.total c) := by
  refine congrArg int64 (sumBy_congr fun id info hinfo => ?_)
  rw [classText_of_text (hs.plain id info hinfo).1, toLower_trimSpace_text]
  exact if_congr ⟨text_inj, congrArg _⟩ rfl rfl

/-- Nothing has been put in: what is there was there, with the same class and the same size. -/
structure Shrinks (s t : AttachmentStore) : Prop where
  dir : t.dir = s.dir
  persist : t.persist = s.persist
  limits : t.limits = s.limits
  items : ∀ (id : String) info', t.items[id]? = some info' → ∃ info, s.items[id]? = some info ∧
    info'.attachmentClass = info.attachmentClass ∧ info'.mimeType = info.mimeType ∧
    info'.size = info.size

omit [LowerCase] in
theorem Shrinks.refl (s : AttachmentStore) : Shrinks s s :=
  ⟨rfl, rfl, rfl, fun _ info hinfo => ⟨info, hinfo, rfl, rfl, rfl⟩⟩

theorem quotaOf_congr (h : t.limits = s.limits) (c : AttachmentClass) :
    t.quotaOf c = s.quotaOf c := by
  unfold quotaOf classLimits
  rw [h]

theorem maxItemOf_congr (h : t.limits = s.limits) (c : AttachmentClass) :
    t.maxItemOf c = s.maxItemOf c := by
  unfold maxItemOf classLimits
  rw [h]

theorem normalizedClass_congr {info info' : AttachmentMeta}
    (hclass : info'.attachmentClass = info.attachmentClass)
    (hmime : info'.mimeType = info.mimeType) : normalizedClass info' = normalizedClass info := by
  unfold normalizedClass classText
  rw [hclass, hmime]

theorem Steady.total_le (hs : Steady limits s) (h : Shrinks s t) (c : AttachmentClass) :
    t.total c ≤ s.total c := by
  refine sumBy_le fun id => ?_
  cases hinfo' : t.items[id]? with
  | none =>
    rw [valueAt, hinfo']
    exact hs.valueAt_nonneg c id
  | some info' =>
    obtain ⟨info, hinfo, hclass, hmime, hsize⟩ := h.items id info' hinfo'
    rw [valueAt_of_get hinfo, valueAt_of_get hinfo']
    unfold classSize
    rw [normalizedClass_congr hclass hmime, hsize]

theorem Steady.shrinks (hs : Steady limits s) (h : Shrinks s t) : Steady limits t := by
  refine ⟨h.dir ▸ hs.dir, h.persist ▸ hs.persist, h.limits.trans hs.limits, ?_, ?_, ?_⟩
  · grind [cases Shrinks, normalizedClass_congr, cases Steady]
  · intro c hquota
    rw [quotaOf_congr h.limits] at hquota ⊢
    exact (hs.total_le h c).trans (hs.within.quota c hquota)
  · intro id info' hinfo' hlimit
    obtain ⟨info, hinfo, hsame, hmime, hsize⟩ := h.items id info' hinfo'
    rw [normalizedClass_congr hsame hmime, maxItemOf_congr h.limits] at hlimit ⊢
    rw [hsize]
    exact hs.within.item id info hinfo hlimit

end

end

/-! ## Calls that put nothing in -/

section

variable (s : AttachmentStore)

theorem shrinks_of_filter {t : AttachmentStore} {ids : List String} (hdir : t.dir = s.dir)
    (hpersist : t.persist = s.persist) (hlimits : t.limits = s.limits)
    (hitems : t.items = s.items.filter fun id _ => decide (id ∉ ids)) : Shrinks s t := by
  refine ⟨hdir, hpersist, hlimits, fun id info hinfo => ?_⟩
  rw [hitems] at hinfo
  exact ⟨info, get_of_filter hinfo, rfl, rfl, rfl⟩

theorem shrinks_deleteIDs {ε : Type} (ids : List String) (failed done : ε) :
    Shrinks s (match s.deleteIDs ids .working with
      | (false, t) => (failed, t)
      | (true, t) => (done, t)).2 := by
  obtain ⟨t, hdelete, hdir, hpersist, hlimits, hitems⟩ := s.deleteIDs_working ids
  rw [hdelete]
  exact s.shrinks_of_filter hdir hpersist hlimits hitems

theorem shrinks_rewrite {id : String} {info info' : AttachmentMeta}
    (hinfo : s.items[id]? = some info) (hclass : info'.attachmentClass = info.attachmentClass)
    (hmime : info'.mimeType = info.mimeType) (hsize : info'.size = info.size) (index : IndexFile) :
    Shrinks s { s with index := index, items := s.items.insert id info' } := by
  refine ⟨rfl, rfl, rfl, fun k info'' hinfo'' => ?_⟩
  grind

theorem shrinks_touchLastAccess (id : String) (now : Time) :
    Shrinks s (s.touchLastAccess id now .working) := by
  unfold touchLastAccess
  cases hinfo : s.items[id]? with
  | none => exact .refl s
  | some info =>
    dsimp only
    split
    · exact .refl s
    · rw [persistItems_eq, indexWritten_working]
      refine s.shrinks_rewrite hinfo ?_ ?_ ?_ _
      all_goals rfl

theorem shrinks_get (id : String) (now : Time) : Shrinks s (s.get id now .working).2 := by
  unfold get
  cases s.items[id]? with
  | none => exact .refl s
  | some info =>
    cases s.readData id with
    | error e => exact .refl s
    | ok data => exact s.shrinks_touchLastAccess id now

theorem shrinks_setPinState [LowerCase] (id pinState : String) (now : Time) :
    Shrinks s (s.setPinState id pinState now .working).2 := by
  unfold setPinState
  dsimp only
  split
  · exact .refl s
  split
  · exact .refl s
  cases hinfo : s.items[trimSpace id]? with
  | none => exact .refl s
  | some info =>
    dsimp only
    split
    · exact .refl s
    · rw [persistItems_eq, indexWritten_working]
      refine s.shrinks_rewrite hinfo ?_ ?_ ?_ _
      all_goals rfl

theorem shrinks_purge (gone : AttachmentMeta → Bool) (order : List String) :
    Shrinks s (s.purge gone order .working).2 := s.shrinks_deleteIDs _ _ _

theorem shrinks_runGC [LowerCase] (now clock : Time) (imageTTLSeconds fileTTLSeconds : Int)
    (dryRun : Bool) (order : List String) :
    Shrinks s (s.runGC now clock imageTTLSeconds fileTTLSeconds dryRun order .working).2 := by
  unfold runGC
  generalize (if now = 0 then clock else now) = now
  dsimp only
  split
  · exact .refl s
  · exact s.shrinks_deleteIDs _ _ _

end

/-! ## Making room -/

section

variable [LowerCase] {limits : AttachmentClassLimits} {s : AttachmentStore} {c : AttachmentClass}

instance : Std.Total before where
  total a b := by
    rcases lt_trichotomy (lastAccess a.2) (lastAccess b.2) with hlt | heq | hgt
    · exact .inl (.inl hlt)
    · rcases le_total a.1 b.1 with hle | hle
      · exact .inl (.inr ⟨heq, hle⟩)
      · exact .inr (.inr ⟨heq.symm, hle⟩)
    · exact .inr (.inl hgt)

instance : IsTrans (String × AttachmentMeta) before where
  trans a b d hab hbd := by
    rcases hab with hab | ⟨hab, hab'⟩
    · rcases hbd with hbd | ⟨hbd, -⟩
      · exact .inl (hab.trans hbd)
      · exact .inl (hbd ▸ hab)
    · rcases hbd with hbd | ⟨hbd, hbd'⟩
      · exact .inl (hab ▸ hbd)
      · exact .inr ⟨hab.trans hbd, hab'.trans hbd'⟩

theorem lruOrder_lruCandidates (s : AttachmentStore) (c : AttachmentClass) :
    s.LRUOrder c (s.lruCandidates c.text fun _ => false) := by
  constructor
  · grind [mem_lruCandidates, toLower_trimSpace_text, text_inj]
  · unfold lruCandidates
    dsimp only
    generalize hcandidates : s.items.toList.filter _ = candidates
    have hmem : ∀ entry ∈ candidates, s.items[entry.1]? = some entry.2 := by
      grind
    have hkeys : candidates.Pairwise fun a b => a.1 ≠ b.1 := by
      rw [← hcandidates]
      refine List.Pairwise.filter _ (List.pairwise_map.mp ?_)
      rw [Std.ExtTreeMap.map_fst_toList_eq_keys]
      exact s.items.nodup_keys
    have hperm := List.perm_insertionSort before candidates
    have hdistinct := (hperm.pairwise_iff fun hab => Ne.symm hab).mpr hkeys
    refine List.pairwise_map.mpr ?_
    refine ((List.pairwise_insertionSort before candidates).and hdistinct).imp_of_mem ?_
    rintro a b ha hb ⟨hab, hne⟩
    have hused : ∀ entry ∈ candidates.insertionSort before, s.usedAt entry.1 = lastAccess entry.2 :=
      fun entry hentry => by simp [usedAt, hmem entry (hperm.mem_iff.mp hentry)]
    rw [hused a ha, hused b hb]
    exact hab.imp_right fun ⟨heq, hle⟩ => ⟨heq, lt_of_le_of_ne hle hne⟩

variable {ids : List String}

theorem LRUOrder.nodup (h : s.LRUOrder c ids) : ids.Nodup :=
  h.sorted.imp fun hab => by
    rintro rfl
    rcases hab with hab | ⟨-, hab⟩
    · exact absurd hab (lt_irrefl _)
    · exact absurd hab (lt_irrefl _)

theorem LRUOrder.total_without (h : s.LRUOrder c ids) (n : Nat) :
    sumBy (classSize c) (s.items.filter fun id _ => decide (id ∉ ids.take n)) =
      s.total c - ((ids.take n).map s.itemSize).sum := by
  rw [sumBy_without _ (h.nodup.sublist (List.take_sublist n ids))]
  have hsizes : (ids.take n).map (valueAt (classSize c) s.items) =
      (ids.take n).map s.itemSize := by
    refine List.map_congr_left fun id hid => ?_
    obtain ⟨info, hinfo, -, hclass⟩ := (h.mem id).mp (List.mem_of_mem_take hid)
    rw [valueAt_of_get hinfo, itemSize, hinfo, classSize, if_pos hclass]
    rfl
  rw [hsizes]
  rfl

theorem Steady.rest_bounds (hs : Steady limits s) (h : s.LRUOrder c ids)
    (hquota : 0 < s.quotaOf c) (n : Nat) : 0 ≤ s.total c - ((ids.take n).map s.itemSize).sum ∧
      s.total c - ((ids.take n).map s.itemSize).sum ≤ s.quotaOf c := by
  have hshrinks : Shrinks s { s with
      items := s.items.filter fun id _ => decide (id ∉ ids.take n) } :=
    s.shrinks_of_filter rfl rfl rfl rfl
  have hnonneg := (hs.shrinks hshrinks).total_nonneg c
  have hle := (hs.total_le hshrinks c).trans (hs.within.quota c hquota)
  unfold total at hnonneg hle
  rw [h.total_without n] at hnonneg hle
  exact ⟨hnonneg, hle⟩

omit [LowerCase] in
theorem evictUntil_eq_take {size : String → Int} {target usage : Int}
    (hrange : ∀ n, 0 ≤ usage - ((ids.take n).map size).sum ∧
      usage - ((ids.take n).map size).sum < 2 ^ 63) :
    ∃ n, evictUntil size target usage ids = ids.take n ∧
      ∀ m, 0 < m → m < n → target < usage - ((ids.take m).map size).sum := by
  induction ids generalizing usage with
  | nil => exact ⟨0, rfl, fun m _ hm => absurd hm (Nat.not_lt_zero m)⟩
  | cons id rest ih =>
    have hfirst := hrange 1
    simp only [List.take_succ_cons, List.take_zero, List.map_cons, List.map_nil, List.sum_cons,
      List.sum_nil, add_zero] at hfirst
    have husage : int64 (usage - size id) = usage - size id :=
      int64_eq_self (by omega) hfirst.2
    simp only [evictUntil, husage]
    by_cases hdone : usage - size id ≤ target
    · rw [if_pos hdone]
      exact ⟨1, rfl, fun m hpos hm => by omega⟩
    · rw [if_neg hdone]
      have hrest : ∀ n, 0 ≤ usage - size id - ((rest.take n).map size).sum ∧
          usage - size id - ((rest.take n).map size).sum < 2 ^ 63 := by
        intro n
        have hnext := hrange (n + 1)
        simp only [List.take_succ_cons, List.map_cons, List.sum_cons] at hnext
        omega
      obtain ⟨n, hn, hleast⟩ := ih hrest
      refine ⟨n + 1, by rw [hn, List.take_succ_cons], fun m hpos hm => ?_⟩
      -- the first one alone was not enough; for more of them it is the rest of the loop
      obtain ⟨m, rfl⟩ : ∃ k, m = k + 1 := ⟨m - 1, by omega⟩
      simp only [List.take_succ_cons, List.map_cons, List.sum_cons]
      rcases Nat.eq_zero_or_pos m with rfl | hm'
      · simp only [List.take_zero, List.map_nil, List.sum_nil]
        omega
      · have := hleast m hm' (by omega)
        omega

theorem Steady.evictions_least (hs : Steady limits s) {size : Int} {toDelete : List String}
    (h : s.evictions c.text size = .ok toDelete) (hsize : 0 ≤ size)
    (hover : 0 < s.quotaOf c → s.quotaOf c + size < 2 ^ 63) :
    ∃ n, toDelete = (s.lruCandidates c.text fun _ => false).take n ∧
      ∀ m < n, ¬ s.MakesRoom c size ((s.lruCandidates c.text fun _ => false).take m) := by
  have horder := s.lruOrder_lruCandidates c
  rcases (evictions_ok h).2 with rfl | ⟨hquota, -, husage, rfl⟩
  · exact ⟨0, rfl, fun m hm => absurd hm (Nat.not_lt_zero m)⟩
  · have hquota : 0 < s.quotaOf c := hquota
    have hbounds := hs.rest_bounds horder hquota
    have hstart := hbounds 0
    simp only [List.take_zero, List.map_nil, List.sum_nil, sub_zero] at hstart
    have hcount : s.usageByClass c.text = s.total c := by
      rw [hs.usageByClass, int64_eq_self (by omega) (by omega)]
    have htarget : int64 ((s.classLimits c.text).2 - size) = s.quotaOf c - size :=
      int64_eq_self (by unfold quotaOf at *; omega) (by unfold quotaOf at *; omega)
    rw [hcount, htarget] at husage
    rw [hcount, htarget]
    obtain ⟨n, hn, hleast⟩ := evictUntil_eq_take fun n =>
      ⟨(hbounds n).1, (hbounds n).2.trans_lt (by omega)⟩
    refine ⟨n, hn, fun m hm hroom => ?_⟩
    have hroom := hroom hquota
    rcases Nat.eq_zero_or_pos m with rfl | hpos
    · simp only [List.take_zero, List.map_nil, List.sum_nil, sub_zero] at hroom
      omega
    · have := hleast m hpos hm
      omega

theorem Steady.makesRoom (hs : Steady limits s) {t : AttachmentStore} (ht : Steady limits t)
    (horder : s.LRUOrder c ids) {n : Nat} {size : Int}
    (hitems : t.items = s.items.filter fun id _ => decide (id ∉ ids.take n)) (hsize : 0 ≤ size)
    (hover : 0 < s.quotaOf c → s.quotaOf c + size < 2 ^ 63)
    (hquota : ¬ t.ExceedsQuota c.text size) :
    s.MakesRoom c size (ids.take n) ∧ (0 < t.quotaOf c → t.total c + size ≤ t.quotaOf c) := by
  have hsame : t.quotaOf c = s.quotaOf c := quotaOf_congr (ht.limits.trans hs.limits.symm) c
  have htotal : t.total c = s.total c - ((ids.take n).map s.itemSize).sum := by
    rw [← horder.total_without n, total, hitems]
  have hroom : 0 < s.quotaOf c →
      s.total c - ((ids.take n).map s.itemSize).sum + size ≤ s.quotaOf c := by
    intro hpos
    have hbounds := hs.rest_bounds horder hpos n
    have hfits := hover hpos
    have hcount : t.usageByClass c.text = t.total c := by
      rw [ht.usageByClass, int64_eq_self (by omega) (by omega)]
    have hsum : int64 (t.total c + size) = t.total c + size :=
      int64_eq_self (by omega) (by omega)
    by_contra hfull
    refine hquota ⟨?_, ?_⟩
    · exact hpos.trans_eq hsame.symm
    · rw [hcount, hsum]
      have hlimit : (t.classLimits c.text).2 = s.quotaOf c := hsame
      omega
  refine ⟨hroom, fun hpos => ?_⟩
  omega

omit [LowerCase] in
theorem putData_working {s : AttachmentStore} (hdir : s.dir ≠ "") (hpersist : s.persist = true)
    (info : AttachmentMeta) (data : Bytes) : ∃ t,
    s.putData info data true .working = (.ok (), t) ∧ t.dir = s.dir ∧ t.persist = s.persist ∧
      t.limits = s.limits ∧ t.items = s.items.insert info.id info := by
  unfold putData
  rw [if_neg hdir, if_neg (by simp [hpersist]), if_neg (by simp [FileSystem.working]),
    if_neg (by simp [FileSystem.working])]
  simp only [FileSystem.working]
  have hwritten := indexWritten_working (s.setFile info.id (some (some data)))
  rw [FileSystem.working] at hwritten
  rw [persistItems_eq, hwritten]
  exact ⟨_, rfl, rfl, rfl, rfl, rfl⟩

theorem Steady.insert {t t' : AttachmentStore} (ht : Steady limits t) {info : AttachmentMeta}
    (hdir : t'.dir = t.dir) (hpersist : t'.persist = t.persist) (hlimits : t'.limits = t.limits)
    (hitems : t'.items = t.items.insert info.id info) (hclass : info.attachmentClass = c.text)
    (hsize : 0 ≤ info.size) (hitem : 0 < t.maxItemOf c → info.size ≤ t.maxItemOf c)
    (hquota : 0 < t.quotaOf c → t.total c + info.size ≤ t.quotaOf c) : Steady limits t' := by
  have hnormal := normalizedClass_of_text hclass
  have hget : ∀ (id : String) other, t'.items[id]? = some other →
      other = info ∨ t.items[id]? = some other := by
    grind
  refine ⟨hdir ▸ ht.dir, hpersist ▸ ht.persist, hlimits.trans ht.limits, ?_, ?_, ?_⟩
  · intro id other hother
    rcases hget id other hother with rfl | hother
    · rw [hnormal]
      exact ⟨hclass, hsize⟩
    · exact ht.plain id other hother
  · intro c' hpos
    rw [quotaOf_congr hlimits] at hpos ⊢
    unfold total
    rw [hitems, sumBy_insert]
    have hold := ht.valueAt_nonneg c' info.id
    by_cases hc : c = c'
    · grind [classSize, total]
    · have hwithin := ht.within.quota c' hpos
      grind [classSize, total]
  · intro id other hother hpos
    rw [maxItemOf_congr hlimits] at hpos ⊢
    rcases hget id other hother with rfl | hother
    · rw [hnormal] at hpos ⊢
      exact hitem hpos
    · exact ht.within.item id other hother hpos

theorem Steady.putWithin (hs : Steady limits s) {info : AttachmentMeta} (data : Bytes)
    (hclass : info.attachmentClass = c.text) (hsize : 0 ≤ info.size)
    (hover : 0 < s.quotaOf c → (0 < s.maxItemOf c → info.size ≤ s.maxItemOf c) →
      s.quotaOf c + info.size < 2 ^ 63) : Steady limits (s.putWithin info data true .working).2 ∧
      ((s.putWithin info data true .working).1 = .ok () →
        s.EvictsLeast (s.putWithin info data true .working).2 info) := by
  have hputting := s.putWithin_putting info data true .working
  generalize s.putWithin info data true .working = result at hputting ⊢
  cases hputting with
  | rejected e hevictions => exact ⟨hs, fun h => absurd h (by simp)⟩
  | stuck toDelete t hevictions hdelete =>
    obtain ⟨t', hdelete', -⟩ := s.deleteIDs_working toDelete
    rw [hdelete] at hdelete'
    exact absurd (Prod.mk.inj hdelete').1 (by simp)
  | full toDelete t hevictions hdelete hquota =>
    obtain ⟨t', hdelete', hdir, hpersist, hlimits, hitems⟩ := s.deleteIDs_working toDelete
    obtain rfl := (Prod.mk.inj (hdelete.symm.trans hdelete')).2
    exact ⟨hs.shrinks (s.shrinks_of_filter hdir hpersist hlimits hitems),
      fun h => absurd h (by simp)⟩
  | within toDelete t hevictions hdelete hquota =>
    obtain ⟨t', hdelete', hdir, hpersist, hlimits, hitems⟩ := s.deleteIDs_working toDelete
    obtain rfl := (Prod.mk.inj (hdelete.symm.trans hdelete')).2
    have ht := hs.shrinks (s.shrinks_of_filter hdir hpersist hlimits hitems)
    rw [hclass] at hevictions hquota
    have hitem : 0 < s.maxItemOf c → info.size ≤ s.maxItemOf c := (evictions_ok hevictions).1
    have horder := s.lruOrder_lruCandidates c
    obtain ⟨n, rfl, hleast⟩ := hs.evictions_least hevictions hsize fun hpos => hover hpos hitem
    obtain ⟨hroom, hfits⟩ := hs.makesRoom ht horder hitems hsize
      (fun hpos => hover hpos hitem) hquota
    obtain ⟨t', hput, hdir', hpersist', hlimits', hitems'⟩ :=
      putData_working ht.dir ht.persist info data
    rw [hput]
    have hitem' : 0 < t.maxItemOf c → info.size ≤ t.maxItemOf c := by
      rw [maxItemOf_congr hlimits]
      exact hitem
    refine ⟨ht.insert hdir' hpersist' hlimits' hitems' hclass hsize hitem' hfits, fun _ => ?_⟩
    unfold EvictsLeast
    rw [normalizedClass_of_text hclass]
    have hothers : ∀ id, id ≠ info.id → t'.items[id]? =
        if id ∈ (s.lruCandidates c.text fun _ => false).take n then none else s.items[id]? := by
      intro id hid
      rw [hitems', get_insert, if_neg (Ne.symm hid), hitems, get_filter]
      by_cases hgone : id ∈ (s.lruCandidates c.text fun _ => false).take n
      · simp [hgone]
      · simp [hgone]
    refine ⟨?_, fun id other hid hother hpinned => ?_, _, n, horder, hothers, hroom, hleast⟩
    · rw [hitems', get_insert, if_pos rfl]
    · rw [hothers id hid, if_neg, hother]
      intro hgone
      -- nobody in the order is pinned
      grind [cases LRUOrder]

theorem Steady.put (hs : Steady limits s) (name mimeType : String) {data : Bytes}
    (newID : Option String) (now : Time) (hroom : s.NoOverflow data.length) :
    Steady limits (s.put name mimeType data newID now .working).2 ∧
      ∀ info, (s.put name mimeType data newID now .working).1 = .ok info →
        s.EvictsLeast (s.put name mimeType data newID now .working).2 info := by
  by_cases hdata : data = []
  · simp_all [AttachmentStore.put]
  cases newID with
  | none =>
    grind [AttachmentStore.put]
  | some id =>
    rw [put_some hdata]
    dsimp only
    have hclass : (newMeta id name mimeType data now).attachmentClass =
        (classifyAttachmentMime (newMeta id name mimeType data now).mimeType).text := by
      simp only [newMeta]
    have hsize : (newMeta id name mimeType data now).size = data.length := by
      simp only [newMeta]
    have hnonneg : 0 ≤ (newMeta id name mimeType data now).size := by omega
    obtain ⟨hsteady, hleast⟩ := hs.putWithin data hclass hnonneg (hsize ▸ hroom _)
    refine ⟨hsteady, fun info hinfo => ?_⟩
    cases hresult : (s.putWithin (newMeta id name mimeType data now) data true .working).1 with
    | error e =>
      rw [hresult] at hinfo
      exact absurd hinfo (by simp [Except.map])
    | ok _ =>
      rw [hresult] at hinfo
      obtain rfl := Except.ok.inj hinfo
      exact hleast hresult

theorem Steady.call (hs : Steady limits s) (call : Call)
    (hroom : ∀ name mimeType data newID now, call = .put name mimeType data newID now →
      s.NoOverflow data.length) : Steady limits (s.call call) := by
  cases call with
  | put name mimeType data newID now =>
    exact (hs.put name mimeType newID now (hroom _ _ _ _ _ rfl)).1
  | setPinState id pinState now => exact hs.shrinks (s.shrinks_setPinState id pinState now)
  | get id now => exact hs.shrinks (s.shrinks_get id now)
  | runGC now clock imageTTLSeconds fileTTLSeconds dryRun order =>
    exact hs.shrinks (s.shrinks_runGC now clock imageTTLSeconds fileTTLSeconds dryRun order)
  | purgeOlderThan cutoff order => exact hs.shrinks (s.shrinks_purge _ order)
  | purgeOlderThanByClass className cutoff order =>
    grind [shrinks, AttachmentStore.call, purgeOlderThanByClass, shrinks_purge]

/-- In every run that starts with an empty store, the store is within its limits after each call,
and each attachment that is put in costs the least it can. -/
theorem quota_kept (hempty : s.items = ∅) (hdir : s.dir ≠ "") (hpersist : s.persist = true)
    (calls : List Call) (hroom : ∀ name mimeType data newID now,
      Call.put name mimeType data newID now ∈ calls → s.NoOverflow data.length) :
    Along call (fun t called => (t.call called).WithinLimits ∧
      ∀ name mimeType data newID now info, called = .put name mimeType data newID now →
        (t.put name mimeType data newID now .working).1 = .ok info →
          t.EvictsLeast (t.call called) info) s calls := by
  have hstart : Steady s.limits s := by
    refine ⟨hdir, hpersist, rfl, fun id info hinfo => ?_, fun c hpos => ?_, fun id info hinfo => ?_⟩
    · simp_all
    · have htotal : s.total c = 0 := by
        unfold total sumBy
        rw [hempty]
        rfl
      omega
    · simp_all
  refine along_of_inv (C := fun _ called => ∀ name mimeType data newID now,
    called = .put name mimeType data newID now → s.NoOverflow data.length)
    (fun t called ht hcalled => ?_) hstart (along_of_forall (fun t called hin => ?_) s)
  · have hroom' : ∀ name mimeType data newID now,
        called = .put name mimeType data newID now → t.NoOverflow data.length := by
      intro name mimeType data newID now hput c hpos hitem
      rw [quotaOf_congr ht.limits] at hpos ⊢
      rw [maxItemOf_congr ht.limits] at hitem
      exact hcalled name mimeType data newID now hput c hpos hitem
    have hafter := ht.call called hroom'
    refine ⟨hafter, hafter.within, ?_⟩
    rintro name mimeType data newID now info rfl hok
    exact (ht.put name mimeType newID now (hroom' _ _ _ _ _ rfl)).2 info hok
  · grind

end

def emptyImages : AttachmentStore :=
  { dir := "attachments", items := ∅, blobs := ∅, persist := true
    limits := ⟨10, 0, 0, 0⟩, hardCap := ⟨90, 100, 75⟩, index := .missing, files := fun _ => none }

def threeImages : List Call :=
  [.put "a" "image/png" [1, 2, 3, 4, 5, 6] (some "att1_a") 10,
    .setPinState "att1_a" "pinned" 11,
    .put "b" "image/png" [7, 8, 9] (some "att1_b") 12,
    .get "att1_b" 13,
    .put "c" "image/png" [1, 2, 3, 4] (some "att1_c") 14,
    .runGC 15 15 0 0 false []]

theorem threeImages_within :
    letI := asciiLowerCase
    Along call (fun t called => (t.call called).WithinLimits ∧
      ∀ name mimeType data newID now info, called = .put name mimeType data newID now →
        (t.put name mimeType data newID now .working).1 = .ok info →
          t.EvictsLeast (t.call called) info) emptyImages threeImages ∧
      (run call emptyImages (threeImages.take 5)).items.keys = ["att1_a", "att1_c"] := by
  let _ := asciiLowerCase
  refine ⟨quota_kept rfl (by decide) rfl threeImages fun name mimeType data newID now hput => ?_,
    by decide +kernel⟩
  have hlength : data.length ≤ 6 := by
    grind [threeImages]
  intro c hpos _
  have hquota : emptyImages.quotaOf c ≤ 10 := by cases c <;> decide +kernel
  omega

/-! ## What is counted

`usageByClassLocked` takes the class of an entry as it stands; for the garbage collector whatever
is not an image is a file. -/

inductive PutCall where
  | put (name mimeType : String) (data : Bytes) (newID : Option String) (now : Time)
      (fs : FileSystem)
  | putExisting (info : AttachmentMeta) (data : Bytes) (now : Time) (fs : FileSystem)

section

variable [LowerCase] {s : AttachmentStore} {info : AttachmentMeta}

def putCall (s : AttachmentStore) : PutCall → AttachmentStore
  | .put name mimeType data newID now fs => (s.put name mimeType data newID now fs).2
  | .putExisting info data now fs => (s.putExisting info data now fs).2

def PutCall.Classed : PutCall → Prop
  | .put .. => True
  | .putExisting info .. => toLower (trimSpace info.attachmentClass) ∈ ["", "image", "file"]

def Counts (info : AttachmentMeta) : Prop := ∃ c : AttachmentClass, classText info = c.text

def AllCount (s : AttachmentStore) : Prop :=
  ∀ (id : String) info, s.items[id]? = some info → Counts info

theorem normalizedClass_eq_of_counts {c : AttachmentClass} (h : classText info = c.text) :
    normalizedClass info = c := by
  unfold normalizedClass
  rw [h]
  cases c with
  | image => rfl
  | file => rfl

theorem AllCount.usage (h : s.AllCount) (c : AttachmentClass) :
    s.usageByClass c.text = s.usageExcluding c fun _ => false := by
  have hall : (s.items.filter fun _ _ => !false) = s.items :=
    map_ext fun id => (get_filter _ _ id).trans (if_pos rfl)
  unfold usageByClass usageExcluding
  rw [hall, toLower_trimSpace_text]
  refine congrArg int64 (sumBy_congr fun id info hinfo => ?_)
  obtain ⟨d, hd⟩ := h id info hinfo
  rw [hd, normalizedClass_eq_of_counts hd]
  exact if_congr ⟨text_inj, congrArg _⟩ rfl rfl

theorem counts_completeMeta (data : Bytes) (now : Time)
    (h : toLower (trimSpace info.attachmentClass) ∈ ["", "image", "file"]) :
    Counts (completeMeta info data now) := by
  by_cases hblank : trimSpace info.attachmentClass = ""
  · exact ⟨_, classText_of_text (if_pos hblank)⟩
  · simp only [Counts, classText, completeMeta, if_neg hblank]
    split
    · exact ⟨_, rfl⟩
    · rename_i hclass
      rcases List.mem_cons.mp h with hnone | h
      · exact absurd hnone hclass
      · rcases List.mem_pair.mp h with himage | hfile
        · exact ⟨.image, himage⟩
        · exact ⟨.file, hfile⟩

theorem AllCount.putWithin (h : s.AllCount) (hinfo : Counts info) (data : Bytes)
    (removeAgain : Bool) (fs : FileSystem) : (s.putWithin info data removeAgain fs).2.AllCount := by
  have hdelete : ∀ {ids deleted t}, s.deleteIDs ids fs = (deleted, t) → t.AllCount := by
    intro ids deleted t ht id info hget
    by_cases hid : id ∈ ids
    · rw [deleteIDs_eq s (List.ne_nil_of_mem hid)] at ht
      grind [without, AllCount]
    · exact h id info (by rwa [← get_deleteIDs hid, ht])
  have hinsert : ∀ {t : AttachmentStore}, t.AllCount → ∀ (id : String) info',
      (t.items.insert info.id info)[id]? = some info' → Counts info' := by
    intro t ht id info' hget
    rw [get_insert] at hget
    split at hget
    · exact Option.some.inj hget ▸ hinfo
    · exact ht id info' hget
  have hputting := s.putWithin_putting info data removeAgain fs
  generalize s.putWithin info data removeAgain fs = r at hputting ⊢
  cases hputting with
  | rejected e => exact h
  | stuck toDelete t _ ht => exact hdelete ht
  | full toDelete t _ ht => exact hdelete ht
  | within toDelete t _ ht =>
    have ht' : t.AllCount := hdelete ht
    have hstoring := t.putData_storing info data removeAgain fs
    generalize t.putData info data removeAgain fs = r at hstoring ⊢
    cases hstoring with
    | unsaved | inMemory | stored => exact hinsert ht'
    | untouched | cutOff | unindexed => exact ht'

theorem AllCount.putCall (h : s.AllCount) (c : PutCall) (hc : c.Classed) :
    (s.putCall c).AllCount := by
  cases c with
  | put name mimeType data newID now fs =>
    simp only [AttachmentStore.putCall]
    by_cases hdata : data = []
    · simpa only [AttachmentStore.put, if_pos hdata] using h
    · cases newID with
      | none => simpa only [AttachmentStore.put, if_neg hdata] using h
      | some id =>
        have hcounts : Counts (newMeta id name mimeType data now) :=
          ⟨_, classText_of_text (c := classifyAttachmentMime
            (newMeta id name mimeType data now).mimeType) (by simp only [newMeta])⟩
        rw [put_some hdata]
        dsimp only
        exact h.putWithin hcounts data true fs
  | putExisting info data now fs =>
    simp only [AttachmentStore.putCall, putExisting]
    split
    · exact h
    · split
      · exact h
      · exact h.putWithin (counts_completeMeta data now hc) data false fs

/--
**What is stored counts against a quota**, where no entry comes with a class of its own: after any
calls of `Put` and `PutExisting` every item counts in exactly one class, and the admission check
and the garbage collector see the same usage.
-/
theorem puts_counted (hempty : s.items = ∅) (calls : List PutCall)
    (hclassed : ∀ c ∈ calls, c.Classed) :
    let t := run putCall s calls
    (∀ (id : String) info, t.items[id]? = some info →
        ∃! c : AttachmentClass, classText info = c.text) ∧
      ∀ c : AttachmentClass, t.usageByClass c.text = t.usageExcluding c fun _ => false := by
  intro t
  have hstart : s.AllCount := fun id info hget => absurd hget (by simp [hempty])
  have hall : t.AllCount := along_run (I := AllCount) (fun _ c ht hc => ht.putCall c hc) hstart
    (along_of_forall (fun _ c hc => hclassed c hc) s)
  refine ⟨fun id info hget => ?_, hall.usage⟩
  obtain ⟨c, hc⟩ := hall id info hget
  exact ⟨c, hc, fun d hd => text_inj (hd.symm.trans hc)⟩

end

def clip (attachmentClass : String) : AttachmentMeta :=
  { id := "att1_a", name := "", mimeType := "video/mp4", attachmentClass := attachmentClass
    lastAccessAt := 1, pinState := "", size := 3, createdAt := 1 }

/-- A peer's clip, a picture, and the clip once more. -/
theorem clip_counted :
    letI := asciiLowerCase
    let t := run putCall emptyImages [.putExisting (clip " File") [1, 2, 3] 1 .working,
      .put "b" "image/png" [4, 5] (some "att1_b") 2 .working,
      .putExisting (clip "file") [1, 2, 3] 3 .working]
    t.items.keys = ["att1_a", "att1_b"] ∧ t.usageByClass "file" = 3 ∧
      t.usageByClass "file" = t.usageExcluding .file fun _ => false := by
  let _ := asciiLowerCase
  exact ⟨by decide +kernel, by decide +kernel,
    (puts_counted rfl _ (by simp [PutCall.Classed]; decide)).2 .file⟩

/-- A peer's class is neither of the two: the clip is stored, and counts for the garbage collector
alone. -/
theorem video_not_counted :
    letI := asciiLowerCase
    let t := run putCall emptyImages [.putExisting (clip "video") [1, 2, 3] 1 .working]
    t.items.keys = ["att1_a"] ∧ t.usageByClass "image" = 0 ∧ t.usageByClass "file" = 0 ∧
      t.usageExcluding .file (fun _ => false) = 3 := by
  decide +kernel

end AttachmentStore

end Ardents.Attachments
