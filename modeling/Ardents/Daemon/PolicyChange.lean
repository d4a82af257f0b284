import Ardents.Daemon.Service

/-!
# A change of policy that is refused

`UpdateStoragePolicy` can fail in three places. Arguments that do not parse are refused before
anything happens. If a wipe fails, what it did get rid of stays gone and the new toggles stay set.
If the settings cannot be written, the policy of before is applied again, which brings back
nothing that was wiped.
-/

namespace Ardents.Daemon

open Go
open Privacy (StoragePolicy PolicyArguments normalizeStoragePolicy parseStoragePolicy retentionOf
  defaultPrivacySettings)

variable {δ γ β : Type} [DecidableEq δ]

structure Stores.NothingToWipe (removed : δ → ContentFile → Bool) (s : Stores δ γ β) : Prop where
  memory : ∀ f, s.memory f = f.empty
  disk : ∀ f d, s.dir f = some d → removed d f = true → s.disk d f = f.empty

namespace Service

variable {removed removedAgain : δ → ContentFile → Bool} {s s' s'' : Service δ γ β}
  {policy previous : StoragePolicy}

structure Unchanged (s s' : Service δ γ β) : Prop where
  memory : s'.memory = s.memory
  disk : s'.disk = s.disk
  persist : s'.persist = s.persist
  limits : s'.limits = s.limits
  hardCap : s'.hardCap = s.hardCap
  privacy : s'.privacy = s.privacy

structure InForce (s : Service δ γ β) (policy : StoragePolicy) : Prop where
  persist : ∀ f : ContentFile, f.hasFlag = true →
    s.persist f = decide (retentionOf policy ≠ .zeroRetention)
  limits : s.limits = classLimits (normalizeStoragePolicy policy)
  hardCap : s.hardCap = hardCapPolicy s.nodePreset

/-! ## Applying a policy -/

theorem Applied.content_iff (h : Applied removed policy s s') :
    (s'.memory = s.memory ∧ s'.disk = s.disk) ↔
      (retentionOf policy = .zeroRetention → s.toStores.NothingToWipe removed) := by
  constructor
  · rintro ⟨hmemory, hdisk⟩ hzero
    refine ⟨fun f => ?_, fun f d hdir hremoved => ?_⟩
    · have hf := h.memory f
      rwa [hmemory, if_pos hzero] at hf
    · have hf := h.disk d f
      rwa [hdisk, if_pos ⟨hzero, hdir, hremoved⟩] at hf
  · intro hnothing
    refine ⟨funext fun f => ?_, funext fun d => funext fun f => ?_⟩
    · rw [h.memory f]
      split
      · rename_i hzero
        exact ((hnothing hzero).memory f).symm
      · rfl
    · rw [h.disk d f]
      split
      · rename_i hwiped
        exact ((hnothing hwiped.1).disk f d hwiped.2.1 hwiped.2.2).symm
      · rfl

theorem Applied.toggles_iff (h : Applied removed policy s s') :
    (s'.persist = s.persist ∧ s'.limits = s.limits ∧ s'.hardCap = s.hardCap) ↔
      s.InForce policy := by
  constructor
  · rintro ⟨hpersist, hlimits, hhardCap⟩
    refine ⟨fun f hflag => ?_, hlimits.symm.trans h.limits, hhardCap.symm.trans h.hardCap⟩
    rw [← hpersist, h.persist f, if_pos hflag]
  · intro hforce
    grind [cases Applied, cases InForce]

theorem Applied.unchanged_iff (h : Applied removed policy s s') : Unchanged s s' ↔
      (retentionOf policy = .zeroRetention → s.toStores.NothingToWipe removed) ∧
        s.InForce policy := by
  rw [← h.content_iff, ← h.toggles_iff]
  constructor
  · intro hsame
    exact ⟨⟨hsame.memory, hsame.disk⟩, hsame.persist, hsame.limits, hsame.hardCap⟩
  · rintro ⟨⟨hmemory, hdisk⟩, hpersist, hlimits, hhardCap⟩
    exact ⟨hmemory, hdisk, hpersist, hlimits, hhardCap, h.privacy⟩

/-! ## Applying a policy and the one of before -/

theorem Applied.content_twice_iff (h : Applied removed policy s s')
    (h' : Applied removedAgain previous s' s'') : (s''.memory = s.memory ∧ s''.disk = s.disk) ↔
      (retentionOf policy = .zeroRetention → s.toStores.NothingToWipe removed) ∧
        (retentionOf previous = .zeroRetention → s.toStores.NothingToWipe removedAgain) := by
  constructor
  · rintro ⟨hmemory, hdisk⟩
    -- what the first policy wiped, the second cannot bring back
    have hfirst : retentionOf policy = .zeroRetention → s.toStores.NothingToWipe removed := by
      intro hzero
      refine ⟨fun f => ?_, fun f d hdir hremoved => ?_⟩
      · rw [← hmemory, h'.memory f, h.memory f, if_pos hzero, ite_self]
      · have hwiped : s'.disk d f = f.empty := by
          rw [h.disk d f, if_pos ⟨hzero, hdir, hremoved⟩]
        rw [← hdisk, h'.disk d f, hwiped, ite_self]
    obtain ⟨hmemory', hdisk'⟩ := h.content_iff.mpr hfirst
    refine ⟨hfirst, fun hzero => ?_⟩
    have hnothing := h'.content_iff.mp
      ⟨hmemory.trans hmemory'.symm, hdisk.trans hdisk'.symm⟩ hzero
    refine ⟨fun f => ?_, fun f d hdir hremoved => ?_⟩
    · rw [← hmemory']
      exact hnothing.memory f
    · rw [← hdisk']
      exact hnothing.disk f d (by rw [h.dir]; exact hdir) hremoved
  · rintro ⟨hfirst, hsecond⟩
    obtain ⟨hmemory, hdisk⟩ := h.content_iff.mpr hfirst
    have hnothing : retentionOf previous = .zeroRetention →
        s'.toStores.NothingToWipe removedAgain := by
      intro hzero
      refine ⟨fun f => ?_, fun f d hdir hremoved => ?_⟩
      · rw [hmemory]
        exact (hsecond hzero).memory f
      · rw [hdisk]
        exact (hsecond hzero).disk f d (by rw [← h.dir]; exact hdir) hremoved
    grind [content_iff]

theorem Applied.toggles_twice_iff (h : Applied removed policy s s')
    (h' : Applied removedAgain previous s' s'') :
    (s''.persist = s.persist ∧ s''.limits = s.limits ∧ s''.hardCap = s.hardCap) ↔
      s.InForce previous := by
  have hdirect : Applied removedAgain previous
      { s with memory := s'.memory, disk := s'.disk } s'' :=
    { memory := h'.memory
      disk := fun d f => by rw [h'.disk d f, h.dir]
      persist := fun f => by
        rw [h'.persist f, h.persist f]
        split
        · rfl
        · rfl
      limits := h'.limits
      hardCap := by rw [h'.hardCap, h.nodePreset]
      dir := h'.dir.trans h.dir
      nodePreset := h'.nodePreset.trans h.nodePreset
      privacy := h'.privacy.trans h.privacy }
  constructor
  · intro htoggles
    obtain ⟨hpersist, hlimits, hhardCap⟩ := hdirect.toggles_iff.mp htoggles
    exact ⟨hpersist, hlimits, hhardCap⟩
  · rintro ⟨hpersist, hlimits, hhardCap⟩
    exact hdirect.toggles_iff.mpr ⟨hpersist, hlimits, hhardCap⟩

theorem Applied.unchanged_twice_iff (h : Applied removed policy s s')
    (h' : Applied removedAgain previous s' s'') : Unchanged s s'' ↔
      ((retentionOf policy = .zeroRetention → s.toStores.NothingToWipe removed) ∧
        (retentionOf previous = .zeroRetention → s.toStores.NothingToWipe removedAgain)) ∧
        s.InForce previous := by
  rw [← h.content_twice_iff h', ← h.toggles_twice_iff h']
  constructor
  · intro hsame
    exact ⟨⟨hsame.memory, hsame.disk⟩, hsame.persist, hsame.limits, hsame.hardCap⟩
  · rintro ⟨⟨hmemory, hdisk⟩, hpersist, hlimits, hhardCap⟩
    exact ⟨hmemory, hdisk, hpersist, hlimits, hhardCap, h'.privacy.trans h.privacy⟩

/-! ## A refused change -/

/-- Neither the change nor its rollback finds anything to wipe, and the toggles at the end are
those of the beginning. After a wipe that failed nothing is rolled back. -/
def Spared (C : PolicyCourse δ) (s : Service δ γ β) (args : PolicyArguments) : Prop :=
  ∀ policy, parseStoragePolicy args = .ok policy →
    (retentionOf policy = .zeroRetention → s.toStores.NothingToWipe C.removed) ∧
      (s.WipeFails C.removed policy → s.InForce policy) ∧
      (¬s.WipeFails C.removed policy →
        (retentionOf s.privacy = .zeroRetention → s.toStores.NothingToWipe C.removedAgain) ∧
          s.InForce s.privacy)

/-- A change of policy that is refused leaves the content of the stores and the policy in force
as they were, exactly if it is spared. -/
theorem refused_change_unchanged_iff {C : PolicyCourse δ} {args : PolicyArguments}
    {e : ServiceError} (h : (s.updateStoragePolicy C args).1 = .error e) :
    Unchanged s (s.updateStoragePolicy C args).2 ↔ s.Spared C args := by
  unfold Spared
  have hupdated := updateStoragePolicy_updated C s args
  generalize s.updateStoragePolicy C args = r at h hupdated ⊢
  cases hupdated with
  | refused e hparse =>
    -- nothing has happened yet
    refine ⟨fun _ policy hok => ?_, fun _ => ⟨rfl, rfl, rfl, rfl, rfl, rfl⟩⟩
    rw [hparse] at hok
    exact nomatch hok
  | notWiped policy s' hparse happlied hwipe =>
    rw [happlied.unchanged_iff, hparse]
    simp_all
  | written policy s' hparse happlied hwipe hpersisted => exact nomatch h
  | rolledBack policy s' s'' hparse happlied hwipe hpersisted hagain =>
    rw [happlied.unchanged_twice_iff hagain, hparse]
    grind

/-! ## Settings that cannot be written -/

def oneMessage : Messaging.Message :=
  { id := "m", contactID := "aim1bob", conversationID := "aim1bob", conversationType := .direct
    threadID := "", content := [104, 105], timestamp := 0, direction := .inbound
    status := .delivered, contentType := .text, edited := false }

def withMessage : Service Unit Unit Unit where
  disk _ f := f.empty
  dir _ := some ()
  memory
    | .messages => { Messaging.MessageStore.empty with
        messages := (∅ : GoMap String Messaging.Message).insert "m" oneMessage }
    | f => f.empty
  persist _ := true
  privacy := defaultPrivacySettings
  limits := classLimits defaultPrivacySettings
  hardCap := hardCapPolicy (buildBlobNodePresetConfig .assist)
  nodePreset := buildBlobNodePresetConfig .assist
  replicationMode := .onDemand
  blobFlags := ⟨true, true, 100⟩
  nodePolicies := Privacy.defaultNodePolicies

def notPersisted : PolicyCourse Unit := ⟨fun _ _ => true, false, fun _ _ => true⟩

def argumentsFor (retention : String) : PolicyArguments :=
  ⟨"standard", retention, 0, 0, 0, 0, 0, 0, 0⟩

/-- A change to ephemeral messages that cannot be written has no effect. -/
theorem refused_ephemeral_unchanged :
    (withMessage.updateStoragePolicy notPersisted (argumentsFor "ephemeral")).1 = .error .storage ∧
      Unchanged withMessage
        (withMessage.updateStoragePolicy notPersisted (argumentsFor "ephemeral")).2 := by
  have hrefused : (withMessage.updateStoragePolicy notPersisted (argumentsFor "ephemeral")).1 =
      .error .storage := by decide
  refine ⟨hrefused, (refused_change_unchanged_iff hrefused).mpr fun policy hparse => ?_⟩
  have hretained : retentionOf policy ≠ .zeroRetention := by
    have hmode := Privacy.retentionOf_parseStoragePolicy hparse
    intro hzero
    rw [hzero] at hmode
    exact absurd hmode (by decide)
  have hforce : withMessage.InForce withMessage.privacy := ⟨fun _ _ => rfl, rfl, rfl⟩
  refine ⟨fun hzero => absurd hzero hretained, fun hwipe => absurd hwipe.1 hretained,
    fun _ => ⟨fun hzero => absurd hzero (by decide), hforce⟩⟩

/-- A change to zero retention that cannot be written is refused, the settings still say that
messages are kept, and the message is gone. -/
theorem refused_change_loses_message :
    (withMessage.updateStoragePolicy notPersisted (argumentsFor "zero_retention")).1 =
        .error .storage ∧
      (withMessage.updateStoragePolicy notPersisted (argumentsFor "zero_retention")).2.privacy =
        withMessage.privacy ∧ (withMessage.memory .messages).messages["m"]? = some oneMessage ∧
      ((withMessage.updateStoragePolicy notPersisted
        (argumentsFor "zero_retention")).2.memory .messages).messages["m"]? = none := by
  refine ⟨by decide, by decide, by decide, by decide⟩

end Service

end Ardents.Daemon
