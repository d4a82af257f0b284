import Ardents.Messaging.FileStore

/-!
# Saving a message again

`SaveMessage` of a message that is there already returns no error where `messagesEqual` says so.
-/

namespace Ardents.Messaging

open Go

theorem normalizeMessageConversation_threadID (msg : Message) :
    (normalizeMessageConversation msg).threadID = trimSpace msg.threadID := by
  unfold normalizeMessageConversation
  dsimp only
  split
  · rfl
  · rfl

theorem eq_normalize_iff_of_messagesEqual {stored msg : Message}
    (hnormal : normalizeMessageConversation stored = stored) (h : messagesEqual stored msg = true) :
    stored = normalizeMessageConversation msg ↔ stored.threadID = trimSpace msg.threadID := by
  rw [messagesEqual_iff, hnormal] at h
  rw [← normalizeMessageConversation_threadID]
  refine ⟨congrArg Message.threadID, fun hthread => ?_⟩
  calc stored = { { stored with threadID := "" } with threadID := stored.threadID } := rfl
    _ = { { normalizeMessageConversation msg with threadID := "" } with
          threadID := (normalizeMessageConversation msg).threadID } := by rw [h, hthread]
    _ = normalizeMessageConversation msg := rfl

namespace FileMessageStore

variable {ι : Type} {codec : SnapshotCodec ι} {s : FileMessageStore ι}

def Normal (s : FileMessageStore ι) : Prop :=
  ∀ (id : String) (m : Message), s.memory.messages[id]? = some m →
    normalizeMessageConversation m = m

theorem normal_openStore {path : String} {file : Option ι} {written : Bool}
    (h : openStore codec path file written = .ok s) : s.Normal := by
  by_cases hpath : path = ""
  · -- a store without a path starts empty
    simp only [openStore, hpath, if_true] at h
    obtain rfl := Except.ok.inj h
    exact fun id m hm => absurd hm (by simp [MessageStore.empty])
  · exact (durable_openStore hpath h).normal

theorem Normal.run (h : s.Normal) (requests : List Request) :
    (Go.run (step codec) s requests).Normal :=
  run_inv (fun s r hs id => (s.step_fate codec r id).normal (hs id)) h requests

/--
**A saved message is what is stored, but for its thread.** A store opened on any file, after any
requests: a save that returns no error leaves the normalised message stored if and only if no
message with that id was stored in another thread; one that reports a conflict finds a message
that differs.
-/
theorem saved_iff_same_thread {path : String} {file : Option ι} {written : Bool}
    (hopen : openStore codec path file written = .ok s) (requests : List Request)
    (msg : Message) (taken : Bool) :
    let before := Go.run (step codec) s requests
    let after := before.call codec (.saveMessage msg) taken
    (after.1 = .ok () →
        (after.2.memory.messages[msg.id]? = some (normalizeMessageConversation msg) ↔
          ∀ stored, before.memory.messages[msg.id]? = some stored →
            stored.threadID = trimSpace msg.threadID)) ∧
      (after.1 = .error .messageIDConflict →
        ∃ stored, after.2.memory.messages[msg.id]? = some stored ∧
          stored ≠ normalizeMessageConversation msg) := by
  intro before after
  have hnormal : before.Normal := (normal_openStore hopen).run requests
  obtain ⟨hresult, hmemory⟩ := before.call_eq codec (.saveMessage msg) taken
  rw [show after.1 = _ from hresult, show after.2.memory = _ from hmemory]
  simp only [MessageOp.apply]
  rcases before.memory.saveMessage_cases msg (taken || !before.Writes) with
    ⟨stored, hget, hsave⟩ | ⟨hnone, hsave⟩
  · rw [hsave]
    split
    · rename_i hequal
      have hiff := eq_normalize_iff_of_messagesEqual (hnormal _ _ hget) hequal
      simp [Except.map, recorded, hget, hiff]
    · rename_i hdiffers
      refine ⟨fun h => absurd h (by simp [Except.map]), fun _ => ⟨stored, hget, ?_⟩⟩
      rintro rfl
      exact hdiffers (by simp [messagesEqual_self])
  · rw [hsave]
    cases taken || !before.Writes with
    | false => simp [MessageStore.commit, Except.map]
    | true => simp [MessageStore.commit, Except.map, recorded, hnone]

theorem note_resaved : ∃ s, openStore plainSnapshots "" none true = .ok s ∧
      let before := Go.run (step plainSnapshots) s [.call (.saveMessage note) true]
      let after := before.call plainSnapshots (.saveMessage note) true
      after.1 = .ok () ∧
        after.2.memory.messages["m"]? = some (normalizeMessageConversation note) := by
  have hsaved : ∀ stored, some (normalizeMessageConversation note) = some stored →
      stored.threadID = trimSpace note.threadID := by
    rintro _ ⟨⟩
    decide
  have hopen : openStore plainSnapshots "" none true = .ok ⟨"", true, .empty, none⟩ := rfl
  exact ⟨_, hopen, by decide,
    ((saved_iff_same_thread hopen [.call (.saveMessage note) true] note true).1
      (by decide)).mpr hsaved⟩

/-- The note is stored outside any thread. Saving it in a thread succeeds, and leaves it where it
was. -/
theorem note_not_moved : ∃ s, openStore plainSnapshots "" none true = .ok s ∧
      let moved := { note with threadID := "t1" }
      let before := Go.run (step plainSnapshots) s [.call (.saveMessage note) true]
      let after := before.call plainSnapshots (.saveMessage moved) true
      after.1 = .ok () ∧
        after.2.memory.messages["m"]? ≠ some (normalizeMessageConversation moved) :=
  ⟨_, rfl, by decide, by decide⟩

end FileMessageStore

end Ardents.Messaging
