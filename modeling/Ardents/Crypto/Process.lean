import Ardents.Go.Heap
import Ardents.Crypto.KeysBounded

/-!
# Sessions that share their maps

A `SessionState` holds its skipped keys by reference. The in-memory stores return the struct they
keep, so what `Decrypt` writes into the map is stored at once. A persisting file store decodes a
fresh map on every `Get`.
-/

namespace Ardents.Crypto

open Go
open Heap

/-! ## The manager over the stores as they are -/

/-- A session as Go passes it around: its map by reference, nil if `none`. -/
abbrev StoredSession : Type := SessionRecord (Option Ref)

inductive ProvidedStore (ι : Type) where
  | inMemory (sessions : GoMap String StoredSession)
  | file (s : FileSessionStore (Option Ref) ι)

structure Process (ι : Type) where
  heap : Heap SkippedKeys
  store : ProvidedStore ι

/-- How the file system treats one call: whether each read succeeds, and what the
path holds after a write that failed. -/
structure StoreIO (ι : Type) where
  getReads : Bool
  saveReads : Bool
  failedWrite : Option (Option ι)

def deref (h : Heap SkippedKeys) (st : StoredSession) : SessionState :=
  st.withKeys ((st.skippedKeys.bind h.read).getD ∅)

open Process

section

variable {ι : Type} (P : Primitives) (codec : SessionCodec ι)

def Process.get (w : Process ι) (reads : Bool) (contactID : String) :
    Process ι × Except SessionError (Option StoredSession) :=
  match w.store with
  | .inMemory sessions => (w, .ok sessions[contactID]?)
  | .file s =>
    if s.persist = false then (w, .ok s.sessions[contactID]?)
    else if reads = false then (w, .error .storage)
    else
      match s.loadAll codec with
      | .error e => (w, .error e)
      | .ok all =>
        match all[contactID]? with
        | none => (w, .ok none)
        | some st =>
          -- decoding makes a map of its own
          let cell := w.heap.alloc st.skippedKeys
          ({ w with heap := cell.2 }, .ok (some (st.withKeys (some cell.1))))

def Process.save (w : Process ι) (io : StoreIO ι) (st : StoredSession) :
    Process ι × Except SessionError Unit :=
  match w.store with
  | .inMemory sessions =>
    ({ w with store := .inMemory (sessions.insert st.contactID st) }, .ok ())
  | .file s =>
    if s.persist = false then
      ({ w with store := .file { s with sessions := s.sessions.insert st.contactID st } }, .ok ())
    else if io.saveReads = false then (w, .error .storage)
    else
      match s.loadAll codec with
      | .error e => (w, .error e)
      | .ok all =>
        match io.failedWrite with
        | some left => ({ w with store := .file { s with file := left } }, .error .storage)
        | none =>
          let data := codec.encode (all.insert st.contactID (deref w.heap st))
          ({ w with store := .file { s with file := some data } }, .ok ())

/-- What a later `Get` returns, map contents included. -/
def Process.view (w : Process ι) (contactID : String) : Except SessionError (Option SessionState) :=
  let r := w.get codec true contactID
  r.2.map (Option.map (deref r.1.heap))

def Process.initSession (w : Process ι) (localIdentityID contactID : String)
    (peerPublicKey : Bytes) (now : Time) (io : StoreIO ι) : Process ι × Except SessionError Unit :=
  match checkInitSession contactID peerPublicKey with
  | .error e => (w, .error e)
  | .ok () =>
    let cell := w.heap.alloc ∅
    { w with heap := cell.2 }.save codec io
      (newSession P localIdentityID contactID peerPublicKey (some cell.1) now)

def Process.encrypt (w : Process ι) (contactID : String) (plaintext : Bytes)
    (inp : EncryptInputs) (io : StoreIO ι) : Process ι × Except SessionError MessageEnvelope :=
  match w.get codec io.getReads contactID with
  | (w, .error e) => (w, .error e)
  | (w, .ok none) => (w, .error .sessionNotFound)
  | (w, .ok (some st)) =>
    match encryptState P st plaintext inp with
    | .error e => (w, .error e)
    | .ok (st', env) =>
      match w.save codec io st' with
      | (w, .error e) => (w, .error e)
      | (w, .ok ()) => (w, .ok env)

/-- The map `Decrypt` works on: the session's own, or a new one if it has none. -/
def keysRef (h : Heap SkippedKeys) (st : StoredSession) : Ref × Heap SkippedKeys :=
  match st.skippedKeys with
  | some r => (r, h)
  | none => h.alloc ∅

def Process.decrypt (w : Process ι) (contactID : String) (env : MessageEnvelope) (now : Time)
    (io : StoreIO ι) : Process ι × Except SessionError Bytes :=
  match validateEnvelope env with
  | .error e => (w, .error e)
  | .ok () =>
    match w.get codec io.getReads contactID with
    | (w, .error e) => (w, .error e)
    | (w, .ok none) => (w, .error .sessionNotFound)
    | (w, .ok (some st)) =>
      let cell := keysRef w.heap st
      let body := decryptState P (st.withKeys ((cell.2.read cell.1).getD ∅)) env now
      -- whatever the outcome, the map now holds what the body left in it
      let w := { w with heap := cell.2.write cell.1 body.1 }
      match body.2 with
      | .error e => (w, .error e)
      | .ok (st', plaintext) =>
        match w.save codec io (st'.withKeys (some cell.1)) with
        | (w, .error e) => (w, .error e)
        | (w, .ok ()) => (w, .ok plaintext)

/-- `SessionManager.SetPersistenceEnabled`: only the file store has the switch. -/
def Process.setPersistenceEnabled (w : Process ι) (enabled : Bool) : Process ι :=
  match w.store with
  | .inMemory _ => w
  | .file s => { w with store := .file (s.setPersistenceEnabled enabled) }

/-- One step of `RestoreSnapshot`: a session from a backup, decoded into a map of its own. -/
def Process.restore (w : Process ι) (st : SessionState) (io : StoreIO ι) :
    Process ι × Except SessionError Unit :=
  let cell := w.heap.alloc st.skippedKeys
  { w with heap := cell.2 }.save codec io (st.withKeys (some cell.1))

/-- A backup holds sessions of an earlier run, so what it restores is bounded. -/
inductive ManagerCall (ι : Type) where
  | initSession (localIdentityID contactID : String) (peerPublicKey : Bytes) (now : Time)
      (io : StoreIO ι)
  | encrypt (contactID : String) (plaintext : Bytes) (inp : EncryptInputs) (io : StoreIO ι)
  | decrypt (contactID : String) (env : MessageEnvelope) (now : Time) (io : StoreIO ι)
  | restore (st : SessionState) (bounded : KeysBounded st.recvChainIndex st.skippedKeys)
      (io : StoreIO ι)
  | setPersistenceEnabled (enabled : Bool)

def Process.call (w : Process ι) : ManagerCall ι → Process ι
  | .initSession localID contactID key now io =>
    (w.initSession P codec localID contactID key now io).1
  | .encrypt contactID plaintext inp io => (w.encrypt P codec contactID plaintext inp io).1
  | .decrypt contactID env now io => (w.decrypt P codec contactID env now io).1
  | .restore st _ io => (w.restore codec st io).1
  | .setPersistenceEnabled enabled => w.setPersistenceEnabled enabled

/-- A process that has just built its store; a file store may find a file at its path. -/
inductive Process.Started : Process ι → Prop
  | inMemory : Started ⟨Heap.empty, .inMemory ∅⟩
  | file (image : Option ι) :
      Started ⟨Heap.empty, .file { persist := true, sessions := ∅, file := image }⟩

/-! ## The two kinds of store -/

variable {P codec}

def ProvidedStore.memory : ProvidedStore ι → GoMap String StoredSession
  | .inMemory sessions => sessions
  | .file s => s.sessions

variable (s : ProvidedStore ι)

def ProvidedStore.setMemory (m : GoMap String StoredSession) : ProvidedStore ι :=
  match s with
  | .inMemory _ => .inMemory m
  | .file s => .file { s with sessions := m }

/-- `Save` and `Get` go through the file. -/
def ProvidedStore.persisting : ProvidedStore ι → Bool
  | .inMemory _ => false
  | .file s => s.persist

def Process.withFile (w : Process ι) (image : Option ι) : Process ι :=
  match w.store with
  | .inMemory _ => w
  | .file s => { w with store := .file { s with file := image } }

@[simp] theorem ProvidedStore.memory_setMemory
    (m : GoMap String StoredSession) : (s.setMemory m).memory = m := by
  cases s <;> rfl

@[simp] theorem ProvidedStore.persisting_setMemory
    (m : GoMap String StoredSession) : (s.setMemory m).persisting = s.persisting := by
  cases s <;> rfl

theorem ProvidedStore.setMemory_memory : s.setMemory s.memory = s := by
  cases s <;> rfl

variable {w : Process ι} {io : StoreIO ι}

theorem Process.get_aliasing (hp : w.store.persisting = false) (reads : Bool) (c : String) :
    w.get codec reads c = (w, .ok w.store.memory[c]?) := by
  obtain ⟨heap, store⟩ := w
  cases store with
  | inMemory sessions => rfl
  | file s =>
    exact if_pos hp

theorem Process.save_aliasing (w : Process ι) (hp : w.store.persisting = false)
    (st : StoredSession) : w.save codec io st
      = ({ w with store := w.store.setMemory (w.store.memory.insert st.contactID st) },
          .ok ()) := by
  obtain ⟨heap, store⟩ := w
  cases store with
  | inMemory sessions => rfl
  | file s =>
    exact if_pos hp

theorem Process.save_persisting (w : Process ι) (codec : SessionCodec ι) (io : StoreIO ι)
    (hp : w.store.persisting = true) (st : StoredSession) :
    (w.save codec io st).1.store.memory = w.store.memory ∧
      (w.save codec io st).1.heap = w.heap := by
  obtain ⟨heap, store⟩ := w
  cases store with
  | inMemory sessions => exact absurd hp (by simp [ProvidedStore.persisting])
  | file s =>
    have hs : ¬ s.persist = false := by rw [show s.persist = true from hp]; simp
    simp only [Process.save, if_neg hs]
    split
    · exact ⟨rfl, rfl⟩
    split
    · exact ⟨rfl, rfl⟩
    split
    · exact ⟨rfl, rfl⟩
    · exact ⟨rfl, rfl⟩

theorem Process.view_aliasing (hp : w.store.persisting = false) (c : String) :
    w.view codec c = .ok (w.store.memory[c]?.map (deref w.heap)) := by
  unfold Process.view
  rw [get_aliasing hp]
  rfl

theorem deref_alloc (h : Heap SkippedKeys) (st : SessionState) :
    deref (h.alloc st.skippedKeys).2 (st.withKeys (some (h.alloc st.skippedKeys).1)) = st := by
  show st.withKeys (((h.alloc st.skippedKeys).2.read (h.alloc st.skippedKeys).1).getD ∅) = st
  rw [read_alloc_self]
  rfl

theorem Process.view_persisting {heap : Heap SkippedKeys} {s : FileSessionStore (Option Ref) ι}
    (hp : s.persist = true) (c : String) :
    (Process.mk heap (.file s)).view codec c = (s.loadAll codec).map fun all => all[c]? := by
  simp only [Process.view, Process.get, hp, Bool.true_eq_false, if_false]
  cases s.loadAll codec with
  | error e => rfl
  | ok all =>
    cases hst : all[c]? with
    | none => simp [Except.map, hst]
    | some st => simp [Except.map, hst, deref_alloc]

/-! ## No two sessions in memory share a map -/

structure Process.Sound (w : Process ι) : Prop where
  /-- Every session in memory has a map, with keys close to its receive index. -/
  owned : ∀ (c : String) (st : StoredSession), w.store.memory[c]? = some st →
    ∃ r keys, st.skippedKeys = some r ∧ w.heap.read r = some keys ∧
      KeysBounded st.recvChainIndex keys
  /-- Different contacts have different maps. -/
  apart : ∀ (c c' : String) (st st' : StoredSession), w.store.memory[c]? = some st →
    w.store.memory[c']? = some st' → st.skippedKeys = st'.skippedKeys → c = c'
  keyed : Keyed w.store.memory

theorem Process.Started.sound (h : w.Started) : w.Sound := by
  have hempty : ∀ (c : String) (st : StoredSession),
      (∅ : GoMap String StoredSession)[c]? ≠ some st := by
    simp
  cases h with
  | inMemory | file =>
    exact ⟨fun c st hc => absurd hc (hempty c st),
      fun c _ st _ hc => absurd hc (hempty c st), keyed_empty⟩

theorem Process.Sound.frame (h : w.Sound) {w' : Process ι} (hm : w'.store.memory = w.store.memory)
    (hread : ∀ r, w.heap.Valid r → w'.heap.read r = w.heap.read r) : w'.Sound := by
  refine ⟨?_, ?_, ?_⟩
  · intro c st hc
    rw [hm] at hc
    obtain ⟨r, keys, hr, hk, hb⟩ := h.owned c st hc
    exact ⟨r, keys, hr, (hread r (valid_of_read hk)).trans hk, hb⟩
  · rw [hm]
    exact h.apart
  · rw [hm]
    exact h.keyed

variable {st : StoredSession} {keys : SkippedKeys}

theorem Process.Sound.replace (h : w.Sound) {w' : Process ι} {r : Ref}
    (hr : st.skippedKeys = some r) (hm : w'.store.memory = w.store.memory.insert st.contactID st)
    (hk : w'.heap.read r = some keys) (hb : KeysBounded st.recvChainIndex keys)
    (hown : ∀ (c : String) (st₁ : StoredSession), w.store.memory[c]? = some st₁ →
      st₁.skippedKeys = some r → c = st.contactID)
    (hread : ∀ q, w.heap.Valid q → q ≠ r → w'.heap.read q = w.heap.read q) : w'.Sound := by
  refine ⟨?_, ?_, ?_⟩
  · intro c st₁ hc
    rw [hm, get_insert] at hc
    split at hc
    · obtain rfl := Option.some.inj hc
      exact ⟨r, keys, hr, hk, hb⟩
    · rename_i hne
      obtain ⟨q, qkeys, hq, hqk, hqb⟩ := h.owned c st₁ hc
      refine ⟨q, qkeys, hq, (hread q (valid_of_read hqk) ?_).trans hqk, hqb⟩
      rintro rfl
      exact hne (hown c st₁ hc hq).symm
  · intro c c' st₁ st₂ h₁ h₂ heq
    rw [hm, get_insert] at h₁ h₂
    split at h₁
    · rename_i hc
      obtain rfl := Option.some.inj h₁
      split at h₂
      · rename_i hc'
        exact hc.symm.trans hc'
      · exact (hc.symm.trans (hown c' st₂ h₂ (heq.symm.trans hr)).symm)
    · split at h₂
      · rename_i hc'
        obtain rfl := Option.some.inj h₂
        exact (hown c st₁ h₁ (heq.trans hr)).trans hc'
      · exact h.apart c c' st₁ st₂ h₁ h₂ heq
  · rw [hm]
    exact keyed_insert h.keyed st

theorem Process.Sound.save_fresh (h : w.Sound) (hr : st.skippedKeys = some (w.heap.alloc keys).1)
    (hb : KeysBounded st.recvChainIndex keys) :
    (Process.save codec { w with heap := (w.heap.alloc keys).2 } io st).1.Sound := by
  cases hp : w.store.persisting with
  | false =>
    rw [save_aliasing { w with heap := (w.heap.alloc keys).2 } hp]
    refine h.replace hr (ProvidedStore.memory_setMemory _ _) (read_alloc_self _ _) hb ?_ ?_
    · intro c st₁ hc hst₁
      obtain ⟨q, qkeys, hq, hqk, -⟩ := h.owned c st₁ hc
      obtain rfl := Option.some.inj (hq.symm.trans hst₁)
      exact absurd rfl (ne_alloc (valid_of_read hqk) keys)
    · intro q hq _
      exact read_alloc_of_valid hq keys
  | true =>
    grind [save_persisting, frame, read_alloc_of_valid]

/-! ## `Decrypt` over each kind -/

theorem decryptState_fst_of_ok {st st' : SessionState} {env : MessageEnvelope} {now : Time}
    {plaintext : Bytes} (h : (decryptState P st env now).2 = .ok (st', plaintext)) :
    (decryptState P st env now).1 = st'.skippedKeys := by
  obtain ⟨ha, ⟨key, hk, hopen, rfl⟩ | ⟨hf, hopen, rfl⟩⟩ := decryptState_ok h
  · rw [decryptState_skipped ha hk, hopen]
  · rw [decryptState_forward ha hf, hopen]

variable {c : String} {env : MessageEnvelope} {now : Time}

theorem Process.decrypt_aliasing (hp : w.store.persisting = false)
    (hv : validateEnvelope env = .ok ()) {r : Ref}
    (hm : w.store.memory[c]? = some st) (hr : st.skippedKeys = some r)
    (hk : w.heap.read r = some keys) : w.decrypt P codec c env now io =
      match (decryptState P (st.withKeys keys) env now).2 with
      | .error e =>
        ({ w with heap := w.heap.write r (decryptState P (st.withKeys keys) env now).1 },
          .error e)
      | .ok (st', plaintext) =>
        ({ heap := w.heap.write r st'.skippedKeys
           store := w.store.setMemory
            (w.store.memory.insert st'.contactID (st'.withKeys (some r))) }, .ok plaintext) := by
  unfold Process.decrypt
  rw [hv, get_aliasing hp, hm]
  dsimp only
  rw [show keysRef w.heap st = (r, w.heap) by unfold keysRef; rw [hr]]
  dsimp only
  rw [hk, Option.getD_some]
  cases hbody : (decryptState P (st.withKeys keys) env now).2 with
  | error e => rfl
  | ok res =>
    obtain ⟨st', plaintext⟩ := res
    dsimp only
    rw [decryptState_fst_of_ok hbody,
      save_aliasing { w with heap := w.heap.write r st'.skippedKeys } hp]
    rfl

theorem Process.decrypt_persisting {heap : Heap SkippedKeys}
    {s : FileSessionStore (Option Ref) ι} (hp : s.persist = true)
    (hv : validateEnvelope env = .ok ()) :
    (Process.mk heap (.file s)).decrypt P codec c env now io =
      if io.getReads = false then (⟨heap, .file s⟩, .error .storage)
      else
        match s.loadAll codec with
        | .error e => (⟨heap, .file s⟩, .error e)
        | .ok all =>
          match all[c]? with
          | none => (⟨heap, .file s⟩, .error .sessionNotFound)
          | some st =>
            let cell := heap.alloc st.skippedKeys
            let heap' := cell.2.write cell.1 (decryptState P st env now).1
            match (decryptState P st env now).2 with
            | .error e => (⟨heap', .file s⟩, .error e)
            | .ok (st', plaintext) =>
              if io.saveReads = false then (⟨heap', .file s⟩, .error .storage)
              else
                match io.failedWrite with
                | some left => (⟨heap', .file { s with file := left }⟩, .error .storage)
                | none =>
                  let data := codec.encode (all.insert st'.contactID st')
                  (⟨heap', .file { s with file := some data }⟩, .ok plaintext) := by
  have hs : ¬ s.persist = false := by rw [hp]; simp
  simp only [Process.decrypt, hv, Process.get, if_neg hs]
  cases hreads : io.getReads with
  | false => rfl
  | true =>
    simp only [Bool.true_eq_false, if_false]
    cases hload : s.loadAll codec with
    | error e => rfl
    | ok all =>
      dsimp only
      cases hst : all[c]? with
      | none => rfl
      | some st =>
        dsimp only [keysRef, SessionRecord.withKeys]
        rw [read_alloc_self, Option.getD_some]
        cases hbody : (decryptState P st env now).2 with
        | error e => rfl
        | ok res =>
          obtain ⟨st', plaintext⟩ := res
          simp only [Process.save, if_neg hs, hload]
          cases io.saveReads with
          | false => rfl
          | true =>
            simp only [Bool.true_eq_false, if_false]
            cases io.failedWrite with
            | some left => rfl
            | none =>
              have hderef : deref ((heap.alloc st.skippedKeys).2.write
                  (heap.alloc st.skippedKeys).1 (decryptState P st env now).1)
                  (st'.withKeys (some (heap.alloc st.skippedKeys).1)) = st' := by
                show st'.withKeys ((Heap.read _ _).getD ∅) = st'
                rw [read_write_self (valid_alloc_self _ _),
                  decryptState_fst_of_ok hbody]
                rfl
              rw [← hderef]
              rfl

/-! ## The invariant over whole runs -/

theorem read_alloc_write {h : Heap SkippedKeys} (keys keys' : SkippedKeys) {q : Ref}
    (hq : h.Valid q) : ((h.alloc keys).2.write (h.alloc keys).1 keys').read q = h.read q := by
  rw [read_write_ne _ (ne_alloc hq keys).symm]
  exact read_alloc_of_valid hq keys

theorem Process.Sound.update (h : w.Sound) {r : Ref}
    (hm : w.store.memory[c]? = some st) (hr : st.skippedKeys = some r)
    (hk : w.heap.read r = some keys) {st' : StoredSession} (hr' : st'.skippedKeys = some r)
    (hc : st'.contactID = c) (keys' : SkippedKeys) (hb : KeysBounded st'.recvChainIndex keys') :
    (Process.mk (w.heap.write r keys')
      (w.store.setMemory (w.store.memory.insert st'.contactID st'))).Sound := by
  refine h.replace hr' (ProvidedStore.memory_setMemory _ _)
    (read_write_self (valid_of_read hk) _) hb ?_ ?_
  · intro c₁ st₁ hc₁ hst₁
    rw [hc]
    exact h.apart c₁ c st₁ st hc₁ hm (hst₁.trans hr.symm)
  · intro q _ hne
    exact read_write_ne _ (Ne.symm hne)

theorem Process.Sound.decrypt (h : w.Sound) : (w.decrypt P codec c env now io).1.Sound := by
  cases hv : validateEnvelope env with
  | error e =>
    simp only [Process.decrypt, hv]
    exact h
  | ok u =>
    cases hp : w.store.persisting with
    | false =>
      cases hm : w.store.memory[c]? with
      | none =>
        simp only [Process.decrypt, hv, get_aliasing hp, hm]
        exact h
      | some st =>
        obtain ⟨r, keys, hr, hk, hb⟩ := h.owned c st hm
        have hcid := h.keyed c st hm
        rw [decrypt_aliasing hp hv hm hr hk]
        split
        · rename_i e hbody
          -- the session stays, its map has what the failed call left
          have hs := h.update hm hr hk hr hcid _ (decryptState_error hb hbody).1
          rw [hcid, insert_eq_self hm, ProvidedStore.setMemory_memory] at hs
          exact hs
        · rename_i st' plaintext hbody
          have hr' : (st'.withKeys (some r)).skippedKeys = some r := rfl
          exact h.update hm hr hk hr' ((decryptState_contactID hbody).1.trans hcid) _
            (KeysBounded.decrypt_ok hb hbody)
    | true =>
      obtain ⟨heap, store⟩ := w
      cases store with
      | inMemory sessions => exact absurd hp (by simp [ProvidedStore.persisting])
      | file s =>
        rw [decrypt_persisting hp hv]
        split
        · exact h
        split
        · exact h
        split
        · exact h
        split
        · exact h.frame rfl fun q hq => read_alloc_write _ _ hq
        split
        · exact h.frame rfl fun q hq => read_alloc_write _ _ hq
        split
        · exact h.frame rfl fun q hq => read_alloc_write _ _ hq
        · exact h.frame rfl fun q hq => read_alloc_write _ _ hq

theorem Process.Sound.encrypt (h : w.Sound) {plaintext : Bytes} {inp : EncryptInputs} :
    (w.encrypt P codec c plaintext inp io).1.Sound := by
  simp only [Process.encrypt, encryptState_eq]
  cases hp : w.store.persisting with
  | false =>
    rw [get_aliasing hp]
    cases hm : w.store.memory[c]? with
    | none => exact h
    | some st =>
      obtain ⟨r, keys, hr, hk, hb⟩ := h.owned c st hm
      cases inp.nonce with
      | none => exact h
      | some nonce =>
        dsimp only
        rw [save_aliasing w hp]
        have hr' : (advanceSend P st inp.updatedAt).skippedKeys = some r := hr
        have hs := h.update hm hr hk hr' (h.keyed c st hm) keys hb
        rw [write_read hk] at hs
        exact hs
  | true =>
    obtain ⟨heap, store⟩ := w
    cases store with
    | inMemory sessions => exact absurd hp (by simp [ProvidedStore.persisting])
    | file s =>
      have hs : ¬ s.persist = false := by rw [show s.persist = true from hp]; simp
      simp only [Process.get, if_neg hs]
      cases io.getReads with
      | false => exact h
      | true =>
        simp only [Bool.true_eq_false, if_false]
        cases s.loadAll codec with
        | error e => exact h
        | ok all =>
          dsimp only
          cases all[c]? with
          | none => exact h
          | some st =>
            have hframe : (Process.mk (heap.alloc st.skippedKeys).2
                (.file s)).Sound :=
              h.frame rfl fun q hq => read_alloc_of_valid hq _
            cases inp.nonce with
            | none => exact hframe
            | some nonce =>
              dsimp only
              obtain ⟨hmem, hheap⟩ := save_persisting
                ⟨(heap.alloc st.skippedKeys).2, .file s⟩ codec io hp
                (advanceSend P (st.withKeys (some (heap.alloc st.skippedKeys).1))
                  inp.updatedAt)
              split
              · rename_i w' e hsave
                rw [hsave] at hmem hheap
                exact hframe.frame hmem fun q _ => by rw [hheap]
              · rename_i w' hsave
                rw [hsave] at hmem hheap
                exact hframe.frame hmem fun q _ => by rw [hheap]

theorem Process.Sound.call (h : w.Sound) (op : ManagerCall ι) : (w.call P codec op).Sound := by
  cases op with
  | initSession localID contactID key now io =>
    simp only [Process.call, initSession]
    split
    · exact h
    · exact h.save_fresh rfl (keysBounded_empty _)
  | encrypt contactID plaintext inp io => exact h.encrypt
  | decrypt contactID env now io => exact h.decrypt
  | restore st bounded io => exact h.save_fresh rfl bounded
  | setPersistenceEnabled enabled =>
    obtain ⟨heap, store⟩ := w
    cases store with
    | inMemory sessions => exact h
    | file s => exact h.frame rfl fun _ _ => rfl

theorem Process.Started.sound_run {start : Process ι} (h : start.Started)
    (ops : List (ManagerCall ι)) : (run (Process.call P codec) start ops).Sound :=
  run_inv (fun _ op hs => hs.call op) h.sound ops

end

end Ardents.Crypto
