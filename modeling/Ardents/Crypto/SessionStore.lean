import Ardents.Go.Run
import Ardents.Crypto.Session

/-!
# Where sessions are kept

`SessionStore` is the interface the session manager is written against, and `LawfulSessionStore`
what it relies on. The three ways the package offers to keep sessions, in memory, in a file, and
in a file store whose persistence is switched off, each satisfy it.
-/

namespace Ardents.Crypto

open Go

/-- The `SessionStore` interface, for sessions handled by value. -/
class SessionStore (σ : Type) where
  save : σ → SessionState → Except SessionError σ
  get : σ → String → Except SessionError (Option SessionState)

/-- A store that never fails and hands out copies. -/
class LawfulSessionStore (σ : Type) [SessionStore σ] : Prop where
  save_ok : ∀ (s : σ) (st : SessionState), ∃ s', SessionStore.save s st = .ok s'
  get_save : ∀ {s s' : σ} {st : SessionState} (c : String), SessionStore.save s st = .ok s' →
    SessionStore.get s' c = if st.contactID = c then .ok (some st) else SessionStore.get s c
  get_contactID : ∀ {s : σ} {c : String} {st : SessionState},
    SessionStore.get s c = .ok (some st) → st.contactID = c

theorem get_unique {σ : Type} [SessionStore σ] {s : σ} {c : String} {st st' : SessionState}
    (h : SessionStore.get s c = .ok (some st)) (h' : SessionStore.get s c = .ok (some st')) :
    st = st' :=
  Option.some.inj (Except.ok.inj (h.symm.trans h'))

def Keyed {K : Type} (m : GoMap String (SessionRecord K)) : Prop :=
  ∀ (c : String) (st : SessionRecord K), m[c]? = some st → st.contactID = c

theorem keyed_empty {K : Type} : Keyed (∅ : GoMap String (SessionRecord K)) := by
  intro c st h
  simp_all

theorem keyed_insert {K : Type} {m : GoMap String (SessionRecord K)} (h : Keyed m)
    (st : SessionRecord K) : Keyed (m.insert st.contactID st) := by
  intro c st' hst
  rw [get_insert] at hst
  split at hst
  · simp_all
  · exact h c st' hst

/-! ## In memory -/

/-- `InMemorySessionStore`. Its map is private and only `Save` writes it. -/
structure InMemorySessionStore where
  sessions : GoMap String SessionState
  keyed : Keyed sessions

instance : SessionStore InMemorySessionStore where
  save s st := .ok ⟨s.sessions.insert st.contactID st, keyed_insert s.keyed st⟩
  get s c := .ok s.sessions[c]?

instance : LawfulSessionStore InMemorySessionStore where
  save_ok s st := ⟨_, rfl⟩
  get_save := by
    intro s s' st c h
    obtain rfl := Except.ok.inj h
    show Except.ok _ = _
    rw [get_insert]
    split
    · rfl
    · rfl
  get_contactID := by
    intro s c st h
    exact s.keyed c st (Except.ok.inj h)

/-! ## In a file -/

/-- How the sessions become a file image: JSON, encrypted when a passphrase is set. -/
structure SessionCodec (ι : Type) where
  encode : GoMap String SessionState → ι
  decode : ι → Except SessionError (GoMap String SessionState)
  decode_encode : ∀ m, decode (encode m) = .ok m

/-- `FileSessionStore`, with what its path holds. -/
structure FileSessionStore (K ι : Type) where
  persist : Bool
  sessions : GoMap String (SessionRecord K)
  file : Option ι

namespace FileSessionStore

variable {ι : Type} (codec : SessionCodec ι)

def fresh {K : Type} : FileSessionStore K ι := { persist := true, sessions := ∅, file := none }

/-- `loadAllLocked`. -/
def loadAll {K : Type} (s : FileSessionStore K ι) :
    Except SessionError (GoMap String SessionState) :=
  match s.file with
  | none => .ok ∅
  | some data => codec.decode data

def save (s : FileSessionStore SkippedKeys ι) (st : SessionState) :
    Except SessionError (FileSessionStore SkippedKeys ι) :=
  if s.persist = false then .ok { s with sessions := s.sessions.insert st.contactID st }
  else
    match s.loadAll codec with
    | .error e => .error e
    | .ok all => .ok { s with file := some (codec.encode (all.insert st.contactID st)) }

def get (s : FileSessionStore SkippedKeys ι) (contactID : String) :
    Except SessionError (Option SessionState) :=
  if s.persist = false then .ok s.sessions[contactID]?
  else
    match s.loadAll codec with
    | .error e => .error e
    | .ok all => .ok all[contactID]?

def setPersistenceEnabled {K : Type} (s : FileSessionStore K ι) (enabled : Bool) :
    FileSessionStore K ι :=
  { s with persist := enabled }

/-- `Save` on a disk that may not take the write. -/
def saveWritten (s : FileSessionStore SkippedKeys ι) (st : SessionState) (written : Bool) :
    Except SessionError (FileSessionStore SkippedKeys ι) :=
  if s.persist ∧ ¬ written then .error .storage else s.save codec st

/-- The map whose values `All` returns. -/
def all (s : FileSessionStore SkippedKeys ι) : Except SessionError (GoMap String SessionState) :=
  if s.persist = false then .ok s.sessions else s.loadAll codec

/-- `Wipe`; the file stays where it cannot be removed. -/
def wipe {K : Type} (s : FileSessionStore K ι) (removed : Bool) : FileSessionStore K ι :=
  { s with sessions := ∅, file := if removed then none else s.file }

theorem save_all {s : FileSessionStore SkippedKeys ι} {codec : SessionCodec ι}
    {all : GoMap String SessionState} (h : s.all codec = .ok all) (st : SessionState) :
    ∃ s', s.save codec st = .ok s' ∧ s'.persist = s.persist ∧
      s'.all codec = .ok (all.insert st.contactID st) := by
  unfold FileSessionStore.all at h
  unfold FileSessionStore.save FileSessionStore.all
  cases hpersist : s.persist with
  | false =>
    simp_all
  | true =>
    rw [hpersist, if_neg (by simp)] at h
    refine ⟨{ s with file := some (codec.encode (all.insert st.contactID st)) }, ?_, hpersist, ?_⟩
    · simp [h, hpersist]
    · simp [hpersist, loadAll, codec.decode_encode]

end FileSessionStore

structure PersistedSessions {ι : Type} (codec : SessionCodec ι) where
  store : FileSessionStore SkippedKeys ι
  persist : store.persist = true
  readable : ∃ all, store.loadAll codec = .ok all ∧ Keyed all

structure VolatileSessions (ι : Type) where
  store : FileSessionStore SkippedKeys ι
  volatile : store.persist = false
  keyed : Keyed store.sessions

open FileSessionStore

section

variable {ι : Type} {codec : SessionCodec ι}

variable {s : FileSessionStore SkippedKeys ι}

theorem FileSessionStore.save_persisted
    {all : GoMap String SessionState} (hp : s.persist = true) (hl : s.loadAll codec = .ok all)
    (st : SessionState) :
    s.save codec st = .ok { s with file := some (codec.encode (all.insert st.contactID st)) } := by
  grind [FileSessionStore.save]

theorem FileSessionStore.save_volatile (hp : s.persist = false) (st : SessionState) :
    s.save codec st = .ok { s with sessions := s.sessions.insert st.contactID st } := by
  unfold FileSessionStore.save
  rw [if_pos hp]

theorem FileSessionStore.get_volatile
    (hp : s.persist = false) (c : String) : s.get codec c = .ok s.sessions[c]? := by
  unfold FileSessionStore.get
  rw [if_pos hp]

theorem FileSessionStore.get_persisted
    {all : GoMap String SessionState} (hp : s.persist = true) (hl : s.loadAll codec = .ok all)
    (c : String) : s.get codec c = .ok all[c]? := by
  unfold FileSessionStore.get
  rw [if_neg (by rw [hp]; simp), hl]

theorem FileSessionStore.loadAll_written {K : Type} (s : FileSessionStore K ι)
    (all : GoMap String SessionState) :
    ({ s with file := some (codec.encode all) } : FileSessionStore K ι).loadAll codec = .ok all :=
  codec.decode_encode all

theorem FileSessionStore.get_written (hp : s.persist = true)
    (all : GoMap String SessionState) (c : String) :
    ({ s with file := some (codec.encode all) } : FileSessionStore SkippedKeys ι).get codec c
      = .ok all[c]? := by
  refine get_persisted ?_ (loadAll_written s all) c
  exact hp

/-- `Save` on a persisting store, with the proof that the store stays readable. -/
def PersistedSessions.save (s : PersistedSessions codec) (st : SessionState) :
    Except SessionError (PersistedSessions codec) :=
  match h : s.store.save codec st with
  | .error e => .error e
  | .ok t => .ok {
      store := t
      persist := by
        obtain ⟨all, hl, -⟩ := s.readable
        rw [FileSessionStore.save_persisted s.persist hl] at h
        obtain rfl := Except.ok.inj h
        exact s.persist
      readable := by
        obtain ⟨all, hl, hk⟩ := s.readable
        rw [FileSessionStore.save_persisted s.persist hl] at h
        obtain rfl := Except.ok.inj h
        exact ⟨_, FileSessionStore.loadAll_written s.store _, keyed_insert hk st⟩ }

instance : SessionStore (PersistedSessions codec) where
  save := PersistedSessions.save
  get s c := s.store.get codec c

theorem PersistedSessions.save_eq {s t : PersistedSessions codec} {st : SessionState}
    (h : s.save st = .ok t) : s.store.save codec st = .ok t.store := by
  grind [PersistedSessions.save]

instance : LawfulSessionStore (PersistedSessions codec) where
  save_ok := by
    intro s st
    obtain ⟨all, hl, -⟩ := s.readable
    show ∃ s', PersistedSessions.save s st = .ok s'
    unfold PersistedSessions.save
    split
    · rename_i e he
      rw [FileSessionStore.save_persisted s.persist hl] at he
      exact absurd he (by simp)
    · exact ⟨_, rfl⟩
  get_save := by
    intro s s' st c h
    have hs : s.store.save codec st = .ok s'.store := PersistedSessions.save_eq h
    obtain ⟨all, hl, -⟩ := s.readable
    rw [FileSessionStore.save_persisted s.persist hl] at hs
    show s'.store.get codec c = if st.contactID = c then _ else s.store.get codec c
    rw [FileSessionStore.get_persisted s.persist hl, ← Except.ok.inj hs,
      FileSessionStore.get_written s.persist, get_insert]
    split
    · rfl
    · rfl
  get_contactID := by
    intro s c st h
    obtain ⟨all, hl, hk⟩ := s.readable
    have hg : s.store.get codec c = .ok (some st) := h
    rw [FileSessionStore.get_persisted s.persist hl] at hg
    exact hk c st (Except.ok.inj hg)

instance : SessionStore (VolatileSessions ι) where
  save s st := .ok {
    store := { s.store with sessions := s.store.sessions.insert st.contactID st }
    volatile := s.volatile
    keyed := keyed_insert s.keyed st }
  get s c := .ok s.store.sessions[c]?

instance : LawfulSessionStore (VolatileSessions ι) where
  save_ok s st := ⟨_, rfl⟩
  get_save := by
    intro s s' st c h
    obtain rfl := Except.ok.inj h
    show Except.ok _ = _
    rw [get_insert]
    split
    · rfl
    · rfl
  get_contactID := by
    intro s c st h
    exact s.keyed c st (Except.ok.inj h)

end

/-! ## Switching persistence

`SetPersistenceEnabled` only changes which of the two backings `Save` and `Get`
use. `Backings` is that store without its file format: a mode and one map per mode.
-/

inductive StoreCall where
  | save (st : SessionState)
  | get (contactID : String)
  | setPersistenceEnabled (enabled : Bool)

/-- The store after a call; a failed `Save` leaves it alone. -/
def FileSessionStore.call {ι : Type} (codec : SessionCodec ι)
    (s : FileSessionStore SkippedKeys ι) : StoreCall → FileSessionStore SkippedKeys ι
  | .save st =>
    match s.save codec st with
    | .error _ => s
    | .ok s' => s'
  | .get _ => s
  | .setPersistenceEnabled enabled => s.setPersistenceEnabled enabled

structure Backings where
  mode : Bool
  maps : Bool → GoMap String SessionState

def Backings.empty : Backings := { mode := true, maps := fun _ => ∅ }

def Backings.call (b : Backings) : StoreCall → Backings
  | .save st =>
    { b with maps := Function.update b.maps b.mode ((b.maps b.mode).insert st.contactID st) }
  | .get _ => b
  | .setPersistenceEnabled enabled => { b with mode := enabled }

def modeAfter : Bool → List StoreCall → Bool
  | mode, [] => mode
  | _, .setPersistenceEnabled enabled :: calls => modeAfter enabled calls
  | mode, .save _ :: calls => modeAfter mode calls
  | mode, .get _ :: calls => modeAfter mode calls

/-- The states saved for `c`, oldest first, each with the mode it was saved under. -/
def savesFor (c : String) : Bool → List StoreCall → List (Bool × SessionState)
  | _, [] => []
  | _, .setPersistenceEnabled enabled :: calls => savesFor c enabled calls
  | mode, .save st :: calls =>
    if st.contactID = c then (mode, st) :: savesFor c mode calls else savesFor c mode calls
  | mode, .get _ :: calls => savesFor c mode calls

def lastSaved (c : String) (calls : List StoreCall) : Option SessionState :=
  (savesFor c true calls).getLast?.map Prod.snd

/-- The last state saved for `c` under one mode. -/
def lastSavedIn (m : Bool) (c : String) (calls : List StoreCall) : Option SessionState :=
  ((savesFor c true calls).filter fun p => p.1 == m).getLast?.map Prod.snd

section

variable {ι : Type} {codec : SessionCodec ι}

structure FileSessionStore.Holds (codec : SessionCodec ι) (s : FileSessionStore SkippedKeys ι)
    (b : Backings) : Prop where
  mode : s.persist = b.mode
  file : s.loadAll codec = .ok (b.maps true)
  memory : s.sessions = b.maps false

theorem FileSessionStore.holds_fresh :
    (FileSessionStore.fresh : FileSessionStore SkippedKeys ι).Holds codec Backings.empty :=
  ⟨rfl, rfl, rfl⟩

variable {s : FileSessionStore SkippedKeys ι}

theorem FileSessionStore.Holds.call {b : Backings}
    (h : s.Holds codec b) (op : StoreCall) : (s.call codec op).Holds codec (b.call op) := by
  cases op with
  | get c => exact h
  | setPersistenceEnabled enabled => exact ⟨rfl, h.file, h.memory⟩
  | save st =>
    cases hm : b.mode with
    | true =>
      have hcall : s.call codec (.save st)
          = { s with file := some (codec.encode ((b.maps true).insert st.contactID st)) } := by
        simp only [FileSessionStore.call,
          save_persisted (h.mode.trans hm) h.file]
      rw [hcall]
      refine ⟨h.mode, ?_, ?_⟩
      · show _ = Except.ok (Function.update b.maps b.mode _ true)
        rw [loadAll_written, hm, Function.update_self]
      · show s.sessions = Function.update b.maps b.mode _ false
        grind [cases Holds]
    | false =>
      have hcall : s.call codec (.save st)
          = { s with sessions := s.sessions.insert st.contactID st } := by
        simp only [FileSessionStore.call, save_volatile (h.mode.trans hm)]
      rw [hcall]
      refine ⟨h.mode, ?_, ?_⟩
      · show s.loadAll codec = Except.ok (Function.update b.maps b.mode _ true)
        grind [cases Holds]
      · show s.sessions.insert st.contactID st = Function.update b.maps b.mode _ false
        rw [hm, Function.update_self, h.memory]

theorem FileSessionStore.Holds.run {b : Backings} (h : s.Holds codec b) (calls : List StoreCall) :
    (run (FileSessionStore.call codec) s calls).Holds codec (run Backings.call b calls) := by
  induction calls generalizing s b with
  | nil => exact h
  | cons op calls ih => exact ih (h.call op)

theorem FileSessionStore.Holds.get {b : Backings}
    (h : s.Holds codec b) (c : String) : s.get codec c = .ok (b.maps b.mode)[c]? := by
  cases hm : b.mode with
  | true => exact get_persisted (h.mode.trans hm) h.file c
  | false =>
    rw [← h.memory]
    exact get_volatile (h.mode.trans hm) c

theorem Backings.mode_run (b : Backings) (calls : List StoreCall) :
    (run Backings.call b calls).mode = modeAfter b.mode calls := by
  induction calls generalizing b with
  | nil => rfl
  | cons op calls ih => cases op <;> exact ih _

theorem Backings.get_run (b : Backings) (m : Bool) (c : String) (calls : List StoreCall) :
    ((run Backings.call b calls).maps m)[c]?
      = ((((savesFor c b.mode calls).filter fun p => p.1 == m).getLast?).map Prod.snd).or
          (b.maps m)[c]? := by
  induction calls generalizing b with
  | nil => rfl
  | cons op calls ih =>
    rw [run_cons, ih]
    cases op with
    | get c' => rfl
    | setPersistenceEnabled enabled => rfl
    | save st =>
      simp only [Backings.call, savesFor]
      by_cases hc : st.contactID = c
      · by_cases hm : b.mode = m
        · subst hm
          rw [if_pos hc, List.filter_cons_of_pos (by simp), Function.update_self, get_insert,
            if_pos hc, List.getLast?_cons]
          cases ((savesFor c b.mode calls).filter fun p => p.1 == b.mode).getLast? with
          | none => rfl
          | some p => rfl
        · rw [if_pos hc, List.filter_cons_of_neg (by simpa using hm),
            Function.update_of_ne (Ne.symm hm)]
      · rw [if_neg hc]
        by_cases hm : b.mode = m
        · subst hm
          rw [Function.update_self, get_insert, if_neg hc]
        · rw [Function.update_of_ne (Ne.symm hm)]

theorem FileSessionStore.get_run (c : String) (calls : List StoreCall) :
    (run (FileSessionStore.call codec) FileSessionStore.fresh calls).get codec c
      = .ok (lastSavedIn (modeAfter true calls) c calls) := by
  rw [(holds_fresh.run calls).get c, Backings.mode_run, Backings.get_run]
  show Except.ok (Option.or _ (∅ : GoMap String SessionState)[c]?) = _
  rw [Std.ExtTreeMap.getElem?_empty, Option.or_none]
  rfl

/-- The mode in force holds the state last saved for `c`. -/
def LastSaveInForce (c : String) (calls : List StoreCall) : Prop :=
  ∀ m st, (savesFor c true calls).getLast? = some (m, st) →
    m = modeAfter true calls ∨ lastSavedIn (modeAfter true calls) c calls = some st

theorem savesFor_append (c : String) (mode : Bool) (pre post : List StoreCall) :
    savesFor c mode (pre ++ post)
      = savesFor c mode pre ++ savesFor c (modeAfter mode pre) post := by
  induction pre generalizing mode with
  | nil => rfl
  | cons op pre ih =>
    cases op with
    | get c' => exact ih mode
    | setPersistenceEnabled enabled => exact ih enabled
    | save st =>
      grind [savesFor, modeAfter]

theorem mem_savesFor_of_get {c : String} {pre : List StoreCall} {st : SessionState}
    (post : List StoreCall)
    (h : (run (FileSessionStore.call codec) FileSessionStore.fresh pre).get codec c
      = .ok (some st)) : ∃ m, (m, st) ∈ savesFor c true (pre ++ post) := by
  rw [get_run] at h
  obtain ⟨⟨m, st'⟩, hlast, rfl⟩ := Option.map_eq_some_iff.mp (Except.ok.inj h)
  refine ⟨m, ?_⟩
  rw [savesFor_append]
  exact List.mem_append_left _ (List.mem_filter.mp (List.mem_of_getLast? hlast)).1

/--
`Get` answers with the last state saved for a contact exactly when the mode in
force holds that state. Where it does, and saved send indexes never decrease, no
earlier `Get` has shown a higher send index.
-/
theorem FileSessionStore.get_eq_lastSaved_iff (codec : SessionCodec ι) (c : String)
    (calls : List StoreCall) :
    ((run (FileSessionStore.call codec) FileSessionStore.fresh calls).get codec c
        = .ok (lastSaved c calls) ↔ LastSaveInForce c calls) ∧ (LastSaveInForce c calls →
      (savesFor c true calls).Pairwise (fun p q => p.2.sendChainIndex ≤ q.2.sendChainIndex) →
      ∀ pre post st, calls = pre ++ post →
        (run (FileSessionStore.call codec) FileSessionStore.fresh pre).get codec c = .ok (some st) →
        ∃ st', (run (FileSessionStore.call codec) FileSessionStore.fresh calls).get codec c
            = .ok (some st') ∧ st.sendChainIndex ≤ st'.sendChainIndex) := by
  have hiff : (run (FileSessionStore.call codec) FileSessionStore.fresh calls).get codec c
      = .ok (lastSaved c calls) ↔ LastSaveInForce c calls := by
    rw [get_run, Except.ok.injEq]
    unfold LastSaveInForce lastSaved
    cases hlast : (savesFor c true calls).getLast? with
    | none =>
      rw [List.getLast?_eq_none_iff] at hlast
      simp [lastSavedIn, hlast]
    | some p =>
      obtain ⟨m, st⟩ := p
      constructor
      · simp_all
      · intro h
        rcases h m st rfl with hm | hin
        · -- the last save of all is the last one under its own mode
          obtain ⟨ys, hys⟩ := List.getLast?_eq_some_iff.mp hlast
          unfold lastSavedIn
          rw [hys, List.filter_append, List.filter_cons_of_pos (by simpa using hm)]
          simp
        · exact hin
  refine ⟨hiff, ?_⟩
  intro hforce hmono pre post st hcalls hget
  obtain ⟨m, hmem⟩ := mem_savesFor_of_get post hget
  rw [← hcalls] at hmem
  rw [hiff.mpr hforce]
  unfold lastSaved
  have hne : savesFor c true calls ≠ [] := List.ne_nil_of_mem hmem
  rw [List.getLast?_eq_some_getLast hne]
  exact ⟨_, rfl, hmono.rel_getLast_of_rel_getLast_getLast hmem (UInt64.le_refl _)⟩

end

def plainCodec : SessionCodec (GoMap String SessionState) where
  encode m := m
  decode m := .ok m
  decode_encode _ := rfl

def bareSession (contactID : String) (sendChainIndex : UInt64) : SessionState :=
  { sessionID := "sess1_00", contactID := contactID, peerPublicKey := [], rootKey := []
    sendChainKey := [], recvChainKey := [], sendChainIndex := sendChainIndex, recvChainIndex := 0
    seenMessageIDs := [], skippedKeys := ∅, createdAt := 0, updatedAt := 0 }

/--
A session saved at index 0 on disk, then at index 7 with persistence off: switching
persistence back on brings index 0 back.
-/
theorem FileSessionStore.toggle_rewinds :
    let calls : List StoreCall := [.save (bareSession "bob" 0), .setPersistenceEnabled false,
      .save (bareSession "bob" 7), .setPersistenceEnabled true]
    (run (FileSessionStore.call plainCodec) FileSessionStore.fresh calls).get plainCodec "bob"
        ≠ .ok (lastSaved "bob" calls) ∧
    ((run (FileSessionStore.call plainCodec) FileSessionStore.fresh (calls.take 3)).get plainCodec
      "bob").toOption.map (Option.map (·.sendChainIndex)) = some (some 7) ∧
    ((run (FileSessionStore.call plainCodec) FileSessionStore.fresh calls).get plainCodec
      "bob").toOption.map (Option.map (·.sendChainIndex)) = some (some 0) := by
  refine ⟨?_, by decide, by decide⟩
  intro h
  have hidx := congrArg (fun r => r.toOption.map (Option.map (·.sendChainIndex))) h
  exact absurd hidx (by decide)

end Ardents.Crypto
