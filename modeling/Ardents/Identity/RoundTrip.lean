import Ardents.Identity.Durability
import Ardents.Messaging.FileStore

/-!
# From a backup and back

`ExportBackup` writes down what `RestoreBackup` puts into another service. The two halves meet at
`Restorable`: whatever a service can come to hold, in any order that the loops over its maps take,
makes a payload that is restorable, and what a restorable payload makes is known.
-/

namespace Ardents.Identity

open Go
open Crypto (FileSessionStore Keyed SessionState SkippedKeys Time)
open Messaging (Message MessageOp MessageStore PendingMessage normalizeMessageConversation
  normalizeMessageConversation_id recorded)

open Messaging.MessageStore Crypto Manager

/-! ## Exporting -/

structure BackupExportResult where
  blob : String
  identityID : String
  messageCount : Nat
  sessionCount : Nat

section

variable {ε ι : Type} (W : BackupWorld ε ι)

def backupPayload (a : Account ε ι) (sessions : GoMap String SessionState) : BackupPayload :=
  { version := 1
    exportedAt := W.now
    identity := ⟨a.identity.identityID, a.identity.signingPublicKey⟩
    signingPrivateKey := a.identity.selfPriv
    seedEnvelope := a.seeds.snapshotEnvelopeJSON W.seedCrypto
    contacts := W.contactOrder a.identity.contacts
    messages := a.messages.messages
    pending := a.messages.pending
    sessions := W.sessionOrder sessions }

def exportBackup (a : Account ε ι) (consentToken password : String) :
    Except BackupError BackupExportResult :=
  if isBackupConsentTokenValid consentToken = false then .error .consentRequired
  else if trimSpace password = "" then .error .passwordRequired
  else
    match a.sessions.all W.sessionCodec with
    | .error e => .error (.session e)
    | .ok sessions =>
      if a.identity.selfPriv = [] then .error .missingPrivateKey
      else
        match W.sealing.marshal (backupPayload W a sessions) with
        | none => .error .marshal
        | some raw =>
          match W.sealing.encrypt (trimSpace password) raw with
          | none => .error .encrypt
          | some encrypted =>
            .ok { blob := W.sealing.encode encrypted
                  identityID := a.identity.identityID
                  messageCount := a.messages.messages.size
                  sessionCount := sessions.size }

def Sealing.RoundTrips (S : Sealing) (password : String) (payload : BackupPayload) : Prop :=
  ∃ raw encrypted, S.marshal payload = some raw ∧ S.unmarshal raw = some payload ∧
    S.encrypt password raw = some encrypted ∧ S.decrypt password encrypted = some raw ∧
    S.decode (S.encode encrypted) = some encrypted ∧ S.encode encrypted ≠ "" ∧
    trimSpace (S.encode encrypted) = S.encode encrypted

variable {W}

theorem openBackup_exported {L : Libraries ε ι} {E R : Conditions} {a : Account ε ι}
    {sessions : GoMap String SessionState} {consentToken password : String}
    (hsealing : L.sealing.RoundTrips (trimSpace password) (backupPayload ⟨L, E⟩ a sessions))
    (hconsent : isBackupConsentTokenValid consentToken = true)
    (hpassword : trimSpace password ≠ "") (hsessions : a.sessions.all L.sessionCodec = .ok sessions)
    (hkey : a.identity.selfPriv ≠ []) :
    ∃ result, exportBackup ⟨L, E⟩ a consentToken password = .ok result ∧
      openBackup ⟨L, R⟩ consentToken password result.blob
        = .ok (backupPayload ⟨L, E⟩ a sessions) := by
  obtain ⟨raw, encrypted, hmarshal, hunmarshal, hencrypt, hdecrypt, hdecode, hblob, htrim⟩ :=
    hsealing
  refine ⟨⟨L.sealing.encode encrypted, a.identity.identityID, a.messages.messages.size,
    sessions.size⟩, ?_, ?_⟩
  · grind [exportBackup]
  · grind [openBackup, backupPayload]

theorem exportBackup_allowed {a : Account ε ι} {consentToken password : String}
    {result : BackupExportResult} (h : exportBackup W a consentToken password = .ok result) :
    isBackupConsentTokenValid consentToken = true ∧ trimSpace password ≠ "" := by
  grind [exportBackup]

end

/-! ## What the stores can come to hold -/

/-- The calls of the message store. A file that is behind the store is that of an earlier store. -/
inductive MessageCall where
  | perform (op : MessageOp) (written : Bool)
  | wipe
  | load

def MessageCall.apply (s : MessageStore) : MessageCall → MessageStore
  | .perform op written => recorded s (op.apply s written)
  | .wipe => .empty
  | .load => s.load

inductive SessionsCall where
  | use (call : Crypto.StoreCall)
  | wipe (removed : Bool)
  /-- `NewFileSessionStore`, on the file there is. -/
  | reopen

def SessionsCall.apply {ι : Type} (codec : Crypto.SessionCodec ι)
    (s : FileSessionStore SkippedKeys ι) : SessionsCall → FileSessionStore SkippedKeys ι
  | .use call => s.call codec call
  | .wipe removed => s.wipe removed
  | .reopen => { s with persist := true, sessions := ∅ }

structure MessagesFiled (s : MessageStore) : Prop where
  messages : ∀ (id : String) (m : Message), s.messages[id]? = some m → m.id = id
  pending : ∀ (id : String) (p : PendingMessage), s.pending[id]? = some p → p.message.id = id

/-- Sessions are filed under their contacts, in memory and in the file, which can be read. -/
structure SessionsFiled {ι : Type} (codec : Crypto.SessionCodec ι)
    (s : FileSessionStore SkippedKeys ι) : Prop where
  memory : Keyed s.sessions
  file : ∃ all, s.loadAll codec = .ok all ∧ Keyed all

namespace MessagesFiled

variable {s next : MessageStore} {written : Bool}

theorem empty : MessagesFiled .empty :=
  ⟨fun _ _ h => absurd h (by simp [MessageStore.empty]),
    fun _ _ h => absurd h (by simp [MessageStore.empty])⟩

theorem commit (h : MessagesFiled s) (hnext : MessagesFiled next) :
    MessagesFiled (recorded s (MessageStore.commit next written)) := by
  grind [recorded_commit]

theorem of_le (h : MessagesFiled s)
    (hmessages : ∀ (id : String) (m : Message), next.messages[id]? = some m →
      s.messages[id]? = some m)
    (hpending : ∀ (id : String) (p : PendingMessage), next.pending[id]? = some p →
      s.pending[id]? = some p) : MessagesFiled next :=
  ⟨fun id m hm => h.messages id m (hmessages id m hm),
    fun id p hp => h.pending id p (hpending id p hp)⟩

theorem insert (h : MessagesFiled s) {id : String} {msg : Message} (hid : msg.id = id) :
    MessagesFiled { s with messages := s.messages.insert id msg } := by
  refine ⟨fun id' m hm => ?_, h.pending⟩
  grind [cases MessagesFiled]

theorem of_next (h : MessagesFiled s) {op : MessageOp} (hnext : op.Next s next) :
    MessagesFiled next := by
  cases hnext with
  | @saved msg hnone => exact h.insert (normalizeMessageConversation_id msg)
  | @status messageID status msg hmsg => exact h.insert (h.messages messageID msg hmsg)
  | @content messageID content contentType now msg hmsg =>
    exact h.insert (h.messages messageID msg hmsg)
  | deleted contactID id =>
    exact h.of_le (fun _ _ hm => get_of_erase hm) fun _ _ hp => get_of_erase hp
  | swept gone keep hkeep =>
    exact h.of_le (fun _ _ hm => get_of_filter hm) fun _ _ hp => get_of_filter hp
  | queued message retryCount nextRetry lastErr =>
    refine ⟨h.messages, fun id p hp => ?_⟩
    rw [get_insert] at hp
    split at hp
    · rename_i heq
      rw [← Option.some.inj hp]
      exact heq
    · exact h.pending id p hp
  | unqueued id => exact h.of_le (fun _ _ hm => hm) fun _ _ hp => get_of_erase hp

theorem apply (h : MessagesFiled s) (call : MessageCall) : MessagesFiled (call.apply s) := by
  cases call with
  | perform op written =>
    show MessagesFiled (recorded s (op.apply s written))
    rcases op.apply_cases s with ⟨next, hnext, hcommit⟩ | hok | hconflict
    · rw [hcommit]
      exact h.commit (h.of_next hnext)
    · rw [hok]
      exact h
    · rw [hconflict]
      exact h
  | wipe => exact empty
  | load =>
    refine ⟨fun id m hm => ?_, fun id p hp => ?_⟩
    · obtain ⟨m', hm', rfl⟩ := get_map hm
      rw [normalizeMessageConversation_id]
      exact h.messages id m' hm'
    · obtain ⟨p', hp', rfl⟩ := get_map hp
      rw [normalizeMessageConversation_id]
      exact h.pending id p' hp'

theorem run (h : MessagesFiled s) (calls : List MessageCall) :
    MessagesFiled (Go.run MessageCall.apply s calls) :=
  run_inv (fun _ call hs => hs.apply call) h calls

end MessagesFiled

namespace SessionsFiled

variable {ι : Type} {codec : Crypto.SessionCodec ι} {s : FileSessionStore SkippedKeys ι}

theorem fresh : SessionsFiled codec (.fresh : FileSessionStore SkippedKeys ι) :=
  ⟨keyed_empty, ∅, rfl, keyed_empty⟩

theorem apply (h : SessionsFiled codec s) (call : SessionsCall) :
    SessionsFiled codec (call.apply codec s) := by
  obtain ⟨all, hall, hkeyed⟩ := h.file
  cases call with
  | use call =>
    cases call with
    | get contactID => exact h
    | setPersistenceEnabled enabled => exact ⟨h.memory, all, hall, hkeyed⟩
    | save st =>
      show SessionsFiled codec (s.call codec (.save st))
      cases hpersist : s.persist with
      | false =>
        simp only [FileSessionStore.call, FileSessionStore.save_volatile hpersist]
        exact ⟨keyed_insert h.memory st, all, hall, hkeyed⟩
      | true =>
        simp only [FileSessionStore.call, FileSessionStore.save_persisted hpersist hall]
        exact ⟨h.memory, _, FileSessionStore.loadAll_written s _,
          keyed_insert hkeyed st⟩
  | wipe removed =>
    refine ⟨keyed_empty, ?_⟩
    cases removed with
    | false => exact ⟨all, hall, hkeyed⟩
    | true => exact ⟨∅, rfl, keyed_empty⟩
  | reopen => exact ⟨keyed_empty, all, hall, hkeyed⟩

theorem run (h : SessionsFiled codec s) (calls : List SessionsCall) :
    SessionsFiled codec (Go.run (SessionsCall.apply codec) s calls) :=
  run_inv (fun _ call hs => hs.apply call) h calls

theorem all (h : SessionsFiled codec s) : ∃ all, s.all codec = .ok all ∧ Keyed all := by
  grind [FileSessionStore.all, cases SessionsFiled]

end SessionsFiled

/-! ## What an account can come to be -/

section

variable {ε ι κ φ : Type} {L : Libraries ε ι}

/-- An account of a service that has started without a file: its identity, its messages and its
sessions have been through any operations. -/
structure Reached (L : Libraries ε ι) (K : StateCodec κ φ) (a : Account ε ι) : Prop where
  identity : ∃ (svc start : Service ε ι φ) (priv : Bytes) (now : Time) (first : String)
    (written : Bool) (steps : List (Step ι)), svc.state.file = none ∧
      svc.restart L K priv now first written = .ok start ∧
      a.identity = (run (Service.step L K) start steps).account.identity ∧
      a.seeds = (run (Service.step L K) start steps).account.seeds
  messages : ∃ calls, a.messages = run MessageCall.apply .empty calls
  sessions : ∃ calls, a.sessions = run (SessionsCall.apply L.sessionCodec) .fresh calls

/-- The ids of contacts are ones that `AddContactByIdentityID` takes as they are. -/
def Addable (id : String) : Prop := Manager.ValidContactID id ∧ trimSpace id = id

/-- `blake2b.Sum256` gives 32 bytes. -/
def Sums256 (P : Primitives) : Prop :=
  ∀ pub, pub.length = publicKeySize → (P.blake2b256 pub).length = 32

theorem isSpace_of_base58 {c : Char} (h : c ∈ base58Alphabet) : isSpace c = false := by
  have hall : base58Alphabet.all (fun c => !isSpace c) = true := by decide
  simpa using List.all_eq_true.mp hall c h

theorem addable_of_contactID {P : Primitives} (hP : Sums256 P) {id : String}
    (h : ContactID P id) : Addable id := by
  rcases h with ⟨pub, hid⟩ | ⟨raw, hvalid, rfl⟩
  · unfold buildIdentityID at hid
    split at hid
    · exact absurd hid (by simp)
    · rename_i hpub
      obtain rfl := Except.ok.inj hid
      have htrim : trimSpace ("aim1" ++ P.base58Encode (P.blake2b256 pub))
          = "aim1" ++ P.base58Encode (P.blake2b256 pub) := by
        refine trimSpace_eq_self fun c hc => ?_
        rw [String.toList_append, List.mem_append] at hc
        rcases hc with hc | hc
        · have hall : "aim1".toList.all (fun c => !isSpace c) = true := by decide
          simpa using List.all_eq_true.mp hall c hc
        · exact isSpace_of_base58 (P.base58_alphabet _ c hc)
      have hlen := P.base58_length (P.blake2b256 pub)
      have hbytes := length_toList_le_bytesOf (P.base58Encode (P.blake2b256 pub))
      rw [hP pub (not_not.mp hpub)] at hlen
      refine ⟨?_, htrim⟩
      grind [ValidContactID, bytesOf_append]
  · refine ⟨?_, trimSpace_idem raw⟩
    unfold ValidContactID
    rw [trimSpace_idem]
    exact hvalid

variable {a : Account ε ι}

theorem kept_reached {K : StateCodec κ φ} (hP : Sums256 L.primitives)
    (h : Reached L K a) : Kept L.primitives Addable a.identity := by
  obtain ⟨svc, start, priv, now, first, written, steps, hfile, hstart, hidentity, -⟩ := h.identity
  have hnone : FileValid K Addable svc.state := by
    intro st text rs hst
    exact absurd hst (by simp [StateStore.contents, hfile])
  rw [hidentity]
  exact (Service.kept_run (fun id hid => addable_of_contactID hP hid)
    (Service.kept_restart hnone hstart) steps).identity

theorem messagesFiled_reached {K : StateCodec κ φ} (h : Reached L K a) :
    MessagesFiled a.messages := by
  obtain ⟨calls, hcalls⟩ := h.messages
  rw [hcalls]
  exact MessagesFiled.empty.run calls

theorem sessionsFiled_reached {K : StateCodec κ φ} (h : Reached L K a) :
    SessionsFiled L.sessionCodec a.sessions := by
  obtain ⟨calls, hcalls⟩ := h.sessions
  rw [hcalls]
  exact SessionsFiled.fresh.run calls

/-! ## Its backup can be restored -/

/-- The disk takes what a restore of this account's backup does to it; `persist` says whether
sessions are kept on disk. -/
structure Conditions.Take (R : Conditions) (L : Libraries ε ι) (a : Account ε ι) (persist : Bool) :
    Prop where
  messagesRemoved : R.messagesRemoved = true
  sessionsRemoved : R.sessionsRemoved = true
  saved : ∀ id ∈ a.messages.messages, R.saved id = true
  queued : ∀ id ∈ a.messages.pending, R.queued id = true
  filed : persist = true → ∀ sessions, a.sessions.all L.sessionCodec = .ok sessions →
    ∀ i < sessions.size, R.filed i = true

theorem snapshotEnvelopeJSON_readable (C : SeedCrypto ε) (s : SeedManager ε) :
    s.snapshotEnvelopeJSON C = [] ∨ (C.unmarshal (s.snapshotEnvelopeJSON C)).isSome = true := by
  unfold SeedManager.snapshotEnvelopeJSON
  cases s.envelope with
  | none => exact .inl rfl
  | some env => exact .inr (by simp [C.unmarshal_marshal])

theorem forall_mem_zipIdx {α : Type} {l : List α} {p : Nat → Prop} :
    (∀ e ∈ l.zipIdx, p e.2) ↔ ∀ i < l.length, p i := by
  constructor
  · intro h i hi
    exact h (l[i], i) (List.mk_mem_zipIdx_iff_getElem?.mpr (List.getElem?_eq_getElem hi))
  · grind

theorem restorable_backupPayload {E R : Conditions}
    {sessions : GoMap String SessionState} {persist : Bool}
    (hkept : Kept L.primitives Addable a.identity) (hmessages : MessagesFiled a.messages)
    (hsessions : a.sessions.all L.sessionCodec = .ok sessions) :
    Restorable ⟨L, R⟩ (backupPayload ⟨L, E⟩ a sessions) persist ↔ R.Take L a persist := by
  have hcount : (E.sessionOrder sessions).length = sessions.size := by
    rw [(E.sessionOrder_perm sessions).length_eq, List.length_map,
      Std.ExtTreeMap.length_toList]
  constructor
  · intro h
    refine ⟨h.messagesRemoved, h.sessionsRemoved, fun id hid => ?_, fun id hid => ?_,
      fun hp all hall => ?_⟩
    · obtain ⟨m, hm⟩ := mem_iff_get.mp hid
      have hsaved := h.saved (id, m) ((lists_toList a.messages.messages id m).mpr hm)
      rwa [hmessages.messages id m hm] at hsaved
    · obtain ⟨p, hp⟩ := mem_iff_get.mp hid
      exact h.queued (id, p) ((lists_toList a.messages.pending id p).mpr hp)
    · obtain rfl := Except.ok.inj (hsessions.symm.trans hall)
      rw [← hcount]
      exact forall_mem_zipIdx.mp (h.filed hp)
  · intro h
    refine ⟨h.messagesRemoved, h.sessionsRemoved, hkept.key,
      snapshotEnvelopeJSON_readable L.seedCrypto a.seeds, .inr hkept.identityID,
      fun contact hmem => ?_, fun e he => ?_, fun e he e' he' hid => ?_, fun e he => ?_,
      fun hp => ?_⟩
    · obtain ⟨⟨id, c⟩, hc, rfl⟩ :=
        List.mem_map.mp ((E.contactOrder_perm a.identity.contacts).mem_iff.mp hmem)
      obtain ⟨hid, hadd⟩ := hkept.contacts id c ((lists_toList _ id c).mp hc)
      show ValidContactID c.id
      rw [hid]
      exact hadd.1
    · have hget := (lists_toList a.messages.messages e.1 e.2).mp he
      rw [hmessages.messages e.1 e.2 hget]
      exact h.saved e.1 (mem_iff_get.mpr ⟨e.2, hget⟩)
    · -- one id, one entry
      have hget := (lists_toList a.messages.messages e.1 e.2).mp he
      have hget' := (lists_toList a.messages.messages e'.1 e'.2).mp he'
      grind [cases MessagesFiled, Messaging.messagesEqual_self]
    · have hget := (lists_toList a.messages.pending e.1 e.2).mp he
      exact h.queued e.1 (mem_iff_get.mpr ⟨e.2, hget⟩)
    · have hall : ∀ i < (E.sessionOrder sessions).length, R.filed i = true := by
        rw [hcount]
        exact h.filed hp sessions hsessions
      exact forall_mem_zipIdx.mpr hall

/-! ## What a restore makes of it -/

def shownName (c : Contact) : String :=
  if trimSpace c.displayName = "" then trimSpace c.id else trimSpace c.displayName

def bareContact (now : Time) (c : Contact) : Contact :=
  { id := trimSpace c.id, displayName := shownName c, publicKey := [], addedAt := now
    lastSeen := 0 }

theorem shownName_bareContact (now : Time) (c : Contact) :
    shownName (bareContact now c) = shownName c := by
  unfold shownName bareContact shownName
  by_cases hname : trimSpace c.displayName = ""
  · simp [hname]
  · simp [hname]

def NoKeys (m : Manager) : Prop := ∀ id, m.contactPublicKey id = none

theorem foldl_bareContact {m : Manager} (h : NoKeys m) (now : Time) (contacts : List Contact) :
    contacts.foldl (fun m c => m.putContact (m.contactByIdentityID c.id c.displayName now)) m =
      { m with contacts := contacts.foldl (fun out c =>
          out.insert (trimSpace c.id) (bareContact now c)) m.contacts } := by
  induction contacts generalizing m with
  | nil => rfl
  | cons c contacts ih =>
    have hbare : m.contactByIdentityID c.id c.displayName now = bareContact now c := by
      unfold contactByIdentityID
      rw [h]
      rfl
    have hnext : NoKeys (m.putContact (bareContact now c)) := by
      intro id
      rw [contactPublicKey_putContact]
      split
      · exact if_neg (by simp [bareContact, publicKeySize])
      · exact h id
    rw [List.foldl_cons, List.foldl_cons, hbare]
    exact ih hnext

variable {W : BackupWorld ε ι} {into : Account ε ι} {payload : BackupPayload} {id : String}
  {seeds : SeedManager ε}

theorem withIdentity_contacts {contacts : GoMap String Contact}
    (hfiled : ∀ (id : String) (c : Contact), contacts[id]? = some c → trimSpace c.id = id)
    (hperm : payload.contacts.Perm (contacts.toList.map Prod.snd)) :
    (withIdentity W into payload id seeds).identity.identityID = id ∧
      (withIdentity W into payload id seeds).identity.contacts
        = contacts.map fun _ c => bareContact W.now c := by
  have hnone : NoKeys (into.identity.startOver W.primitives W.keyGen id payload.signingPrivateKey
      W.now) := by
    intro id'
    simp [contactPublicKey, startOver, initPrimaryDevice]
  unfold withIdentity
  rw [foldl_bareContact hnone]
  exact ⟨rfl, foldl_values hfiled hperm (bareContact W.now)⟩

theorem storeOf_messages
    (hfiled : ∀ (id : String) (m : Message), payload.messages[id]? = some m → m.id = id) :
    (storeOf W payload).messages =
      payload.messages.map fun _ m => normalizeMessageConversation m := by
  let put (out : GoMap String Message) (e : String × Message) : GoMap String Message :=
    if out[e.2.id]? = none then out.insert e.2.id (normalizeMessageConversation e.2) else out
  have hput : ∀ (s : MessageStore) (e : String × Message),
      put s.messages e = (withMessage s e.2).messages := by
    grind [withMessage]
  have hloop : (storeOf W payload).messages = (W.messageOrder payload).foldl put ∅ :=
    (List.foldl_hom MessageStore.messages hput).symm
  rw [hloop]
  refine foldl_rebuild_of (Lists.of_perm (W.messageOrder_perm payload)) (fun out id m hout hm => ?_)
    fun id hid => by simpa using hid
  have hn : (payload.messages.map fun _ m => normalizeMessageConversation m)[id]?
      = some (normalizeMessageConversation m) := by
    simp [hm]
  refine ⟨_, hn, ?_⟩
  dsimp only [put]
  rw [hfiled id m hm]
  split
  · rfl
  · -- what is there already is the message itself
    rename_i hthere
    obtain ⟨w, hw⟩ := Option.ne_none_iff_exists'.mp hthere
    have hsame := Option.some.inj (hn.symm.trans (hout id w hw))
    rw [hsame]
    exact (insert_eq_self hw).symm

theorem storeOf_pending
    (hfiled : ∀ (id : String) (p : PendingMessage), payload.pending[id]? = some p →
      p.message.id = id) : (storeOf W payload).pending = payload.pending := by
  refine foldl_rebuild_of (Lists.of_perm (W.pendingOrder_perm payload)) (fun out id p _ hp => ?_)
    fun _ hid => hid
  exact ⟨p, hp, by rw [hfiled id p hp]⟩

theorem foldl_withSession {all : GoMap String SessionState}
    (h : a.ReadsAs W all) (l : List SessionState) :
    (l.foldl (fun a st => a.withSession W st) a).ReadsAs W
        (l.foldl (fun out st => out.insert st.contactID st) all) ∧
      (l.foldl (fun a st => a.withSession W st) a).identity = a.identity ∧
      (l.foldl (fun a st => a.withSession W st) a).messages = a.messages := by
  induction l generalizing a all with
  | nil => exact ⟨h, rfl, rfl⟩
  | cons st l ih => exact ih (h.withSession st).1

/-! ## There and back -/

structure SameContent (L : Libraries ε ι) (a b : Account ε ι) : Prop where
  identityID : b.identity.identityID = a.identity.identityID
  contacts : ∀ id : String, (b.identity.contacts[id]?).map shownName =
    (a.identity.contacts[id]?).map shownName
  keys : ∀ id, b.identity.contactPublicKey id = a.identity.contactPublicKey id
  verified : ∀ id, b.identity.hasVerifiedContact id = a.identity.hasVerifiedContact id
  messages : (b.messages.messages.map fun _ m => normalizeMessageConversation m) =
    a.messages.messages.map fun _ m => normalizeMessageConversation m
  pending : b.messages.pending = a.messages.pending
  sessions : b.sessions.all L.sessionCodec = a.sessions.all L.sessionCodec

/-- What the account `b` has when the backup of `a` is restored into it. -/
structure RestoredFrom (L : Libraries ε ι) (now : Time) (a b : Account ε ι) : Prop where
  identityID : b.identity.identityID = a.identity.identityID
  contacts : b.identity.contacts = a.identity.contacts.map fun _ c => bareContact now c
  messages : b.messages.messages =
    a.messages.messages.map fun _ m => normalizeMessageConversation m
  pending : b.messages.pending = a.messages.pending
  sessions : b.sessions.all L.sessionCodec = a.sessions.all L.sessionCodec

theorem restoredFrom_restored {E R : Conditions}
    {sessions : GoMap String SessionState} (hkept : Kept L.primitives Addable a.identity)
    (hmessages : MessagesFiled a.messages)
    (hsessions : a.sessions.all L.sessionCodec = .ok sessions) (hkeyed : Keyed sessions) :
    RestoredFrom L R.now a (restored ⟨L, R⟩ into (backupPayload ⟨L, E⟩ a sessions)
      a.identity.identityID seeds) := by
  obtain ⟨hid, hcontacts⟩ : (withIdentity ⟨L, R⟩ into (backupPayload ⟨L, E⟩ a sessions)
      a.identity.identityID seeds).identity.identityID = a.identity.identityID ∧ _ :=
    withIdentity_contacts
      (fun id c hc => (hkept.contacts id c hc).1 ▸ (hkept.contacts id c hc).2.2)
      (E.contactOrder_perm a.identity.contacts)
  obtain ⟨hreads, hidentity, hstore⟩ := foldl_withSession (W := ⟨L, R⟩)
    (readsAs_wipe into (storeOf ⟨L, R⟩ (backupPayload ⟨L, E⟩ a sessions)) (withIdentity ⟨L, R⟩ into
      (backupPayload ⟨L, E⟩ a sessions) a.identity.identityID seeds).identity seeds)
    (E.sessionOrder sessions)
  rw [foldl_values hkeyed (E.sessionOrder_perm sessions) fun st => st] at hreads
  have hsame : (sessions.map fun _ st => st) = sessions := map_ext fun id => by simp
  rw [hsame] at hreads
  exact
    { identityID := (congrArg identityID hidentity).trans hid
      contacts := (congrArg Manager.contacts hidentity).trans hcontacts
      messages :=
        (congrArg MessageStore.messages hstore).trans (storeOf_messages hmessages.messages)
      pending := (congrArg MessageStore.pending hstore).trans (storeOf_pending hmessages.pending)
      sessions := hreads.trans hsessions.symm }

theorem RestoredFrom.noKeys {now : Time} {b : Account ε ι} (h : RestoredFrom L now a b) :
    NoKeys b.identity := by
  intro id
  grind [contactPublicKey, cases RestoredFrom, bareContact, publicKeySize]

theorem RestoredFrom.sameContent_iff {now : Time} {b : Account ε ι}
    (h : RestoredFrom L now a b) : SameContent L a b ↔ NoKeys a.identity := by
  constructor
  · intro hsame id
    rw [← hsame.keys]
    exact h.noKeys id
  · intro hkeys
    have hsame : ∀ id, b.identity.contactPublicKey id = a.identity.contactPublicKey id :=
      fun id => (h.noKeys id).trans (hkeys id).symm
    refine ⟨h.identityID, fun id => ?_, hsame, fun id => ?_, ?_, h.pending, h.sessions⟩
    · grind [cases RestoredFrom, shownName_bareContact]
    · rw [Bool.eq_iff_iff, hasVerifiedContact_iff, hasVerifiedContact_iff, hsame]
    · rw [h.messages]
      refine map_ext fun id => ?_
      simp [Messaging.normalizeMessageConversation_idem]

theorem restoreBackup_ok {consentToken password blob : String} {a' : Account ε ι} :
    (∃ r, restoreBackup W a consentToken password blob = (.ok r, a')) ↔
      ∃ payload, openBackup W consentToken password blob = .ok payload ∧
        Procedure.exec (applyBackup W payload) a = (.ok (), a') := by
  unfold restoreBackup
  cases openBackup W consentToken password blob with
  | error e => simp
  | ok payload =>
    simp only [Except.ok.injEq, exists_eq_left']
    rcases Procedure.exec (applyBackup W payload) a with ⟨r, b⟩
    cases r with
    | error | ok => simp

/--
**A backup comes back whole exactly when no contact is verified.** Whatever an account has
come to hold, an export that is allowed can be opened, and a restore of it fails only
where the disk does; but the keys of verified contacts are lost.
-/
theorem backup_round_trip_iff {K : StateCodec κ φ} (E R : Conditions) {a : Account ε ι}
    (into : Account ε ι) (consentToken password : String) (hP : Sums256 L.primitives)
    (ha : Reached L K a) (hsealing : ∀ sessions, a.sessions.all L.sessionCodec = .ok sessions →
      L.sealing.RoundTrips (trimSpace password) (backupPayload ⟨L, E⟩ a sessions)) :
    (∃ exported r a', exportBackup ⟨L, E⟩ a consentToken password = .ok exported ∧
        restoreBackup ⟨L, R⟩ into consentToken password exported.blob = (.ok r, a') ∧
        SameContent L a a') ↔
      (isBackupConsentTokenValid consentToken = true ∧ trimSpace password ≠ "") ∧
        R.Take L a into.sessions.persist ∧ ∀ id, a.identity.hasVerifiedContact id = false := by
  have hkept := kept_reached hP ha
  have hmessages := messagesFiled_reached ha
  obtain ⟨sessions, hsessions, hkeyed⟩ := (sessionsFiled_reached ha).all
  have hkey : a.identity.selfPriv ≠ [] := by
    intro hempty
    exact absurd hkept.key (by simp [hempty, privateKeySize])
  have hverified : (∀ id, a.identity.hasVerifiedContact id = false) ↔ NoKeys a.identity := by
    refine forall_congr' fun id => ?_
    rw [← Bool.not_eq_true, hasVerifiedContact_iff, Option.eq_none_iff_forall_ne_some]
    exact not_exists
  -- once the export is allowed, the payload is opened again
  have hopened : isBackupConsentTokenValid consentToken = true → trimSpace password ≠ "" → _ :=
    fun hconsent hpassword => openBackup_exported (R := R) (hsealing sessions hsessions) hconsent
      hpassword hsessions hkey
  constructor
  · rintro ⟨exported, r, a', hexport, hrestore, hsame⟩
    obtain ⟨hconsent, hpassword⟩ := exportBackup_allowed hexport
    obtain ⟨result, hresult, hopen⟩ := hopened hconsent hpassword
    obtain rfl := Except.ok.inj (hresult.symm.trans hexport)
    obtain ⟨payload, hpayload, hexec⟩ := restoreBackup_ok.mp ⟨r, hrestore⟩
    obtain rfl := Except.ok.inj (hopen.symm.trans hpayload)
    obtain ⟨hgood, id, seeds, hid, hseeds, rfl⟩ := applyBackup_ok.mp hexec
    obtain rfl := Except.ok.inj (hkept.identityID.symm.trans hid)
    exact ⟨⟨hconsent, hpassword⟩, (restorable_backupPayload hkept hmessages hsessions).mp hgood,
      hverified.mpr
        ((restoredFrom_restored hkept hmessages hsessions hkeyed).sameContent_iff.mp hsame)⟩
  · rintro ⟨⟨hconsent, hpassword⟩, htake, hnone⟩
    obtain ⟨result, hresult, hopen⟩ := hopened hconsent hpassword
    have hgood := (restorable_backupPayload (E := E) hkept hmessages hsessions).mpr htake
    obtain ⟨seeds, hseeds⟩ := (restoreEnvelopeJSON_isSome into.seeds).mpr hgood.seed
    obtain ⟨r, hrestore⟩ := restoreBackup_ok.mpr ⟨_, hopen, applyBackup_ok.mpr
      ⟨hgood, a.identity.identityID, seeds, hkept.identityID, hseeds, rfl⟩⟩
    exact ⟨result, r, _, hresult, hrestore,
      (restoredFrom_restored hkept hmessages hsessions hkeyed).sameContent_iff.mpr
        (hverified.mp hnone)⟩

end

/-! ## A contact's key is lost -/

section

/-- A service that has added a contact, saved a message and opened a session. -/
def usedAccount (op : Operation) : Account Bytes (GoMap String SessionState) :=
  { identity := (afterSteps [.operation op true]).account.identity
    seeds := (afterSteps [.operation op true]).account.seeds
    messages := run MessageCall.apply .empty [.perform (.saveMessage (textMessage "m")) true]
    sessions := run (SessionsCall.apply Crypto.plainCodec) .fresh
      [.use (.save (Crypto.bareSession "bob" 3))] }

def sealingLibraries (a : Account Bytes (GoMap String SessionState)) :
    Libraries Bytes (GoMap String SessionState) :=
  { laptopLibraries with sealing := openSealing (backupPayload ⟨laptopLibraries, smoothConditions⟩ a
      ((a.sessions.all Crypto.plainCodec).toOption.getD ∅)) }

def bobID : String := "aim1bobbobbob"

def addBob : Operation := .addContact bobID "Bob" 5

theorem bob_unverified (id : String) :
    (usedAccount addBob).identity.hasVerifiedContact id = false := by
  have hcontacts : (usedAccount addBob).identity.contacts = (∅ : GoMap String Contact).insert bobID
      ⟨bobID, "Bob", [], 5, 0⟩ := rfl
  unfold hasVerifiedContact
  rw [hcontacts, get_insert]
  split
  · rename_i hnone
    rfl
  · rename_i c hc
    split at hc
    · obtain rfl := Option.some.inj hc
      rfl
    · exact absurd hc (by simp)

theorem bob_comes_back : (usedAccount addBob).identity.hasContact bobID = true ∧
      ∃ exported r a', exportBackup ⟨sealingLibraries (usedAccount addBob), smoothConditions⟩
          (usedAccount addBob) backupConsentToken "pw" = .ok exported ∧
        restoreBackup ⟨sealingLibraries (usedAccount addBob), smoothConditions⟩
          (accountWith (textMessage "old")) backupConsentToken "pw" exported.blob = (.ok r, a') ∧
        SameContent (sealingLibraries (usedAccount addBob)) (usedAccount addBob) a' := by
  have hreached : Reached (sealingLibraries (usedAccount addBob)) sampleStateCodec
      (usedAccount addBob) :=
    ⟨⟨⟨accountWith (textMessage "m"), "identity.enc", "secret", none⟩, firstStart, freshKey, 0, "",
      true, [.operation addBob true], rfl, rfl, rfl, rfl⟩, ⟨_, rfl⟩, ⟨_, rfl⟩⟩
  have hsealing : ∀ sessions, (usedAccount addBob).sessions.all plainCodec = .ok sessions →
      (sealingLibraries (usedAccount addBob)).sealing.RoundTrips (trimSpace "pw")
        (backupPayload ⟨sealingLibraries (usedAccount addBob), smoothConditions⟩
          (usedAccount addBob) sessions) := by
    intro sessions hsessions
    refine ⟨[], [], rfl, ?_, rfl, rfl, rfl, by decide, by decide⟩
    show some (backupPayload _ _ (((usedAccount addBob).sessions.all
      plainCodec).toOption.getD ∅)) = _
    rw [hsessions]
    rfl
  refine ⟨by decide, (backup_round_trip_iff smoothConditions smoothConditions
    (accountWith (textMessage "old")) backupConsentToken "pw" (fun pub hpub => hpub) hreached
    hsealing).mpr ⟨⟨by decide, by decide⟩, ⟨rfl, rfl, ?_, ?_, ?_⟩, bob_unverified⟩⟩
  · exact fun _ _ => rfl
  · exact fun _ _ => rfl
  · exact fun _ _ _ _ _ => rfl

def addAlice : Operation := .addContactCard (aliceCard "Alice") 6

/-- Alice's key was verified, and after a restore that succeeds it is not there. -/
theorem alice_key_lost :
    Reached (sealingLibraries (usedAccount addAlice)) sampleStateCodec (usedAccount addAlice) ∧
      (usedAccount addAlice).identity.hasVerifiedContact aliceID = true ∧
      ∃ exported r a', exportBackup ⟨sealingLibraries (usedAccount addAlice), smoothConditions⟩
          (usedAccount addAlice) backupConsentToken "pw" = .ok exported ∧
        restoreBackup ⟨sealingLibraries (usedAccount addAlice), smoothConditions⟩
          (accountWith (textMessage "old")) backupConsentToken "pw" exported.blob = (.ok r, a') ∧
        a'.identity.hasContact aliceID = true ∧ a'.identity.hasVerifiedContact aliceID = false := by
  refine ⟨⟨⟨⟨accountWith (textMessage "m"), "identity.enc", "secret", none⟩, firstStart, freshKey,
    0, "", true, [.operation addAlice true], rfl, rfl, rfl, rfl⟩, ⟨_, rfl⟩, ⟨_, rfl⟩⟩,
    by decide, _, _, _, rfl, rfl, by decide, by decide⟩

end

end Ardents.Identity
