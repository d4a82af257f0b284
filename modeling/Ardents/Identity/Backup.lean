import Ardents.Crypto.SessionStore
import Ardents.Go.Procedure
import Ardents.Identity.Keys
import Ardents.Messaging.MessageStore

/-!
# Backups

`ExportBackup` seals the identity key, the contacts, the messages and the sessions under a
password. `RestoreBackup` opens such a blob, checks it, wipes the message store and the sessions,
and then puts in what the blob holds, step by step. Each step can fail, and nothing done before it
is undone.
-/

namespace Ardents.Identity

open Go
open Crypto (FileSessionStore SessionCodec SessionState SkippedKeys Time)
open Messaging (Message MessageStore PendingMessage StoreError)

/-- `models.Identity`. -/
structure IdentityRecord where
  id : String
  signingPublicKey : Bytes

structure BackupPayload where
  version : Int
  exportedAt : Time
  identity : IdentityRecord
  signingPrivateKey : Bytes
  seedEnvelope : Bytes
  contacts : List Contact
  messages : GoMap String Message
  pending : GoMap String PendingMessage
  sessions : List SessionState

inductive BackupError where
  | consentRequired
  | passwordRequired
  | blobRequired
  | decode
  | decrypt
  | unmarshal
  | versionInvalid
  | missingPrivateKey
  | marshal
  | encrypt
  | wipe
  | identity (err : IdentityError)
  | seedEnvelope
  | identityMismatch
  | store (err : StoreError)
  | session (err : Crypto.SessionError)

/-- JSON, `securestore` and base64, as backups use them. -/
structure Sealing where
  marshal : BackupPayload → Option Bytes
  unmarshal : Bytes → Option BackupPayload
  encrypt : (password : String) → Bytes → Option Bytes
  decrypt : (password : String) → Bytes → Option Bytes
  encode : Bytes → String
  decode : String → Option Bytes

structure Account (ε ι : Type) where
  identity : Manager
  seeds : SeedManager ε
  messages : MessageStore
  sessions : FileSessionStore SkippedKeys ι

structure Libraries (ε ι : Type) where
  primitives : Primitives
  keyGen : KeyGen
  seedCrypto : SeedCrypto ε
  sessionCodec : SessionCodec ι
  sealing : Sealing

/-- What a backup meets: the clock, the order of loops over maps, and what becomes of each
write. -/
structure Conditions where
  now : Time
  contactOrder : GoMap String Contact → List Contact
  contactOrder_perm : ∀ m, (contactOrder m).Perm (m.toList.map Prod.snd)
  sessionOrder : GoMap String SessionState → List SessionState
  sessionOrder_perm : ∀ m, (sessionOrder m).Perm (m.toList.map Prod.snd)
  messageOrder : BackupPayload → List (String × Message)
  messageOrder_perm : ∀ p, (messageOrder p).Perm p.messages.toList
  pendingOrder : BackupPayload → List (String × PendingMessage)
  pendingOrder_perm : ∀ p, (pendingOrder p).Perm p.pending.toList
  /-- Removing `messages.json`. -/
  messagesRemoved : Bool
  /-- Removing `sessions.json`. -/
  sessionsRemoved : Bool
  /-- Writing the message with this id. -/
  saved : String → Bool
  /-- Writing the pending message under this key. -/
  queued : String → Bool
  /-- Writing the session at this place in the list. -/
  filed : Nat → Bool

structure BackupWorld (ε ι : Type) extends Libraries ε ι, Conditions

def backupConsentToken : String := "I_UNDERSTAND_BACKUP_RISK"

def isBackupConsentTokenValid (token : String) : Bool := trimSpace token = backupConsentToken

open Account
open Account Messaging
open Manager

section

variable {ε ι : Type} (W : BackupWorld ε ι)

/-! ## Restoring -/

/-- What `RestoreBackup` checks before it touches anything. -/
def openBackup (consentToken password blob : String) : Except BackupError BackupPayload :=
  if isBackupConsentTokenValid consentToken = false then .error .consentRequired
  else if trimSpace password = "" then .error .passwordRequired
  else if trimSpace blob = "" then .error .blobRequired
  else
    match W.sealing.decode (trimSpace blob) with
    | none => .error .decode
    | some raw =>
      match W.sealing.decrypt (trimSpace password) raw with
      | none => .error .decrypt
      | some plain =>
        match W.sealing.unmarshal plain with
        | none => .error .unmarshal
        | some payload =>
          if payload.version ≠ 1 then .error .versionInvalid
          else if payload.signingPrivateKey = [] then .error .missingPrivateKey
          else .ok payload

namespace Account

def restoreKey (payload : BackupPayload) (a : Account ε ι) : Except BackupError (Account ε ι) :=
  match a.identity.restoreIdentityPrivateKey W.primitives W.keyGen payload.signingPrivateKey
      W.now with
  | .error e => .error (.identity e)
  | .ok identity => .ok { a with identity := identity }

def restoreSeed (payload : BackupPayload) (a : Account ε ι) : Except BackupError (Account ε ι) :=
  match a.seeds.restoreEnvelopeJSON W.seedCrypto payload.seedEnvelope with
  | none => .error .seedEnvelope
  | some seeds => .ok { a with seeds := seeds }

def checkIdentity (payload : BackupPayload) (a : Account ε ι) : Except BackupError (Account ε ι) :=
  if payload.identity.id ≠ "" ∧ a.identity.identityID ≠ payload.identity.id then
    .error .identityMismatch
  else .ok a

def restoreContact (contact : Contact) (a : Account ε ι) : Except BackupError (Account ε ι) :=
  match a.identity.addContactByIdentityID contact.id contact.displayName W.now with
  | .error e => .error (.identity e)
  | .ok identity => .ok { a with identity := identity }

def restoreMessage (entry : String × Message) (a : Account ε ι) :
    Except BackupError (Account ε ι) :=
  match a.messages.saveMessage entry.2 (W.saved entry.2.id) with
  | .error e => .error (.store e)
  | .ok messages => .ok { a with messages := messages }

def restorePending (entry : String × PendingMessage) (a : Account ε ι) :
    Except BackupError (Account ε ι) :=
  match a.messages.addOrUpdatePending entry.2.message entry.2.retryCount entry.2.nextRetry
      entry.2.lastError (W.queued entry.1) with
  | .error e => .error (.store e)
  | .ok messages => .ok { a with messages := messages }

def restoreSession (entry : SessionState × Nat) (a : Account ε ι) :
    Except BackupError (Account ε ι) :=
  match a.sessions.saveWritten W.sessionCodec entry.1 (W.filed entry.2) with
  | .error e => .error (.session e)
  | .ok sessions => .ok { a with sessions := sessions }

end Account

open Procedure (attempt change)

/-- The second part of `RestoreBackup`: the stores are wiped and the identity replaced. -/
def restoreIdentity (payload : BackupPayload) : Procedure (Account ε ι) BackupError Unit := do
  change (fun a => { a with messages := .empty }) W.messagesRemoved .wipe
  change (fun a => { a with sessions := a.sessions.wipe W.sessionsRemoved }) W.sessionsRemoved .wipe
  attempt (Account.restoreKey W payload)
  attempt (Account.restoreSeed W payload)
  attempt (Account.checkIdentity payload)
  payload.contacts.forM fun contact => attempt (Account.restoreContact W contact)

def restoreStores (payload : BackupPayload) : Procedure (Account ε ι) BackupError Unit := do
  (W.messageOrder payload).forM fun entry => attempt (Account.restoreMessage W entry)
  (W.pendingOrder payload).forM fun entry => attempt (Account.restorePending W entry)
  payload.sessions.zipIdx.forM fun entry => attempt (Account.restoreSession W entry)

def applyBackup (payload : BackupPayload) : Procedure (Account ε ι) BackupError Unit := do
  restoreIdentity W payload
  restoreStores W payload

structure BackupRestoreResult where
  identityID : String
  messageCount : Nat
  sessionCount : Nat

def restoreBackup (a : Account ε ι) (consentToken password blob : String) :
    Except BackupError BackupRestoreResult × Account ε ι :=
  match openBackup W consentToken password blob with
  | .error e => (.error e, a)
  | .ok payload =>
    match Procedure.exec (applyBackup W payload) a with
    | (.error e, a) => (.error e, a)
    | (.ok (), a) =>
      (.ok ⟨a.identity.identityID, payload.messages.size, payload.sessions.length⟩, a)

/-! ## When each step succeeds -/

variable {W}

namespace Account

variable {payload : BackupPayload}

theorem restoreKey_ok {a a' : Account ε ι} : restoreKey W payload a = .ok a' ↔
      payload.signingPrivateKey.length = privateKeySize ∧
        ∃ id, buildIdentityID W.primitives (publicHalf payload.signingPrivateKey) = .ok id ∧
          a' = { a with identity := a.identity.startOver W.primitives W.keyGen id
                          payload.signingPrivateKey W.now } := by
  unfold restoreKey
  cases hrestore : a.identity.restoreIdentityPrivateKey W.primitives W.keyGen
      payload.signingPrivateKey W.now with
  | error e =>
    refine iff_of_false (by simp) ?_
    rintro ⟨hlen, id, hid, -⟩
    exact absurd (hrestore.symm.trans
      (restoreIdentityPrivateKey_ok.mpr ⟨hlen, id, hid, rfl⟩)) (by simp)
  | ok m =>
    obtain ⟨hlen, id, hid, rfl⟩ := restoreIdentityPrivateKey_ok.mp hrestore
    simp only [hlen, hid, Except.ok.injEq, true_and, exists_eq_left']
    exact eq_comm

theorem restoreSeed_ok {a a' : Account ε ι} : restoreSeed W payload a = .ok a' ↔
      ∃ seeds, a.seeds.restoreEnvelopeJSON W.seedCrypto payload.seedEnvelope = some seeds ∧
        a' = { a with seeds := seeds } := by
  grind [restoreSeed]

theorem checkIdentity_ok {a a' : Account ε ι} : checkIdentity payload a = .ok a' ↔
      (payload.identity.id = "" ∨ a.identity.identityID = payload.identity.id) ∧ a' = a := by
  grind [checkIdentity]

theorem restoreContact_ok {contact : Contact} {a a' : Account ε ι} :
    restoreContact W contact a = .ok a' ↔ ValidContactID contact.id ∧ a' = { a with
          identity := a.identity.putContact
            (a.identity.contactByIdentityID contact.id contact.displayName W.now) } := by
  unfold restoreContact
  cases hadd : a.identity.addContactByIdentityID contact.id contact.displayName W.now with
  | error e =>
    refine iff_of_false (by simp) fun h => ?_
    exact absurd (hadd.symm.trans (addContactByIdentityID_ok_iff.mpr ⟨h.1, rfl⟩))
      (by simp)
  | ok identity =>
    obtain ⟨hvalid, rfl⟩ := addContactByIdentityID_ok_iff.mp hadd
    grind

theorem restorePending_ok {entry : String × PendingMessage} {a a' : Account ε ι} :
    restorePending W entry a = .ok a' ↔ W.queued entry.1 = true ∧
        a' = { a with messages := { a.messages with
                        pending := a.messages.pending.insert entry.2.message.id entry.2 } } := by
  unfold restorePending MessageStore.addOrUpdatePending MessageStore.commit
  cases W.queued entry.1 with
  | false => simp
  | true => simp [eq_comm]

theorem restoreMessage_ok {entry : String × Message} {a a' : Account ε ι} :
    restoreMessage W entry a = .ok a' ↔
      ∃ messages, a.messages.saveMessage entry.2 (W.saved entry.2.id) = .ok messages ∧
        a' = { a with messages := messages } := by
  grind [restoreMessage]

theorem restoreSession_saved {entry : SessionState × Nat} {a a' : Account ε ι}
    (h : restoreSession W entry a = .ok a') :
    ∃ sessions, a.sessions.saveWritten W.sessionCodec entry.1 (W.filed entry.2) = .ok sessions ∧
      a' = { a with sessions := sessions } := by
  grind [restoreSession]

def ReadsAs (W : BackupWorld ε ι) (a : Account ε ι) (all : GoMap String SessionState) : Prop :=
  a.sessions.all W.sessionCodec = .ok all

def withSession (W : BackupWorld ε ι) (a : Account ε ι) (st : SessionState) : Account ε ι :=
  { a with sessions := (a.sessions.save W.sessionCodec st).toOption.getD a.sessions }

theorem ReadsAs.withSession {a : Account ε ι} {all : GoMap String SessionState}
    (h : a.ReadsAs W all) (st : SessionState) :
    (a.withSession W st).ReadsAs W (all.insert st.contactID st) ∧
      (a.withSession W st).sessions.persist = a.sessions.persist := by
  obtain ⟨s', hsave, hpersist, hall⟩ := FileSessionStore.save_all h st
  unfold Account.withSession ReadsAs
  rw [hsave]
  exact ⟨hall, hpersist⟩

theorem restoreSession_ok {entry : SessionState × Nat} {a a' : Account ε ι}
    {all : GoMap String SessionState} (h : a.ReadsAs W all) : restoreSession W entry a = .ok a' ↔
      (a.sessions.persist = true → W.filed entry.2 = true) ∧ a' = a.withSession W entry.1 := by
  obtain ⟨s', hsave, -, -⟩ := FileSessionStore.save_all h entry.1
  unfold restoreSession FileSessionStore.saveWritten withSession
  rw [hsave]
  by_cases hbad : a.sessions.persist = true ∧ ¬ W.filed entry.2 = true
  · simp_all
  · rw [if_neg hbad]
    rw [not_and, not_not] at hbad
    simp only [Except.ok.injEq]
    exact ⟨fun ha => ⟨hbad, ha.symm⟩, fun ha => ha.2.symm⟩

end Account

/-- No message of the list conflicts with the store or with another of the list, and those that are
new to the store are written. -/
def Savable (W : BackupWorld ε ι) (s : MessageStore) (l : List (String × Message)) : Prop :=
  (∀ e ∈ l, ∀ m, s.messages[e.2.id]? = some m → Messaging.messagesEqual m e.2 = true) ∧
    (∀ e ∈ l, s.messages[e.2.id]? = none → W.saved e.2.id = true) ∧
    ∀ e ∈ l, ∀ e' ∈ l, e.2.id = e'.2.id → Messaging.messagesEqual e.2 e'.2 = true

def withMessage (s : MessageStore) (msg : Message) : MessageStore :=
  if s.messages[msg.id]? = none then
    { s with messages := s.messages.insert msg.id (Messaging.normalizeMessageConversation msg) }
  else s

variable {l : List (String × Message)} {e : String × Message}

theorem savable_cons_of_some {s : MessageStore}
    {m : Message} (hget : s.messages[e.2.id]? = some m) :
    Savable W s (e :: l) ↔ messagesEqual m e.2 = true ∧ Savable W s l := by
  constructor
  · rintro ⟨hold, hnew, hpairs⟩
    refine ⟨hold e List.mem_cons_self m hget, fun e' he' => hold e' (List.mem_cons_of_mem e he'),
      fun e' he' => hnew e' (List.mem_cons_of_mem e he'), fun e₁ h₁ e₂ h₂ => ?_⟩
    exact hpairs e₁ (List.mem_cons_of_mem e h₁) e₂ (List.mem_cons_of_mem e h₂)
  · rintro ⟨hequal, hold, hnew, hpairs⟩
    -- two messages of this id both equal the one in the store
    have hthere : ∀ e' ∈ e :: l, ∀ m', s.messages[e'.2.id]? = some m' →
        messagesEqual m' e'.2 = true := by
      grind
    refine ⟨hthere, fun e' he' hnone => ?_, fun e₁ h₁ e₂ h₂ hid => ?_⟩
    · grind
    · cases hget₁ : s.messages[e₁.2.id]? with
      | some m' =>
        exact messagesEqual_trans (messagesEqual_symm (hthere e₁ h₁ m' hget₁))
          (hthere e₂ h₂ m' (hid ▸ hget₁))
      | none =>
        have hne : ∀ e' ∈ e :: l, s.messages[e'.2.id]? = none → e' ∈ l := by
          intro e' he' hnone
          rcases List.mem_cons.mp he' with rfl | he'
          · exact absurd (hget.symm.trans hnone) (by simp)
          · exact he'
        exact hpairs e₁ (hne e₁ h₁ hget₁) e₂ (hne e₂ h₂ (hid ▸ hget₁)) hid

theorem savable_cons_of_none {s : MessageStore} (hget : s.messages[e.2.id]? = none) :
    Savable W s (e :: l) ↔ W.saved e.2.id = true ∧ Savable W (withMessage s e.2) l := by
  have hafter : ∀ id : String, (withMessage s e.2).messages[id]? =
      if e.2.id = id then some (normalizeMessageConversation e.2)
      else s.messages[id]? := by
    intro id
    rw [withMessage, if_pos hget]
    exact get_insert _ _ _ _
  constructor
  · rintro ⟨hold, hnew, hpairs⟩
    refine ⟨hnew e List.mem_cons_self hget, fun e' he' m hm => ?_, fun e' he' hnone => ?_,
      fun e₁ h₁ e₂ h₂ => ?_⟩
    · grind [messagesEqual_normalize_left]
    · rw [hafter] at hnone
      split at hnone
      · exact absurd hnone (by simp)
      · exact hnew e' (List.mem_cons_of_mem e he') hnone
    · exact hpairs e₁ (List.mem_cons_of_mem e h₁) e₂ (List.mem_cons_of_mem e h₂)
  · rintro ⟨hsaved, hold, hnew, hpairs⟩
    have hfirst : ∀ e' ∈ l, e.2.id = e'.2.id → messagesEqual e.2 e'.2 = true := by
      intro e' he' hid
      have hequal := hold e' he' _ ((hafter _).trans (if_pos hid))
      rwa [messagesEqual_normalize_left] at hequal
    refine ⟨fun e' he' m hm => ?_, fun e' he' hnone => ?_, fun e₁ h₁ e₂ h₂ hid => ?_⟩
    · grind
    · grind
    · rcases List.mem_cons.mp h₁ with rfl | hl₁
      · rcases List.mem_cons.mp h₂ with rfl | hl₂
        · exact messagesEqual_self _
        · exact hfirst e₂ hl₂ hid
      · rcases List.mem_cons.mp h₂ with rfl | hl₂
        · exact messagesEqual_symm (hfirst e₁ hl₁ hid.symm)
        · exact hpairs e₁ hl₁ e₂ hl₂ hid

theorem savable_cons {s s' : MessageStore} :
    s.saveMessage e.2 (W.saved e.2.id) = .ok s' ∧ Savable W s' l ↔
      Savable W s (e :: l) ∧ s' = withMessage s e.2 := by
  rcases s.saveMessage_cases e.2 (W.saved e.2.id) with ⟨m, hget, hsave⟩ | ⟨hget, hsave⟩
  · grind [withMessage, savable_cons_of_some]
  · grind [withMessage, savable_cons_of_none, MessageStore.commit]

variable {a : Account ε ι}

variable {a' : Account ε ι}

theorem restoreMessages_ok :
    l.foldlM (fun a e => restoreMessage W e a) a = .ok a' ↔ Savable W a.messages l ∧
        a' = { a with messages := l.foldl (fun s e => withMessage s e.2) a.messages } := by
  induction l generalizing a with
  | nil =>
    rw [List.foldlM_nil, pure_ok]
    exact ⟨fun h => ⟨by simp [Savable], h.symm⟩, fun h => h.2.symm⟩
  | cons e l ih =>
    rw [List.foldlM_cons, bind_ok, List.foldl_cons]
    constructor
    · rintro ⟨b, he, hl⟩
      obtain ⟨s', hsave, rfl⟩ := restoreMessage_ok.mp he
      obtain ⟨hrest, rfl⟩ := ih.mp hl
      obtain ⟨hall, rfl⟩ := savable_cons.mp ⟨hsave, hrest⟩
      exact ⟨hall, rfl⟩
    · rintro ⟨hall, rfl⟩
      obtain ⟨hsave, hrest⟩ := savable_cons.mpr ⟨hall, rfl⟩
      exact ⟨_, restoreMessage_ok.mpr ⟨_, hsave, rfl⟩, ih.mpr ⟨hrest, rfl⟩⟩

/-! ## When a restore succeeds -/

/-- What a payload and the disk have to be for every step to succeed; `persist` says whether
sessions are kept on disk. -/
structure Restorable (W : BackupWorld ε ι) (payload : BackupPayload) (persist : Bool) : Prop where
  messagesRemoved : W.messagesRemoved = true
  sessionsRemoved : W.sessionsRemoved = true
  key : payload.signingPrivateKey.length = privateKeySize
  seed : payload.seedEnvelope = [] ∨ (W.seedCrypto.unmarshal payload.seedEnvelope).isSome = true
  identity : payload.identity.id = "" ∨
    buildIdentityID W.primitives (publicHalf payload.signingPrivateKey) = .ok payload.identity.id
  contacts : ∀ contact ∈ payload.contacts, Manager.ValidContactID contact.id
  saved : ∀ e ∈ payload.messages.toList, W.saved e.2.id = true
  noConflict : ∀ e ∈ payload.messages.toList, ∀ e' ∈ payload.messages.toList,
    e.2.id = e'.2.id → Messaging.messagesEqual e.2 e'.2 = true
  queued : ∀ e ∈ payload.pending.toList, W.queued e.1 = true
  filed : persist = true → ∀ e ∈ payload.sessions.zipIdx, W.filed e.2 = true

/-- The account once the stores are wiped, the key is back and the contacts are in. -/
def withIdentity (W : BackupWorld ε ι) (a : Account ε ι) (payload : BackupPayload) (id : String)
    (seeds : SeedManager ε) : Account ε ι :=
  { identity := payload.contacts.foldl (fun m contact => m.putContact
      (m.contactByIdentityID contact.id contact.displayName W.now))
      (a.identity.startOver W.primitives W.keyGen id payload.signingPrivateKey W.now)
    seeds := seeds
    messages := .empty
    sessions := a.sessions.wipe true }

def storeOf (W : BackupWorld ε ι) (payload : BackupPayload) : MessageStore :=
  { messages := ((W.messageOrder payload).foldl (fun s e => withMessage s e.2) .empty).messages
    pending := (W.pendingOrder payload).foldl (fun pending e => pending.insert e.2.message.id e.2)
      ∅ }

def restored (W : BackupWorld ε ι) (a : Account ε ι) (payload : BackupPayload) (id : String)
    (seeds : SeedManager ε) : Account ε ι :=
  payload.sessions.foldl (fun a st => a.withSession W st)
    { withIdentity W a payload id seeds with messages := storeOf W payload }

theorem savable_empty : Savable W .empty l ↔ (∀ e ∈ l, W.saved e.2.id = true) ∧
      ∀ e ∈ l, ∀ e' ∈ l, e.2.id = e'.2.id → messagesEqual e.2 e'.2 = true := by
  grind [MessageStore.empty, Savable]

theorem restoreEnvelopeJSON_isSome (s : SeedManager ε) {C : SeedCrypto ε} {raw : Bytes} :
    (∃ s', s.restoreEnvelopeJSON C raw = some s') ↔ raw = [] ∨ (C.unmarshal raw).isSome = true := by
  unfold SeedManager.restoreEnvelopeJSON
  by_cases hraw : raw = []
  · simp [hraw]
  · simp [hraw, Option.isSome_iff_exists]

theorem restoreContacts_ok {contacts : List Contact} :
    contacts.foldlM (fun a contact => restoreContact W contact a) a = .ok a' ↔
      (∀ contact ∈ contacts, ValidContactID contact.id) ∧
        a' = { a with identity := contacts.foldl (fun m contact => m.putContact
          (m.contactByIdentityID contact.id contact.displayName W.now)) a.identity } := by
  rw [foldlM_ok (f := fun a contact => restoreContact W contact a) (I := fun _ => True)
    (fun _ _ _ _ => restoreContact_ok) (fun _ _ _ _ => trivial) trivial]
  refine and_congr_right fun _ => Eq.congr_right ?_
  exact List.foldl_hom (fun m => ({ a with identity := m } : Account ε ι)) fun _ _ => rfl

theorem restorePendings_ok {l : List (String × PendingMessage)} :
    l.foldlM (fun a e => restorePending W e a) a = .ok a' ↔ (∀ e ∈ l, W.queued e.1 = true) ∧
        a' = { a with messages := { a.messages with
          pending := l.foldl (fun pending e => pending.insert e.2.message.id e.2)
            a.messages.pending } } := by
  rw [foldlM_ok (f := fun a e => restorePending W e a) (I := fun _ => True)
    (fun _ _ _ _ => restorePending_ok) (fun _ _ _ _ => trivial) trivial]
  refine and_congr_right fun _ => Eq.congr_right ?_
  exact List.foldl_hom
    (fun pending => ({ a with messages := { a.messages with pending := pending } } : Account ε ι))
    fun _ _ => rfl

theorem restoreSessions_ok {sessions : List SessionState}
    {all : GoMap String SessionState} (h : a.ReadsAs W all) :
    sessions.zipIdx.foldlM (fun a e => restoreSession W e a) a = .ok a' ↔
      (a.sessions.persist = true → ∀ e ∈ sessions.zipIdx, W.filed e.2 = true) ∧
        a' = sessions.foldl (fun a st => a.withSession W st) a := by
  let I : Account ε ι → Prop := fun b =>
    (∃ all, b.ReadsAs W all) ∧ b.sessions.persist = a.sessions.persist
  have hstep : ∀ b e b', I b → (restoreSession W e b = .ok b' ↔
      (a.sessions.persist = true → W.filed e.2 = true) ∧ b' = b.withSession W e.1) := by
    rintro b e b' ⟨⟨all, hb⟩, hpersist⟩
    rw [restoreSession_ok hb, hpersist]
  have hkeep : ∀ b (e : SessionState × Nat), I b →
      (a.sessions.persist = true → W.filed e.2 = true) → I (b.withSession W e.1) := by
    rintro b e ⟨⟨all, hb⟩, hpersist⟩ -
    obtain ⟨hreads, hsame⟩ := hb.withSession e.1
    exact ⟨⟨_, hreads⟩, hsame.trans hpersist⟩
  have hlist : sessions.zipIdx.foldl (fun b e => b.withSession W e.1) a =
      sessions.foldl (fun b st => b.withSession W st) a := by
    conv_rhs => rw [← List.zipIdx_map_fst 0 sessions]
    rw [List.foldl_map]
  rw [foldlM_ok hstep hkeep ⟨⟨all, h⟩, rfl⟩, hlist]
  refine and_congr_left fun _ => ?_
  exact ⟨fun hall hp e he => hall e he hp, fun hall e he hp => hall hp e he⟩

theorem readsAs_wipe (a : Account ε ι) (messages : MessageStore) (identity : Manager)
    (seeds : SeedManager ε) :
    Account.ReadsAs W { identity := identity, seeds := seeds, messages := messages
                        sessions := a.sessions.wipe true } ∅ := by
  unfold Account.ReadsAs FileSessionStore.all FileSessionStore.wipe FileSessionStore.loadAll
  simp

variable {payload : BackupPayload}

theorem restoreIdentity_ok :
    Procedure.exec (restoreIdentity W payload) a = (.ok (), a') ↔
      W.messagesRemoved = true ∧ W.sessionsRemoved = true ∧
        payload.signingPrivateKey.length = privateKeySize ∧
        (∀ contact ∈ payload.contacts, Manager.ValidContactID contact.id) ∧
        ∃ id seeds, buildIdentityID W.primitives (publicHalf payload.signingPrivateKey) = .ok id ∧
          (payload.identity.id = "" ∨ id = payload.identity.id) ∧
          a.seeds.restoreEnvelopeJSON W.seedCrypto payload.seedEnvelope = some seeds ∧
          a' = withIdentity W a payload id seeds := by
  unfold restoreIdentity
  simp only [Procedure.bind_ok, Procedure.change_ok, Procedure.attempt_ok,
    Procedure.forM_attempt_ok, Account.restoreKey_ok, Account.restoreSeed_ok,
    Account.checkIdentity_ok, restoreContacts_ok]
  constructor
  · rintro ⟨-, _, ⟨hmessages, rfl⟩, -, _, ⟨hsessions, rfl⟩, -, _, ⟨hlen, id, hid, rfl⟩, -, _,
      ⟨seeds, hseeds, rfl⟩, -, _, ⟨hsame, rfl⟩, hcontacts, rfl⟩
    rw [hsessions]
    exact ⟨hmessages, rfl, hlen, hcontacts, id, seeds, hid, hsame, hseeds, rfl⟩
  · rintro ⟨hmessages, hsessions, hlen, hcontacts, id, seeds, hid, hsame, hseeds, rfl⟩
    rw [hsessions]
    exact ⟨(), _, ⟨hmessages, rfl⟩, (), _, ⟨rfl, rfl⟩, (), _, ⟨hlen, id, hid, rfl⟩, (), _,
      ⟨seeds, hseeds, rfl⟩, (), _, ⟨hsame, rfl⟩, hcontacts, rfl⟩

theorem foldl_withMessage_pending (l : List (String × Message)) (s : MessageStore) :
    (l.foldl (fun s e => withMessage s e.2) s).pending = s.pending := by
  induction l generalizing s with
  | nil => rfl
  | cons e l ih =>
    rw [List.foldl_cons, ih]
    unfold withMessage
    split
    · rfl
    · rfl

theorem restoreStores_ok {id : String} {seeds : SeedManager ε} :
    Procedure.exec (restoreStores W payload) (withIdentity W a payload id seeds) = (.ok (), a') ↔
      Savable W .empty (W.messageOrder payload) ∧
        (∀ e ∈ W.pendingOrder payload, W.queued e.1 = true) ∧
        (a.sessions.persist = true → ∀ e ∈ payload.sessions.zipIdx, W.filed e.2 = true) ∧
        a' = restored W a payload id seeds := by
  unfold restoreStores
  simp only [Procedure.bind_ok, Procedure.forM_attempt_ok, restoreMessages_ok, restorePendings_ok]
  constructor
  · rintro ⟨-, _, ⟨hmessages, rfl⟩, -, _, ⟨hpending, rfl⟩, hsessions⟩
    obtain ⟨hfiled, rfl⟩ := (restoreSessions_ok (readsAs_wipe a _ _ _)).mp hsessions
    refine ⟨hmessages, hpending, hfiled, ?_⟩
    simp only [foldl_withMessage_pending]
    rfl
  · rintro ⟨hmessages, hpending, hfiled, rfl⟩
    refine ⟨(), _, ⟨hmessages, rfl⟩, (), _, ⟨hpending, rfl⟩, ?_⟩
    refine (restoreSessions_ok (readsAs_wipe a _ _ _)).mpr ⟨hfiled, ?_⟩
    simp only [foldl_withMessage_pending]
    rfl

theorem applyBackup_ok :
    Procedure.exec (applyBackup W payload) a = (.ok (), a') ↔
      Restorable W payload a.sessions.persist ∧
        ∃ id seeds, buildIdentityID W.primitives (publicHalf payload.signingPrivateKey) = .ok id ∧
          a.seeds.restoreEnvelopeJSON W.seedCrypto payload.seedEnvelope = some seeds ∧
          a' = restored W a payload id seeds := by
  have hmessages := fun e => (W.messageOrder_perm payload).mem_iff (a := e)
  have hpendings := fun e => (W.pendingOrder_perm payload).mem_iff (a := e)
  unfold applyBackup
  rw [Procedure.bind_ok]
  constructor
  · rintro ⟨⟨⟩, b, hidentity, hstores⟩
    obtain ⟨hm, hs, hlen, hcontacts, id, seeds, hid, hsame, hseeds, rfl⟩ :=
      restoreIdentity_ok.mp hidentity
    obtain ⟨hsavable, hqueued, hfiled, rfl⟩ := restoreStores_ok.mp hstores
    obtain ⟨hsaved, hpairs⟩ := savable_empty.mp hsavable
    refine ⟨⟨hm, hs, hlen, ?_, ?_, hcontacts, ?_, ?_, ?_, hfiled⟩, id, seeds, hid, hseeds, rfl⟩
    · exact (restoreEnvelopeJSON_isSome a.seeds).mp ⟨seeds, hseeds⟩
    · refine hsame.imp_right fun hsame => ?_
      rw [← hsame]
      exact hid
    · simpa only [hmessages] using hsaved
    · simpa only [hmessages] using hpairs
    · simpa only [hpendings] using hqueued
  · rintro ⟨h, id, seeds, hid, hseeds, rfl⟩
    refine ⟨(), withIdentity W a payload id seeds, restoreIdentity_ok.mpr ⟨h.messagesRemoved,
      h.sessionsRemoved, h.key, h.contacts, id, seeds, hid, ?_, hseeds, rfl⟩, ?_⟩
    · exact h.identity.imp_right fun heq => Except.ok.inj (hid.symm.trans heq)
    · refine restoreStores_ok.mpr ⟨savable_empty.mpr ⟨?_, ?_⟩, ?_, h.filed, rfl⟩
      · simpa only [hmessages] using h.saved
      · simpa only [hmessages] using h.noConflict
      · simpa only [hpendings] using h.queued

theorem Restorable.isOk (h : Restorable W payload a.sessions.persist) :
    ∃ a', Procedure.exec (applyBackup W payload) a = (.ok (), a') := by
  obtain ⟨seeds, hseeds⟩ := (restoreEnvelopeJSON_isSome a.seeds).mpr h.seed
  have hid : ∃ id,
      buildIdentityID W.primitives (publicHalf payload.signingPrivateKey) = .ok id := by
    have hlen : (publicHalf payload.signingPrivateKey).length = publicKeySize := by
      rw [publicHalf, List.length_drop, h.key]
      rfl
    simp_all [buildIdentityID]
  obtain ⟨id, hid⟩ := hid
  exact ⟨_, applyBackup_ok.mpr ⟨h, id, seeds, hid, hseeds, rfl⟩⟩

theorem Restorable.of_persist (h : Restorable W payload true)
    (persist : Bool) : Restorable W payload persist :=
  { h with filed := fun _ => h.filed rfl }

/-! ## A restore that fails -/

/-- The messages, the pending ones, the sessions, the identity key and the contacts are the same. -/
structure SameData (W : BackupWorld ε ι) (a b : Account ε ι) : Prop where
  messages : a.messages = b.messages
  sessions : a.sessions.all W.sessionCodec = b.sessions.all W.sessionCodec
  key : a.identity.selfPriv = b.identity.selfPriv
  identityID : a.identity.identityID = b.identity.identityID
  contacts : a.identity.contacts = b.identity.contacts

def Lacks (id : String) (a : Account ε ι) : Prop := a.messages.messages[id]? = none

theorem keeps_lacks {id : String} {f : Account ε ι → Except BackupError (Account ε ι)}
    (hf : ∀ a a', f a = .ok a' → a'.messages.messages = a.messages.messages) :
    Procedure.Keeps (Lacks id) (attempt f) := by
  grind [Procedure.keeps_attempt, Lacks]

theorem keeps_lacks_restoreMessage {id : String} (h : e.2.id ≠ id) :
    Procedure.Keeps (Lacks id) (attempt (restoreMessage W e)) := by
  refine Procedure.keeps_attempt fun a a' ha hok => ?_
  obtain ⟨s', hsave, rfl⟩ := restoreMessage_ok.mp hok
  rcases a.messages.saveMessage_cases e.2 (W.saved e.2.id) with ⟨m, -, hcase⟩ | ⟨-, hcase⟩
  · rw [hsave] at hcase
    split at hcase
    · simp_all
    · exact absurd hcase (by simp)
  · grind [MessageStore.commit, Lacks]

theorem applyBackup_forgets {id : String} (h : ∀ e ∈ payload.messages.toList, e.2.id ≠ id) :
    Procedure.Establishes (Lacks id) (applyBackup W payload) := by
  refine Procedure.establishes_bind (Procedure.establishes_bind
    (Procedure.establishes_change fun a => by simp [Lacks, MessageStore.empty]) fun _ => ?_)
    fun _ => ?_
  · refine Procedure.keeps_bind (Procedure.keeps_change fun a ha => ha) fun _ =>
      Procedure.keeps_bind (keeps_lacks fun a a' hok => ?_) fun _ =>
        Procedure.keeps_bind (keeps_lacks fun a a' hok => ?_) fun _ =>
          Procedure.keeps_bind (keeps_lacks fun a a' hok => ?_) fun _ =>
            Procedure.keeps_forM fun contact _ => keeps_lacks fun a a' hok => ?_
    · obtain ⟨-, id, -, rfl⟩ := restoreKey_ok.mp hok
      rfl
    · obtain ⟨seeds, -, rfl⟩ := restoreSeed_ok.mp hok
      rfl
    · obtain ⟨-, rfl⟩ := checkIdentity_ok.mp hok
      rfl
    · obtain ⟨-, rfl⟩ := restoreContact_ok.mp hok
      rfl
  · refine Procedure.keeps_bind (Procedure.keeps_forM fun e he => ?_) fun _ =>
      Procedure.keeps_bind (Procedure.keeps_forM fun e _ => keeps_lacks fun a a' hok => ?_)
        fun _ => Procedure.keeps_forM fun e _ => keeps_lacks fun a a' hok => ?_
    · exact keeps_lacks_restoreMessage (h e ((W.messageOrder_perm payload).mem_iff.mp he))
    · obtain ⟨-, rfl⟩ := restorePending_ok.mp hok
      rfl
    · obtain ⟨sessions, -, rfl⟩ := restoreSession_saved hok
      rfl

theorem restoreBackup_of_refused {consentToken password blob : String}
    {e : BackupError} (h : openBackup W consentToken password blob = .error e) :
    restoreBackup W a consentToken password blob = (.error e, a) := by
  unfold restoreBackup
  rw [h]

theorem restoreBackup_of_opened {consentToken password blob : String}
    (h : openBackup W consentToken password blob = .ok payload) :
    ((∃ e, (restoreBackup W a consentToken password blob).1 = .error e) ↔
        ¬ Restorable W payload a.sessions.persist) ∧
      (restoreBackup W a consentToken password blob).2 =
        (Procedure.exec (applyBackup W payload) a).2 := by
  unfold restoreBackup
  rw [h]
  dsimp only
  rcases hexec : Procedure.exec (applyBackup W payload) a with ⟨r, a'⟩
  cases r with
  | error e =>
    refine ⟨iff_of_true ⟨e, rfl⟩ fun hgood => ?_, rfl⟩
    obtain ⟨b, hok⟩ := hgood.isOk
    exact absurd (congrArg Prod.fst (hexec.symm.trans hok)) (by simp)
  | ok u =>
    have hgood := (applyBackup_ok.mp hexec).1
    exact ⟨iff_of_false (by simp) (not_not.mpr hgood), rfl⟩

theorem failed_restore_forgets {consentToken password blob : String} (id : String)
    (hopen : openBackup W consentToken password blob = .ok payload)
    (hbad : ¬ Restorable W payload a.sessions.persist)
    (hstray : ∀ e ∈ payload.messages.toList, e.2.id ≠ id) :
    (∃ e, (restoreBackup W a consentToken password blob).1 = .error e) ∧
      (restoreBackup W a consentToken password blob).2.messages.messages[id]? = none := by
  obtain ⟨herror, hleft⟩ := restoreBackup_of_opened (a := a) hopen
  rw [hleft]
  exact ⟨herror.mpr hbad, applyBackup_forgets hstray a⟩

def accountWith (msg : Message) : Account ε ι :=
  { identity :=
      { identityID := "", signingPublicKey := [], selfPriv := [], contacts := ∅, devices := ∅
        activeDeviceID := "", revokedDevices := ∅ }
    seeds := .new
    messages := ⟨(∅ : GoMap String Message).insert msg.id msg, ∅⟩
    sessions := .fresh }

def textMessage (id : String) : Message :=
  { id := id, contactID := "bob", conversationID := "bob", conversationType := .direct
    threadID := "", content := [104, 105], timestamp := 0, direction := .inbound
    status := .delivered, contentType := .text, edited := false }

/--
**A failed restore destroys nothing**, whatever there was before, exactly when the blob is
refused by the checks that come before the wipe, or no step after the wipe can fail.
-/
theorem failed_restore_keeps_iff (W : BackupWorld ε ι) (consentToken password blob : String) :
    (∀ a e, (restoreBackup W a consentToken password blob).1 = .error e →
        SameData W (restoreBackup W a consentToken password blob).2 a) ↔
      (∃ e, openBackup W consentToken password blob = .error e) ∨
        ∃ payload, openBackup W consentToken password blob = .ok payload ∧
          Restorable W payload true := by
  cases hopen : openBackup W consentToken password blob with
  | error e =>
    refine iff_of_true (fun a e' _ => ?_) (.inl ⟨e, rfl⟩)
    rw [restoreBackup_of_refused hopen]
    exact ⟨rfl, rfl, rfl, rfl, rfl⟩
  | ok payload =>
    simp only [Except.ok.injEq, exists_eq_left', reduceCtorEq, exists_false, false_or]
    constructor
    · intro hkeeps
      by_contra hbad
      -- a message that the payload does not have is lost with the wipe
      obtain ⟨id, hfresh⟩ := Infinite.exists_notMem_finset
        (payload.messages.toList.map fun e => e.2.id).toFinset
      have hstray : ∀ e ∈ payload.messages.toList, e.2.id ≠ id := by
        intro e he heq
        refine hfresh (List.mem_toFinset.mpr (List.mem_map.mpr ⟨e, he, heq⟩))
      obtain ⟨⟨e, herror⟩, hlost⟩ :=
        failed_restore_forgets (a := accountWith (textMessage id)) id hopen hbad hstray
      have hsame := hkeeps _ e herror
      rw [hsame.messages] at hlost
      exact absurd hlost (by simp [accountWith, textMessage])
    · intro hgood a e herror
      exact absurd (hgood.of_persist _)
        ((restoreBackup_of_opened hopen).1.mp ⟨e, herror⟩)

end

/-! ## A key of the wrong size

The checks before the wipe ask only that there is a key. -/

def openSealing (payload : BackupPayload) : Sealing where
  marshal _ := some []
  unmarshal _ := some payload
  encrypt _ data := some data
  decrypt _ data := some data
  encode _ := "blob"
  decode _ := some []

/-- A disk that takes every write, and loops that run in the order of the keys. -/
def smoothConditions : Conditions where
  now := 0
  contactOrder m := m.toList.map Prod.snd
  contactOrder_perm _ := .rfl
  sessionOrder m := m.toList.map Prod.snd
  sessionOrder_perm _ := .rfl
  messageOrder p := p.messages.toList
  messageOrder_perm _ := .rfl
  pendingOrder p := p.pending.toList
  pendingOrder_perm _ := .rfl
  messagesRemoved := true
  sessionsRemoved := true
  saved _ := true
  queued _ := true
  filed _ := true

def sampleLibraries (sealing : Sealing) : Libraries Bytes (GoMap String SessionState) where
  primitives := samplePrimitives fun _ _ _ => false
  keyGen := sampleKeyGen
  seedCrypto := sampleSeedCrypto
  sessionCodec := Crypto.plainCodec
  sealing := sealing

def sampleWorld (sealing : Sealing) : BackupWorld Bytes (GoMap String SessionState) :=
  ⟨sampleLibraries sealing, smoothConditions⟩

def shortKeyPayload : BackupPayload :=
  { version := 1, exportedAt := 0, identity := ⟨"", []⟩, signingPrivateKey := [7]
    seedEnvelope := [], contacts := [], messages := ∅, pending := ∅, sessions := [] }

/-- The restore fails on the key, and the message that was there is gone. -/
theorem short_key_wipes :
    (restoreBackup (sampleWorld (openSealing shortKeyPayload)) (accountWith (textMessage "m"))
        backupConsentToken "pw" "blob").1 = .error (.identity .invalidContactCard) ∧
      ¬ SameData (sampleWorld (openSealing shortKeyPayload))
        (restoreBackup (sampleWorld (openSealing shortKeyPayload)) (accountWith (textMessage "m"))
          backupConsentToken "pw" "blob").2 (accountWith (textMessage "m")) := by
  have hopen : openBackup (sampleWorld (openSealing shortKeyPayload)) backupConsentToken "pw"
      "blob" = .ok shortKeyPayload := rfl
  have hbad : ¬ Restorable (sampleWorld (openSealing shortKeyPayload)) shortKeyPayload true :=
    fun hgood => absurd hgood.key (by decide)
  obtain ⟨-, hlost⟩ := failed_restore_forgets (a := accountWith (textMessage "m")) "m" hopen hbad
    (by simp [shortKeyPayload])
  refine ⟨rfl, fun hsame => ?_⟩
  rw [hsame.messages] at hlost
  exact absurd hlost (by simp [accountWith, textMessage])

end Ardents.Identity
