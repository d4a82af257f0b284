import Ardents.Go.Base64
import Ardents.Go.Run
import Ardents.Bootstrap.ManifestTrust

/-!
# Enrollment tokens

A token is a signed statement that lets a node enroll, once. `VerifyAndRedeem` checks it and hands
its id to a store that keeps the ids it has seen, in memory and in a file. An id is taken when it
is new and the file is written; it stays in memory when the write fails.
-/

namespace Ardents.Bootstrap

open Go
open Crypto (Time)
open Identity (publicKeySize)

/-! ## Claims -/

inductive TokenError where
  | tokenMalformed
  | tokenIssuerInvalid
  | tokenScopeInvalid
  | tokenClaimsInvalid
  | tokenSignatureInvalid
  | tokenExpired
  | tokenAlreadyUsed
  /-- The error of the store. -/
  | redeem (text : String)
  deriving DecidableEq, Repr

def requiredIssuer : String := "ardents-control-plane"

def requiredScope : String := "node.enroll"

structure Claims where
  tokenID : String
  issuedAt : Time
  expiresAt : Time
  scope : String
  subjectNodeGroup : String
  issuer : String
  keyID : String
  deriving DecidableEq, Repr

def zeroClaims : Claims := ⟨"", 0, 0, "", "", "", ""⟩

structure AuditEvent where
  eventType : String
  tokenID : String
  issuer : String
  keyID : String
  result : String
  reason : String
  at' : Time
  deriving DecidableEq, Repr

structure Verifier where
  requiredIssuer : String
  requiredScope : String
  publicKeys : GoMap String Bytes
  now : Time

def orDefault (given default : String) : String := if given = "" then default else given

def validateClaims (claims : Claims) (requiredIssuer requiredScope : String) :
    Except TokenError Unit := do
  require (trimSpace claims.issuer = orDefault requiredIssuer Bootstrap.requiredIssuer)
    .tokenIssuerInvalid
  require (trimSpace claims.scope = orDefault requiredScope Bootstrap.requiredScope)
    .tokenScopeInvalid
  require (trimSpace claims.tokenID ≠ "" ∧ claims.issuedAt ≠ 0 ∧ claims.expiresAt ≠ 0 ∧
      trimSpace claims.subjectNodeGroup ≠ "" ∧ trimSpace claims.keyID ≠ "") .tokenClaimsInvalid
  require (claims.issuedAt < claims.expiresAt) .tokenClaimsInvalid

/-! ## Tokens -/

structure TokenLibraries where
  E : Ed25519
  marshal : Claims → Except String Bytes
  unmarshal : Bytes → Option Claims

structure TokenLibraries.Lawful (L : TokenLibraries) : Prop where
  sound : L.E.Sound
  roundTrip : ∀ claims payload, L.marshal claims = .ok payload → L.unmarshal payload = some claims

variable (L : TokenLibraries)

def decodeToken (token : String) : Option (Claims × Bytes × Bytes) :=
  match (trimSpace token).toList.splitOn '.' with
  | [first, second] => do
    let payload ← urlAlphabet.decode first
    let signature ← urlAlphabet.decode second
    let claims ← L.unmarshal payload
    return (claims, payload, signature)
  | _ => none

def encodeSignedToken (claims : Claims) (privateKey : Bytes) : Except String String :=
  match L.marshal claims with
  | .error text => .error ("marshal claims: " ++ text)
  | .ok payload =>
    .ok (rawURLEncode payload ++ "." ++ rawURLEncode (L.E.sign privateKey payload))

def rejectedAudit (now : Time) (claims : Claims) (reason : String) : AuditEvent where
  eventType := "enrollment.token.redeemed"
  tokenID := claims.tokenID
  issuer := claims.issuer
  keyID := claims.keyID
  result := "rejected"
  reason := reason
  at' := now

def acceptedAudit (now : Time) (claims : Claims) : AuditEvent where
  eventType := "enrollment.token.redeemed"
  tokenID := claims.tokenID
  issuer := claims.issuer
  keyID := claims.keyID
  result := "accepted"
  reason := ""
  at' := now

def claimsCode : TokenError → String
  | .tokenIssuerInvalid => "TOKEN_ISSUER_INVALID"
  | .tokenScopeInvalid => "TOKEN_SCOPE_INVALID"
  | _ => "TOKEN_CLAIMS_INVALID"

/-- What `VerifyAndRedeem` returns. -/
abbrev Answer : Type := Except (TokenError × AuditEvent) (Claims × AuditEvent)

/-- `VerifyAndRedeem` up to the store. -/
def verifyToken (v : Verifier) (token : String) : Except (TokenError × AuditEvent) Claims :=
  match decodeToken L token with
  | none => .error (.tokenMalformed, rejectedAudit v.now zeroClaims "TOKEN_MALFORMED")
  | some (claims, payload, signature) =>
    match validateClaims claims v.requiredIssuer v.requiredScope with
    | .error e => .error (e, rejectedAudit v.now claims (claimsCode e))
    | .ok () =>
      if ¬ v.now < claims.expiresAt then
        .error (.tokenExpired, rejectedAudit v.now claims "TOKEN_EXPIRED")
      else
        match v.publicKeys[claims.keyID]? with
        | none =>
          .error (.tokenSignatureInvalid,
            rejectedAudit v.now claims "TOKEN_SIGNATURE_INVALID")
        | some pub =>
          if pub.length ≠ publicKeySize ∨ L.E.verify pub payload signature = false then
            .error (.tokenSignatureInvalid,
              rejectedAudit v.now claims "TOKEN_SIGNATURE_INVALID")
          else .ok claims

/-! ## The store -/

structure FileStore where
  path : String
  seen : GoMap String Time

/-- The file of a store; `none` where there is none. -/
abbrev SeenFile : Type := Option (GoMap String Time)

inductive WriteOutcome where
  | written
  | failed (text : String) (replaced : Bool)

namespace FileStore

/-- `NewFileStore` and `Bootstrap`. -/
def bootstrap (path : String) (file : SeenFile) : Except String FileStore :=
  if trimSpace path = "" then .error "file store path is required"
  else .ok ⟨path, file.getD ∅⟩

def persistLocked (s : FileStore) (file : SeenFile) (write : WriteOutcome) :
    SeenFile × Option String :=
  if trimSpace s.path = "" then (file, some "file store path is required")
  else
    match write with
    | .written => (some s.seen, none)
    | .failed text replaced => (if replaced then some s.seen else file, some text)

/-- `TryRedeem`: the store and the file after it, whether the id was new, and an error. -/
def tryRedeem (s : FileStore) (file : SeenFile) (tokenID : String) (now : Time)
    (write : WriteOutcome) : FileStore × SeenFile × Bool × Option String :=
  if tokenID = "" then (s, file, false, some "token id is required")
  else if tokenID ∈ s.seen then (s, file, false, none)
  else
    let s := { s with seen := s.seen.insert tokenID now }
    let saved := s.persistLocked file write
    (s, saved.1, true, saved.2)

end FileStore

/-- What `VerifyAndRedeem` returns after the store has answered. -/
def redeemAnswer (v : Verifier) (claims : Claims) : Bool × Option String → Answer
  | (_, some text) => .error (.redeem text, rejectedAudit v.now claims "TOKEN_REDEEM_FAILED")
  | (false, none) => .error (.tokenAlreadyUsed, rejectedAudit v.now claims "TOKEN_ALREADY_USED")
  | (true, none) => .ok (claims, acceptedAudit v.now claims)

def verifyAndRedeem (v : Verifier) (token : String) (s : FileStore) (file : SeenFile)
    (write : WriteOutcome) : FileStore × SeenFile × Answer :=
  match verifyToken L v token with
  | .error e => (s, file, .error e)
  | .ok claims =>
    let redeemed := s.tryRedeem file claims.tokenID v.now write
    (redeemed.1, redeemed.2.1, redeemAnswer v claims redeemed.2.2)

/-! ## Calls that overlap -/

structure Call where
  number : Nat
  verifier : Verifier
  token : String
  claims : Claims

/-- The store, its file, the calls on their way to it, and what has been presented and accepted. -/
structure Enrollment where
  store : FileStore
  file : SeenFile
  pending : List Call
  started : Nat
  /-- The ids of the tokens presented, in order. -/
  presented : List String
  /-- The calls that were answered without an error. -/
  accepted : List Call

inductive EnrollmentStep where
  | call (v : Verifier) (token : String)
  /-- The call with this number reaches the store. -/
  | redeem (number : Nat) (write : WriteOutcome)
  /-- A new store, which reads the file; the calls before it are gone. -/
  | restart

def presentedID (token : String) : Option String :=
  (decodeToken L token).map fun decoded => decoded.1.tokenID

namespace Enrollment

def opened (store : FileStore) (file : SeenFile) : Enrollment := ⟨store, file, [], 0, [], []⟩

variable (s : Enrollment)

def reach (c : Call) (write : WriteOutcome) : FileStore × SeenFile × Bool × Option String :=
  s.store.tryRedeem s.file c.claims.tokenID c.verifier.now write

def answer (number : Nat) (write : WriteOutcome) : Option Answer :=
  (s.pending.find? (·.number = number)).map fun c =>
    redeemAnswer c.verifier c.claims (s.reach c write).2.2

/-- `TryRedeem` returns to the call `c`, which is over; its token counts as accepted if it was. -/
def settle (c : Call) (write : WriteOutcome) : Enrollment :=
  { s with
    store := (s.reach c write).1
    file := (s.reach c write).2.1
    pending := s.pending.filter (·.number ≠ c.number)
    accepted := if (redeemAnswer c.verifier c.claims (s.reach c write).2.2).isOk
      then s.accepted ++ [c] else s.accepted }

/-- The calls that wait for the store, with this one if its token is good. -/
def enter (v : Verifier) (token : String) : List Call :=
  match verifyToken L v token with
  | .error _ => s.pending
  | .ok claims => s.pending ++ [⟨s.started, v, token, claims⟩]

def step : EnrollmentStep → Enrollment
  | .call v token =>
    { s with
      started := s.started + 1
      presented := s.presented ++ (presentedID L token).toList
      pending := s.enter L v token }
  | .redeem number write =>
    match s.pending.find? (·.number = number) with
    | none => s
    | some c => s.settle c write
  | .restart =>
    match FileStore.bootstrap s.store.path s.file with
    -- the new store is of no use; nothing is handed to it
    | .error _ => s
    | .ok store => { s with store := store, pending := [] }

variable {s} {L}

/-- A call that meets no other is `VerifyAndRedeem`: the steps leave the store and the file that it
leaves, and a token that passes the checks is answered as it answers. -/
theorem step_alone (hidle : s.pending = []) (v : Verifier) (token : String)
    (write : WriteOutcome) :
    let r := verifyAndRedeem L v token s.store s.file write
    let called := s.step L (.call v token)
    (called.step L (.redeem s.started write)).store = r.1 ∧
      (called.step L (.redeem s.started write)).file = r.2.1 ∧
      called.answer s.started write =
        if (verifyToken L v token).isOk then some r.2.2 else none := by
  cases hverify : verifyToken L v token with
  | error e =>
    simp [verifyAndRedeem, step, answer, enter, hverify, hidle, Except.isOk, Except.toBool]
  | ok claims =>
    simp [verifyAndRedeem, step, answer, enter, settle, reach, hverify, hidle, Except.isOk,
      Except.toBool]

end Enrollment

/-! ## What the checks establish -/

section Checks

variable {L : TokenLibraries} {v : Verifier} {token : String} {claims : Claims}

theorem verifyToken_ok : verifyToken L v token = .ok claims ↔ ∃ payload signature pub,
    decodeToken L token = some (claims, payload, signature) ∧
      validateClaims claims v.requiredIssuer v.requiredScope = .ok () ∧
      v.now < claims.expiresAt ∧ v.publicKeys[claims.keyID]? = some pub ∧
      pub.length = publicKeySize ∧ L.E.verify pub payload signature = true := by
  unfold verifyToken
  constructor
  · intro h
    split at h
    · cases h
    · rename_i claims' payload signature hdecode
      split at h
      · cases h
      · rename_i hvalid
        split at h
        · cases h
        · rename_i hnow
          split at h
          · cases h
          · rename_i pub hpub
            split at h
            · cases h
            · rename_i hkey
              cases h
              rw [not_or, not_not, Bool.not_eq_false] at hkey
              exact ⟨payload, signature, pub, hdecode, hvalid, not_not.mp hnow, hpub, hkey⟩
  · rintro ⟨payload, signature, pub, hdecode, hvalid, hnow, hpub, hlength, hverify⟩
    simp [hdecode, hvalid, hnow, hpub, hlength, hverify]

theorem tokenID_ne_empty {issuer scope : String}
    (h : validateClaims claims issuer scope = .ok ()) : claims.tokenID ≠ "" := by
  obtain ⟨⟨⟩, -, h⟩ := bind_ok.mp h
  obtain ⟨⟨⟩, -, h⟩ := bind_ok.mp h
  obtain ⟨⟨⟩, hids, -⟩ := bind_ok.mp h
  have hid := (require_ok.mp hids).1
  intro hempty
  rw [hempty] at hid
  exact hid (by decide)

theorem issuer_scope {issuer scope : String} (h : validateClaims claims issuer scope = .ok ()) :
    trimSpace claims.issuer = orDefault issuer requiredIssuer ∧
      trimSpace claims.scope = orDefault scope requiredScope := by
  obtain ⟨⟨⟩, hissuer, h⟩ := bind_ok.mp h
  obtain ⟨⟨⟩, hscope, -⟩ := bind_ok.mp h
  exact ⟨require_ok.mp hissuer, require_ok.mp hscope⟩

theorem rawURLEncode_plain {b : Bytes} {c : Char} (h : c ∈ (rawURLEncode b).toList) :
    isSpace c = false ∧ c ≠ '.' := by
  have hplain : urlAlphabet.symbols.all (fun c => !isSpace c && c != '.') = true := by decide
  unfold rawURLEncode at h
  rw [String.toList_ofList] at h
  grind [Alphabet.encode_mem]

theorem splitOn_pair {a b : List Char} (ha : '.' ∉ a) (hb : '.' ∉ b) :
    (a ++ '.' :: b).splitOn '.' = [a, b] := by
  have hpair : (['.'].intercalate [a, b]).splitOn '.' = [a, b] :=
    List.splitOn_intercalate '.' (by simp [ha, hb]) (by simp)
  simpa [List.intercalate, List.intersperse] using hpair

theorem decodeToken_encode (hL : L.Lawful) {key : Bytes}
    (h : encodeSignedToken L claims key = .ok token) :
    ∃ payload, decodeToken L token = some (claims, payload, L.E.sign key payload) := by
  unfold encodeSignedToken at h
  split at h
  · cases h
  · rename_i payload hpayload
    cases h
    refine ⟨payload, ?_⟩
    have hlist : (rawURLEncode payload ++ "." ++ rawURLEncode (L.E.sign key payload)).toList =
        (rawURLEncode payload).toList ++ '.' :: (rawURLEncode (L.E.sign key payload)).toList := by
      simp [String.toList_append]
    have htrim : trimSpace (rawURLEncode payload ++ "." ++ rawURLEncode (L.E.sign key payload)) =
        rawURLEncode payload ++ "." ++ rawURLEncode (L.E.sign key payload) := by
      refine trimSpace_eq_self fun c hc => ?_
      rw [hlist, List.mem_append, List.mem_cons] at hc
      rcases hc with hc | rfl | hc
      · exact (rawURLEncode_plain hc).1
      · decide
      · exact (rawURLEncode_plain hc).1
    have hsplit := splitOn_pair (fun hc => (rawURLEncode_plain (b := payload) hc).2 rfl)
      (fun hc => (rawURLEncode_plain (b := L.E.sign key payload) hc).2 rfl)
    have hfirst : urlAlphabet.decode (rawURLEncode payload).toList = some payload :=
      rawURLDecode_encode payload
    have hsecond : urlAlphabet.decode (rawURLEncode (L.E.sign key payload)).toList =
        some (L.E.sign key payload) := rawURLDecode_encode _
    have hclaims := hL.roundTrip claims payload hpayload
    simp_all [decodeToken]

theorem verifyToken_encode (hL : L.Lawful) {pub : Bytes}
    (htoken : encodeSignedToken L claims (L.E.privateKey pub) = .ok token)
    (hvalid : validateClaims claims v.requiredIssuer v.requiredScope = .ok ())
    (hnow : v.now < claims.expiresAt)
    (hpub : v.publicKeys[claims.keyID]? = some pub) (hlength : pub.length = publicKeySize) :
    verifyToken L v token = .ok claims := by
  obtain ⟨payload, hdecode⟩ := decodeToken_encode hL htoken
  have hverify := (hL.sound.accepts pub payload _ hlength).mpr rfl
  exact verifyToken_ok.mpr ⟨payload, _, pub, hdecode, hvalid, hnow, hpub, hlength, hverify⟩

end Checks

/-! ## What the store does -/

namespace FileStore

theorem tryRedeem_cases (s : FileStore) (file : SeenFile) (tokenID : String) (now : Time)
    (write : WriteOutcome) : (∃ err, s.tryRedeem file tokenID now write = (s, file, false, err)) ∨
    tokenID ∉ s.seen ∧ ∃ file' err, s.tryRedeem file tokenID now write =
        ({ s with seen := s.seen.insert tokenID now }, file', true, err) ∧
      (file' = some (s.seen.insert tokenID now) ∨ file' = file ∧ err ≠ none) := by
  unfold tryRedeem
  split
  · exact .inl ⟨_, rfl⟩
  · split
    · exact .inl ⟨_, rfl⟩
    · rename_i hseen
      refine .inr ⟨hseen, _, _, rfl, ?_⟩
      unfold persistLocked
      grind

theorem tryRedeem_written {s : FileStore} {file : SeenFile} {tokenID : String} {now : Time}
    (hpath : trimSpace s.path ≠ "") (hid : tokenID ≠ "") (hnew : tokenID ∉ s.seen) :
    (s.tryRedeem file tokenID now .written).2.2 = (true, none) := by
  simp [tryRedeem, persistLocked, hpath, hid, hnew]

end FileStore

namespace Enrollment

def Known (tokenID : String) (s : Enrollment) : Prop :=
  tokenID ∈ s.store.seen ∨ ∃ m, s.file = some m ∧ tokenID ∈ m

def underWay (tokenID : String) (s : Enrollment) : Nat :=
  s.pending.countP (·.claims.tokenID = tokenID)

theorem settle_cases (s : Enrollment) (c : Call) (write : WriteOutcome) :
    ((s.settle c write).store = s.store ∧ (s.settle c write).file = s.file ∧
      (s.settle c write).accepted = s.accepted) ∨ (c.claims.tokenID ∉ s.store.seen ∧
      (s.settle c write).store =
        { s.store with seen := s.store.seen.insert c.claims.tokenID c.verifier.now } ∧
      ((s.settle c write).file = some (s.store.seen.insert c.claims.tokenID c.verifier.now) ∧
          ((s.settle c write).accepted = s.accepted ∨
            (s.settle c write).accepted = s.accepted ++ [c]) ∨
        (s.settle c write).file = s.file ∧ (s.settle c write).accepted = s.accepted)) := by
  unfold settle reach
  rcases s.store.tryRedeem_cases s.file c.claims.tokenID c.verifier.now write with
    ⟨err, heq⟩ | ⟨hnew, file', err, heq, hfile⟩
  · rw [heq]
    refine .inl ⟨rfl, rfl, ?_⟩
    cases err with
    | none => rfl
    | some text => rfl
  · rw [heq]
    refine .inr ⟨hnew, rfl, ?_⟩
    cases err with
    | some text => exact hfile.imp (fun h => ⟨h, .inl rfl⟩) (fun h => ⟨h.1, rfl⟩)
    | none => exact .inl ⟨hfile.resolve_right fun h => h.2 rfl, .inr rfl⟩

/-! ## Every id is taken once -/

/-- What holds in every state: each accepted id is known in memory and in the file, none was
accepted twice, and the checks have passed for every call that went on. -/
structure Kept (s : Enrollment) : Prop where
  known : ∀ c ∈ s.accepted, c.claims.tokenID ∈ s.store.seen ∧
    ∃ m, s.file = some m ∧ c.claims.tokenID ∈ m
  once : (s.accepted.map (·.claims.tokenID)).Nodup
  waiting : ∀ c ∈ s.pending, verifyToken L c.verifier c.token = .ok c.claims
  passed : ∀ c ∈ s.accepted, verifyToken L c.verifier c.token = .ok c.claims

variable {L} {s : Enrollment}

theorem Kept.of_accepted {t : Enrollment} (h : Kept L s) (haccepted : t.accepted = s.accepted)
    (hknown : ∀ id, id ∈ s.store.seen → (∃ m, s.file = some m ∧ id ∈ m) →
      id ∈ t.store.seen ∧ ∃ m, t.file = some m ∧ id ∈ m)
    (hwaiting : ∀ c ∈ t.pending, verifyToken L c.verifier c.token = .ok c.claims) : Kept L t := by
  refine ⟨?_, ?_, hwaiting, ?_⟩
  · rw [haccepted]
    exact fun c hc => hknown _ (h.known c hc).1 (h.known c hc).2
  · rw [haccepted]
    exact h.once
  · rw [haccepted]
    exact h.passed

variable {c : Call}

theorem Kept.settle (h : Kept L s) (hc : c ∈ s.pending) (write : WriteOutcome) :
    Kept L (s.settle c write) := by
  have hwaiting : ∀ d ∈ (s.settle c write).pending,
      verifyToken L d.verifier d.token = .ok d.claims :=
    fun d hd => h.waiting d (List.mem_of_mem_filter hd)
  rcases s.settle_cases c write with ⟨hstore, hfile, haccepted⟩ | ⟨hnew, hstore, hrest⟩
  · refine h.of_accepted haccepted (fun id hseen hfiled => ?_) hwaiting
    rw [hstore, hfile]
    exact ⟨hseen, hfiled⟩
  · have hgrown : ∀ id ∈ s.store.seen,
        id ∈ s.store.seen.insert c.claims.tokenID c.verifier.now :=
      fun id hid => Std.ExtTreeMap.mem_insert.mpr (.inr hid)
    rcases hrest with ⟨hfile, haccepted | haccepted⟩ | ⟨hfile, haccepted⟩
    · refine h.of_accepted haccepted (fun id hseen _ => ?_) hwaiting
      rw [hstore, hfile]
      exact ⟨hgrown id hseen, _, rfl, hgrown id hseen⟩
    · -- the call is accepted: no call before it had its id, for the store had not seen it
      refine ⟨?_, ?_, hwaiting, ?_⟩
      · rw [haccepted, hstore, hfile]
        intro d hd
        have hseen : d.claims.tokenID ∈ s.store.seen.insert c.claims.tokenID c.verifier.now := by
          rcases List.mem_append.mp hd with hd | hd
          · exact hgrown _ (h.known d hd).1
          · rw [List.mem_singleton.mp hd]
            exact Std.ExtTreeMap.mem_insert_self
        exact ⟨hseen, _, rfl, hseen⟩
      · rw [haccepted, List.map_append, List.nodup_append]
        refine ⟨h.once, List.nodup_singleton _, ?_⟩
        intro a ha b hb heq
        obtain ⟨d, hd, rfl⟩ := List.mem_map.mp ha
        rw [List.map_singleton, List.mem_singleton] at hb
        rw [hb] at heq
        exact hnew (heq ▸ (h.known d hd).1)
      · grind [cases Kept]
    · refine h.of_accepted haccepted (fun id hseen hfiled => ?_) hwaiting
      rw [hstore, hfile]
      exact ⟨hgrown id hseen, hfiled⟩

theorem restart_cases (s : Enrollment) : s.step L .restart = s ∨
    s.step L .restart = { s with store := ⟨s.store.path, s.file.getD ∅⟩, pending := [] } := by
  grind [step, FileStore.bootstrap]

theorem redeem_cases (s : Enrollment) (number : Nat) (write : WriteOutcome) :
    s.step L (.redeem number write) = s ∨ ∃ c ∈ s.pending, c.number = number ∧
      s.step L (.redeem number write) = s.settle c write := by
  grind [step]

@[simp] theorem call_store (s : Enrollment) (v : Verifier) (token : String) :
    (s.step L (.call v token)).store = s.store := by
  simp only [step]

@[simp] theorem call_file (s : Enrollment) (v : Verifier) (token : String) :
    (s.step L (.call v token)).file = s.file := by
  simp only [step]

@[simp] theorem call_accepted (s : Enrollment) (v : Verifier) (token : String) :
    (s.step L (.call v token)).accepted = s.accepted := by
  simp only [step]

@[simp] theorem call_pending (s : Enrollment) (v : Verifier) (token : String) :
    (s.step L (.call v token)).pending = s.enter L v token := by
  simp only [step]

theorem enter_cases (s : Enrollment) (v : Verifier) (token : String) :
    s.enter L v token = s.pending ∨ ∃ claims, verifyToken L v token = .ok claims ∧
      s.enter L v token = s.pending ++ [⟨s.started, v, token, claims⟩] := by
  grind [enter]

theorem Kept.step (h : Kept L s) (a : EnrollmentStep) : Kept L (s.step L a) := by
  cases a with
  | call v token =>
    have hwaiting : ∀ c ∈ s.enter L v token, verifyToken L c.verifier c.token = .ok c.claims := by
      grind [enter_cases, cases Kept]
    refine h.of_accepted (call_accepted s v token) (fun id hseen hfiled => ?_) ?_
    · rw [call_store, call_file]
      exact ⟨hseen, hfiled⟩
    · rw [call_pending]
      exact hwaiting
  | redeem number write =>
    grind [redeem_cases, settle]
  | restart =>
    rcases s.restart_cases (L := L) with heq | heq
    · rw [heq]
      exact h
    · rw [heq]
      refine h.of_accepted rfl ?_ fun c hc => absurd hc List.not_mem_nil
      -- what was accepted is in the file, and memory is now what the file holds
      simp_all

theorem kept_opened (store : FileStore) (file : SeenFile) : Kept L (opened store file) where
  known _ hc := absurd hc List.not_mem_nil
  once := List.nodup_nil
  waiting _ hc := absurd hc List.not_mem_nil
  passed _ hc := absurd hc List.not_mem_nil

/-! ## A token that nobody presented before -/

theorem Known.of_settle {tokenID : String} {write : WriteOutcome}
    (h : (s.settle c write).Known tokenID) : s.Known tokenID ∨ tokenID = c.claims.tokenID := by
  have hinserted : tokenID ∈ s.store.seen.insert c.claims.tokenID c.verifier.now →
      s.Known tokenID ∨ tokenID = c.claims.tokenID := by
    intro hmem
    rcases Std.ExtTreeMap.mem_insert.mp hmem with heq | hmem
    · exact .inr (Std.LawfulEqCmp.eq_of_compare heq).symm
    · exact .inl (.inl hmem)
  grind [Known, settle_cases]

theorem underWay_settle (hc : c ∈ s.pending) (write : WriteOutcome) (tokenID : String) :
    (s.settle c write).underWay tokenID ≤ s.underWay tokenID ∧ (tokenID = c.claims.tokenID →
        (s.settle c write).underWay tokenID < s.underWay tokenID) := by
  have hsum := List.countP_eq_countP_filter_add s.pending (·.claims.tokenID = tokenID)
    (·.number ≠ c.number)
  have hleft : (s.settle c write).underWay tokenID =
      (s.pending.filter (·.number ≠ c.number)).countP (·.claims.tokenID = tokenID) := rfl
  unfold underWay at hleft ⊢
  constructor
  · omega
  · intro heq
    have hpos : 0 < (s.pending.filter fun d => !decide (d.number ≠ c.number)).countP
        (·.claims.tokenID = tokenID) := by
      rw [List.countP_pos_iff]
      exact ⟨c, by simp [hc], by simp [heq]⟩
    omega

theorem call_presented (s : Enrollment) (v : Verifier) (token : String) :
    (s.step L (.call v token)).presented = s.presented ++ (presentedID L token).toList := by
  simp only [step]

theorem presentedID_of_ok {v : Verifier} {token : String} {claims : Claims}
    (h : verifyToken L v token = .ok claims) : presentedID L token = some claims.tokenID := by
  obtain ⟨payload, signature, pub, hdecode, -⟩ := verifyToken_ok.mp h
  simp [presentedID, hdecode]

theorem underWay_call (s : Enrollment) (v : Verifier) (token tokenID : String) :
    (s.step L (.call v token)).underWay tokenID ≤
      s.underWay tokenID + (presentedID L token).toList.count tokenID := by
  grind [underWay, call_pending, enter_cases, presentedID_of_ok]

/-- Calls have numbers of their own, and an id the store knows was presented by a call that is
through. -/
structure Counted (tokenID : String) (s : Enrollment) : Prop where
  numbers : (s.pending.map (·.number)).Nodup
  below : ∀ c ∈ s.pending, c.number < s.started
  arrived : s.underWay tokenID ≤ s.presented.count tokenID
  spent : s.Known tokenID → s.underWay tokenID < s.presented.count tokenID

variable {tokenID : String}

theorem Counted.call (h : Counted tokenID s) (v : Verifier) (token : String) :
    Counted tokenID (s.step L (.call v token)) := by
  have hway := s.underWay_call (L := L) v token tokenID
  have hstarted : (s.step L (.call v token)).started = s.started + 1 := by simp only [step]
  have harrived := h.arrived
  constructor
  · grind [call_pending, enter_cases, cases Counted]
  · grind [call_pending, enter_cases, cases Counted]
  · rw [call_presented, List.count_append]
    omega
  · intro hknown
    unfold Known at hknown
    rw [call_store, call_file] at hknown
    have hspent := h.spent hknown
    rw [call_presented, List.count_append]
    omega

theorem Counted.settle (h : Counted tokenID s) (hc : c ∈ s.pending)
    (write : WriteOutcome) : Counted tokenID (s.settle c write) := by
  obtain ⟨hle, hlt⟩ := underWay_settle hc write tokenID
  have harrived := h.arrived
  have hpresented : (s.settle c write).presented = s.presented := rfl
  constructor
  · exact h.numbers.sublist (List.filter_sublist.map _)
  · exact fun d hd => h.below d (List.mem_of_mem_filter hd)
  · rw [hpresented]
    omega
  · intro hknown
    grind [Known.of_settle, cases Counted]

theorem Counted.step (h : Counted tokenID s) (a : EnrollmentStep) :
    Counted tokenID (s.step L a) := by
  cases a with
  | call v token => exact h.call v token
  | redeem number write =>
    grind [redeem_cases, settle]
  | restart =>
    rcases s.restart_cases (L := L) with heq | heq
    · rw [heq]
      exact h
    · rw [heq]
      refine ⟨List.nodup_nil, fun c hc => absurd hc List.not_mem_nil, Nat.zero_le _, ?_⟩
      intro hknown
      -- what memory holds now was in the file
      have hfile : s.Known tokenID := by
        rcases hknown with hseen | hfile
        · cases hm : s.file with
          | none => simp [hm] at hseen
          | some m => exact .inr ⟨m, hm, by simpa [hm] using hseen⟩
        · exact .inr hfile
      exact Nat.lt_of_le_of_lt (Nat.zero_le _) (h.spent hfile)

theorem counted_opened {store : FileStore} {file : SeenFile}
    (h : ¬ (opened store file).Known tokenID) : Counted tokenID (opened store file) where
  numbers := List.nodup_nil
  below _ hc := absurd hc List.not_mem_nil
  arrived := Nat.le_refl 0
  spent hknown := absurd hknown h

theorem step_path (s : Enrollment) (a : EnrollmentStep) :
    (s.step L a).store.path = s.store.path := by
  cases a with
  | call v token => rw [call_store]
  | redeem number write =>
    grind [redeem_cases, settle_cases]
  | restart =>
    grind [restart_cases]

def Elsewhere (L : TokenLibraries) (number : Nat) (tokenID : String) : EnrollmentStep → Prop
  | .call _ token => presentedID L token ≠ some tokenID
  | .redeem other _ => other ≠ number
  | .restart => False

structure Waits (c : Call) (s : Enrollment) : Prop where
  counted : Counted c.claims.tokenID s
  pending : c ∈ s.pending
  alone : s.presented.count c.claims.tokenID = 1

theorem Waits.step (h : Waits c s) {a : EnrollmentStep}
    (ha : Elsewhere L c.number c.claims.tokenID a) : Waits c (s.step L a) := by
  refine ⟨h.counted.step a, ?_, ?_⟩
  · cases a with
    | call v token =>
      grind [call_pending, enter_cases, cases Waits]
    | redeem number write =>
      rcases s.redeem_cases (L := L) number write with heq | ⟨d, -, hnumber, heq⟩
      · rw [heq]
        exact h.pending
      · rw [heq]
        have hother : c.number ≠ d.number := fun heq => ha (hnumber.symm.trans heq.symm)
        exact List.mem_filter.mpr ⟨h.pending, decide_eq_true hother⟩
    | restart => exact ha.elim
  · cases a with
    | call v token =>
      have hnone : (presentedID L token).toList.count c.claims.tokenID = 0 := by
        rw [List.count_eq_zero, Option.mem_toList]
        exact ha
      rw [call_presented, List.count_append, hnone, h.alone]
    | redeem number write =>
      rcases s.redeem_cases (L := L) number write with heq | ⟨d, -, -, heq⟩
      · rw [heq]
        exact h.alone
      · rw [heq]
        exact h.alone
    | restart => exact ha.elim

theorem Waits.answer (h : Waits c s) (hpath : trimSpace s.store.path ≠ "")
    (hid : c.claims.tokenID ≠ "") :
    s.answer c.number .written = some (.ok (c.claims, acceptedAudit c.verifier.now c.claims)) := by
  have hnew : c.claims.tokenID ∉ s.store.seen := by
    intro hseen
    have hspent := h.counted.spent (.inl hseen)
    have hway : 0 < s.underWay c.claims.tokenID :=
      List.countP_pos_iff.mpr ⟨c, h.pending, decide_eq_true rfl⟩
    have halone := h.alone
    omega
  have hfind : s.pending.find? (·.number = c.number) = some c := by
    cases hfound : s.pending.find? (·.number = c.number) with
    | none =>
      grind [cases Waits]
    | some d =>
      have hnumber := List.find?_some hfound
      have hsame : d.number = c.number := of_decide_eq_true hnumber
      have hmem := List.mem_of_find?_eq_some hfound
      rw [List.inj_on_of_nodup_map h.counted.numbers hmem h.pending hsame]
  have hredeemed : (s.reach c .written).2.2 = (true, none) :=
    FileStore.tryRedeem_written hpath hid hnew
  unfold Enrollment.answer
  rw [hfind, Option.map_some, hredeemed]
  rfl

end Enrollment

/-! ## Single use -/

/-- The token of the call was signed by the key registered for its claims, which come from the
issuer and have the scope the verifier asks for, and have not expired. -/
def Genuine (c : Call) : Prop :=
  ∃ payload pub, decodeToken L c.token =
      some (c.claims, payload, L.E.sign (L.E.privateKey pub) payload) ∧
    c.verifier.publicKeys[c.claims.keyID]? = some pub ∧
    trimSpace c.claims.issuer = orDefault c.verifier.requiredIssuer requiredIssuer ∧
    trimSpace c.claims.scope = orDefault c.verifier.requiredScope requiredScope ∧
    c.verifier.now < c.claims.expiresAt

variable {L}

theorem genuine_of_ok (hL : L.Lawful) {c : Call}
    (h : verifyToken L c.verifier c.token = .ok c.claims) : Genuine L c := by
  obtain ⟨payload, signature, pub, hdecode, hvalid, hnow, hpub, hlength, hverify⟩ :=
    verifyToken_ok.mp h
  have hsigned := (hL.sound.accepts pub payload signature hlength).mp hverify
  obtain ⟨hissuer, hscope⟩ := issuer_scope hvalid
  rw [hsigned] at hdecode
  exact ⟨payload, pub, hdecode, hpub, hissuer, hscope, hnow⟩

open Enrollment

/-- In every run an id is accepted at most once, and only from a genuine token. A token for valid
claims with an id nobody presented, before the call or during it, is accepted when its write
succeeds. -/
theorem tokens_single_use (L : TokenLibraries) (hL : L.Lawful) (store : FileStore)
    (file : SeenFile) (steps : List EnrollmentStep) :
    let s := run (fun s a => s.step L a) (Enrollment.opened store file) steps
    (s.accepted.map (·.claims.tokenID)).Nodup ∧ (∀ c ∈ s.accepted, Genuine L c) ∧
      ∀ (v : Verifier) (claims : Claims) (pub : Bytes) (token : String)
        (mid : List EnrollmentStep), trimSpace store.path ≠ "" →
        ¬ (Enrollment.opened store file).Known claims.tokenID → claims.tokenID ∉ s.presented →
        encodeSignedToken L claims (L.E.privateKey pub) = .ok token →
        validateClaims claims v.requiredIssuer v.requiredScope = .ok () →
        v.now < claims.expiresAt →
        v.publicKeys[claims.keyID]? = some pub → pub.length = publicKeySize →
        (∀ a ∈ mid, Enrollment.Elsewhere L s.started claims.tokenID a) →
        (run (fun s a => s.step L a) (s.step L (.call v token)) mid).answer s.started .written =
          some (.ok (claims, acceptedAudit v.now claims)) := by
  intro s
  have hkept : s.Kept L :=
    run_inv (fun t a ht => ht.step a) (kept_opened store file) steps
  refine ⟨hkept.once, fun c hc => genuine_of_ok hL (hkept.passed c hc), ?_⟩
  intro v claims pub token mid hpath hunknown hnever htoken hvalid hnow hpub hlength hmid
  have hok := verifyToken_encode hL htoken hvalid hnow hpub hlength
  have hcounted : s.Counted claims.tokenID :=
    run_inv (fun t a ht => ht.step a) (counted_opened hunknown) steps
  -- the call is under way, and it is the only one that has presented this id
  have hwaits : Waits ⟨s.started, v, token, claims⟩ (s.step L (.call v token)) := by
    refine ⟨hcounted.call v token, ?_, ?_⟩
    · grind [call_pending, Enrollment.enter]
    · rw [call_presented, presentedID_of_ok hok, List.count_append,
        List.count_eq_zero_of_not_mem hnever]
      simp
  have hlater := along_run (I := Waits ⟨s.started, v, token, claims⟩)
    (C := fun _ a => Elsewhere L s.started claims.tokenID a)
    (fun t a ht ha => ht.step ha) hwaits (along_of_forall (fun _ a ha => hmid a ha) _)
  have hplace : ∀ t : Enrollment, ∀ as : List EnrollmentStep,
      (run (fun s a => s.step L a) t as).store.path = t.store.path := fun t as =>
    run_inv (I := fun u : Enrollment => u.store.path = t.store.path)
      (fun u a hu => (u.step_path a).trans hu) rfl as
  refine hlater.answer ?_ (tokenID_ne_empty hvalid)
  rw [hplace, step_path, hplace]
  exact hpath

/-! ## A token presented twice -/

/-- The claims of a node of one group, under any id. -/
def claimsOf (tokenID : String) : Claims :=
  ⟨tokenID, 1, 100, "node.enroll", "edge", "ardents-control-plane", "k1"⟩

/-- Signatures that show what they sign, and an encoder of such claims by the bytes of their id. -/
def claimsByID : TokenLibraries where
  E := openSignatures
  marshal claims :=
    if claims = claimsOf claims.tokenID ∧ claims.tokenID.toList.all (·.toNat < 256) then
      .ok (claims.tokenID.toList.map (UInt8.ofNat ·.toNat))
    else .error "unknown claims"
  unmarshal payload := some (claimsOf (String.ofList (payload.map (Char.ofNat ·.toNat))))

theorem claimsByID_lawful : claimsByID.Lawful where
  sound := openSignatures_sound
  roundTrip claims payload h := by
    unfold claimsByID at h ⊢
    dsimp only at h ⊢
    split at h
    · rename_i hknown
      obtain ⟨hclaims, hbytes⟩ := hknown
      have hback : (claims.tokenID.toList.map (UInt8.ofNat ·.toNat)).map (Char.ofNat ·.toNat)
          = claims.tokenID.toList := by
        rw [List.map_map]
        refine (List.map_congr_left fun c hc => ?_).trans (List.map_id _)
        have hlt : c.toNat < 256 := of_decide_eq_true (List.all_eq_true.mp hbytes c hc)
        show Char.ofNat (UInt8.ofNat c.toNat).toNat = c
        rw [UInt8.toNat_ofNat', Nat.mod_eq_of_lt hlt, Char.ofNat_toNat]
      rw [← Except.ok.inj h, hback, String.ofList_toList, ← hclaims]
    · exact nomatch h

def nodeKey : Bytes := List.replicate 32 7

def nodeVerifier : Verifier := ⟨"", "", (∅ : GoMap String Bytes).insert "k1" nodeKey, 50⟩

def nodeToken : String :=
  rawURLEncode (bytesOf "t-1") ++ "." ++ rawURLEncode (nodeKey ++ bytesOf "t-1")

/-- The token is presented, redeemed, and presented again to a store that has been restarted. -/
def presentedTwice : List EnrollmentStep :=
  [.call nodeVerifier nodeToken, .redeem 0 .written, .restart, .call nodeVerifier nodeToken,
    .redeem 1 .written]

/-- It is accepted when it is first presented, and only then. -/
theorem nodeToken_single_use :
    let s := run (fun s a => s.step claimsByID a) (Enrollment.opened ⟨"/tokens", ∅⟩ none)
      presentedTwice
    s.presented = ["t-1", "t-1"] ∧ s.accepted.map (·.claims.tokenID) = ["t-1"] ∧
      (s.accepted.map (·.claims.tokenID)).Nodup ∧
      ((Enrollment.opened ⟨"/tokens", ∅⟩ none).step claimsByID
        (.call nodeVerifier nodeToken)).answer 0 .written =
          some (.ok (claimsOf "t-1", acceptedAudit 50 (claimsOf "t-1"))) := by
  have hunknown : ¬ (Enrollment.opened ⟨"/tokens", ∅⟩ none).Known (claimsOf "t-1").tokenID := by
    rintro (h | ⟨m, hm, -⟩)
    · exact Std.ExtTreeMap.not_mem_empty h
    · cases hm
  have htoken : encodeSignedToken claimsByID (claimsOf "t-1") (claimsByID.E.privateKey nodeKey)
      = .ok nodeToken := by decide +kernel
  refine ⟨by decide +kernel, by decide +kernel,
    (tokens_single_use claimsByID claimsByID_lawful ⟨"/tokens", ∅⟩ none presentedTwice).1, ?_⟩
  exact (tokens_single_use claimsByID claimsByID_lawful ⟨"/tokens", ∅⟩ none []).2.2 nodeVerifier
    (claimsOf "t-1") nodeKey nodeToken [] (by decide) hunknown List.not_mem_nil htoken
    (by decide) (by decide) Std.ExtTreeMap.getElem?_insert_self (by decide) (fun _ h => nomatch h)

end Ardents.Bootstrap
