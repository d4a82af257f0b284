import Ardents.Go.Run
import Ardents.Groups.Domain

/-!
# The replay guard

`guardInboundGroupReplay` remembers what it has let pass and refuses it a second time. An
entry is kept for `ReplayWindow`, counted from when it was made; an event is let pass
while its own time is within `ReplayWindow` of the clock, or up to `ReplayFutureSkew`
ahead of it. An event whose time is ahead of the clock outlives the entry made for it, by
as much as it was ahead, and in that gap it is let pass again.
-/

namespace Ardents.Groups

open Go
open Crypto (Time)

/-- `ReplayWindow`, 30 minutes. -/
def replayWindow : Time := 30 * 60 * 1000000000

/-- `ReplayFutureSkew`, 2 minutes. -/
def replayFutureSkew : Time := 2 * 60 * 1000000000

def buildReplayGuardKey (kind groupID senderDeviceID uniqueID : String) :
    Except GroupError String :=
  let groupID := trimSpace groupID
  let senderDeviceID := trimSpace senderDeviceID
  let uniqueID := trimSpace uniqueID
  let kind := trimSpace kind
  if groupID = "" ∨ senderDeviceID = "" ∨ uniqueID = "" ∨ kind = "" then
    .error .invalidGroupEventPayload
  else .ok (kind ++ "|" ++ groupID ++ "|" ++ senderDeviceID ++ "|" ++ uniqueID)

def validateReplayOccurredAt (occurredAt now : Time) : Except GroupError Unit :=
  if occurredAt = zeroTime then .ok ()
  else if occurredAt < now - replayWindow ∨ now + replayFutureSkew < occurredAt then
    .error .outOfOrderGroupEvent
  else .ok ()

structure ReplayCall where
  kind : String
  groupID : String
  senderDeviceID : String
  uniqueID : String
  occurredAt : Time
  now : Time
  deriving DecidableEq

/-- `ReplaySeen`: when each key was let pass. -/
abbrev ReplaySeen : Type := GoMap String Time

namespace ReplayCall

def key (c : ReplayCall) : Except GroupError String :=
  buildReplayGuardKey c.kind c.groupID c.senderDeviceID c.uniqueID

def subject (c : ReplayCall) : String × String × String × String :=
  (trimSpace c.kind, trimSpace c.groupID, trimSpace c.senderDeviceID, trimSpace c.uniqueID)

end ReplayCall

/-- An entry made at `seenAt` is kept by a call at `now`. -/
def kept (now seenAt : Time) : Bool := !(seenAt < now - replayWindow)

def guardInboundGroupReplay (seen : ReplaySeen) (c : ReplayCall) : ReplaySeen × Option GroupError :=
  match c.key with
  | .error e => (seen, some e)
  | .ok key =>
    match validateReplayOccurredAt c.occurredAt c.now with
    | .error e => (seen, some e)
    | .ok () =>
      let seen := seen.filter fun _ seenAt => kept c.now seenAt
      if key ∈ seen then (seen, some .outOfOrderGroupEvent)
      else (seen.insert key c.now, none)

namespace ReplayCall

def step (seen : ReplaySeen) (c : ReplayCall) : ReplaySeen := (guardInboundGroupReplay seen c).1

def Passes (seen : ReplaySeen) (c : ReplayCall) : Prop := (guardInboundGroupReplay seen c).2 = none

instance (seen : ReplaySeen) (c : ReplayCall) : Decidable (c.Passes seen) :=
  inferInstanceAs (Decidable (_ = none))

end ReplayCall

/-! ## What a call sees and leaves -/

/-- The entry under `key` that a call at `now` still finds. -/
def remembered (seen : ReplaySeen) (now : Time) (key : String) : Option Time :=
  (seen[key]?).filter (kept now)

section

variable {seen seen' : ReplaySeen} {c : ReplayCall} {key : String} {now t : Time}

theorem remembered_eq_some : remembered seen now key = some t ↔
    seen[key]? = some t ∧ kept now t = true :=
  Option.filter_eq_some_iff

theorem kept_of_le {now' : Time} (hle : now ≤ now') (h : kept now' t = true) :
    kept now t = true := by
  grind [kept]

theorem guard_in_time (hkey : c.key = .ok key)
    (hin : validateReplayOccurredAt c.occurredAt c.now = .ok ()) :
    (∃ t, remembered seen c.now key = some t ∧ guardInboundGroupReplay seen c
      = (seen.filter (fun _ seenAt => kept c.now seenAt), some .outOfOrderGroupEvent)) ∨
    (remembered seen c.now key = none ∧ guardInboundGroupReplay seen c
      = ((seen.filter fun _ seenAt => kept c.now seenAt).insert key c.now, none)) := by
  grind [remembered, guardInboundGroupReplay]

theorem passes_iff : c.Passes seen ↔ ∃ key, c.key = .ok key ∧
    validateReplayOccurredAt c.occurredAt c.now = .ok () ∧ remembered seen c.now key = none := by
  grind [ReplayCall.Passes, guardInboundGroupReplay, guard_in_time]

theorem remembered_step (hle : c.now ≤ now) :
    remembered (c.step seen) now key = if c.Passes seen ∧ c.key = .ok key then
      (some c.now).filter (kept now) else remembered seen now key := by
  -- sweeping early hides nothing from a later call
  have hsweep : ((seen[key]?).filter (kept c.now)).filter (kept now) =
      (seen[key]?).filter (kept now) := by
    cases seen[key]? with
    | none => rfl
    | some t =>
      by_cases ht : kept now t = true
      · simp [Option.filter, kept_of_le hle ht]
      · by_cases ht' : kept c.now t = true
        · simp [Option.filter, ht']
        · simp [Option.filter, ht, ht']
  unfold ReplayCall.step
  cases hkey : c.key with
  | error e =>
    rw [if_neg (by simp)]
    simp [guardInboundGroupReplay, hkey]
  | ok k =>
    cases hin : validateReplayOccurredAt c.occurredAt c.now with
    | error e =>
      have hfail : ¬ c.Passes seen := by
        rw [passes_iff, hin]
        simp
      rw [if_neg fun h => hfail h.1]
      simp [guardInboundGroupReplay, hkey, hin]
    | ok u =>
      rcases guard_in_time hkey hin with ⟨t, ht, hrun⟩ | ⟨hnone, hrun⟩
      · have hfail : ¬ c.Passes seen := by
          unfold ReplayCall.Passes
          rw [hrun]
          simp
        rw [if_neg fun h => hfail h.1, hrun]
        unfold remembered
        rw [get_sweep, hsweep]
      · have hpass : c.Passes seen := by
          unfold ReplayCall.Passes
          rw [hrun]
        rw [hrun]
        unfold remembered
        rw [get_insert, get_sweep]
        by_cases hk : k = key
        · rw [if_pos hk, if_pos ⟨hpass, congrArg Except.ok hk⟩]
        · rw [if_neg hk, if_neg fun h => hk (Except.ok.inj h.2), hsweep]

theorem verdict_congr (h : ∀ key, c.key = .ok key →
    remembered seen c.now key = remembered seen' c.now key) :
    (guardInboundGroupReplay seen c).2 = (guardInboundGroupReplay seen' c).2 := by
  cases hkey : c.key with
  | error e => simp [guardInboundGroupReplay, hkey]
  | ok key =>
    cases hin : validateReplayOccurredAt c.occurredAt c.now with
    | error e => simp [guardInboundGroupReplay, hkey, hin]
    | ok u =>
      grind [guard_in_time]

theorem key_of_subject {a b : ReplayCall} (h : a.subject = b.subject) : a.key = b.key := by
  grind [ReplayCall.subject, ReplayCall.key, buildReplayGuardKey]

end

/-! ## Once -/

/-- The gap: `b` presents what `a` presented after the entry of `a` has expired and while the event
is still in time. -/
def InGap (a b : ReplayCall) : Prop :=
  a.occurredAt ≤ a.now + replayFutureSkew ∧ a.now + replayWindow < b.now ∧
    b.now ≤ b.occurredAt + replayWindow

instance (a b : ReplayCall) : Decidable (InGap a b) := inferInstanceAs (Decidable (_ ∧ _ ∧ _))

section

variable {seen : ReplaySeen} {a b : ReplayCall} {mid : List ReplayCall} {key : String} {t : Time}

theorem remembered_run {now : Time} (h : remembered seen now key = some t)
    (hmid : ∀ m ∈ mid, m.now ≤ now) :
    remembered (run ReplayCall.step seen mid) now key = some t := by
  induction mid generalizing seen with
  | nil => exact h
  | cons m mid ih =>
    rw [run_cons]
    refine ih ?_ fun m' hm' => hmid m' (List.mem_cons_of_mem _ hm')
    have hle := hmid m List.mem_cons_self
    rw [remembered_step hle, if_neg]
    · exact h
    · -- a call with this key finds the entry
      rintro ⟨hpass, hkey⟩
      obtain ⟨k, hk, -, hnone⟩ := passes_iff.mp hpass
      rw [hkey] at hk
      obtain rfl := Except.ok.inj hk
      obtain ⟨hget, hkept⟩ := remembered_eq_some.mp h
      rw [remembered_eq_some.mpr ⟨hget, kept_of_le hle hkept⟩] at hnone
      exact absurd hnone (by simp)

theorem not_passes_again (ha : a.Passes seen) (hsubject : a.subject = b.subject)
    (hocc : a.occurredAt = b.occurredAt) (hnonzero : b.occurredAt ≠ zeroTime)
    (hle : a.now ≤ b.now) (hmid : ∀ m ∈ mid, m.now ≤ b.now) (hgap : ¬ InGap a b) :
    ¬ b.Passes (run ReplayCall.step (a.step seen) mid) := by
  intro hb
  obtain ⟨key, hakey, hain, -⟩ := passes_iff.mp ha
  obtain ⟨key', hbkey, hbin, hnone⟩ := passes_iff.mp hb
  obtain rfl : key = key' := by
    grind [key_of_subject]
  by_cases hfresh : kept b.now a.now = true
  · have hentry : remembered (a.step seen) b.now key = some a.now := by
      rw [remembered_step hle, if_pos ⟨ha, hakey⟩]
      simp [Option.filter, hfresh]
    rw [remembered_run hentry hmid] at hnone
    exact absurd hnone (by simp)
  · unfold validateReplayOccurredAt at hain hbin
    unfold kept at hfresh
    rw [hocc, if_neg hnonzero] at hain
    rw [if_neg hnonzero] at hbin
    split at hain
    · exact absurd hain (by simp)
    · split at hbin
      · exact absurd hbin (by simp)
      · rename_i hawin hbwin
        simp only [Bool.not_eq_true', Bool.not_eq_false, decide_eq_true_eq] at hfresh
        rw [not_or, not_lt, not_lt] at hawin hbwin
        exact hgap ⟨by linarith, by linarith, by linarith⟩

end

section

variable {c : ReplayCall} {calls : List ReplayCall}

theorem remembered_filter {key : String} (hkey : c.key = .ok key) {seen seen' : ReplaySeen}
    {start now : Time} (hclock : calls.Pairwise fun a b => a.now ≤ b.now)
    (hstart : ∀ a ∈ calls, start ≤ a.now) (hnow : ∀ a ∈ calls, a.now ≤ now) (hle : start ≤ now)
    (hinj : ∀ a ∈ calls, a.key = c.key → a.subject = c.subject)
    (hsame : ∀ later, start ≤ later → remembered seen later key = remembered seen' later key) :
    remembered (run ReplayCall.step seen calls) now key = remembered (run ReplayCall.step seen'
          (calls.filter fun a => decide (a.subject = c.subject))) now key := by
  induction calls generalizing seen seen' start with
  | nil => exact hsame now hle
  | cons a calls ih =>
    obtain ⟨hafter, hclock⟩ := List.pairwise_cons.mp hclock
    have hastart := hstart a List.mem_cons_self
    -- from the clock of `a` on, both runs remember the same
    have hnext := fun s s' => @ih s s' a.now hclock hafter
      (fun b hb => hnow b (List.mem_cons_of_mem _ hb)) (hnow a List.mem_cons_self)
      (fun b hb => hinj b (List.mem_cons_of_mem _ hb))
    by_cases hsubject : a.subject = c.subject
    · rw [List.filter_cons_of_pos (by simpa using hsubject), run_cons, run_cons]
      have hakey : a.key = .ok key := (key_of_subject hsubject).trans hkey
      have hpass : a.Passes seen ↔ a.Passes seen' := by
        simp only [passes_iff, hakey, Except.ok.injEq, exists_eq_left', hsame a.now hastart]
      refine hnext _ _ fun later hlater => ?_
      rw [remembered_step hlater, remembered_step hlater, hsame later (le_trans hastart hlater)]
      exact if_congr (and_congr_left' hpass) rfl rfl
    · rw [List.filter_cons_of_neg (by simpa using hsubject), run_cons]
      refine hnext _ _ fun later hlater => ?_
      rw [remembered_step hlater, if_neg, hsame later (le_trans hastart hlater)]
      rintro ⟨-, hakey⟩
      exact hsubject (hinj a List.mem_cons_self (hakey.trans hkey.symm))

end

/-! ## Every run -/

/-- No event is presented in the gap, and no two calls about different events have one key. -/
structure Unambiguous (calls : List ReplayCall) : Prop where
  noGap : calls.Pairwise fun a b =>
    a.subject = b.subject → a.occurredAt = b.occurredAt → ¬ InGap a b
  keys : ∀ a ∈ calls, ∀ b ∈ calls, a.key = b.key → a.key.isOk = true → a.subject = b.subject

/--
**Once, and only for the same event.** For every sequence of calls on a clock that never
goes back, in which no event is presented in the gap and no two events share a key: of two
calls about the same event with the same time at most one is let pass, and the verdict of a
call is what it would be had the calls about other events not been made.
-/
theorem replay_guard_once {calls : List ReplayCall}
    (hclock : calls.Pairwise fun a b => a.now ≤ b.now) (hcalls : Unambiguous calls) :
    (∀ pre a mid b post, calls = pre ++ a :: (mid ++ b :: post) → a.subject = b.subject →
      a.occurredAt = b.occurredAt → b.occurredAt ≠ zeroTime →
      ¬ (a.Passes (run ReplayCall.step ∅ pre) ∧
        b.Passes (run ReplayCall.step ∅ (pre ++ a :: mid)))) ∧
    (∀ pre c post, calls = pre ++ c :: post →
      (guardInboundGroupReplay (run ReplayCall.step ∅ pre) c).2
        = (guardInboundGroupReplay (run ReplayCall.step ∅
            (pre.filter fun a => decide (a.subject = c.subject))) c).2) := by
  constructor
  · rintro pre a mid b post rfl hsubject hocc hnonzero ⟨ha, hb⟩
    obtain ⟨-, hclock, -⟩ := List.pairwise_append.mp hclock
    obtain ⟨hafter, hclock⟩ := List.pairwise_cons.mp hclock
    obtain ⟨-, -, hmid⟩ := List.pairwise_append.mp hclock
    obtain ⟨-, hgap, -⟩ := List.pairwise_append.mp hcalls.noGap
    have hmem : b ∈ mid ++ b :: post := List.mem_append_right _ List.mem_cons_self
    rw [run_append] at hb
    exact not_passes_again ha hsubject hocc hnonzero (hafter b hmem)
      (fun m hm => hmid m hm b List.mem_cons_self)
      ((List.pairwise_cons.mp hgap).1 b hmem hsubject hocc) hb
  · rintro pre c post rfl
    obtain ⟨hclock, -, hbefore⟩ := List.pairwise_append.mp hclock
    refine verdict_congr fun key hkey => ?_
    cases pre with
    | nil => rfl
    | cons first rest =>
      have hstart : ∀ a ∈ first :: rest, first.now ≤ a.now := by
        intro a ha
        rcases List.mem_cons.mp ha with rfl | ha
        · exact le_rfl
        · exact (List.pairwise_cons.mp hclock).1 a ha
      have hnow : ∀ a ∈ first :: rest, a.now ≤ c.now :=
        fun a ha => hbefore a ha c List.mem_cons_self
      refine remembered_filter hkey hclock hstart hnow (hnow first List.mem_cons_self)
        (fun a ha heq => ?_) fun _ _ => rfl
      exact hcalls.keys a (List.mem_append_left _ ha) c
        (List.mem_append_right _ List.mem_cons_self) heq (by rw [heq, hkey]; rfl)

def presented (groupID senderDeviceID eventID : String) (occurredAt now : Nat) : ReplayCall :=
  { kind := "event", groupID := groupID, senderDeviceID := senderDeviceID, uniqueID := eventID
    occurredAt := occurredAt * 60000000000, now := now * 60000000000 }

/-- An event that is presented twice, with another in between, passes once. -/
theorem presented_twice_passes_once :
    let first := presented "g1" "phone" "e1" 100 100
    let other := presented "g1" "phone" "e2" 101 102
    let again := presented "g1" "phone" "e1" 100 125
    first.Passes ∅ ∧ other.Passes (first.step ∅) ∧
      ¬ again.Passes (run ReplayCall.step ∅ [first, other]) := by
  intro first other again
  refine ⟨by decide +kernel, by decide +kernel, fun hagain => ?_⟩
  exact (@replay_guard_once [first, other, again] (by decide +kernel)
    ⟨by decide +kernel, by decide +kernel⟩).1 [] first [other] again [] rfl rfl rfl (by decide)
    ⟨by decide +kernel, hagain⟩

/-- An event of a sender whose clock is two minutes ahead passes twice, 31 minutes apart; and an
event is refused because another event, of another group and device, has its key. -/
theorem replay_guard_passes_twice :
    (let first := presented "g1" "phone" "e1" 102 100
      let again := presented "g1" "phone" "e1" 102 131
      first.now ≤ again.now ∧ first.Passes ∅ ∧ again.Passes (first.step ∅)) ∧
    (let one := presented "a|b" "c" "e1" 100 100
      let other := presented "a" "b|c" "e1" 100 100
      one.subject ≠ other.subject ∧ other.Passes ∅ ∧ ¬ other.Passes (one.step ∅)) := by
  decide +kernel

end Ardents.Groups
