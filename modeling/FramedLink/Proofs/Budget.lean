import FramedLink.Proofs.Exhaustion
import FramedLink.Session
import Mathlib.Control.Monad.Basic

set_option autoImplicit false
set_option relaxedAutoImplicit false

/-!
# One budget for each operation

The deadline of an operation is fixed when the operation starts, and everything that the operation
does is bound by it. On a memory link, where time passes only in pauses, in stalls and in calls
that time out, this pins down the clock: **it never passes the deadline, it stands at the deadline
when an operation has run out of time, and it stands before the deadline when a reply was found.**
Frames that are rejected on the way do not extend the budget.

## Main definitions

* `FramedLink.MemoryLink.Punctual` — a call ends in time, and for lack of time only at the
  deadline.
* `FramedLink.Device.Run.findsReply`, `FramedLink.Device.Run.missesReply` — does the log of a run
  tell of a reply that was found, or of one that did not come in time?
* `FramedLink.Device.Run.Timely` — a run keeps to its budget.

## Main results

* `FramedLink.MemoryLink.chains_punctual` — the clock when something has been written.
* `FramedLink.MemoryLink.awaitReply_late`, `FramedLink.MemoryLink.awaitReply_early` — the clock
  when a wait has run out of time, and when it has found a reply.
* `FramedLink.Device.perform_budget` — the clock after an operation.
-/

namespace FramedLink

namespace MemoryLink

open Link

variable {deadline : Deadline} {p q : MemoryLink}

/-! ## Writing -/

/-- A call that leads from `p` to `q` ends in time, and for lack of time it ends only at the
deadline. -/
structure Punctual {α : Type} (deadline : Deadline) (p q : MemoryLink) (r : Except LinkError α) :
    Prop where
  /-- It ends in time. -/
  inTime : InTime deadline p q
  /-- For lack of time it ends only at the deadline. -/
  late : r = .error .timeout → deadline.instant ≤ q.clock.now

/-- One write: a stall is waited for only if it fits into the time that is left. -/
lemma punctual_write {data : List UInt8} {r : Except LinkError Nat}
    (h : MemoryLink.write data deadline p = (r, q)) : Punctual deadline p q r := by
  obtain ⟨-, hwrite⟩ | ⟨kind, -, hwrite⟩ | ⟨-, ⟨-, hwrite⟩ | ⟨-, hwrite⟩ | ⟨hstall, hwrite⟩⟩ :=
    write_cases data deadline p <;> rw [hwrite] at h <;> cases h
  -- Cancellation, an arranged failure and a write without a stall take no time.
  · exact ⟨.refl _, nofun⟩
  · exact ⟨⟨Nat.le_refl _, id⟩, nofun⟩
  · exact ⟨⟨Nat.le_refl _, id⟩, nofun⟩
  -- A stall outlasts the time that is left, or it passes.
  · obtain ⟨hle, hinstant⟩ := expire_inTime p.clock deadline
    exact ⟨⟨hle, hinstant⟩, fun _ => Nat.le_max_right _ _⟩
  · refine ⟨⟨p.clock.le_advance _, fun _ => ?_⟩, nofun⟩
    show p.clock.now + min p.writeStall maxTimeout ≤ deadline.instant
    simp only [Deadline.remaining] at hstall
    omega

/-- **Writes end in time,** and for lack of time only at the deadline. -/
theorem chains_punctual (deadline : Deadline) :
    WriteChains deadline fun p q : MemoryLink => Punctual deadline p q where
  refl _ := ⟨.refl _, by simp⟩
  trans h h' := ⟨h.inTime.trans h'.inTime, h'.late⟩
  wrote h := ⟨(punctual_write h).inTime, by simp⟩
  wroteNothing h := ⟨(punctual_write h).inTime, by simp⟩
  failed h := ⟨(punctual_write h).inTime, fun he => (punctual_write h).late (by cases he; rfl)⟩

/-- A memory link writes everything by repeated partial writes. -/
lemma writesByParts : WritesByParts MemoryLink := fun _ _ _ => rfl

/-! ## Waiting -/

variable {expect : Expectation}

/-- **A wait that has run out of time ends at the deadline,** whatever it rejected on the way. -/
theorem awaitReply_late (h : (awaitReply expect deadline p).result = .ok .timedOut) :
    deadline.instant ≤ (awaitReply expect deadline p).link.clock.now := by
  fun_induction awaitReply expect deadline p with
  | case1 p hexp => simpa [Deadline.expired, Link.now] using hexp
  | case2 p hexp e q hfound htime =>
    obtain rfl := (LinkError.isTimeout_iff e).mp htime
    have hlate := expired_of_exhaust (exhaust_of_waitForByte_error hfound)
    simpa [Deadline.expired, Link.now] using hlate
  | case6 p hexp q hfound why q' htried rest ih => exact ih h
  | _ => cases h

/-- **A wait that has found a reply ends before the deadline.** Every read up to the last byte of
the reply has left some time. -/
theorem awaitReply_early {reply : Reply}
    (h : (awaitReply expect deadline p).result = .ok (.matched reply)) :
    (awaitReply expect deadline p).link.clock.now < deadline.instant := by
  fun_induction awaitReply expect deadline p with
  | case5 p hexp q hfound reply' q' htried =>
    obtain ⟨verdict, -, hfollows⟩ | ⟨e, -, he⟩ := exhaust_attempt htried
    · have hlive := ((follows_waitForByte hfound).trans hfollows).live hexp
      simpa [Deadline.expired, Link.now] using hlive
    · exact absurd he.symm (Verdict.ofFailure_ne_accepted _ _)
  | case6 p hexp q hfound why q' htried rest ih => exact ih h
  | _ => cases h

end MemoryLink

/-! ## What the log tells -/

/-- Does an event tell of a reply that was found? -/
def Event.findsReply : Event → Bool
  | matchedReply .. => true
  | _ => false

/-- Does an event tell of a reply that did not come in time, or of a frame that could not be sent
in time? -/
def Event.missesReply : Event → Bool
  | noMatchingReply _ | sendTimedOut _ => true
  | _ => false

/-- An event that tells nothing of replies. -/
def Event.Quiet (e : Event) : Prop := e.findsReply = false ∧ e.missesReply = false

namespace Event

/-- The event at the end of a ping tells of no reply. -/
@[simp] lemma quiet_pingFinished (alive : Bool) : (pingFinished alive).Quiet := ⟨rfl, rfl⟩

/-- Neither does the event behind a reset. -/
@[simp] lemma quiet_resetSent (sequence : UInt16) : (resetSent sequence).Quiet := ⟨rfl, rfl⟩

/-- Among quiet events there is none that tells of a reply. -/
lemma any_of_quiet {events : List Event} (h : ∀ e ∈ events, e.Quiet) :
    events.any findsReply = false ∧ events.any missesReply = false := by
  rw [List.any_eq_false, List.any_eq_false]
  exact ⟨fun e he => by simp [(h e he).1], fun e he => by simp [(h e he).2]⟩

end Event

namespace Device

section Log

variable {σ α β : Type}

/-- Does the log of a run tell of a reply that was found? -/
def Run.findsReply (run : Run σ α) : Bool := run.events.any Event.findsReply

/-- Does the log of a run tell of a lack of time? -/
def Run.missesReply (run : Run σ α) : Bool := run.events.any Event.missesReply

/-- The log of a wait tells how the wait has ended. -/
structure Run.Told (run : Run σ WaitOutcome) : Prop where
  /-- It tells of a reply exactly if there is one. -/
  found : run.findsReply = true ↔ ∃ reply, run.result = .ok (.matched reply)
  /-- It tells of a lack of time exactly if there is one. -/
  missed : run.missesReply = true ↔ run.result = .ok .timedOut

/-- The log of a run tells nothing of replies. -/
def Run.Quiet (run : Run σ α) : Prop := ∀ e ∈ run.events, e.Quiet

/-- Quiet events in front of others change nothing. -/
lemma Run.Quiet.any_append {run : Run σ α} (h : run.Quiet) (events : List Event) :
    (run.events ++ events).any Event.findsReply = events.any Event.findsReply ∧
      (run.events ++ events).any Event.missesReply = events.any Event.missesReply := by
  obtain ⟨hfinds, hmisses⟩ := Event.any_of_quiet h
  rw [List.any_append, List.any_append, hfinds, hmisses, Bool.false_or, Bool.false_or]
  exact ⟨rfl, rfl⟩

/-- What the log tells of replies is not changed by an event that tells nothing of them. -/
lemma Run.tells_finish (run : Run σ α) (value : α → β) {event : α → List Event}
    (hquiet : ∀ a, ∀ e ∈ event a, e.Quiet) :
    (run.finish value event).findsReply = run.findsReply ∧
      (run.finish value event).missesReply = run.missesReply := by
  rw [findsReply, findsReply, missesReply, missesReply, Run.events_finish, List.any_append,
    List.any_append]
  cases run.result with
  | error e => simp
  | ok a =>
    obtain ⟨hfinds, hmisses⟩ := Event.any_of_quiet (hquiet a)
    simp only [hfinds, hmisses, Bool.or_false, and_self]

variable [Link σ]

/-- The log of a wait tells how the wait has ended.

**Proof sketch.** Only the last entry of the log of a wait is about its end, and it is made from the
result. -/
lemma told_waitUntil (d : Device σ) (sequence : UInt16) (types : List MessageType)
    (deadline : Deadline) : (d.waitUntil sequence types deadline).Told := by
  unfold waitUntil
  generalize Link.awaitInto ⟨sequence, types, d.config.maxPayloadSize⟩ deadline #[] d.link = report
  constructor
  · constructor
    · intro h
      obtain ⟨event, hmem, hfinds⟩ := List.any_eq_true.mp h
      obtain ⟨code, rfl⟩ | ⟨discard, rfl⟩ | ⟨reply, hresult, -⟩ | ⟨-, rfl⟩ :=
        WaitReport.mem_events hmem
      · cases hfinds
      · cases hfinds
      · exact ⟨reply, hresult⟩
      · cases hfinds
    · rintro ⟨reply, hresult⟩
      refine List.any_eq_true.mpr ⟨.matchedReply sequence reply.messageType, ?_, rfl⟩
      dsimp only at hresult ⊢
      rw [WaitReport.events, hresult]
      exact List.mem_append_right _ (List.mem_singleton.mpr rfl)
  · constructor
    · intro h
      obtain ⟨event, hmem, hmisses⟩ := List.any_eq_true.mp h
      obtain ⟨code, rfl⟩ | ⟨discard, rfl⟩ | ⟨reply, -, rfl⟩ | ⟨hresult, -⟩ :=
        WaitReport.mem_events hmem
      · cases hmisses
      · cases hmisses
      · cases hmisses
      · exact hresult
    · intro hresult
      refine List.any_eq_true.mpr ⟨.noMatchingReply sequence, ?_, rfl⟩
      dsimp only at hresult ⊢
      rw [WaitReport.events, hresult]
      exact List.mem_append_right _ (List.mem_singleton.mpr rfl)

/-- The log of the sending of a given frame tells nothing of replies. -/
lemma quiet_sendFrameUntil (d : Device σ) (header : FrameHeader) (payload : List UInt8)
    (deadline : Deadline) : (d.sendFrameUntil header payload deadline).Quiet := by
  unfold sendFrameUntil
  split
  · exact fun _ he => absurd he List.not_mem_nil
  · intro e he
    obtain rfl := List.mem_singleton.mp he
    exact ⟨rfl, rfl⟩

/-- The log of the numbering and sending of a frame tells nothing of replies. -/
lemma quiet_sendUntil (d : Device σ) (messageType : MessageType) (payload : List UInt8)
    (deadline : Deadline) : (d.sendUntil messageType payload deadline).Quiet := by
  obtain ⟨-, hrun⟩ | ⟨-, header, -, hrun⟩ := d.sendUntil_cases messageType payload deadline <;>
    rw [hrun]
  · exact fun _ he => absurd he List.not_mem_nil
  · intro e he
    rw [Run.events_finish, List.mem_append] at he
    obtain he | he := he
    · exact quiet_sendFrameUntil _ header payload deadline e he
    · split at he <;> exact absurd he List.not_mem_nil

/-- The log of a request tells how its wait has ended, or that its frame could not be sent in
time.

**Proof sketch.** A request ends in one of three ways. The log of the sending tells nothing of
replies; behind it there is the entry about a frame that was not sent in time, nothing, or the log
of the wait. -/
lemma told_request (d : Device σ) (messageType : MessageType) (payload : List UInt8)
    (timeout : Nat) : (d.request messageType payload timeout).Told := by
  have hquiet := quiet_sendUntil d messageType payload (d.deadlineAfter timeout)
  obtain ⟨-, hrun⟩ | ⟨e, -, -, hrun⟩ | ⟨sequence, -, hrun⟩ :=
    d.request_cases messageType payload timeout <;> rw [hrun]
  · obtain ⟨hfinds, hmisses⟩ := hquiet.any_append [.sendTimedOut messageType]
    constructor
    · rw [Run.findsReply, hfinds]
      simp [Event.findsReply]
    · rw [Run.missesReply, hmisses]
      simp [Event.missesReply]
  · obtain ⟨hfinds, hmisses⟩ := Event.any_of_quiet hquiet
    constructor
    · rw [Run.findsReply, hfinds]
      simp
    · rw [Run.missesReply, hmisses]
      simp
  · obtain ⟨hfound, hmissed⟩ := told_waitUntil
      (d.sendUntil messageType payload (d.deadlineAfter timeout)).device sequence replyTypes
      (d.deadlineAfter timeout)
    constructor
    · rw [Run.findsReply, (hquiet.any_append _).1]
      exact hfound
    · rw [Run.missesReply, (hquiet.any_append _).2]
      exact hmissed

end Log

/-! ## Runs on a budget -/

variable {α β : Type} {start stop : Nat}

/-- A run that starts at `start` keeps to a budget that ends at `stop`. -/
structure Run.Timely (run : Run MemoryLink α) (start stop : Nat) : Prop where
  /-- The clock does not run backwards. -/
  le_now : start ≤ run.device.link.clock.now
  /-- The budget is not exceeded. -/
  now_le : run.device.link.clock.now ≤ stop
  /-- A run that fails for lack of time has used up its budget. -/
  late : run.result = .error (.link .timeout) → run.device.link.clock.now = stop
  /-- So has a run that tells of a lack of time. -/
  late_of_misses : run.missesReply = true → run.device.link.clock.now = stop
  /-- A run that tells of a reply has not used up its budget. -/
  early_of_finds : run.findsReply = true → run.device.link.clock.now < stop

namespace Run.Timely

variable {run : Run MemoryLink α}

/-- Only the device, the errors and the log matter. -/
lemma congr {run' : Run MemoryLink β} (h : run.Timely start stop)
    (hdevice : run'.device = run.device)
    (herror : ∀ e, run'.result = .error e → run.result = .error e)
    (hfinds : run'.findsReply = run.findsReply) (hmisses : run'.missesReply = run.missesReply) :
    run'.Timely start stop := by
  constructor
  · rw [hdevice]; exact h.le_now
  · rw [hdevice]; exact h.now_le
  · rw [hdevice]; exact fun he => h.late (herror _ he)
  · rw [hdevice, hmisses]; exact h.late_of_misses
  · rw [hdevice, hfinds]; exact h.early_of_finds

/-- What is made of the result does not matter to the time of a run. -/
lemma map (h : run.Timely start stop) (value : α → β) : (run.map value).Timely start stop :=
  h.congr rfl (fun _ he => map_eq_error_iff.mp he) rfl rfl

/-- Neither does an event behind it that tells nothing of replies. -/
lemma finish {value : α → β} {event : α → List Event} (h : run.Timely start stop)
    (hquiet : ∀ a, ∀ e ∈ event a, e.Quiet) :
    (run.finish value event).Timely start stop := by
  obtain ⟨hfinds, hmisses⟩ := Run.tells_finish run value hquiet
  refine h.congr (Run.device_finish run value event) (fun e he => ?_) hfinds hmisses
  rw [Run.result_finish] at he
  exact map_eq_error_iff.mp he

end Run.Timely

variable {d : Device MemoryLink} {deadline : Deadline}

/-- The sending of a frame keeps to the budget.

**Proof sketch.** The frame is written piece by piece. No write goes beyond the deadline, and one
that times out has come to it. -/
lemma timely_sendFrameUntil (h : d.link.clock.now ≤ deadline.instant) (header : FrameHeader)
    (payload : List UInt8) : (d.sendFrameUntil header payload deadline).Timely
      d.link.clock.now deadline.instant := by
  obtain ⟨hfinds, hmisses⟩ := Event.any_of_quiet (quiet_sendFrameUntil d header payload deadline)
  rcases hsent : Link.sendFrame header payload deadline d.link with ⟨r, q⟩
  have hpunctual := (MemoryLink.chains_punctual deadline).sendFrame
    MemoryLink.writesByParts hsent
  have hdevice : (d.sendFrameUntil header payload deadline).device.link = q := by
    unfold sendFrameUntil
    rw [hsent]
    rcases r with e | _ <;> rfl
  have hle := hpunctual.inTime.le_instant h
  constructor
  · rw [hdevice]; exact hpunctual.inTime.le
  · rw [hdevice]; exact hle
  · intro herror
    have hr : r = .error .timeout := by
      unfold sendFrameUntil at herror
      rw [hsent] at herror
      rcases r with e | _ <;> cases herror
      rfl
    rw [hdevice]
    exact Nat.le_antisymm hle (hpunctual.late hr)
  · rw [Run.missesReply, hmisses]; simp
  · rw [Run.findsReply, hfinds]; simp

/-- Numbering and sending a frame keeps to the budget. -/
lemma timely_sendUntil (h : d.link.clock.now ≤ deadline.instant) (messageType : MessageType)
    (payload : List UInt8) : (d.sendUntil messageType payload deadline).Timely
      d.link.clock.now deadline.instant := by
  obtain ⟨-, hrun⟩ | ⟨-, header, -, hrun⟩ := d.sendUntil_cases messageType payload deadline <;>
    rw [hrun]
  · exact ⟨Nat.le_refl _, h, by simp, by simp [Run.missesReply], by simp [Run.findsReply]⟩
  · exact (timely_sendFrameUntil (d := { d with sequence := d.sequence + 1 }) h header
      payload).finish (by simp)

/-- A wait keeps to the budget. -/
lemma timely_waitUntil (h : d.link.clock.now ≤ deadline.instant) (sequence : UInt16)
    (types : List MessageType) : (d.waitUntil sequence types deadline).Timely
      d.link.clock.now deadline.instant := by
  obtain ⟨hfound, hmissed⟩ := told_waitUntil d sequence types deadline
  have hinTime := (MemoryLink.chains_inTime deadline).awaitReply
    ⟨sequence, types, d.config.maxPayloadSize⟩ d.link
  have hle := hinTime.le_instant h
  unfold waitUntil at hfound hmissed ⊢
  rw [Link.awaitInto_eq] at hfound hmissed ⊢
  constructor
  · exact hinTime.le
  · exact hle
  · intro herror
    obtain ⟨source, hsource, hserious⟩ := Link.awaitReply_error herror
    exact absurd (DeviceError.link.inj hsource).symm hserious
  · intro hmisses
    exact Nat.le_antisymm hle (MemoryLink.awaitReply_late (hmissed.mp hmisses))
  · intro hfinds
    obtain ⟨reply, hreply⟩ := hfound.mp hfinds
    exact MemoryLink.awaitReply_early hreply

/-- **A request has one budget for its frame and its reply.** -/
lemma timely_request (d : Device MemoryLink) (messageType : MessageType) (payload : List UInt8)
    (timeout : Nat) : (d.request messageType payload timeout).Timely
      d.link.clock.now (d.deadlineAfter timeout).instant := by
  have hlive : d.link.clock.now ≤ (d.deadlineAfter timeout).instant := Nat.le_add_right _ _
  have hsent := timely_sendUntil hlive messageType payload
  have hquiet := quiet_sendUntil d messageType payload (d.deadlineAfter timeout)
  obtain ⟨hlate, hrun⟩ | ⟨e, -, hresult, hrun⟩ | ⟨sequence, -, hrun⟩ :=
    d.request_cases messageType payload timeout <;> rw [hrun]
  · refine ⟨hsent.le_now, hsent.now_le, by simp, fun _ => hsent.late hlate, fun h => ?_⟩
    rw [Run.findsReply, (hquiet.any_append _).1] at h
    cases h
  · exact hsent.congr rfl (fun e' he' => hresult.trans (by cases he'; rfl)) rfl rfl
  · have hwait := timely_waitUntil hsent.now_le sequence replyTypes
    refine ⟨Nat.le_trans hsent.le_now hwait.le_now, hwait.now_le, hwait.late, fun h => ?_,
      fun h => ?_⟩
    · rw [Run.missesReply, (hquiet.any_append _).2] at h
      exact hwait.late_of_misses h
    · rw [Run.findsReply, (hquiet.any_append _).1] at h
      exact hwait.early_of_finds h

/-! ## Operations -/

/-- **Every operation keeps to its budget,** which is its timeout, but no more than `maxTimeout`. -/
theorem timely_perform (d : Device MemoryLink) (op : Operation) :
    (d.perform op).Timely d.link.clock.now (d.link.clock.now + min op.timeout maxTimeout) := by
  have hlive (timeout : Nat) : d.link.clock.now ≤ (d.deadlineAfter timeout).instant :=
    Nat.le_add_right _ _
  cases op with
  | prepareHeader messageType payload =>
    refine ⟨Nat.le_refl _, Nat.le_add_right _ _, fun herror => ?_, by simp [perform,
      Run.missesReply], by simp [perform, Run.findsReply]⟩
    obtain ⟨-, hprepare⟩ | ⟨-, header, -, hprepare⟩ := d.prepareHeader_cases messageType payload <;>
      simp [perform, hprepare, Except.map] at herror
  | sendFrame header payload timeout => exact (timely_sendFrameUntil (hlive _) header payload).map _
  | send messageType payload timeout =>
    exact (timely_sendUntil (hlive _) messageType payload).map _
  | waitFor sequence types timeout => exact (timely_waitUntil (hlive _) sequence types).map _
  | waitForReply sequence timeout => exact (timely_waitUntil (hlive _) sequence _).map _
  | waitForAck sequence timeout =>
    exact ((timely_waitUntil (hlive _) sequence _).finish (by simp)).map _
  | request messageType payload timeout => exact (timely_request d messageType payload _).map _
  | ping timeout =>
    exact ((timely_request d .ping [] _).finish (by simp)).map _
  | reset timeout =>
    exact ((timely_sendUntil (hlive _) .exit []).finish (by simp)).map _

/-- An answer is in line with what the log tells of replies. -/
structure Run.Consistent {σ : Type} (run : Run σ Answer) : Prop where
  /-- A reply is answered only if the log tells of one. -/
  matched {reply : Reply} : run.result = .ok (.outcome (.matched reply)) → run.findsReply = true
  /-- A lack of time is answered only if the log tells of one. -/
  timedOut : run.result = .ok (.outcome .timedOut) → run.missesReply = true
  /-- A positive acknowledgement is a reply. -/
  acknowledged : run.result = .ok (.acknowledged true) → run.findsReply = true
  /-- Without a positive acknowledgement, there is another reply or a lack of time. -/
  unacknowledged : run.result = .ok (.acknowledged false) → run.findsReply = false →
    run.missesReply = true

section Consistent

variable {σ : Type}

/-- An answer that has nothing to do with replies. -/
lemma Run.consistent_map {α : Type} (run : Run σ α) (value : α → Answer)
    (h : ∀ a, (∀ o, value a ≠ .outcome o) ∧ ∀ yes, value a ≠ .acknowledged yes) :
    (run.map value).Consistent := by
  have houtcome : ∀ o, (run.map value).result ≠ .ok (.outcome o) := by
    intro o hanswer
    obtain ⟨a, -, ha⟩ := map_eq_ok_iff.mp hanswer
    exact (h a).1 o ha
  have hacknowledged : ∀ yes, (run.map value).result ≠ .ok (.acknowledged yes) := by
    intro yes hanswer
    obtain ⟨a, -, ha⟩ := map_eq_ok_iff.mp hanswer
    exact (h a).2 yes ha
  exact ⟨fun h => absurd h (houtcome _), fun h => absurd h (houtcome _),
    fun h => absurd h (hacknowledged _), fun h => absurd h (hacknowledged _)⟩

/-- A wait that answers its outcome. -/
lemma Run.Told.consistent_map {run : Run σ WaitOutcome} (h : run.Told) :
    (run.map Answer.outcome).Consistent := by
  constructor
  · intro reply hanswer
    obtain ⟨o, ho, hmatched⟩ := map_eq_ok_iff.mp hanswer
    obtain rfl := Answer.outcome.inj hmatched
    exact h.found.mpr ⟨reply, ho⟩
  · intro hanswer
    obtain ⟨o, ho, hlate⟩ := map_eq_ok_iff.mp hanswer
    obtain rfl := Answer.outcome.inj hlate
    exact h.missed.mpr ho
  · intro hanswer
    obtain ⟨o, -, ho⟩ := map_eq_ok_iff.mp hanswer
    cases ho
  · intro hanswer
    obtain ⟨o, -, ho⟩ := map_eq_ok_iff.mp hanswer
    cases ho

/-- A wait that answers whether its outcome is a positive acknowledgement.

**Proof sketch.** The answer is made from the outcome of the wait, and its event tells nothing of
replies. So the log of the whole tells what that of the wait tells, and a positive answer has a
reply behind it. -/
lemma Run.Told.consistent_finish {run : Run σ WaitOutcome} (h : run.Told)
    {event : WaitOutcome → List Event}
    (hquiet : ∀ a, ∀ e ∈ event a, e.Quiet) :
    ((run.finish (fun o => o.messageType? == some .ack) event).map
      Answer.acknowledged).Consistent := by
  obtain ⟨hfinds, hmisses⟩ :=
    Run.tells_finish run (fun o => o.messageType? == some .ack) hquiet
  have hresult : ∀ yes, ((run.finish (fun o => o.messageType? == some .ack) event).map
      Answer.acknowledged).result = .ok (.acknowledged yes) →
        ∃ o, run.result = .ok o ∧ (o.messageType? == some .ack) = yes := by
    intro yes hanswer
    obtain ⟨yes', hfinish, hyes⟩ := map_eq_ok_iff.mp hanswer
    obtain rfl := Answer.acknowledged.inj hyes
    rw [Run.result_finish] at hfinish
    exact map_eq_ok_iff.mp hfinish
  constructor
  · intro reply hanswer
    obtain ⟨yes, -, hyes⟩ := map_eq_ok_iff.mp hanswer
    cases hyes
  · intro hanswer
    obtain ⟨yes, -, hyes⟩ := map_eq_ok_iff.mp hanswer
    cases hyes
  · intro hanswer
    obtain ⟨o, ho, hack⟩ := hresult _ hanswer
    cases o with
    | matched reply => exact hfinds.trans (h.found.mpr ⟨reply, ho⟩)
    | timedOut => cases hack
  · intro hanswer hnone
    obtain ⟨o, ho, -⟩ := hresult _ hanswer
    cases o with
    | matched reply =>
      have hfound := hfinds.trans (h.found.mpr ⟨reply, ho⟩)
      exact absurd (hfound.symm.trans hnone) (by decide)
    | timedOut => exact hmisses.trans (h.missed.mpr ho)

variable [Link σ]

/-- **The answer of every operation is in line with its log.** -/
theorem consistent_perform (d : Device σ) (op : Operation) : (d.perform op).Consistent := by
  cases op with
  | prepareHeader messageType payload =>
    have hrun : d.perform (.prepareHeader messageType payload) = Run.map
        ⟨(d.prepareHeader messageType payload).1, (d.prepareHeader messageType payload).2, []⟩
        Answer.header := rfl
    rw [hrun]
    exact Run.consistent_map _ _ fun _ => ⟨by simp, by simp⟩
  | sendFrame header payload timeout =>
    exact (d.sendFrame header payload timeout).consistent_map _ fun _ => ⟨by simp, by simp⟩
  | send messageType payload timeout =>
    exact (d.send messageType payload timeout).consistent_map _ fun _ => ⟨by simp, by simp⟩
  | waitFor sequence types timeout => exact (told_waitUntil d sequence types _).consistent_map
  | waitForReply sequence timeout => exact (told_waitUntil d sequence _ _).consistent_map
  | waitForAck sequence timeout =>
    exact (told_waitUntil d sequence _ _).consistent_finish (by simp)
  | request messageType payload timeout =>
    exact (told_request d messageType payload timeout).consistent_map
  | ping timeout =>
    exact (told_request d .ping [] timeout).consistent_finish (by simp)
  | reset timeout => exact (d.reset timeout).consistent_map _ fun _ => ⟨by simp, by simp⟩

end Consistent

/-- **One budget for each operation.** Whatever the queue, the pauses, the stalls and the failures
of the link are, the clock stands between the start of an operation and its deadline when the
operation is over. It stands exactly at the deadline if the answer is that time has run out, and
before the deadline if a reply was found. The last two clauses are about the operations that
answer only whether there was a positive acknowledgement. -/
theorem perform_budget (d : Device MemoryLink) (op : Operation) :
    let run := d.perform op
    let start := d.link.clock.now
    let stop := start + min op.timeout maxTimeout
    let now := run.device.link.clock.now
    (start ≤ now ∧ now ≤ stop) ∧
      (run.result = .ok (.outcome .timedOut) ∨ run.result = .error (.link .timeout) →
        now = stop) ∧
      (∀ reply, run.result = .ok (.outcome (.matched reply)) → now < stop) ∧
      (run.findsReply = true → now < stop) ∧
      (run.result = .ok (.acknowledged true) → now < stop) ∧
      (run.result = .ok (.acknowledged false) → run.findsReply = false → now = stop) := by
  have htimely := timely_perform d op
  have hconsistent := consistent_perform d op
  refine ⟨⟨htimely.le_now, htimely.now_le⟩, ?_, ?_, htimely.early_of_finds, ?_, ?_⟩
  · rintro (hlate | herror)
    · exact htimely.late_of_misses (hconsistent.timedOut hlate)
    · exact htimely.late herror
  · exact fun reply hreply => htimely.early_of_finds (hconsistent.matched hreply)
  · exact fun hack => htimely.early_of_finds (hconsistent.acknowledged hack)
  · exact fun hno hnone => htimely.late_of_misses (hconsistent.unacknowledged hno hnone)

/-- A device that is asked at time 5. Its link holds up the next write for 2, and its peer answers
with a frame for another number before the acknowledgement, with pauses of 3 and 2. -/
def hesitant : Device MemoryLink :=
  .ofLink
    { clock := ⟨5⟩
      writeStall := 2
      inbound := [.delay 3] ++ [115, 11, 0, 0, 1, 0, 160, 62, 233, 7, 0, 1].map .byte ++
        [115, 10, 0, 0].map .byte ++ [.delay 2] ++ [2, 0, 160, 239, 87, 8, 0].map .byte }
    { initialSequence := 8 }

/-- A ping is answered at time 12 if it has eight units of time, and gives up at time 12 if it has
only seven. -/
theorem hesitant_ping :
    (hesitant.perform (.ping 8)).device.link.clock.now = 12 ∧
      (hesitant.perform (.ping 8)).device.link.clock.now < 5 + 8 ∧
      (hesitant.perform (.ping 7)).device.link.clock.now = 5 + 7 ∧
      (hesitant.perform (.send .ack [1] 2)).device.link.clock.now = 5 + 2 := by
  have height := perform_budget hesitant (.ping 8)
  have hseven := perform_budget hesitant (.ping 7)
  have htwo := perform_budget hesitant (.send .ack [1] 2)
  refine ⟨by decide +kernel, ?_, ?_, ?_⟩
  · exact height.2.2.2.1 (by decide +kernel)
  · exact hseven.2.2.2.2.2 (by decide +kernel) (by decide +kernel)
  · exact htwo.2.1 (.inr (by decide +kernel))

end Device

end FramedLink
