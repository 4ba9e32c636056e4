import FramedLink.Link.History
import FramedLink.Proofs.Arrival

set_option autoImplicit false
set_option relaxedAutoImplicit false

/-!
# Where the time of a memory link goes

The clock of a memory link moves for four reasons only: it is moved on request, a read waits for a
pause, a write waits for a stall, or a read that meets nothing waits for its deadline. **A deadline
that cuts a pause or a stall short splits it exactly:** the time that passes and the time that is
left are together what was queued. So the account balances over any sequence of operations, as long
as no deadline is farther away than the longest timeout, which no clock moves at once.

## Main definitions

* `FramedLink.MemoryLink.Step.Timed` — the deadline of an operation was made with a timeout, at an
  instant that has passed.
* `FramedLink.MemoryLink.Step.advanced`, `FramedLink.MemoryLink.Step.delayed`,
  `FramedLink.MemoryLink.Step.stalled`, `FramedLink.MemoryLink.Step.idled` — the entries of the
  account.
* `FramedLink.MemoryLink.Step.Balanced` — what one operation does to the account.

## Main results

* `FramedLink.MemoryLink.Step.balanced` — the account of one operation.
* `FramedLink.MemoryLink.time_accounted` — the account of a sequence of operations.
-/

namespace FramedLink.MemoryLink

/-! ## The account -/

/-- The deadline that an operation is given. -/
def Operation.deadline? : Operation → Option Deadline
  | .write _ deadline | .readAvailable _ deadline | .readByte deadline => some deadline
  | _ => none

/-- A call has come to its deadline. -/
def timesOut {α : Type} : Except LinkError α → Bool
  | .error e => e.isTimeout
  | .ok _ => false

/-- How long a wait stays at the end of `queue`: if it times out and leaves nothing of the queue,
from the instant at which all pauses are over until the deadline. -/
def idleTime {α : Type} (r : Except LinkError α) (deadline : Deadline) (clock : ManualClock)
    (queue queue' : List Inbound) : Nat :=
  if timesOut r && queue'.isEmpty then deadline.remaining (clock.now + totalDelay queue) else 0

/-- A wait does not stay at the end of the queue if it succeeds. -/
@[simp] lemma idleTime_ok {α : Type} (value : α) (deadline : Deadline) (clock : ManualClock)
    (queue queue' : List Inbound) : idleTime (.ok value) deadline clock queue queue' = 0 := rfl

namespace Step

/-- If the operation has a deadline, this was made with a timeout, at an instant that the clock has
reached. -/
def Timed (s : Step) : Prop :=
  ∀ deadline, s.operation.deadline? = some deadline →
    ∃ start timeout, start ≤ s.before.clock.now ∧ deadline = .after start timeout

/-- How far the clock is moved on request. -/
def advanced (s : Step) : Nat :=
  match s.operation with
  | .advance span => min span maxTimeout
  | .advanceTo instant => instant - s.before.clock.now
  | _ => 0

/-- The pause that is queued. -/
def delayed (s : Step) : Nat :=
  match s.operation with
  | .pushDelay span => span
  | _ => 0

/-- The stall that is added. -/
def stalled (s : Step) : Nat :=
  match s.operation with
  | .stallWrites span => span
  | _ => 0

/-- How long a read stays at the end of the queue. -/
def idled (s : Step) : Nat :=
  match s.operation, s.answer with
  | .readAvailable _ deadline, .bytes r =>
    idleTime r deadline s.before.clock s.before.inbound s.after.inbound
  | .readByte deadline, .byte r =>
    idleTime r deadline s.before.clock s.before.inbound s.after.inbound
  | _, _ => 0

/-- What one operation does to the account. -/
structure Balanced (s : Step) : Prop where
  /-- The pauses that are over were queued. -/
  delays : totalDelay s.after.inbound ≤ totalDelay s.before.inbound + s.delayed
  /-- The stalls that are over were arranged. -/
  stalls : s.after.writeStall ≤ s.before.writeStall + s.stalled
  /-- The time that has passed. -/
  elapsed : s.after.clock.now = s.before.clock.now + s.advanced +
    (totalDelay s.before.inbound + s.delayed - totalDelay s.after.inbound) +
    (s.before.writeStall + s.stalled - s.after.writeStall) + s.idled
  /-- The clock does not move past the deadline, unless it is there already. -/
  inTime : ∀ deadline, s.operation.deadline? = some deadline →
    s.after.clock.now ≤ max s.before.clock.now deadline.instant

end Step

/-! ## Waiting -/

section Waiting

variable {deadline : Deadline} {clock clock' : ManualClock} {queue queue' : List Inbound}
  {r : Except LinkError Unit} {p : MemoryLink}

/-- The pauses of two queues, one behind the other. -/
@[simp] lemma totalDelay_append (queue queue' : List Inbound) :
    totalDelay (queue ++ queue') = totalDelay queue + totalDelay queue' := by
  simp [totalDelay]

/-- A clock that waits for a deadline waits for the time that is left. -/
lemma now_expire (clock : ManualClock) (deadline : Deadline) :
    (expire clock deadline).now = clock.now + deadline.remaining clock.now :=
  (deadline.add_remaining clock.now).symm

/-- A clock that waits for less than the time that is left waits for all of it, if the deadline is
near enough. -/
lemma now_advance_of_lt_remaining {span : Nat}
    (hnear : deadline.instant ≤ clock.now + maxTimeout)
    (hspan : span < deadline.remaining clock.now) :
    (clock.advance span).now = clock.now + span ∧ clock.now + span < deadline.instant := by
  have hadvance : (clock.advance span).now = clock.now + min span maxTimeout := rfl
  unfold Deadline.remaining at hspan
  omega

/-- **Waiting for a byte takes the pauses that are used up,** and at the end of the queue the time
that is left.

**Proof sketch.** Induction on the queue. A pause that is waited for moves the clock by its length.
A pause that the deadline cuts short moves it to the deadline and keeps its rest in the queue. Only
at the end of the queue does the clock move with no pause being used up. -/
lemma settle_balanced (hnear : deadline.instant ≤ clock.now + maxTimeout)
    (h : settle deadline clock queue = (r, clock', queue')) :
    totalDelay queue' ≤ totalDelay queue ∧
      clock'.now = clock.now + (totalDelay queue - totalDelay queue') +
        idleTime r deadline clock queue queue' ∧
      clock'.now ≤ max clock.now deadline.instant := by
  have hexpire := now_expire clock deadline
  have hremaining := deadline.add_remaining clock.now
  fun_induction settle deadline clock queue with
  | case1 clock =>
    obtain ⟨rfl, rfl, rfl⟩ : _ ∧ _ ∧ _ := by simpa only [Prod.mk.injEq] using h
    refine ⟨Nat.le_refl _, hexpire, ?_⟩
    omega
  | case2 clock b rest =>
    obtain ⟨rfl, rfl, rfl⟩ : _ ∧ _ ∧ _ := by simpa only [Prod.mk.injEq] using h
    rw [idleTime_ok]
    omega
  | case3 clock kind rest =>
    obtain ⟨rfl, rfl, rfl⟩ : _ ∧ _ ∧ _ := by simpa only [Prod.mk.injEq] using h
    simp only [idleTime, timesOut, LinkError.isTimeout, Bool.false_and, Bool.false_eq_true,
      if_false, totalDelay_cons, delayOf]
    omega
  | case4 clock span rest remaining hspan =>
    obtain ⟨rfl, rfl, rfl⟩ : _ ∧ _ ∧ _ := by simpa only [Prod.mk.injEq] using h
    simp only [idleTime, List.isEmpty_cons, Bool.and_false, Bool.false_eq_true, if_false,
      totalDelay_cons, delayOf, remaining] at hspan ⊢
    omega
  | case5 clock span rest remaining hspan ih =>
    obtain ⟨hnow, hlt⟩ := now_advance_of_lt_remaining hnear (Nat.lt_of_not_le hspan)
    obtain ⟨hdelay, helapsed, htime⟩ := ih (by omega) h (now_expire ..) (deadline.add_remaining _)
    have hidle : idleTime r deadline (clock.advance span) rest queue' =
        idleTime r deadline clock (.delay span :: rest) queue' := by
      unfold idleTime
      rw [hnow, totalDelay_cons, delayOf, Nat.add_assoc]
    rw [hidle] at helapsed
    simp only [totalDelay_cons, delayOf]
    omega

/-- What a call with a deadline does to the account: it uses up pauses and stalls, and is idle. -/
structure Spends (deadline : Deadline) (idle : Nat) (p q : MemoryLink) : Prop where
  /-- The pauses that are left were queued. -/
  delays : totalDelay q.inbound ≤ totalDelay p.inbound
  /-- The stall that is left was there. -/
  stalls : q.writeStall ≤ p.writeStall
  /-- The time that has passed. -/
  elapsed : q.clock.now = p.clock.now + (totalDelay p.inbound - totalDelay q.inbound) +
    (p.writeStall - q.writeStall) + idle
  /-- The clock does not move past the deadline, unless it is there already. -/
  inTime : q.clock.now ≤ max p.clock.now deadline.instant

/-- A call that touches neither pauses nor stalls nor the clock spends nothing. -/
lemma Spends.nothing {q : MemoryLink} (hinbound : q.inbound = p.inbound)
    (hstall : q.writeStall = p.writeStall) (hclock : q.clock = p.clock) :
    Spends deadline 0 p q := by
  have hdelays := congrArg totalDelay hinbound
  have hnow := congrArg ManualClock.now hclock
  exact ⟨by omega, by omega, by omega, by omega⟩

/-- The bytes that a read takes are no pauses. -/
lemma totalDelay_drop_frontBytes (n : Nat) (queue : List Inbound) :
    totalDelay (queue.drop (frontBytes n queue).length) = totalDelay queue := by
  have h := congrArg totalDelay (map_frontBytes_append n queue)
  rw [totalDelay_append, totalDelay_map_byte, Nat.zero_add] at h
  exact h

/-- **A read takes the pauses that are used up,** and at the end of the queue the time that is
left. -/
lemma spends_readAvailable (n : Nat) (hnear : deadline.instant ≤ p.clock.now + maxTimeout) :
    Spends deadline (idleTime (Link.readAvailable n deadline p).1 deadline p.clock p.inbound
      (Link.readAvailable n deadline p).2.inbound) p (Link.readAvailable n deadline p).2 := by
  obtain ⟨-, h⟩ | ⟨-, h⟩ | ⟨e, clock, inbound, hs, h⟩ | ⟨clock, inbound, hs, h⟩ :=
    readAvailable_cases n deadline p <;> rw [h]
  · exact .nothing rfl rfl rfl
  · exact .nothing rfl rfl rfl
  · obtain ⟨hdelays, helapsed, htime⟩ := settle_balanced hnear hs
    exact ⟨hdelays, Nat.le_refl _, by rw [Nat.sub_self]; exact helapsed, htime⟩
  · obtain ⟨hdelays, helapsed, htime⟩ := settle_balanced hnear hs
    rw [← totalDelay_drop_frontBytes (min n p.readChunk) inbound] at hdelays helapsed
    exact ⟨hdelays, Nat.le_refl _, by rw [Nat.sub_self]; exact helapsed, htime⟩

/-- So does the read of one byte. -/
lemma spends_readByte (hnear : deadline.instant ≤ p.clock.now + maxTimeout) :
    Spends deadline (idleTime (Link.readByte deadline p).1 deadline p.clock p.inbound
      (Link.readByte deadline p).2.inbound) p (Link.readByte deadline p).2 := by
  have h := spends_readAvailable 1 hnear
  unfold Link.readByte
  rcases hread : Link.readAvailable 1 deadline p with ⟨e | - | ⟨b, bytes⟩, q⟩ <;>
    rw [hread] at h <;> exact h

/-- A write takes the part of the stall that is used up. -/
lemma spends_write (data : List UInt8) (hnear : deadline.instant ≤ p.clock.now + maxTimeout) :
    Spends deadline 0 p (Link.write data deadline p).2 := by
  have hremaining := deadline.add_remaining p.clock.now
  change Spends deadline 0 p (MemoryLink.write data deadline p).2
  obtain ⟨-, h⟩ | ⟨kind, -, h⟩ | ⟨-, ⟨-, h⟩ | ⟨hle, h⟩ | ⟨hlt, h⟩⟩ :=
    write_cases data deadline p <;> rw [h]
  · exact .nothing rfl rfl rfl
  · exact .nothing rfl rfl rfl
  · exact .nothing rfl rfl rfl
  · refine ⟨Nat.le_refl _, Nat.sub_le _ _, ?_, ?_⟩ <;> dsimp only <;> rw [now_expire] <;> omega
  · obtain ⟨hnow, hlt⟩ := now_advance_of_lt_remaining hnear hlt
    refine ⟨Nat.le_refl _, Nat.zero_le _, ?_, ?_⟩ <;> dsimp only <;> omega

end Waiting

/-! ## Operations -/

namespace Step

variable {s : Step}

/-- A deadline that was made with a timeout is no farther away than the longest timeout. -/
lemma Timed.near (h : s.Timed) {deadline : Deadline}
    (hdeadline : s.operation.deadline? = some deadline) :
    deadline.instant ≤ s.before.clock.now + maxTimeout := by
  obtain ⟨start, timeout, hstart, rfl⟩ := h deadline hdeadline
  show start + min timeout maxTimeout ≤ _
  omega

/-- An operation without a deadline only makes entries. -/
lemma balanced_of_arranged (hdeadline : s.operation.deadline? = none)
    (hdelays : totalDelay s.after.inbound = totalDelay s.before.inbound + s.delayed)
    (hstalls : s.after.writeStall = s.before.writeStall + s.stalled)
    (hnow : s.after.clock.now = s.before.clock.now + s.advanced) : s.Balanced := by
  have hidled : s.idled = 0 := by
    obtain ⟨p, op⟩ := s
    cases op <;> first | rfl | cases hdeadline
  refine ⟨Nat.le_of_eq hdelays, Nat.le_of_eq hstalls, ?_, ?_⟩
  · omega
  · intro deadline h
    rw [hdeadline] at h
    cases h

/-- An operation with a deadline only spends. -/
lemma balanced_of_spends {deadline : Deadline} (hdeadline : s.operation.deadline? = some deadline)
    (h : Spends deadline s.idled s.before s.after) : s.Balanced := by
  obtain ⟨hdelayed, hstalled, hadvanced⟩ : s.delayed = 0 ∧ s.stalled = 0 ∧ s.advanced = 0 := by
    obtain ⟨p, op⟩ := s
    cases op <;> first | exact ⟨rfl, rfl, rfl⟩ | cases hdeadline
  obtain ⟨hdelays, hstalls, helapsed, htime⟩ := h
  refine ⟨by omega, by omega, by omega, ?_⟩
  intro deadline' h
  obtain rfl := Option.some.inj (hdeadline.symm.trans h)
  exact htime

/-- **The account of one operation balances.** -/
theorem balanced (h : s.Timed) : s.Balanced := by
  obtain ⟨p, op⟩ := s
  have hbytes (data : List UInt8) :
      totalDelay (p.inbound ++ data.map .byte) = totalDelay p.inbound := by
    rw [totalDelay_append, totalDelay_map_byte, Nat.add_zero]
  cases op with
  | pushInbound data => exact balanced_of_arranged rfl (hbytes data) rfl rfl
  | pushDelay span => exact balanced_of_arranged rfl (totalDelay_append ..) rfl rfl
  | pushReadError kind => exact balanced_of_arranged rfl (totalDelay_append ..) rfl rfl
  | advanceTo instant =>
    refine balanced_of_arranged rfl rfl rfl ?_
    show max p.clock.now instant = p.clock.now + (instant - p.clock.now)
    omega
  | loopBack => exact balanced_of_arranged rfl (hbytes p.outbound.toList) rfl rfl
  | write data deadline => exact balanced_of_spends rfl (spends_write data (h.near rfl))
  | readAvailable n deadline => exact balanced_of_spends rfl (spends_readAvailable n (h.near rfl))
  | readByte deadline => exact balanced_of_spends rfl (spends_readByte (h.near rfl))
  | _ => exact balanced_of_arranged rfl rfl rfl rfl

end Step

/-! ## Histories -/

/-- The sum of the entries of a kind. -/
def total (entry : Step → Nat) (steps : List Step) : Nat := (steps.map entry).sum

/-- **The account of a memory link.** Whatever is done to a memory link, and in whatever order, as
long as the deadlines are made with timeouts while its clock runs:

* the clock never moves backwards, and no call moves it past its deadline, unless it is there
  already;
* the time that passes is what the clock was moved on request, and the pauses that were queued and
  are not queued any more, and the stalls that were arranged and are not left, and the waits at the
  end of the queue.

So a pause or a stall that a deadline cuts short is neither lost nor counted twice.

**Proof sketch.** Each operation is balanced by `Step.balanced`. Induction on the operations adds up
what each has moved the clock by and what each has queued or arranged. -/
theorem time_accounted (p : MemoryLink) (ops : List Operation)
    (h : ∀ s ∈ p.history ops, s.Timed) :
    (∀ s ∈ p.history ops, s.before.clock.now ≤ s.after.clock.now ∧
      ∀ deadline, s.operation.deadline? = some deadline →
        s.after.clock.now ≤ max s.before.clock.now deadline.instant) ∧
    totalDelay (p.after ops).inbound ≤
      totalDelay p.inbound + total Step.delayed (p.history ops) ∧
    (p.after ops).writeStall ≤ p.writeStall + total Step.stalled (p.history ops) ∧
    (p.after ops).clock.now = p.clock.now + total Step.advanced (p.history ops) +
      (totalDelay p.inbound + total Step.delayed (p.history ops) -
        totalDelay (p.after ops).inbound) +
      (p.writeStall + total Step.stalled (p.history ops) - (p.after ops).writeStall) +
      total Step.idled (p.history ops) := by
  refine ⟨fun s hs => ⟨?_, (Step.balanced (h s hs)).inTime⟩, ?_⟩
  · have helapsed := (Step.balanced (h s hs)).elapsed
    omega
  · induction ops generalizing p with
    | nil => simp [history, after, total]
    | cons op ops ih =>
      obtain ⟨hdelays, hstalls, helapsed⟩ := ih (p.perform op).2 fun s hs =>
        h s (List.mem_cons_of_mem _ hs)
      obtain ⟨hdelays', hstalls', helapsed', -⟩ :=
        Step.balanced (h ⟨p, op⟩ List.mem_cons_self)
      simp only [history, after, total, List.map_cons, List.sum_cons, Step.after] at *
      omega

/-- A pause and a stall, each cut short once, a deadline that has expired, some time that passes on
request, and a read at the end of the queue. -/
def cutShort : List Operation :=
  [.pushDelay 30, .pushInbound [7], .stallWrites 25,
    .readAvailable 4 (.after 0 10), .write [1] (.after 10 10), .readAvailable 4 (.after 0 10),
    .advance 5, .readAvailable 4 (.after 25 100), .readByte (.after 45 5),
    .write [2] (.after 50 100)]

/-- The whole pause and the whole stall are waited for, once. -/
theorem cutShort_elapsed :
    (∀ s ∈ ({} : MemoryLink).history cutShort, s.Timed) ∧
      (({} : MemoryLink).after cutShort).clock.now = 0 + 5 + (0 + 30 - 0) + (0 + 25 - 0) + 5 := by
  have htimed : ∀ s ∈ ({} : MemoryLink).history cutShort, s.Timed := by
    intro s hs
    simp only [cutShort, history, List.mem_cons, List.not_mem_nil, or_false] at hs
    rcases hs with rfl | rfl | rfl | rfl | rfl | rfl | rfl | rfl | rfl | rfl <;>
      intro deadline hdeadline <;> cases hdeadline
    all_goals exact ⟨_, _, by decide +kernel, rfl⟩
  obtain ⟨-, -, -, helapsed⟩ := time_accounted {} cutShort htimed
  have hadvanced : total Step.advanced (({} : MemoryLink).history cutShort) = 5 := by
    decide +kernel
  have hdelayed : total Step.delayed (({} : MemoryLink).history cutShort) = 30 := by decide +kernel
  have hstalled : total Step.stalled (({} : MemoryLink).history cutShort) = 25 := by decide +kernel
  have hidled : total Step.idled (({} : MemoryLink).history cutShort) = 5 := by decide +kernel
  have hpauses : totalDelay (({} : MemoryLink).after cutShort).inbound = 0 := by decide +kernel
  have hstall : (({} : MemoryLink).after cutShort).writeStall = 0 := by decide +kernel
  rw [hadvanced, hdelayed, hstalled, hidled, hpauses, hstall] at helapsed
  exact ⟨htimed, helapsed⟩

end FramedLink.MemoryLink
