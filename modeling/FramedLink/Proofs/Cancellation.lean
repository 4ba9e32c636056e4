import FramedLink.Link.History
import FramedLink.Proofs.Numbering
import FramedLink.Proofs.Sending

set_option autoImplicit false
set_option relaxedAutoImplicit false

/-!
# Cancellation

Work on a link is called off through a token. All clones of a token share one flag, and a memory
link looks at it before it does anything else: before it reports an arranged failure, before it
waits for a stall or a pause to pass, before it hands out a byte. Nothing takes a cancellation back.
**So nothing moves any more on a link that has been called off,** whatever is arranged and attempted
afterwards: every operation fails at once, and the link stays as it is. Only a wait without any time
never comes to the link, and ends for lack of time. A frame is numbered before its first byte is
written, and its number is used up.

## Main definitions

* `FramedLink.Device.Action` — an operation of a device, or an operation on its link.
* `FramedLink.Device.afterActions` — the device after a sequence of actions.
* `FramedLink.Device.Operation.transmits` — the operations that hand a frame to the link.
* `FramedLink.Device.Operation.newPayload` — the payload of the frame that an operation numbers.
* `FramedLink.Device.Run.CalledOff` — a run that numbers a frame and is called off then.

## Main results

* `FramedLink.Device.cancelled_afterActions` — a cancellation is for good.
* `FramedLink.Device.calledOff_operations` — what becomes of an operation after a cancellation.
-/

namespace FramedLink

/-! ## Links -/

namespace MemoryLink

open Link

variable {p : MemoryLink} (h : p.cancelled = true)

include h

/-- The cancellation comes before everything else that a write could meet. -/
lemma write_of_cancelled (data : List UInt8) (deadline : Deadline) :
    Link.write data deadline p = (.error .cancelled, p) := by
  show MemoryLink.write data deadline p = _
  rw [MemoryLink.write, if_pos h]

/-- It comes before everything else that a read could meet, if the read asks for something. -/
lemma readAvailable_of_cancelled {n : Nat} (hn : n ≠ 0) (deadline : Deadline) :
    Link.readAvailable n deadline p = (.error .cancelled, p) := by
  show MemoryLink.readAvailable n deadline p = _
  rw [MemoryLink.readAvailable, if_neg hn, if_pos h]

/-- No byte is read from a link that has been called off. -/
lemma readByte_of_cancelled (deadline : Deadline) :
    Link.readByte deadline p = (.error .cancelled, p) := by
  rw [Link.readByte, readAvailable_of_cancelled h Nat.one_ne_zero]

/-- No byte of a frame is written. -/
lemma sendFrame_of_cancelled (header : FrameHeader) (payload : List UInt8) (deadline : Deadline) :
    Link.sendFrame header payload deadline p = (.error .cancelled, p) := by
  rw [sendFrame_eq_write, write_of_cancelled h]
  rfl

/-- A wait fails as soon as it reads. -/
lemma awaitReply_of_cancelled {deadline : Deadline} (hlive : p.clock.now < deadline.instant)
    (expect : Expectation) :
    Link.awaitReply expect deadline p = ⟨.error (.link .cancelled), [], p⟩ := by
  have hunexpired : ¬ deadline.expired (Link.now p) = true := by
    simpa [Deadline.expired, Link.now] using hlive
  rw [awaitReply_unmarked p hunexpired
    (waitForByte_of_readByte_error (readByte_of_cancelled h deadline))]
  rfl

/-- **No operation takes a cancellation back.** -/
lemma cancelled_perform (op : Operation) : (p.perform op).2.cancelled = true := by
  cases op with
  | write data deadline => rw [perform, write_of_cancelled h]; exact h
  | readAvailable n deadline =>
    rw [perform]
    rcases eq_or_ne n 0 with rfl | hn
    · exact h
    · rw [readAvailable_of_cancelled h hn]
      exact h
  | readByte deadline => rw [perform, readByte_of_cancelled h]; exact h
  | cancel => rfl
  | _ => exact h

end MemoryLink

namespace Device

/-! ## Operations -/

/-- Does an operation hand a frame to the link? -/
def Operation.transmits : Operation → Bool
  | sendFrame .. | send .. | request .. | ping _ | reset _ => true
  | prepareHeader .. | waitFor .. | waitForReply .. | waitForAck .. => false

/-- The payload of the frame that an operation numbers. -/
def Operation.newPayload : Operation → List UInt8
  | prepareHeader _ payload | send _ payload _ | request _ payload _ => payload
  | sendFrame .. | waitFor .. | waitForReply .. | waitForAck .. | ping _ | reset _ => []

/-- What a wait answers that has run out of time. -/
def Operation.unanswered : Operation → Answer
  | waitForAck .. => .acknowledged false
  | _ => .outcome .timedOut

variable {α β : Type} {d : Device MemoryLink}

/-- The device after a frame with this payload has been numbered, unless the payload is too large,
and nothing else has been done. -/
def numbered (d : Device MemoryLink) (payload : List UInt8) : Device MemoryLink :=
  { d with sequence := if payload.length ≤ maxPayload then d.sequence + 1 else d.sequence }

/-- A run on the device `d` that numbers a frame with this payload and is called off then. -/
structure Run.CalledOff (run : Run MemoryLink α) (d : Device MemoryLink) (payload : List UInt8) :
    Prop where
  /-- It fails. -/
  result : payload.length ≤ maxPayload → run.result = .error (.link .cancelled)
  /-- Only the number of the frame is used up. -/
  device : run.device = d.numbered payload

/-- Only the device and the failure matter. -/
lemma Run.CalledOff.congr {run : Run MemoryLink α} {run' : Run MemoryLink β} {value : α → β}
    {payload : List UInt8} (h : run.CalledOff d payload)
    (hresult : run'.result = run.result.map value) (hdevice : run'.device = run.device) :
    run'.CalledOff d payload where
  result hsize := hresult.trans (map_eq_error_iff.mpr (h.result hsize))
  device := hdevice.trans h.device

section Cancelled

variable (h : d.link.cancelled = true)

include h

/-- No frame is sent over a link that has been called off. -/
lemma sendFrameUntil_of_cancelled (header : FrameHeader) (payload : List UInt8)
    (deadline : Deadline) :
    d.sendFrameUntil header payload deadline = ⟨.error (.link .cancelled), d, []⟩ := by
  rw [sendFrameUntil, MemoryLink.sendFrame_of_cancelled h]

/-- A frame is numbered, but nothing of it is written. -/
lemma calledOff_sendUntil (messageType : MessageType) (payload : List UInt8)
    (deadline : Deadline) : (d.sendUntil messageType payload deadline).CalledOff d payload := by
  obtain ⟨hlarge, hrun⟩ | ⟨hsize, header, -, hrun⟩ :=
    d.sendUntil_cases messageType payload deadline <;> rw [hrun]
  · have hnot : ¬ payload.length ≤ maxPayload := by omega
    exact ⟨fun hsize => absurd hsize hnot, by rw [numbered, if_neg hnot]⟩
  · rw [sendFrameUntil_of_cancelled (d := { d with sequence := d.sequence + 1 }) h]
    exact ⟨fun _ => rfl, by rw [numbered, if_pos hsize]; rfl⟩

/-- A request is called off before it waits. -/
lemma calledOff_request (messageType : MessageType) (payload : List UInt8) (timeout : Nat) :
    (d.request messageType payload timeout).CalledOff d payload := by
  have hsent := calledOff_sendUntil h messageType payload (d.deadlineAfter timeout)
  by_cases hsize : payload.length ≤ maxPayload
  · have hfailed := hsent.result hsize
    obtain ⟨hlate, -⟩ | ⟨e, -, herror, hrun⟩ | ⟨sequence, hok, -⟩ :=
      d.request_cases messageType payload timeout
    · cases hfailed.symm.trans hlate
    · rw [hrun]
      cases herror.symm.trans hfailed
      exact ⟨fun _ => rfl, hsent.device⟩
    · cases hfailed.symm.trans hok
  · rw [request_of_too_large timeout (Nat.lt_of_not_le hsize)]
    exact ⟨fun hfits => absurd hfits hsize, by rw [numbered, if_neg hsize]⟩

/-- A wait fails if it has any time at all. Otherwise it has run out of time before it comes to the
link. -/
lemma waitFor_of_cancelled (sequence : UInt16) (types : List MessageType) (timeout : Nat) :
    (d.waitFor sequence types timeout).result =
        (if timeout = 0 then .ok .timedOut else .error (.link .cancelled)) ∧
      (d.waitFor sequence types timeout).device = d := by
  have hmax : 0 < maxTimeout := by decide
  have hinstant : (d.deadlineAfter timeout).instant = d.link.clock.now + min timeout maxTimeout :=
    rfl
  rw [waitFor, waitUntil, Link.awaitInto_eq]
  by_cases htimeout : timeout = 0
  · have hexpired : (d.deadlineAfter timeout).expired (Link.now d.link) = true := by
      refine decide_eq_true ?_
      show (d.deadlineAfter timeout).instant ≤ d.link.clock.now
      omega
    rw [Link.awaitReply_expired d.link hexpired, if_pos htimeout]
    exact ⟨rfl, rfl⟩
  · rw [MemoryLink.awaitReply_of_cancelled h (by omega), if_neg htimeout]
    exact ⟨rfl, rfl⟩

/-- **What becomes of an operation on a link that has been called off.**

**Proof sketch.** One case for each operation. One that sends takes a number for its frame and fails
at the first write. One that waits fails at the first read, unless its timeout is zero: then it does
not read at all. -/
theorem perform_of_cancelled (op : Operation) :
    (op.transmits = true → op.newPayload.length ≤ maxPayload →
      (d.perform op).result = .error (.link .cancelled)) ∧
    (op.isWait = true → (d.perform op).result =
      if op.timeout = 0 then .ok op.unanswered else .error (.link .cancelled)) ∧
    (d.perform op).device = if op.numbersFrame then d.numbered op.newPayload else d := by
  have hsends {α : Type} {run : Run MemoryLink α} {payload : List UInt8}
      (hrun : run.CalledOff d payload) (value : α → Answer) :
      (run.map value).CalledOff d payload := hrun.congr rfl rfl
  have hwaits {α : Type} {run : Run MemoryLink α} {timeout : Nat} {a : α}
      (hrun : run.result = if timeout = 0 then .ok a else .error (.link .cancelled))
      (value : α → Answer) : (run.map value).result =
        if timeout = 0 then .ok (value a) else .error (.link .cancelled) := by
    rw [Run.result_map, hrun]
    split <;> rfl
  cases op with
  | prepareHeader messageType payload =>
    refine ⟨(fun hop => by cases hop), (fun hop => by cases hop), ?_⟩
    show (d.prepareHeader messageType payload).2 = d.numbered payload
    obtain ⟨hlarge, hprepare⟩ | ⟨hsize, header, -, hprepare⟩ :=
      d.prepareHeader_cases messageType payload <;> rw [hprepare, numbered]
    · rw [if_neg (Nat.not_le_of_lt hlarge)]
    · rw [if_pos hsize]
  | sendFrame header payload timeout =>
    have hrun := sendFrameUntil_of_cancelled h header payload (d.deadlineAfter timeout)
    rw [perform, sendFrame, hrun]
    exact ⟨fun _ _ => rfl, (fun hop => by cases hop), rfl⟩
  | send messageType payload timeout =>
    have hrun : (d.send messageType payload timeout).CalledOff d payload :=
      calledOff_sendUntil h messageType payload _
    exact ⟨fun _ => (hsends hrun .number).result, (fun hop => by cases hop), hrun.device⟩
  | waitFor sequence types timeout =>
    have hrun := waitFor_of_cancelled h sequence types timeout
    exact ⟨(fun hop => by cases hop), fun _ => hwaits hrun.1 .outcome, hrun.2⟩
  | waitForReply sequence timeout =>
    have hrun := waitFor_of_cancelled h sequence replyTypes timeout
    exact ⟨(fun hop => by cases hop), fun _ => hwaits hrun.1 .outcome, hrun.2⟩
  | waitForAck sequence timeout =>
    have hrun := waitFor_of_cancelled h sequence replyTypes timeout
    have hresult : (d.waitForAck sequence timeout).result =
        if timeout = 0 then .ok false else .error (.link .cancelled) := by
      rw [waitForAck, waitForReply, Run.result_finish, hrun.1]
      split <;> rfl
    refine ⟨(fun hop => by cases hop), fun _ => hwaits hresult .acknowledged, ?_⟩
    show (d.waitForAck sequence timeout).device = d
    rw [waitForAck, waitForReply, Run.device_finish, hrun.2]
  | request messageType payload timeout =>
    have hrun := calledOff_request h messageType payload timeout
    exact ⟨fun _ => (hsends hrun .outcome).result, (fun hop => by cases hop), hrun.device⟩
  | ping timeout =>
    have hrun : (d.ping timeout).CalledOff d [] :=
      (calledOff_request h .ping [] timeout).congr (Run.result_finish ..) (Run.device_finish ..)
    exact ⟨fun _ => (hsends hrun .acknowledged).result, (fun hop => by cases hop), hrun.device⟩
  | reset timeout =>
    have hrun : (d.reset timeout).CalledOff d [] :=
      (calledOff_sendUntil h .exit [] _).congr (Run.result_finish ..) (Run.device_finish ..)
    exact ⟨fun _ => (hsends hrun fun _ => .done).result, (fun hop => by cases hop), hrun.device⟩

end Cancelled

/-! ## Actions -/

/-- What can be done to a device and to its link. -/
inductive Action where
  /-- An operation of the device. -/
  | device (op : Operation)
  /-- An operation on its link. The link is called off in this way too, through its token or
  through a clone of it. -/
  | link (op : MemoryLink.Operation)
  deriving DecidableEq, Repr

/-- The device after an action. -/
def act (d : Device MemoryLink) : Action → Device MemoryLink
  | .device op => (d.perform op).device
  | .link op => { d with link := (d.link.perform op).2 }

/-- The device after a sequence of actions. -/
def afterActions (d : Device MemoryLink) (actions : List Action) : Device MemoryLink :=
  actions.foldl act d

/-- One action does not take a cancellation back. -/
lemma cancelled_act (h : d.link.cancelled = true) (action : Action) :
    (d.act action).link.cancelled = true := by
  cases action with
  | device op =>
    rw [act, (perform_of_cancelled h op).2.2]
    split <;> exact h
  | link op => exact MemoryLink.cancelled_perform h op

/-- **A cancellation is for good.**

**Proof sketch.** Induction on the actions. No action takes a cancellation back, so it does not
matter which of them has called the link off. -/
theorem cancelled_afterActions (d : Device MemoryLink) (actions : List Action)
    (hcancel : d.link.cancelled = true ∨ .link .cancel ∈ actions) :
    (d.afterActions actions).link.cancelled = true := by
  induction actions generalizing d with
  | nil => exact hcancel.resolve_right List.not_mem_nil
  | cons action actions ih =>
    refine ih (d.act action) ?_
    obtain h | h := hcancel
    · exact .inl (cancelled_act h action)
    · obtain rfl | h := List.mem_cons.mp h
      · exact .inl rfl
      · exact .inr h

/-- **After a cancellation, nothing moves any more.** Let the link of a device have been called off
at the beginning, or by any of the actions that follow one another on the device and on its link.
Whatever else these actions have arranged, every operation that hands a frame to the link then
reports the cancellation, unless the payload is too large to be numbered; a wait reports it too if
it has any time, and otherwise ends for lack of time. All of the link stays as it is: its log, its
queue, its stall, its arranged failure, its clock. Only the number of the next frame goes up, by one
for a frame that is numbered. -/
theorem calledOff_operations (d : Device MemoryLink) (actions : List Action)
    (hcancel : d.link.cancelled = true ∨ .link .cancel ∈ actions) (op : Operation) :
    let before := d.afterActions actions
    let run := before.perform op
    (op.transmits = true → op.newPayload.length ≤ maxPayload →
      run.result = .error (.link .cancelled)) ∧
    (op.isWait = true → 0 < op.timeout → run.result = .error (.link .cancelled)) ∧
    (op.isWait = true → op.timeout = 0 → run.result = .ok op.unanswered) ∧
    run.device.link = before.link ∧ run.device.config = before.config ∧
    run.device.sequence =
      if op.numbersFrame = true ∧ op.newPayload.length ≤ maxPayload then before.sequence + 1
      else before.sequence := by
  intro before run
  have hcancelled : before.link.cancelled = true := d.cancelled_afterActions actions hcancel
  obtain ⟨hsends, hwaits, hdevice⟩ := perform_of_cancelled hcancelled op
  refine ⟨hsends, fun hwait htimeout => ?_, fun hwait htimeout => ?_, ?_⟩
  · exact (hwaits hwait).trans (if_neg (by omega))
  · exact (hwaits hwait).trans (if_pos htimeout)
  · change run.device = _ at hdevice
    rw [hdevice]
    by_cases hnumbers : op.numbersFrame = true <;>
      simp only [hnumbers, numbered, if_true, if_false, true_and, false_and, Bool.false_eq_true,
        and_self]

/-- A device whose link will report a failure, then hold up writes for 3, and has a byte behind a
pause. -/
def burdened : Device MemoryLink :=
  .ofLink
    { clock := ⟨7⟩
      inbound := [.delay 2, .byte 0x73]
      writeFailure := some .brokenPipe
      writeStall := 3 }
    { initialSequence := 65535 }

/-- The link is called off between two operations; later on another byte and another stall are
arranged. -/
def calledOffBetween : List Action :=
  [.device (.waitForAck 1 1), .link .cancel, .device (.send .ack [1] 9),
    .link (.pushInbound [0x73]), .link (.stallWrites 5)]

/-- A ping without any time reports the cancellation, and a wait without any time runs out of it.
Neither the clock nor the queue nor the arranged failure is touched. The send before the ping has
used up number 65535, and the ping uses up number 0. -/
theorem burdened_calledOff :
    let before := burdened.afterActions calledOffBetween
    (before.perform (.ping 0)).result = .error (.link .cancelled) ∧
      (before.perform (.waitForAck 5 0)).result = .ok (.acknowledged false) ∧
      (before.perform (.waitFor 5 [] 1)).result = .error (.link .cancelled) ∧
      (before.perform (.ping 0)).device.link = before.link ∧
      before.link.inbound = [.delay 1, .byte 0x73, .byte 0x73] ∧
      before.link.writeFailure = some .brokenPipe ∧ before.link.clock.now = 8 ∧
      (before.perform (.ping 0)).device.sequence = 1 := by
  have hmem : Action.link .cancel ∈ calledOffBetween := by decide
  have hping := calledOff_operations burdened calledOffBetween (.inr hmem) (.ping 0)
  have hnow := calledOff_operations burdened calledOffBetween (.inr hmem) (.waitForAck 5 0)
  have hlater := calledOff_operations burdened calledOffBetween (.inr hmem) (.waitFor 5 [] 1)
  refine ⟨hping.1 rfl (by decide), hnow.2.2.1 rfl rfl, hlater.2.1 rfl (by decide), hping.2.2.2.1,
    by decide +kernel, by decide +kernel, by decide +kernel, ?_⟩
  rw [hping.2.2.2.2.2]
  decide +kernel

end Device

end FramedLink
