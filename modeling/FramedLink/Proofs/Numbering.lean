import FramedLink.Link.Memory
import FramedLink.Proofs.Acceptance
import FramedLink.Proofs.Breakdown

set_option autoImplicit false
set_option relaxedAutoImplicit false

/-!
# The numbers of the frames

A device numbers its frames one after another, with sixteen bits. What becomes of a frame does not
matter: **a frame that was numbered has used up its number, whether it was sent or not,** and one
whose payload is too large has used up none. So two frames have different numbers unless 65536 or
more lie between them, and a reply, which has to echo the number of its frame, is not taken for the
reply to another one.

## Main definitions

* `FramedLink.Device.Turn`, `FramedLink.Device.turns` — an operation with the device on which it is
  carried out; those of a session.
* `FramedLink.Device.Turn.header?` — the header of the frame that an operation numbers.
* `FramedLink.Device.frames` — the frames that a session numbers, in order.
* `FramedLink.Device.Turn.Receives` — a request or a ping has received a reply.

## Main results

* `FramedLink.Device.Turn.numbers` — what one operation does to the number of the next frame.
* `FramedLink.Device.sequence_after`, `FramedLink.Device.sequence_frames` — the number after a
  session, and those of its frames.
* `FramedLink.Device.Turn.Receives.echoes` — a reply echoes the number of its frame.
* `FramedLink.Device.numbers_and_replies` — the numbers of a session, and what replies may echo.
-/

namespace FramedLink

/-- Data that starts with a number starts with no other one. -/
lemma leBytes_append_inj {n m : UInt16} {xs ys : List UInt8}
    (h : leBytes n ++ xs = leBytes m ++ ys) : n = m := by
  obtain ⟨hlow, hhigh, -⟩ :
      n.toUInt8 = m.toUInt8 ∧ (n >>> 8).toUInt8 = (m >>> 8).toUInt8 ∧ xs = ys := by
    simpa [leBytes] using h
  rw [← leValue_leBytes n, ← leValue_leBytes m, hlow, hhigh]

/-- A wait ends with a reply only if the reply starts with the awaited number. -/
lemma Link.awaitReply_answers {σ : Type} [Link σ] {expect : Expectation} {deadline : Deadline}
    {link : σ} {reply : Reply}
    (h : (awaitReply expect deadline link).result = .ok (.matched reply)) :
    ∃ body, reply.payload = leBytes expect.sequence ++ body := by
  obtain ⟨start, -, haccepted⟩ := awaitReply_matched h
  obtain ⟨raw, -, hmeets, -⟩ := attempt_accepted_iff.mp haccepted
  exact hmeets.answers

namespace Device

variable {σ : Type} [Link σ]

/-! ## Single operations -/

section Operations

variable {d : Device σ} {messageType : MessageType} {payload : List UInt8} {timeout : Nat}
  {deadline : Deadline}

/-- The sending of a frame that has been numbered does not change the number of the next one. -/
lemma sequence_sendFrameUntil (d : Device σ) (header : FrameHeader) (payload : List UInt8)
    (deadline : Deadline) :
    (d.sendFrameUntil header payload deadline).device.sequence = d.sequence := by
  unfold sendFrameUntil
  split <;> rfl

/-- Numbering and sending a frame does to the number of the next one what numbering does. -/
lemma sequence_sendUntil (d : Device σ) (messageType : MessageType) (payload : List UInt8)
    (deadline : Deadline) : (d.sendUntil messageType payload deadline).device.sequence =
      (d.prepareHeader messageType payload).2.sequence := by
  unfold sendUntil
  rcases d.prepareHeader messageType payload with ⟨e | header, d'⟩
  · rfl
  · dsimp only
    rw [Run.device_finish, sequence_sendFrameUntil]

/-- So does a request, however it ends. -/
lemma sequence_request (d : Device σ) (messageType : MessageType) (payload : List UInt8)
    (timeout : Nat) : (d.request messageType payload timeout).device.sequence =
      (d.prepareHeader messageType payload).2.sequence := by
  have hsent := sequence_sendUntil d messageType payload (d.deadlineAfter timeout)
  obtain ⟨-, hrun⟩ | ⟨e, -, -, hrun⟩ | ⟨sequence, -, hrun⟩ :=
    d.request_cases messageType payload timeout <;> rw [hrun] <;> exact hsent

/-- The number that the sending of a frame answers is the one that the device had for it. -/
lemma sendUntil_number {sequence : UInt16}
    (h : (d.sendUntil messageType payload deadline).result = .ok sequence) :
    sequence = d.sequence := by
  obtain ⟨-, hrun⟩ | ⟨-, header, hnumber, hrun⟩ := d.sendUntil_cases messageType payload deadline
  · rw [hrun] at h
    cases h
  · rw [hrun, Run.result_finish] at h
    obtain ⟨-, -, rfl⟩ := map_eq_ok_iff.mp h
    exact hnumber

/-- **The reply to a request starts with the number of its frame.** -/
theorem request_answers {reply : Reply}
    (h : (d.request messageType payload timeout).result = .ok (.matched reply)) :
    ∃ body, reply.payload = leBytes d.sequence ++ body := by
  obtain ⟨-, hrun⟩ | ⟨e, -, -, hrun⟩ | ⟨sequence, hsent, hrun⟩ :=
    d.request_cases messageType payload timeout <;> rw [hrun] at h
  · cases h
  · cases h
  · obtain rfl := sendUntil_number hsent
    unfold waitUntil at h
    rw [Link.awaitInto_eq] at h
    exact Link.awaitReply_answers h

/-- An operation that fails only as its link does, unless its payload is too large, reports exactly
a payload that is too large as such. -/
lemma tooLarge_iff {α : Type} {r : Except DeviceError α}
    (hsmall : payload.length ≤ maxPayload → ∀ e, r = .error e → ∃ source, e = .link source)
    (hlarge : maxPayload < payload.length →
      r = .error (.frame (.payloadTooLarge payload.length maxPayload))) :
    (∃ size limit, r = .error (.frame (.payloadTooLarge size limit))) ↔
      maxPayload < payload.length := by
  refine ⟨fun ⟨size, limit, hr⟩ => Nat.lt_of_not_le fun hsize => ?_, fun h => ⟨_, _, hlarge h⟩⟩
  obtain ⟨source, hsource⟩ := hsmall hsize _ hr
  cases hsource

omit [Link σ] in
/-- A header is refused exactly if the payload is too large for any frame. -/
lemma prepareHeader_tooLarge_iff :
    (∃ size limit, (d.prepareHeader messageType payload).1 =
      .error (.frame (.payloadTooLarge size limit))) ↔ maxPayload < payload.length := by
  obtain ⟨hsize, hprepare⟩ | ⟨hsize, header, -, hprepare⟩ :=
    d.prepareHeader_cases messageType payload <;> rw [hprepare]
  · exact tooLarge_iff (fun _ _ _ => by omega) fun _ => rfl
  · exact tooLarge_iff (fun _ _ he => by cases he) fun _ => by omega

/-- So is a frame that is to be numbered and sent. -/
lemma sendUntil_tooLarge_iff :
    (∃ size limit, (d.sendUntil messageType payload deadline).result =
      .error (.frame (.payloadTooLarge size limit))) ↔ maxPayload < payload.length := by
  refine tooLarge_iff (fun hsize e he => sendUntil_error hsize he) fun hsize => ?_
  obtain ⟨-, hrun⟩ | ⟨hsmall, -⟩ := d.sendUntil_cases messageType payload deadline
  · rw [hrun]
  · omega

/-- And so is a request. -/
lemma request_tooLarge_iff :
    (∃ size limit, (d.request messageType payload timeout).result =
      .error (.frame (.payloadTooLarge size limit))) ↔ maxPayload < payload.length := by
  refine tooLarge_iff (fun hsize e he => ?_) fun hsize => ?_
  · obtain ⟨source, hsource, -⟩ := request_error hsize he
    exact ⟨source, hsource⟩
  · rw [request_of_too_large timeout hsize]

/-- A frame that is numbered and handed to the link has the header that was made for it. -/
lemma header_transmitNext? (d : Device σ) (messageType : MessageType) (payload : List UInt8)
    (timeout : Nat) : (d.transmitNext? messageType payload timeout).map Transmission.header =
      (d.prepareHeader messageType payload).1.toOption := by
  unfold transmitNext?
  rcases (d.prepareHeader messageType payload).1 with e | header <;> rfl

end Operations

/-! ## Turns -/

/-- Does an operation number a frame, if the payload is not too large? -/
def Operation.numbersFrame : Operation → Bool
  | prepareHeader .. | send .. | request .. | ping _ | reset _ => true
  | sendFrame .. | waitFor .. | waitForReply .. | waitForAck .. => false

/-- An operation of a session, with the device on which it is carried out. -/
structure Turn (σ : Type) where
  /-- The device before the operation. -/
  device : Device σ
  /-- The operation. -/
  operation : Operation

/-- The operations of a session, each with the device that those before it have left. -/
def turns (d : Device σ) : List Operation → List (Turn σ)
  | [] => []
  | op :: ops => ⟨d, op⟩ :: (d.perform op).device.turns ops

namespace Turn

/-- How the operation went. -/
def run (t : Turn σ) : Run σ Answer := t.device.perform t.operation

/-- The operation has failed because of a payload that is too large. -/
def TooLarge (t : Turn σ) : Prop :=
  ∃ size limit, t.run.result = .error (.frame (.payloadTooLarge size limit))

/-- The header of the frame that the operation numbers: the one that it answers, or the one of the
frame that it hands to the link. A frame whose header is given has been numbered before. -/
def header? (t : Turn σ) : Option FrameHeader :=
  match t.operation with
  | .prepareHeader .. =>
    match t.run.result with
    | .ok (.header header) => some header
    | _ => none
  | .sendFrame .. => none
  | op => (t.device.transmission? op).map Transmission.header

/-- A request or a ping has received this reply. -/
inductive Receives : Turn σ → Reply → Prop
  /-- A request answers the reply. -/
  | request {d : Device σ} {messageType : MessageType} {payload : List UInt8} {timeout : Nat}
      {reply : Reply}
      (matched : (d.perform (.request messageType payload timeout)).result =
        .ok (.outcome (.matched reply))) :
      Receives ⟨d, .request messageType payload timeout⟩ reply
  /-- A ping is a request that answers only whether the reply was a positive one. -/
  | ping {d : Device σ} {timeout : Nat} {reply : Reply}
      (matched : (d.request .ping [] timeout).result = .ok (.matched reply)) :
      Receives ⟨d, .ping timeout⟩ reply

/-- What an operation does to the number of the next frame. -/
inductive Numbers (t : Turn σ) : Prop
  /-- It numbers no frame. -/
  | idle (kind : t.operation.numbersFrame = false) (noHeader : t.header? = none)
      (next : t.run.device.sequence = t.device.sequence)
  /-- The payload is too large, and no number is used up. -/
  | refused (large : t.TooLarge) (noHeader : t.header? = none)
      (next : t.run.device.sequence = t.device.sequence)
  /-- A frame gets the number, and the next frame will get the one after it. -/
  | numbered (header : FrameHeader) (kind : t.operation.numbersFrame = true)
      (fits : ¬ t.TooLarge) (isHeader : t.header? = some header)
      (number : header.sequence = t.device.sequence)
      (next : t.run.device.sequence = t.device.sequence + 1)

/-- What becomes of the number of the next frame is settled where the frame is numbered. -/
lemma numbers_of_prepareHeader {t : Turn σ} (messageType : MessageType) (payload : List UInt8)
    (kind : t.operation.numbersFrame = true)
    (hlarge : t.TooLarge ↔ maxPayload < payload.length)
    (hheader : t.header? = (t.device.prepareHeader messageType payload).1.toOption)
    (hnext : t.run.device.sequence = (t.device.prepareHeader messageType payload).2.sequence) :
    t.Numbers := by
  obtain ⟨hsize, hprepare⟩ | ⟨hsize, header, hnumber, hprepare⟩ :=
    t.device.prepareHeader_cases messageType payload <;> rw [hprepare] at hheader hnext
  · exact .refused (hlarge.mpr hsize) hheader hnext
  · exact .numbered header kind (by rw [hlarge]; omega) hheader hnumber hnext

/-- **What each operation does to the number of the next frame.**

**Proof sketch.** One case for each operation. Those that make a frame take its number with
`prepareHeader`, and nothing that they do with it later changes the number of the device; the others
leave it alone. -/
theorem numbers (t : Turn σ) : t.Numbers := by
  obtain ⟨d, op⟩ := t
  have hmap {α : Type} {r : Run σ α} {value : α → Answer}
      (hrun : (⟨d, op⟩ : Turn σ).run = r.map value) : (⟨d, op⟩ : Turn σ).TooLarge ↔
        ∃ size limit, r.result = .error (.frame (.payloadTooLarge size limit)) := by
    simp only [TooLarge, hrun, Run.result_map, map_eq_error_iff]
  cases op with
  | prepareHeader messageType payload =>
    have hrun : (⟨d, .prepareHeader messageType payload⟩ : Turn σ).run = Run.map
        ⟨(d.prepareHeader messageType payload).1, (d.prepareHeader messageType payload).2, []⟩
        Answer.header := rfl
    refine numbers_of_prepareHeader messageType payload rfl
      ((hmap hrun).trans prepareHeader_tooLarge_iff) ?_ rfl
    rw [header?, hrun, Run.result_map]
    rcases (d.prepareHeader messageType payload).1 with e | header <;> rfl
  | sendFrame header payload timeout =>
    exact .idle rfl rfl (sequence_sendFrameUntil d header payload _)
  | send messageType payload timeout =>
    exact numbers_of_prepareHeader messageType payload rfl
      ((hmap rfl).trans sendUntil_tooLarge_iff) (header_transmitNext? d messageType payload timeout)
      (sequence_sendUntil d messageType payload _)
  | waitFor sequence types timeout => exact .idle rfl rfl rfl
  | waitForReply sequence timeout => exact .idle rfl rfl rfl
  | waitForAck sequence timeout =>
    refine .idle rfl rfl ?_
    show (d.waitForAck sequence timeout).device.sequence = _
    rw [waitForAck, Run.device_finish]
    rfl
  | request messageType payload timeout =>
    exact numbers_of_prepareHeader messageType payload rfl
      ((hmap rfl).trans request_tooLarge_iff) (header_transmitNext? d messageType payload timeout)
      (sequence_request d messageType payload timeout)
  | ping timeout =>
    refine numbers_of_prepareHeader .ping [] rfl ?_
      (header_transmitNext? d .ping [] timeout) ?_
    · rw [hmap (r := d.ping timeout) rfl, ping]
      simp only [Run.result_finish, map_eq_error_iff]
      exact request_tooLarge_iff
    · show (d.ping timeout).device.sequence = _
      rw [ping, Run.device_finish, sequence_request]
  | reset timeout =>
    refine numbers_of_prepareHeader .exit [] rfl ?_
      (header_transmitNext? d .exit [] timeout) ?_
    · rw [hmap (r := d.reset timeout) rfl, reset]
      simp only [Run.result_finish, map_eq_error_iff]
      exact sendUntil_tooLarge_iff
    · show (d.reset timeout).device.sequence = _
      rw [reset, Run.device_finish, send, sequence_sendUntil]

/-- **A reply starts with the number that the device had for the frame.** -/
theorem Receives.echoes {t : Turn σ} {reply : Reply} (h : t.Receives reply) :
    ∃ body, reply.payload = leBytes t.device.sequence ++ body := by
  cases h with
  | request matched =>
    obtain ⟨outcome, hresult, houtcome⟩ := map_eq_ok_iff.mp matched
    obtain rfl := Answer.outcome.inj houtcome
    exact request_answers hresult
  | ping matched => exact request_answers matched

/-- A ping finds a positive acknowledgement only in a reply that it has received. -/
lemma exists_receives_of_ping {d : Device σ} {timeout : Nat}
    (h : (d.perform (.ping timeout)).result = .ok (.acknowledged true)) :
    ∃ reply, Receives ⟨d, .ping timeout⟩ reply ∧ reply.messageType = .ack := by
  obtain ⟨alive, hping, halive⟩ := map_eq_ok_iff.mp h
  obtain rfl := Answer.acknowledged.inj halive
  rw [Device.ping, Run.result_finish] at hping
  obtain ⟨outcome, hresult, hack⟩ := map_eq_ok_iff.mp hping
  cases outcome with
  | matched reply => exact ⟨reply, .ping hresult, by simpa [WaitOutcome.messageType?] using hack⟩
  | timedOut => cases hack

end Turn

/-! ## Sessions -/

/-- The frames that a session numbers, in order, each with the operation that numbers it. -/
def frames (d : Device σ) (ops : List Operation) : List (Turn σ × FrameHeader) :=
  (d.turns ops).filterMap fun t => t.header?.map (t, ·)

/-- A frame of a session has been numbered by the operation that it stands with. -/
lemma mem_frames {d : Device σ} {ops : List Operation} {t : Turn σ} {header : FrameHeader}
    (h : (t, header) ∈ d.frames ops) : t ∈ d.turns ops ∧ t.header? = some header := by
  obtain ⟨t', hmem, hpair⟩ := List.mem_filterMap.mp h
  obtain ⟨header', hheader, hpair⟩ := Option.map_eq_some_iff.mp hpair
  cases hpair
  exact ⟨hmem, hheader⟩

/-- The first operation of a session numbers no frame, or the first frame. -/
lemma frames_cons (d : Device σ) (op : Operation) (ops : List Operation) :
    ((d.perform op).device.sequence = d.sequence ∧
      d.frames (op :: ops) = (d.perform op).device.frames ops) ∨
    ∃ header, header.sequence = d.sequence ∧
      (d.perform op).device.sequence = d.sequence + 1 ∧
      d.frames (op :: ops) = (⟨d, op⟩, header) :: (d.perform op).device.frames ops := by
  have hframes : d.frames (op :: ops) =
      (Option.map (⟨d, op⟩, ·) (Turn.header? ⟨d, op⟩)).toList ++
        (d.perform op).device.frames ops := by
    rw [frames, turns.eq_2, List.filterMap_cons]
    rcases Turn.header? ⟨d, op⟩ with - | header <;> rfl
  cases Turn.numbers ⟨d, op⟩ with
  | idle kind noHeader next => exact .inl ⟨next, by rw [hframes, noHeader]; rfl⟩
  | refused large noHeader next => exact .inl ⟨next, by rw [hframes, noHeader]; rfl⟩
  | numbered header kind fits isHeader number next =>
    exact .inr ⟨header, number, next, by rw [hframes, isHeader]; rfl⟩

/-- Numbers wrap around. -/
lemma toNat_add_one (n : UInt16) : (n + 1).toNat = (n.toNat + 1) % 65536 := by
  rw [UInt16.toNat_add]
  rfl

/-- **The number of the next frame tells how many frames have been numbered,** up to multiples of
65536. -/
theorem sequence_after (d : Device σ) (ops : List Operation) :
    (d.after ops).sequence.toNat = (d.sequence.toNat + (d.frames ops).length) % 65536 := by
  induction ops generalizing d with
  | nil => exact (Nat.mod_eq_of_lt d.sequence.toNat_lt).symm
  | cons op ops ih =>
    rw [after, ih]
    obtain ⟨hnext, hframes⟩ | ⟨header, -, hnext, hframes⟩ := d.frames_cons op ops <;>
      rw [hnext, hframes]
    rw [toNat_add_one, List.length_cons]
    omega

/-- **The frames of a session are numbered one after another.**

**Proof sketch.** Induction on the operations. An operation that numbers a frame takes the number of
the device and leaves the next one; any other leaves the number as it is. -/
theorem sequence_frames {d : Device σ} {ops : List Operation} {i : Nat} {t : Turn σ}
    {header : FrameHeader} (h : (d.frames ops)[i]? = some (t, header)) :
    header.sequence.toNat = (d.sequence.toNat + i) % 65536 ∧
      header.sequence = t.device.sequence := by
  induction ops generalizing d i with
  | nil => simp [frames, turns] at h
  | cons op ops ih =>
    obtain ⟨hnext, hframes⟩ | ⟨header', hnumber, hnext, hframes⟩ := d.frames_cons op ops <;>
      rw [hframes] at h
    · rw [← hnext]
      exact ih h
    · cases i with
      | zero =>
        cases h
        rw [hnumber]
        exact ⟨(Nat.mod_eq_of_lt d.sequence.toNat_lt).symm, rfl⟩
      | succ i =>
        obtain ⟨hvalue, hsame⟩ := ih h
        rw [hnext, toNat_add_one] at hvalue
        exact ⟨by omega, hsame⟩

/-- Two frames of a session have different numbers unless 65536 or more lie between them. -/
lemma sequence_ne {d : Device σ} {ops : List Operation} {i j : Nat} {t t' : Turn σ}
    {header header' : FrameHeader} (hi : (d.frames ops)[i]? = some (t, header))
    (hj : (d.frames ops)[j]? = some (t', header')) (hne : i ≠ j) (hij : i < j + 65536)
    (hji : j < i + 65536) : header.sequence ≠ header'.sequence := by
  intro heq
  have hvalue := (sequence_frames hi).1
  have hvalue' := (sequence_frames hj).1
  rw [heq, hvalue'] at hvalue
  omega

/-- **The numbers of a session, and what replies may echo.** On any link, and whatever becomes of
the operations of a session, exactly those operations number a frame that are made for it and do not
fail because of a payload that is too large; each of them numbers one. The frames are numbered one
after another from the number that the device had at first, modulo 65536, and the number after
theirs is left to the device. So among 65536 frames in a row no two have the same number. A request
or a ping receives only a reply that starts with the number of its own frame; this is not the number
of any other frame that lies less than 65536 before or behind it. A ping finds a positive
acknowledgement only in such a reply.

**Proof sketch.** The frames of a session are numbered one after another (`sequence_frames`), so two
of them have the same number only if their distance is a multiple of 65536. A reply that an
operation receives starts with the number of the frame of this operation, and two numbers at the
front of one payload are the same. -/
theorem numbers_and_replies (d : Device σ) (ops : List Operation) :
    (∀ t ∈ d.turns ops, t.header?.isSome = true ↔
      t.operation.numbersFrame = true ∧ ¬ t.TooLarge) ∧
    (d.after ops).sequence.toNat = (d.sequence.toNat + (d.frames ops).length) % 65536 ∧
    (∀ i t header, (d.frames ops)[i]? = some (t, header) →
      header.sequence.toNat = (d.sequence.toNat + i) % 65536) ∧
    (∀ i j t t' header header', (d.frames ops)[i]? = some (t, header) →
      (d.frames ops)[j]? = some (t', header') → i < j → j < i + 65536 →
        header.sequence ≠ header'.sequence) ∧
    (∀ i t header reply, (d.frames ops)[i]? = some (t, header) → t.Receives reply →
      leBytes header.sequence <+: reply.payload ∧
      ∀ j t' header', (d.frames ops)[j]? = some (t', header') → i ≠ j →
        i < j + 65536 → j < i + 65536 → ¬ leBytes header'.sequence <+: reply.payload) ∧
    (∀ t ∈ d.turns ops, ∀ timeout, t.operation = .ping timeout →
      t.run.result = .ok (.acknowledged true) →
        ∃ reply, t.Receives reply ∧ reply.messageType = .ack) := by
  refine ⟨fun t _ => ?_, d.sequence_after ops, fun i t header h => (sequence_frames h).1,
    fun i j t t' header header' hi hj hij hwindow =>
      sequence_ne hi hj (by omega) (by omega) hwindow,
    fun i t header reply hi hreply => ?_, fun t _ timeout hping hresult => ?_⟩
  · cases t.numbers with
    | idle kind noHeader next => simp [noHeader, kind]
    | refused large noHeader next => simp [noHeader, large]
    | numbered header kind fits isHeader number next => simp [isHeader, kind, fits]
  · obtain ⟨body, hbody⟩ := hreply.echoes
    rw [← (sequence_frames hi).2] at hbody
    refine ⟨⟨body, hbody.symm⟩, ?_⟩
    rintro j t' header' hj hne hij hji ⟨body', hbody'⟩
    exact sequence_ne hi hj hne hij hji (leBytes_append_inj (hbody.symm.trans hbody'.symm))
  · obtain ⟨d', op⟩ := t
    obtain rfl : op = .ping timeout := hping
    exact Turn.exists_receives_of_ping hresult

/-- A device shortly before its numbers start again. Its link fails once, and its peer acknowledges
number 65535, and then number 0. -/
def wrapping : Device MemoryLink :=
  .ofLink
    { inbound := [115, 10, 0, 0, 1, 0, 160, 203, 27, 255, 255, 115, 10, 0, 0, 2, 0, 160, 70, 222,
        0, 0].map .byte
      writeFailure := some .brokenPipe }
    { initialSequence := 65534 }

/-- A frame that is not sent, one that is only numbered, a wait that has no time, and a ping. -/
def mixedOperations : List Operation :=
  [.send .ack [1] 10, .prepareHeader .ping [], .waitForAck 65535 0, .ping 10]

/-- The ping has number 0, and receives only the reply that starts with this number. -/
theorem wrapping_session :
    (wrapping.frames mixedOperations).map (fun frame => frame.2.sequence) = [65534, 65535, 0] ∧
      (wrapping.after mixedOperations).sequence.toNat = (65534 + 3) % 65536 ∧
      ∃ t header reply, (wrapping.frames mixedOperations)[2]? = some (t, header) ∧
        t.operation = .ping 10 ∧ t.Receives reply ∧
        leBytes 0 <+: reply.payload ∧ ¬ leBytes 65535 <+: reply.payload := by
  obtain ⟨-, hafter, -, -, hreplies, hpings⟩ := numbers_and_replies wrapping mixedOperations
  have hturn : ∀ frame ∈ wrapping.frames mixedOperations,
      frame.1 ∈ wrapping.turns mixedOperations := fun _ hmem => (mem_frames hmem).1
  have hnumbers : (wrapping.frames mixedOperations).map (fun frame => frame.2.sequence) =
      [65534, 65535, 0] := by decide +kernel
  have hturns : (wrapping.frames mixedOperations).map (fun frame => frame.1.operation) =
      [.send .ack [1] 10, .prepareHeader .ping [], .ping 10] := by decide +kernel
  have hresults : ((wrapping.frames mixedOperations).map fun frame => frame.1.run.result)[2]? =
      some (.ok (.acknowledged true)) := by decide +kernel
  have hlength : (wrapping.frames mixedOperations).length = 3 := by
    rw [← List.length_map, hnumbers]
    rfl
  obtain ⟨first, ⟨t', header'⟩, ⟨t, header⟩, hframes⟩ := List.length_eq_three.mp hlength
  rw [hframes] at hafter hreplies hturn hnumbers hturns hresults ⊢
  obtain ⟨-, hnumber', hnumber⟩ : _ ∧ header'.sequence = 65535 ∧ header.sequence = 0 := by
    simpa using hnumbers
  obtain ⟨-, -, hping⟩ : _ ∧ _ ∧ t.operation = .ping 10 := by simpa using hturns
  have hresult : t.run.result = .ok (.acknowledged true) := by simpa using hresults
  obtain ⟨reply, hreply, -⟩ := hpings t (hturn (t, header) (by simp)) 10 hping hresult
  obtain ⟨hown, hother⟩ := hreplies 2 t header reply rfl hreply
  have hother' := hother 1 t' header' rfl (by decide) (by decide) (by decide)
  rw [hnumber] at hown
  rw [hnumber'] at hother'
  exact ⟨hnumbers, hafter, t, header, reply, rfl, hping, hreply, hown, hother'⟩

end Device

end FramedLink
