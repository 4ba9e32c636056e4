import FramedLink.Proofs.Budget

set_option autoImplicit false
set_option relaxedAutoImplicit false

/-!
# Sending over a memory link

A frame goes out in many writes: its marker, runs of plain bytes, single pairs. On a memory link
only the first of them can meet an obstacle. It reports a cancellation or an arranged failure, and
it waits for a stall to pass; once it has succeeded, nothing stands in the way of the others. **So a
frame is sent as if in a single write:** all of it goes out, or nothing of it.

Sending takes its time from the budget of the operation that it belongs to. **A request is therefore
a send, and then a wait for as long as the send has left:** a deadline that is derived anew from the
time that is left is the same instant.

## Main definitions

* `FramedLink.MemoryLink.Clear` — nothing stands in the way of writes.
* `FramedLink.MemoryLink.AllOrNothing` — what the sending of a frame may change.
* `FramedLink.Device.Operation.isSend` — the operations that send one frame and await nothing.

## Main results

* `FramedLink.MemoryLink.sendFrame_eq_write` — the sending of a frame is a single write.
* `FramedLink.Device.send_all_or_nothing` — what a send, a reset and the sending of a prepared frame
  leave behind.
* `FramedLink.Device.request_eq_send_wait` — a request in two parts.
-/

namespace FramedLink

open Stuffing

/-- Bytes are put behind a buffer in one go or in two. -/
lemma append_append_list (buffer : Array UInt8) (xs ys : List UInt8) :
    buffer ++ (xs ++ ys) = buffer ++ xs ++ ys := by
  apply Array.toList_inj.mp
  simp

/-! ## Writing -/

namespace MemoryLink

open Link

variable {deadline : Deadline} {p q : MemoryLink}

/-- Nothing stands in the way of writes. -/
structure Clear (p : MemoryLink) : Prop where
  /-- The link has not been called off. -/
  cancelled : p.cancelled = false
  /-- No failure is arranged. -/
  writeFailure : p.writeFailure = none
  /-- No stall is left. -/
  writeStall : p.writeStall = 0

/-- Where nothing stands in the way, bytes go out at once. -/
lemma Clear.write (h : p.Clear) (data : List UInt8) (deadline : Deadline) :
    Link.write data deadline p = (.ok data.length, { p with outbound := p.outbound ++ data }) := by
  show MemoryLink.write data deadline p = _
  unfold MemoryLink.write
  rw [h.cancelled, h.writeFailure, if_neg Bool.false_ne_true]
  exact if_pos h.writeStall

/-- **A write that succeeds takes everything and clears the way.** -/
lemma clear_of_write {data : List UInt8} {n : Nat}
    (h : Link.write data deadline p = (.ok n, q)) : n = data.length ∧ q.Clear := by
  change MemoryLink.write data deadline p = (.ok n, q) at h
  obtain ⟨-, hwrite⟩ | ⟨kind, -, hwrite⟩ | ⟨⟨hlive, hfailure⟩, hcases⟩ :=
    write_cases data deadline p
  · cases hwrite.symm.trans h
  · cases hwrite.symm.trans h
  obtain ⟨hstall, hwrite⟩ | ⟨-, hwrite⟩ | ⟨-, hwrite⟩ := hcases <;> cases hwrite.symm.trans h
  · exact ⟨rfl, hlive, hfailure, hstall⟩
  · exact ⟨rfl, hlive, hfailure, rfl⟩

/-- **More bytes in one write meet the same obstacle,** or they go out behind the others. -/
lemma write_append (xs ys : List UInt8) (deadline : Deadline) (p : MemoryLink) :
    Link.write (xs ++ ys) deadline p =
      match Link.write xs deadline p with
      | (.error e, q) => (.error e, q)
      | (.ok n, q) => (.ok (n + ys.length), { q with outbound := q.outbound ++ ys }) := by
  show MemoryLink.write (xs ++ ys) deadline p = match MemoryLink.write xs deadline p with
    | (.error e, q) => (.error e, q)
    | (.ok n, q) => (.ok (n + ys.length), { q with outbound := q.outbound ++ ys })
  unfold MemoryLink.write
  rw [append_append_list, List.length_append]
  split
  · rfl
  split
  · rfl
  split
  · rfl
  · dsimp only
    split <;> rfl

/-- Writing everything takes a single write. -/
lemma writeAll_eq_write {data : List UInt8} (hdata : data ≠ []) (deadline : Deadline)
    (p : MemoryLink) :
    Link.writeAll data deadline p =
      ((Link.write data deadline p).1.map fun _ => (), (Link.write data deadline p).2) := by
  obtain ⟨b, rest, rfl⟩ := List.exists_cons_of_ne_nil hdata
  rw [writesByParts, Link.writeAllBy]
  rcases hwrite : Link.write (b :: rest) deadline p with ⟨e | n, q⟩
  · rfl
  · obtain ⟨rfl, -⟩ := clear_of_write hwrite
    show Link.writeAllBy Link.write (rest.drop rest.length) deadline q = _
    rw [List.drop_length, Link.writeAllBy]
    rfl

/-- Where nothing stands in the way, any number of byte strings go out one behind another.

**Proof sketch.** Induction on the pieces. A write that nothing stands in the way of takes all that
it is offered, and still leaves nothing in the way. -/
lemma Clear.writePieces (h : p.Clear) (pieces : List (List UInt8)) (deadline : Deadline) :
    Link.writePieces pieces deadline p =
      (.ok (), { p with outbound := p.outbound ++ pieces.flatten }) := by
  induction pieces generalizing p with
  | nil => simp [Link.writePieces]
  | cons piece rest ih =>
    have hpiece : Link.writeAll piece deadline p =
        (.ok (), { p with outbound := p.outbound ++ piece }) := by
      rcases eq_or_ne piece [] with rfl | hne
      · rw [writesByParts, Link.writeAllBy]
        simp
      · rw [writeAll_eq_write hne, h.write]
        rfl
    have hclear : { p with outbound := p.outbound ++ piece }.Clear :=
      ⟨h.cancelled, h.writeFailure, h.writeStall⟩
    rw [Link.writePieces, hpiece]
    dsimp only
    rw [ih hclear, List.flatten_cons, append_append_list]

/-- **Byte strings that are written one after another go out as if in a single write,** if there is
something in the first of them. -/
theorem writePieces_eq_write {piece : List UInt8} (hpiece : piece ≠ [])
    (rest : List (List UInt8)) (deadline : Deadline) (p : MemoryLink) :
    Link.writePieces (piece :: rest) deadline p =
      let (r, q) := Link.write (piece :: rest).flatten deadline p
      (r.map fun _ => (), q) := by
  rw [Link.writePieces, writeAll_eq_write hpiece, List.flatten_cons, write_append]
  rcases hwrite : Link.write piece deadline p with ⟨e | n, q⟩
  · rfl
  · exact (clear_of_write hwrite).2.writePieces rest deadline

/-- **A frame is sent as if in a single write.** -/
theorem sendFrame_eq_write (header : FrameHeader) (payload : List UInt8) (deadline : Deadline)
    (p : MemoryLink) :
    Link.sendFrame header payload deadline p =
      let (r, q) := Link.write (frameBytes header payload) deadline p
      (r.map fun _ => (), q) := by
  rw [← flatten_framePieces]
  exact writePieces_eq_write (List.cons_ne_nil _ _) _ deadline p

/-- **What the sending of a frame may change** on the way from `p` to `q`, if its result is `r`. -/
structure AllOrNothing {α : Type} (p q : MemoryLink) (frame : List UInt8)
    (r : Except LinkError α) : Prop where
  /-- After a success, all of the frame has gone out. -/
  outbound_of_ok {a : α} : r = .ok a → q.outbound = p.outbound ++ frame
  /-- After a failure, nothing has. -/
  outbound_of_error {e : LinkError} : r = .error e → q.outbound = p.outbound
  /-- What is to be read stays. -/
  inbound : q.inbound = p.inbound
  /-- An arranged failure stays or is reported. -/
  writeFailure : q.writeFailure = p.writeFailure ∨
    ∃ kind, p.writeFailure = some kind ∧ r = .error (.io ⟨kind, none⟩)

/-- One write is all or nothing. -/
lemma allOrNothing_write {data : List UInt8} {r : Except LinkError Nat}
    (h : Link.write data deadline p = (r, q)) : AllOrNothing p q data r := by
  change MemoryLink.write data deadline p = (r, q) at h
  obtain ⟨-, hwrite⟩ | ⟨kind, hkind, hwrite⟩ | ⟨-, ⟨-, hwrite⟩ | ⟨-, hwrite⟩ | ⟨-, hwrite⟩⟩ :=
    write_cases data deadline p <;> rw [hwrite] at h <;> cases h
  · exact ⟨nofun, fun _ => rfl, rfl, .inl rfl⟩
  · exact ⟨nofun, fun _ => rfl, rfl, .inr ⟨kind, hkind, rfl⟩⟩
  · exact ⟨fun _ => rfl, nofun, rfl, .inl rfl⟩
  · exact ⟨nofun, fun _ => rfl, rfl, .inl rfl⟩
  · exact ⟨fun _ => rfl, nofun, rfl, .inl rfl⟩

/-- **The sending of a frame is all or nothing,** like the single write that it amounts to. -/
theorem allOrNothing_sendFrame {header : FrameHeader} {payload : List UInt8}
    {r : Except LinkError Unit} (h : Link.sendFrame header payload deadline p = (r, q)) :
    AllOrNothing p q (frameBytes header payload) r := by
  rw [sendFrame_eq_write] at h
  rcases hwrite : Link.write (frameBytes header payload) deadline p with ⟨r', q'⟩
  rw [hwrite] at h
  obtain ⟨rfl, rfl⟩ := Prod.mk.inj h
  have hwritten := allOrNothing_write hwrite
  refine ⟨fun hok => ?_, fun herror => ?_, hwritten.inbound, ?_⟩
  · obtain ⟨n, hn, -⟩ := map_eq_ok_iff.mp hok
    exact hwritten.outbound_of_ok hn
  · exact hwritten.outbound_of_error (map_eq_error_iff.mp herror)
  · exact hwritten.writeFailure.imp_right fun ⟨kind, hkind, hr⟩ =>
      ⟨kind, hkind, map_eq_error_iff.mpr hr⟩

end MemoryLink

/-! ## Operations that send -/

namespace Device

variable {α β : Type}

/-- Does an operation send one frame and await nothing? -/
def Operation.isSend : Operation → Bool
  | sendFrame .. | send .. | reset _ => true
  | _ => false

/-- **What a run leaves behind that sends a frame** over a link that it found as `p`. If there is no
frame, nothing can be sent. -/
structure Run.Sends (run : Run MemoryLink α) (p : MemoryLink) (frame? : Option Transmission) :
    Prop where
  /-- All of the frame has gone out, or nothing has. -/
  outbound :
    (∃ a t, run.result = .ok a ∧ frame? = some t ∧
      run.device.link.outbound = p.outbound ++ t.wire) ∨
    ∃ e, run.result = .error e ∧ run.device.link.outbound = p.outbound
  /-- What is to be read stays. -/
  inbound : run.device.link.inbound = p.inbound
  /-- An arranged failure stays or is reported. -/
  writeFailure : run.device.link.writeFailure = p.writeFailure ∨
    ∃ kind, p.writeFailure = some kind ∧ run.result = .error (.link (.io ⟨kind, none⟩))

/-- Only the device and the success of a run matter. -/
lemma Run.Sends.congr {run : Run MemoryLink α} {run' : Run MemoryLink β} {value : α → β}
    {p : MemoryLink} {frame? : Option Transmission} (h : run.Sends p frame?)
    (hresult : run'.result = run.result.map value) (hdevice : run'.device = run.device) :
    run'.Sends p frame? := by
  constructor
  · rw [hresult, hdevice]
    obtain ⟨a, t, ha, ht, hout⟩ | ⟨e, he, hout⟩ := h.outbound
    · exact .inl ⟨value a, t, by rw [ha]; rfl, ht, hout⟩
    · exact .inr ⟨e, map_eq_error_iff.mpr he, hout⟩
  · rw [hdevice]
    exact h.inbound
  · rw [hresult, hdevice]
    exact h.writeFailure.imp_right fun ⟨kind, hkind, hr⟩ => ⟨kind, hkind, map_eq_error_iff.mpr hr⟩

/-- A frame whose header has been prepared is sent wholly or not at all. -/
lemma sends_sendFrameUntil (d : Device MemoryLink) (t : Transmission) (deadline : Deadline) :
    (d.sendFrameUntil t.header t.payload deadline).Sends d.link (some t) := by
  rcases hsent : Link.sendFrame t.header t.payload deadline d.link with ⟨r, q⟩
  have hall := MemoryLink.allOrNothing_sendFrame hsent
  unfold sendFrameUntil
  rw [hsent]
  rcases r with e | _
  · refine ⟨.inr ⟨_, rfl, hall.outbound_of_error rfl⟩, hall.inbound, ?_⟩
    exact hall.writeFailure.imp_right fun ⟨kind, hkind, hr⟩ => ⟨kind, hkind, by cases hr; rfl⟩
  · refine ⟨.inl ⟨(), t, rfl, rfl, hall.outbound_of_ok rfl⟩, hall.inbound, ?_⟩
    exact hall.writeFailure.imp_right fun ⟨_, _, hr⟩ => nomatch hr

/-- A frame that is numbered first is sent wholly or not at all, and not at all if its payload is
too large. -/
lemma sends_sendUntil (d : Device MemoryLink) (messageType : MessageType) (payload : List UInt8)
    (timeout : Nat) :
    (d.sendUntil messageType payload (d.deadlineAfter timeout)).Sends d.link
      (d.transmitNext? messageType payload timeout) := by
  have hlink : (d.prepareHeader messageType payload).2.link = d.link := rfl
  unfold sendUntil transmitNext?
  rcases hprepare : d.prepareHeader messageType payload with ⟨e | header, d'⟩ <;>
    rw [hprepare] at hlink
  · exact ⟨.inr ⟨e, rfl, congrArg MemoryLink.outbound hlink⟩, congrArg MemoryLink.inbound hlink,
      .inl (congrArg MemoryLink.writeFailure hlink)⟩
  · have hsent := sends_sendFrameUntil d' (d.transmit header payload timeout)
      (d.deadlineAfter timeout)
    rw [hlink] at hsent
    exact hsent.congr (Run.result_finish ..) (Run.device_finish ..)

/-- Every operation that sends sends wholly or not at all. -/
lemma sends_perform (d : Device MemoryLink) {op : Operation} (hsend : op.isSend = true) :
    (d.perform op).Sends d.link (d.transmission? op) := by
  cases op with
  | sendFrame header payload timeout =>
    exact (sends_sendFrameUntil d (d.transmit header payload timeout) _).congr rfl rfl
  | send messageType payload timeout =>
    exact (sends_sendUntil d messageType payload timeout).congr rfl rfl
  | reset timeout =>
    have hsent : (d.reset timeout).Sends d.link (d.transmitNext? .exit [] timeout) :=
      (sends_sendUntil d .exit [] timeout).congr (Run.result_finish ..) (Run.device_finish ..)
    exact hsent.congr rfl rfl
  | _ => cases hsend

/-- **A send is all or nothing.** Whatever stands in the way of a send, a reset or the sending of a
prepared frame, the operation succeeds and the log grows by exactly the frame, or it fails and the
log stays as it was: also if the frame is written in many pieces, or its payload is too large to be
numbered. The inbound queue stays as it is in any case, and an arranged failure is used up only by
an operation that reports it. -/
theorem send_all_or_nothing (d : Device MemoryLink) (op : Operation) (hsend : op.isSend = true) :
    let run := d.perform op
    let p := d.link
    let q := run.device.link
    ((∃ answer t, run.result = .ok answer ∧ d.transmission? op = some t ∧
        q.outbound.toList =
          p.outbound.toList ++ marker :: (encode t.header.toBytes ++ encode t.payload)) ∨
      (∃ e, run.result = .error e) ∧ q.outbound = p.outbound) ∧
    q.inbound = p.inbound ∧
    (q.writeFailure = p.writeFailure ∨
      ∃ kind, p.writeFailure = some kind ∧ run.result = .error (.link (.io ⟨kind, none⟩))) := by
  have hsends := sends_perform d hsend
  refine ⟨?_, hsends.inbound, hsends.writeFailure⟩
  obtain ⟨answer, t, hanswer, ht, hout⟩ | ⟨e, he, hout⟩ := hsends.outbound
  · refine .inl ⟨answer, t, hanswer, ht, ?_⟩
    rw [hout, Transmission.wire, frameBytes, encode_append]
    simp
  · exact .inr ⟨⟨e, he⟩, hout⟩

/-- A device whose link will report a failure and then hold up writes for 3. -/
def obstructed : Device MemoryLink :=
  .ofLink
    { clock := ⟨5⟩
      inbound := [.delay 1, .byte 0x73, .failure .notFound]
      writeFailure := some .brokenPipe
      writeStall := 3 }
    { initialSequence := 0x7378 }

/-- What the failure leaves of it. -/
def stalled : Device MemoryLink := (obstructed.perform (.send .ping [0x78] 4)).device

/-- The first frame fails and leaves nothing behind. A reset with too little time leaves nothing
behind either. With enough time, its frame goes out after the stall, with both bytes of its number
in pairs. -/
theorem obstructed_sends :
    stalled.link.outbound = #[] ∧ stalled.link.writeFailure = none ∧
      (stalled.perform (.reset 3)).device.link.outbound = #[] ∧
      (∃ t, stalled.transmission? (.reset 4) = some t ∧
        (stalled.perform (.reset 4)).device.link.outbound.toList =
          marker :: (encode t.header.toBytes ++ encode t.payload)) ∧
      (stalled.perform (.reset 4)).device.link.inbound = obstructed.link.inbound := by
  obtain ⟨hfirst, hqueue, -⟩ := send_all_or_nothing obstructed (.send .ping [0x78] 4) rfl
  obtain ⟨hshort, -, -⟩ := send_all_or_nothing stalled (.reset 3) rfl
  obtain ⟨hlong, hqueue', -⟩ := send_all_or_nothing stalled (.reset 4) rfl
  have hnothing : stalled.link.outbound = #[] := by
    have hbroken : (obstructed.perform (.send .ping [0x78] 4)).result =
        .error (.link (.io ⟨.brokenPipe, none⟩)) := by decide +kernel
    obtain ⟨answer, -, hanswer, -⟩ | ⟨-, hout⟩ := hfirst
    · exact absurd (hbroken.symm.trans hanswer) nofun
    · exact hout
  refine ⟨hnothing, by decide +kernel, ?_, ?_, hqueue'.trans hqueue⟩
  · have hlate : (stalled.perform (.reset 3)).result = .error (.link .timeout) := by
      decide +kernel
    obtain ⟨answer, -, hanswer, -⟩ | ⟨-, hout⟩ := hshort
    · exact absurd (hlate.symm.trans hanswer) nofun
    · exact hout.trans hnothing
  · have hdone : (stalled.perform (.reset 4)).result = .ok .done := by decide +kernel
    obtain ⟨-, t, -, ht, hout⟩ | ⟨⟨e, he⟩, -⟩ := hlong
    · rw [hnothing] at hout
      exact ⟨t, ht, hout⟩
    · exact absurd (hdone.symm.trans he) nofun

/-! ## A request in two parts -/

section Rest

variable {σ : Type} [Link σ]

/-- **A deadline that is derived from the time that is left is the same deadline,** as long as it
has not been passed. -/
lemma deadlineAfter_rest {d d' : Device σ} {timeout : Nat}
    (hle : Link.now d.link ≤ Link.now d'.link)
    (hlive : Link.now d'.link ≤ (d.deadlineAfter timeout).instant) :
    d'.deadlineAfter (min timeout maxTimeout - (Link.now d'.link - Link.now d.link)) =
      d.deadlineAfter timeout := by
  simp only [deadlineAfter, Deadline.after, Deadline.mk.injEq] at hlive ⊢
  omega

end Rest

/-- **A request is a send, and then a wait for as long as the send has left.**

**Proof sketch.** The sending ends in one of three ways, and the request goes on only if the frame
has been sent. The time that is left of the timeout then reaches from the present to the deadline of
the request, so the wait has the same deadline. -/
theorem request_eq_send_wait (d : Device MemoryLink) (messageType : MessageType)
    (payload : List UInt8) (timeout : Nat) :
    let sent := d.send messageType payload timeout
    let spent := sent.device.link.clock.now - d.link.clock.now
    d.request messageType payload timeout =
      match sent.result with
      | .ok sequence =>
        let wait := sent.device.waitForReply sequence (min timeout maxTimeout - spent)
        ⟨wait.result, wait.device, sent.events ++ wait.events⟩
      | .error (.link .timeout) =>
        ⟨.ok .timedOut, sent.device, sent.events ++ [.sendTimedOut messageType]⟩
      | .error e => ⟨.error e, sent.device, sent.events⟩ := by
  intro sent spent
  have hlive : d.link.clock.now ≤ (d.deadlineAfter timeout).instant := Nat.le_add_right _ _
  have htimely : sent.Timely d.link.clock.now (d.deadlineAfter timeout).instant :=
    timely_sendUntil hlive messageType payload
  obtain ⟨hlate, hrun⟩ | ⟨e, hother, herror, hrun⟩ | ⟨sequence, hok, hrun⟩ :=
    d.request_cases messageType payload timeout
  · change sent.result = _ at hlate
    rw [hlate, hrun]
    rfl
  · change sent.result = _ at herror
    rw [herror, hrun]
    split
    · next h => cases h
    · next h => exact absurd (Except.error.inj h) hother
    · next h => cases h; rfl
  · change sent.result = _ at hok
    have hdeadline : sent.device.deadlineAfter (min timeout maxTimeout - spent) =
        d.deadlineAfter timeout := deadlineAfter_rest htimely.le_now htimely.now_le
    have hwait : sent.device.waitForReply sequence (min timeout maxTimeout - spent) =
        sent.device.waitUntil sequence replyTypes (d.deadlineAfter timeout) := by
      rw [waitForReply, waitFor, hdeadline]
    rw [hok, hrun]
    dsimp only
    rw [hwait]
    rfl

end Device

end FramedLink
