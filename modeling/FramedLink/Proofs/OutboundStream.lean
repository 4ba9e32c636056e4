import FramedLink.Link.Scripted
import FramedLink.Proofs.Preservation
import FramedLink.Proofs.View
import Mathlib.Data.List.Forall2

set_option autoImplicit false
set_option relaxedAutoImplicit false

/-!
# The outbound stream

A frame goes out in pieces, each piece in as many writes as the link wants, and each write may
fail. Whatever happens, the bytes that the link has taken for a frame are a prefix of it: **nothing
is lost, repeated or put in another place, and the whole frame has gone out exactly if its sending
ended without an error.** The stream of a session is made of these prefixes, one for each frame. A
bare marker stands only at the start of each, so the frames can be told apart in the stream.

## Main definitions

* `FramedLink.Observed.Takes` — the link takes bytes from the front of some data, all of them
  exactly if the writing of the data succeeds.
* `FramedLink.Device.Transmission.Leaves` — what a frame that was handed to the link leaves in the
  outbound stream.

## Main results

* `FramedLink.Observed.takes_sendFrame` — what the link takes of one frame.
* `FramedLink.Device.adds_perform` — what one operation adds to the stream.
* `FramedLink.splitOn_flatten` — where the stream is to be cut.
* `FramedLink.Device.outbound_after` — the stream of a session.
-/

namespace FramedLink

open Stuffing

/-! ## Frames on the wire -/

/-- The part of a frame behind its marker is decoded to its header and payload. -/
lemma decode_tail_frameBytes (header : FrameHeader) (payload : List UInt8) :
    decode (frameBytes header payload).tail = .ok (header.toBytes ++ payload) :=
  decode_encode _

/-- A bare marker stands only at the start of a frame. -/
lemma marker_not_mem_tail_frameBytes (header : FrameHeader) (payload : List UInt8) :
    marker ∉ (frameBytes header payload).tail :=
  marker_not_mem_encode _

/-- **A stream of pieces is cut where a marker stands,** if each piece that is not empty starts
with a marker and holds no other. The piece before the first marker is empty.

**Proof sketch.** Induction on the pieces, for any bytes without a marker in front of them. A marker
closes what stands in front, and the body behind it is in front of the next piece. -/
theorem splitOn_flatten {pieces : List (List UInt8)}
    (hpieces : ∀ piece ∈ pieces, piece = [] ∨ ∃ body, piece = marker :: body ∧ marker ∉ body) :
    pieces.flatten.splitOn marker = [] :: (pieces.filter (· ≠ [])).map List.tail := by
  suffices h : ∀ front, marker ∉ front → (front ++ pieces.flatten).splitOn marker =
      front :: (pieces.filter (· ≠ [])).map List.tail from h [] List.not_mem_nil
  induction pieces with
  | nil =>
    intro front hfront
    rw [List.flatten_nil, List.append_nil, List.splitOn_eq_singleton hfront]
    rfl
  | cons piece pieces ih =>
    intro front hfront
    have hrest := ih fun piece h => hpieces piece (List.mem_cons_of_mem _ h)
    obtain rfl | ⟨body, rfl, hbody⟩ := hpieces piece List.mem_cons_self
    · simpa using hrest front hfront
    · rw [List.flatten_cons, List.cons_append,
        List.splitOn_append_cons_self_of_not_mem hfront, hrest body hbody]
      simp

/-! ## What the link takes -/

namespace Observed

variable {σ : Type} {deadline : Deadline} {p q s : Observed σ} {xs ys data : List UInt8}
  {r : Except LinkError Unit}

/-- From `p` to `q` the link has taken bytes from the front of `data`, all of them exactly if the
result `r` is a success. -/
def Takes (p q : Observed σ) (data : List UInt8) (r : Except LinkError Unit) : Prop :=
  ∃ taken, q.accepted = p.accepted ++ taken ∧ taken <+: data ∧ (r = .ok () ↔ taken = data)

/-- One more call adds the bytes that it has handed over. -/
lemma accepted_of_calls {c : Call} (h : q.calls = p.calls ++ [c]) :
    q.accepted = p.accepted ++ c.accepted := by
  simp [accepted, h]

/-- After some data has been taken completely, the link takes from the front of what follows. -/
lemma Takes.append (h : Takes p q xs (.ok ())) (h' : Takes q s ys r) :
    Takes p s (xs ++ ys) r := by
  obtain ⟨taken, hq, -, hall⟩ := h
  obtain rfl := hall.mp rfl
  obtain ⟨taken', hs, hfront, hall'⟩ := h'
  refine ⟨taken ++ taken', ?_, (List.prefix_append_right_inj taken).mpr hfront, ?_⟩
  · rw [hs, hq, List.append_assoc]
  · rw [hall', List.append_cancel_left_eq]

/-- If some data has not been taken completely, neither has any longer one. -/
lemma Takes.append_of_error {e : LinkError} (h : Takes p q xs (.error e)) (ys : List UInt8) :
    Takes p q (xs ++ ys) (.error e) := by
  obtain ⟨taken, hq, hfront, hall⟩ := h
  refine ⟨taken, hq, hfront.trans (List.prefix_append xs ys), iff_of_false (by simp) ?_⟩
  rintro rfl
  have hys : ys = [] := by
    have := hfront.length_le
    rw [List.length_append] at this
    exact List.eq_nil_of_length_eq_zero (by omega)
  exact absurd (hall.mpr (by rw [hys, List.append_nil])) (by simp)

/-- A call that hands over nothing takes nothing of some data. -/
lemma takes_of_refused {c : Call} {e : LinkError} (h : q.calls = p.calls ++ [c])
    (hc : c.accepted = []) (hdata : data ≠ []) : Takes p q data (.error e) := by
  refine ⟨[], ?_, List.nil_prefix, iff_of_false (by simp) hdata.symm⟩
  rw [accepted_of_calls h, hc]

variable [Link σ]

/-- **Repeated partial writes take bytes from the front,** whatever the link does with each.

**Proof sketch.** Induction on the writes. Each takes some bytes from the front of what is offered,
and the next one is offered the others. -/
lemma takes_writeAllBy (h : Link.writeAllBy write data deadline p = (r, q)) :
    Takes p q data r := by
  fun_induction Link.writeAllBy write data deadline p with
  | case1 p =>
    cases h
    exact ⟨[], by rw [List.append_nil], List.nil_prefix, by simp⟩
  | case2 p b rest e q' hw =>
    cases h
    exact takes_of_refused (of_write hw).2 rfl (List.cons_ne_nil b rest)
  | case3 p b rest q' hw =>
    cases h
    exact takes_of_refused (of_write hw).2 rfl (List.cons_ne_nil b rest)
  | case4 p b rest n q' hw ih =>
    have hfront : Takes p q' (b :: rest.take n) (.ok ()) :=
      ⟨_, accepted_of_calls (of_write hw).2, List.prefix_refl _, by simp [Call.accepted]⟩
    have hsplit : b :: rest = (b :: rest.take n) ++ rest.drop n := by
      rw [List.cons_append, List.take_append_drop]
    rw [hsplit]
    exact hfront.append (ih h)

/-- Byte strings written one after another are taken from the front. -/
lemma takes_writePieces {pieces : List (List UInt8)}
    (h : Link.writePieces pieces deadline p = (r, q)) : Takes p q pieces.flatten r := by
  induction pieces generalizing p with
  | nil =>
    cases h
    exact ⟨[], by rw [List.append_nil], List.nil_prefix, by simp⟩
  | cons piece rest ih =>
    rw [Link.writePieces] at h
    rw [List.flatten_cons]
    rcases hpiece : Link.writeAll piece deadline p with ⟨e | _, q'⟩ <;> rw [hpiece] at h
    · cases h
      exact (takes_writeAllBy hpiece).append_of_error rest.flatten
    · exact (takes_writeAllBy hpiece).append (ih h)

/-- **The link takes bytes from the front of a frame that is sent,** all of them exactly if the
sending succeeds. -/
theorem takes_sendFrame {header : FrameHeader} {payload : List UInt8}
    (h : Link.sendFrame header payload deadline p = (r, q)) :
    Takes p q (frameBytes header payload) r := by
  rw [← flatten_framePieces]
  exact takes_writePieces h

/-- Reads hand nothing to the link. -/
lemma chains_accepted (deadline : Deadline) :
    Link.Chains deadline fun p q : Observed σ => q.accepted = p.accepted where
  refl _ := rfl
  trans h₁ h₂ := h₂.trans h₁
  read h := by rw [accepted_of_calls (of_readAvailable h).2, Call.accepted_read, List.append_nil]

end Observed

/-! ## Devices -/

namespace Device

variable {σ : Type} {d d' d'' : Device (Observed σ)} {ts ts' : List Transmission}

/-- What a frame that was handed to the link leaves in the outbound stream. -/
structure Transmission.Leaves (t : Transmission) (piece : List UInt8) : Prop where
  /-- It is the whole frame exactly if the frame was sent without an error. -/
  eq_wire_iff : piece = t.wire ↔ t.result = .ok ()
  /-- In any case it is a prefix of the frame, and maybe empty. -/
  isPrefix : piece <+: t.wire
  /-- A marker stands nowhere but at its start. -/
  marked : piece = [] ∨ ∃ body, piece = marker :: body ∧ marker ∉ body
  /-- Behind the marker of a whole frame stand its header and payload. -/
  decode_tail : t.result = .ok () → decode piece.tail = .ok (t.header.toBytes ++ t.payload)

/-- What the link takes of a frame is what the frame leaves in the stream. -/
lemma Transmission.leaves_of_prefix {t : Transmission} {piece : List UInt8}
    (hstart : piece <+: t.wire) (hall : t.result = .ok () ↔ piece = t.wire) :
    t.Leaves piece where
  eq_wire_iff := hall.symm
  isPrefix := hstart
  marked := by
    cases piece with
    | nil => exact .inl rfl
    | cons b body =>
      obtain ⟨rfl, hbody⟩ := List.cons_prefix_cons.mp hstart
      refine .inr ⟨body, rfl, fun hmem => ?_⟩
      exact marker_not_mem_tail_frameBytes t.header t.payload (hbody.subset hmem)
  decode_tail hok := by
    rw [hall.mp hok]
    exact decode_tail_frameBytes t.header t.payload

/-- A marker stands only at the start of what frames leave in the stream. -/
lemma marked_of_leaves {pieces : List (List UInt8)}
    (h : List.Forall₂ Transmission.Leaves ts pieces) :
    ∀ piece ∈ pieces, piece = [] ∨ ∃ body, piece = marker :: body ∧ marker ∉ body := by
  induction h with
  | nil => exact fun piece hpiece => absurd hpiece List.not_mem_nil
  | cons hleaves _ ih =>
    intro piece hpiece
    obtain rfl | hrest := List.mem_cons.mp hpiece
    · exact hleaves.marked
    · exact ih piece hrest

/-- From `d` to `d'`, the outbound stream has grown by what the frames `ts` leave in it. -/
def Adds (d d' : Device (Observed σ)) (ts : List Transmission) : Prop :=
  ∃ pieces, d'.link.accepted = d.link.accepted ++ pieces.flatten ∧
    List.Forall₂ Transmission.Leaves ts pieces

/-- Where the link takes nothing, nothing is added. -/
lemma adds_nothing (h : d'.link.accepted = d.link.accepted) : Adds d d' [] :=
  ⟨[], by rw [h, List.flatten_nil, List.append_nil], .nil⟩

/-- What is added by one thing after another. -/
lemma Adds.append (h : Adds d d' ts) (h' : Adds d' d'' ts') : Adds d d'' (ts ++ ts') := by
  obtain ⟨pieces, hd', hpieces⟩ := h
  obtain ⟨pieces', hd'', hpieces'⟩ := h'
  refine ⟨pieces ++ pieces', ?_, List.rel_append hpieces hpieces'⟩
  rw [hd'', hd', List.flatten_append, List.append_assoc]

variable [Link σ]

/-- A wait adds nothing. -/
lemma accepted_waitUntil (d : Device (Observed σ)) (sequence : UInt16)
    (types : List MessageType) (deadline : Deadline) :
    (d.waitUntil sequence types deadline).device.link.accepted = d.link.accepted := by
  unfold waitUntil
  rw [Link.awaitInto_eq]
  exact (Observed.chains_accepted deadline).awaitReply _ d.link

/-- Sending a frame adds what the link takes of it. -/
lemma adds_sendFrame (d : Device (Observed σ)) (header : FrameHeader) (payload : List UInt8)
    (timeout : Nat) :
    Adds d (d.sendFrame header payload timeout).device [d.transmit header payload timeout] := by
  rcases hsent : Link.sendFrame header payload (d.deadlineAfter timeout) d.link with ⟨r, q⟩
  have hdevice : (d.sendFrame header payload timeout).device.link = q := by
    unfold sendFrame sendFrameUntil
    rw [hsent]
    rcases r with e | _ <;> rfl
  have htransmit : d.transmit header payload timeout = ⟨header, payload, r⟩ := by
    rw [transmit, hsent]
  obtain ⟨piece, hq, hstart, hall⟩ := Observed.takes_sendFrame hsent
  rw [htransmit]
  refine ⟨[piece], ?_, .cons (Transmission.leaves_of_prefix hstart hall) .nil⟩
  rw [hdevice, hq, List.flatten_singleton]

/-- Only the link matters to the sending of a frame. -/
lemma transmit_of_link_eq {τ : Type} [Link τ] {d d' : Device τ} {header : FrameHeader}
    {payload : List UInt8} {timeout : Nat} (h : d'.link = d.link) :
    d'.transmit header payload timeout = d.transmit header payload timeout := by
  rw [transmit, transmit, deadlineAfter, deadlineAfter, h]

/-- Numbering and sending a frame adds what the link takes of it, and nothing if its payload is
too large. -/
lemma adds_sendUntil (d : Device (Observed σ)) (messageType : MessageType) (payload : List UInt8)
    (timeout : Nat) :
    Adds d (d.sendUntil messageType payload (d.deadlineAfter timeout)).device
      (d.transmitNext? messageType payload timeout).toList := by
  have hlink : (d.prepareHeader messageType payload).2.link = d.link := rfl
  unfold sendUntil transmitNext?
  rcases hprepare : d.prepareHeader messageType payload with ⟨e | header, d'⟩ <;>
    rw [hprepare] at hlink
  · exact adds_nothing (congrArg Observed.accepted hlink)
  · have hsent := adds_sendFrame d' header payload timeout
    rw [Adds, transmit_of_link_eq hlink, sendFrame, deadlineAfter, hlink] at hsent
    rw [Adds, Run.device_finish]
    exact hsent

/-- A request adds what the link takes of its frame. The wait after it adds nothing. -/
lemma adds_request (d : Device (Observed σ)) (messageType : MessageType) (payload : List UInt8)
    (timeout : Nat) :
    Adds d (d.request messageType payload timeout).device
      (d.transmitNext? messageType payload timeout).toList := by
  have hsent := adds_sendUntil d messageType payload timeout
  obtain ⟨-, hrun⟩ | ⟨e, -, -, hrun⟩ | ⟨sequence, -, hrun⟩ :=
    d.request_cases messageType payload timeout
  · rw [hrun]
    exact hsent
  · rw [hrun]
    exact hsent
  · rw [hrun, ← List.append_nil (d.transmitNext? messageType payload timeout).toList]
    exact hsent.append (adds_nothing (accepted_waitUntil _ ..))

/-- **What one operation adds to the stream** is what its frame leaves there. -/
theorem adds_perform (d : Device (Observed σ)) (op : Operation) :
    Adds d (d.perform op).device (d.transmission? op).toList := by
  cases op with
  | prepareHeader messageType payload => exact adds_nothing rfl
  | sendFrame header payload timeout => exact adds_sendFrame d header payload timeout
  | send messageType payload timeout => exact adds_sendUntil d messageType payload timeout
  | waitFor sequence types timeout => exact adds_nothing (accepted_waitUntil d ..)
  | waitForReply sequence timeout => exact adds_nothing (accepted_waitUntil d ..)
  | waitForAck sequence timeout =>
    refine adds_nothing ?_
    show (d.waitForAck sequence timeout).device.link.accepted = _
    rw [waitForAck, Run.device_finish]
    exact accepted_waitUntil d ..
  | request messageType payload timeout => exact adds_request d messageType payload timeout
  | ping timeout =>
    show Adds d (d.ping timeout).device _
    rw [ping, Run.device_finish]
    exact adds_request d .ping [] timeout
  | reset timeout =>
    show Adds d (d.reset timeout).device _
    rw [reset, Run.device_finish]
    exact adds_sendUntil d .exit [] timeout

/-- What a session adds to the stream is what its frames leave there, in order. -/
lemma adds_after (d : Device (Observed σ)) (ops : List Operation) :
    Adds d (d.after ops) (d.transmissions ops) := by
  induction ops generalizing d with
  | nil => exact adds_nothing rfl
  | cons op ops ih => exact (adds_perform d op).append (ih _)

/-! ## Sessions -/

/-- **The outbound stream of a session.** On a link that writes by parts, and with any pattern of
partial and failed writes, the bytes that the link takes in a session are one piece for each frame
that is handed to it, in order. A piece is the whole frame on the wire exactly if the frame was sent
without an error, and a shorter prefix of it otherwise; a bare marker stands nowhere but at the
start of a piece. Cut at its markers, the stream falls into the pieces that are not empty, each
without its marker, and what stands behind the marker of a whole frame is decoded to the header and
the payload. Observing the link does not change the session. -/
theorem outbound_after {σ : Type} [Link σ] (hparts : Link.WritesByParts σ) (d : Device σ)
    (ops : List Operation) :
    (d.observed.after ops).onView Observed.link = d.after ops ∧
      ∃ pieces, (d.observed.after ops).link.accepted = pieces.flatten ∧
        List.Forall₂ Transmission.Leaves (d.transmissions ops) pieces ∧
        pieces.flatten.splitOn marker = [] :: (pieces.filter (· ≠ [])).map List.tail := by
  have hview := Observed.fullView hparts
  have hafter := after_onView hview d.observed ops
  have hframes := transmissions_onView hview d.observed ops
  rw [onView_observed] at hafter hframes
  obtain ⟨pieces, hbytes, hleaves⟩ := adds_after d.observed ops
  rw [← hframes] at hleaves
  exact ⟨hafter.symm, pieces, hbytes, hleaves, splitOn_flatten (marked_of_leaves hleaves)⟩

/-- A device on a link that takes a ping in four writes, refuses the frame after it in the middle
and takes the third frame. -/
def troubled : Device ScriptedLink :=
  .ofLink
    { writes :=
        [.accept 1, .accept 2, .accept 3, .accept 3, .accept 1, .accept 6, .failure .timeout] }
    {}

/-- A ping, a frame with a marker in its payload, and a reset. -/
def threeFrames : List Operation := [.ping 10, .send .ack [115] 10, .reset 10]

/-- Of three frames, the link takes the first and the third, and seven bytes of the second. -/
theorem troubled_outbound :
    (troubled.transmissions threeFrames).map (·.result.isOk) = [true, false, true] ∧
      (troubled.observed.after threeFrames).link.accepted =
        [115, 8, 0, 0, 0, 0, 1, 234, 41] ++ [115, 9, 0, 0, 1, 0, 160] ++
          [115, 8, 0, 0, 2, 0, 18, 90, 119] ∧
      ∃ pieces, (troubled.observed.after threeFrames).link.accepted = pieces.flatten ∧
        List.Forall₂ Transmission.Leaves (troubled.transmissions threeFrames) pieces ∧
        pieces.flatten.splitOn marker = [] :: (pieces.filter (· ≠ [])).map List.tail := by
  refine ⟨by decide +kernel, by decide +kernel, ?_⟩
  exact (outbound_after (fun _ _ _ => rfl) troubled threeFrames).2

end Device

end FramedLink
