import FramedLink.Link.Observed
import FramedLink.Proofs.Preservation
import FramedLink.Session

set_option autoImplicit false
set_option relaxedAutoImplicit false

/-!
# Views of a link

A view of a link forgets a part of its state that no call depends on. Whatever is done with a link
can then be followed in its view: the results are the same, and the view of the link afterwards is
what the same calls leave of its view. The loops are gone through here, once for all views.

The view that matters is the one from an observed link to the link below it: **observing a link
changes nothing.** For writes this holds of links that write everything by repeated partial
writes.

## Main definitions

* `FramedLink.Link.View`, `FramedLink.Link.FullView` — views for reads; for writes as well.
* `FramedLink.Device.observed` — the device on the observed link.

## Main results

* `FramedLink.Link.View.awaitReply` — a wait, followed in a view.
* `FramedLink.Link.FullView.sendFrame` — the sending of a frame, followed in a view.
* `FramedLink.Observed.view`, `FramedLink.Observed.fullView` — an observed link and the link
  below.
-/

namespace FramedLink

namespace Link

open Stuffing

variable {τ σ : Type} [Link τ] [Link σ] {view : τ → σ} {deadline : Deadline} {link link' : τ}

/-- No read depends on what `view` forgets. -/
structure View (view : τ → σ) : Prop where
  /-- The clock does not. -/
  now (link : τ) : now (view link) = now link
  /-- A read does not. -/
  read {n : Nat} {deadline : Deadline} {r : Except LinkError (List UInt8)} {link link' : τ} :
    readAvailable n deadline link = (r, link') →
      readAvailable n deadline (view link) = (r, view link')

/-- No read and no write depends on what `view` forgets. -/
structure FullView (view : τ → σ) : Prop extends View view where
  /-- A write does not. -/
  writeAll {data : List UInt8} {deadline : Deadline} {r : Except LinkError Unit} {link link' : τ} :
    writeAll data deadline link = (r, link') →
      writeAll data deadline (view link) = (r, view link')

/-! ## Reading -/

namespace View

variable (hv : View view)

include hv

/-- The reading of one byte is seen as such. -/
lemma readByte {r : Except LinkError UInt8} (h : readByte deadline link = (r, link')) :
    Link.readByte deadline (view link) = (r, view link') := by
  unfold Link.readByte at h ⊢
  split at h <;> next hq => obtain ⟨rfl, rfl⟩ := Prod.mk.inj h; rw [hv.read hq]

/-- The search for a byte is seen as such. -/
lemma waitForByte {value : UInt8} {r : Except LinkError Unit}
    (h : waitForByte value deadline link = (r, link')) :
    Link.waitForByte value deadline (view link) = (r, view link') := by
  fun_induction Link.waitForByte value deadline link with
  | case1 link e q hq =>
    obtain ⟨rfl, rfl⟩ := Prod.mk.inj h
    exact waitForByte_of_readByte_error (hv.readByte hq)
  | case2 link q hq =>
    obtain ⟨rfl, rfl⟩ := Prod.mk.inj h
    rw [waitForByte_of_readByte (hv.readByte hq), if_pos rfl]
  | case3 link b q hq hb ih => rw [waitForByte_of_readByte (hv.readByte hq), if_neg hb, ih h]

/-- Decoding is seen as such. -/
lemma decodeRead {done raw : List UInt8} {r : Except FrameError (List UInt8)}
    (h : decodeRead deadline done raw link = (r, link')) :
    Link.decodeRead deadline done raw (view link) = (r, view link') := by
  fun_induction Link.decodeRead deadline done raw link with
  | case1 done => cases h; rw [Link.decodeRead]
  | case2 done e q hq => cases h; rw [Link.decodeRead, if_pos rfl, hv.readByte hq]
  | case3 done code q hq =>
    obtain ⟨rfl, rfl⟩ := Prod.mk.inj h
    rw [Link.decodeRead, if_pos rfl, hv.readByte hq]
  | case4 done code raw value hvalue ih => rw [Link.decodeRead, if_pos rfl, hvalue, ← ih h]
  | case5 done code raw e he => cases h; rw [Link.decodeRead, if_pos rfl, he]
  | case6 done b raw hb ih => rw [Link.decodeRead.eq_def]; simpa only [if_neg hb] using ih h

/-- A read that is decoded is seen as such. -/
lemma receiveSome {n : Nat} {r : Except FrameError (List UInt8)}
    (h : receiveSome n deadline link = (r, link')) :
    Link.receiveSome n deadline (view link) = (r, view link') := by
  unfold Link.receiveSome at h ⊢
  split at h
  · next hq => obtain ⟨rfl, rfl⟩ := Prod.mk.inj h; rw [hv.read hq]
  · next hq => rw [hv.read hq]; exact hv.decodeRead h

/-- Receiving data is seen as such. -/
lemma receiveFrom {done : List UInt8} {n : Nat} {r : Except FrameError (List UInt8)}
    (h : receiveFrom done n deadline link = (r, link')) :
    Link.receiveFrom done n deadline (view link) = (r, view link') := by
  fun_induction Link.receiveFrom done n deadline link with
  | case1 done n link hn e q hq =>
    obtain ⟨rfl, rfl⟩ := Prod.mk.inj h
    exact receiveFrom_of_receiveSome_error hn (hv.receiveSome hq)
  | case2 done n link hn bytes q hq ih =>
    rw [receiveFrom_of_receiveSome hn (hv.receiveSome hq), ih h]
  | case3 done n link hn =>
    obtain ⟨rfl, rfl⟩ := Prod.mk.inj h
    rw [Link.receiveFrom, dif_neg hn]

/-- An attempt takes the same course in a view. -/
lemma attempt {expect : Expectation} {r : Except DeviceError Verdict}
    (h : attempt expect deadline link = (r, link')) :
    Link.attempt expect deadline (view link) = (r, view link') := by
  rw [attempt_iff]
  cases attempt_iff.mp h with
  | headerFailed header => exact .headerFailed (hv.receiveFrom header)
  | undersized header announced => exact .undersized (hv.receiveFrom header) announced
  | oversized header announced exceeds => exact .oversized (hv.receiveFrom header) announced exceeds
  | payloadFailed header announced fits payload =>
    exact .payloadFailed (hv.receiveFrom header) announced fits (hv.receiveFrom payload)
  | judged header announced fits received =>
    exact .judged (hv.receiveFrom header) announced fits (hv.receiveFrom received)

/-- **A wait goes the same way in a view.**

**Proof sketch.** Induction on the wait. Its searches and its attempts go the same way in the view,
and the clock that decides whether it goes on is the same. -/
theorem awaitReply (expect : Expectation) (deadline : Deadline) (link : τ) :
    Link.awaitReply expect deadline (view link) =
      let report := Link.awaitReply expect deadline link
      ⟨report.result, report.discarded, view report.link⟩ := by
  fun_induction Link.awaitReply expect deadline link with
  | case1 link hexp => exact awaitReply_expired _ (by rwa [hv.now])
  | case2 link hexp e q hfound htime =>
    rw [awaitReply_unmarked _ (by rwa [hv.now]) (hv.waitForByte hfound), if_pos htime]
  | case3 link hexp e q hfound htime =>
    rw [awaitReply_unmarked _ (by rwa [hv.now]) (hv.waitForByte hfound), if_neg htime]
  | case4 link hexp q hfound e q' htried =>
    rw [awaitReply_marked _ (by rwa [hv.now]) (hv.waitForByte hfound), hv.attempt htried]
  | case5 link hexp q hfound reply q' htried =>
    rw [awaitReply_marked _ (by rwa [hv.now]) (hv.waitForByte hfound), hv.attempt htried]
  | case6 link hexp q hfound why q' htried rest ih =>
    rw [awaitReply_marked _ (by rwa [hv.now]) (hv.waitForByte hfound), hv.attempt htried]
    simp only [ih, hv.now, rest]

end View

/-! ## Writing -/

namespace FullView

variable (hv : FullView view)

include hv

/-- The writing of several byte strings is seen as such. -/
lemma writePieces {pieces : List (List UInt8)} {r : Except LinkError Unit}
    (h : writePieces pieces deadline link = (r, link')) :
    Link.writePieces pieces deadline (view link) = (r, view link') := by
  induction pieces generalizing link with
  | nil => cases h; rfl
  | cons piece rest ih =>
    rw [Link.writePieces] at h ⊢
    rcases hpiece : Link.writeAll piece deadline link with ⟨e | _, q⟩ <;> rw [hpiece] at h <;>
      rw [hv.writeAll hpiece]
    · obtain ⟨rfl, rfl⟩ := Prod.mk.inj h
      rfl
    · exact ih h

/-- **A frame is sent the same way in a view.** -/
theorem sendFrame {header : FrameHeader} {payload : List UInt8} {r : Except LinkError Unit}
    (h : sendFrame header payload deadline link = (r, link')) :
    Link.sendFrame header payload deadline (view link) = (r, view link') :=
  hv.writePieces h

end FullView

end Link

/-! ## Devices -/

namespace Device

variable {τ σ α β : Type}

/-- The device on the view of its link. -/
def onView (view : τ → σ) (d : Device τ) : Device σ := ⟨view d.link, d.sequence, d.config⟩

/-- How an operation went, in a view. -/
def Run.onView (view : τ → σ) (r : Run τ α) : Run σ α :=
  ⟨r.result, r.device.onView view, r.events⟩

variable {view : τ → σ}

/-- The link of a device that is looked at is what is seen of its link. -/
@[simp] lemma link_onView (view : τ → σ) (d : Device τ) : (d.onView view).link = view d.link := rfl

/-- Two operations one after the other are seen as such. -/
lemma Run.andThen_onView {r : Run τ α} {next : α → Device τ → Run τ β}
    {next' : α → Device σ → Run σ β}
    (h : ∀ a d, next' a (d.onView view) = (next a d).onView view) :
    (r.onView view).andThen next' = (r.andThen next).onView view := by
  obtain ⟨e | a, d, events⟩ := r
  · rfl
  · show (let s := next' a (d.onView view); ({ s with events := events ++ s.events } : Run σ β)) = _
    rw [h]
    rfl

/-- What is made of a result, and reported of it, is seen as such. -/
lemma Run.finish_onView {r : Run τ α} {value : α → β} {event : α → List Event} :
    (r.onView view).finish value event = (r.finish value event).onView view :=
  Run.andThen_onView fun _ _ => rfl

variable [Link τ] [Link σ]

/-- A wait of a device goes the same way in a view. -/
lemma waitUntil_onView (hv : Link.View view) (sequence : UInt16) (types : List MessageType)
    (deadline : Deadline) (d : Device τ) :
    (d.onView view).waitUntil sequence types deadline =
      (d.waitUntil sequence types deadline).onView view := by
  unfold waitUntil
  simp only [Link.awaitInto_eq, link_onView, hv.awaitReply]
  rfl

/-- A deadline is seen as the same deadline. -/
lemma deadlineAfter_onView (hv : Link.View view) (timeout : Nat) (d : Device τ) :
    (d.onView view).deadlineAfter timeout = d.deadlineAfter timeout := by
  rw [deadlineAfter, deadlineAfter, ← hv.now]
  rfl

/-- A wait within a timeout goes the same way in a view. -/
lemma waitFor_onView (hv : Link.View view) (sequence : UInt16) (types : List MessageType)
    (timeout : Nat) (d : Device τ) :
    (d.onView view).waitFor sequence types timeout =
      (d.waitFor sequence types timeout).onView view := by
  rw [waitFor, waitFor, deadlineAfter_onView hv, waitUntil_onView hv]

/-- The wait for either kind of reply is seen as such. -/
lemma waitForReply_onView (hv : Link.View view) (sequence : UInt16) (timeout : Nat)
    (d : Device τ) :
    (d.onView view).waitForReply sequence timeout =
      (d.waitForReply sequence timeout).onView view :=
  waitFor_onView hv ..

/-- The wait for an acknowledgement is seen as such. -/
lemma waitForAck_onView (hv : Link.View view) (sequence : UInt16) (timeout : Nat)
    (d : Device τ) :
    (d.onView view).waitForAck sequence timeout = (d.waitForAck sequence timeout).onView view := by
  rw [waitForAck, waitForReply_onView hv, Run.finish_onView]
  rfl

/-- The sending of a given frame is seen as such. -/
lemma sendFrameUntil_onView (hv : Link.FullView view) (header : FrameHeader)
    (payload : List UInt8) (deadline : Deadline) (d : Device τ) :
    (d.onView view).sendFrameUntil header payload deadline =
      (d.sendFrameUntil header payload deadline).onView view := by
  unfold sendFrameUntil
  rcases hsent : Link.sendFrame header payload deadline d.link with ⟨e | _, link⟩ <;>
    rw [link_onView, hv.sendFrame hsent] <;> rfl

/-- The numbering and sending of a frame is seen as such. -/
lemma sendUntil_onView (hv : Link.FullView view) (messageType : MessageType)
    (payload : List UInt8) (deadline : Deadline) (d : Device τ) :
    (d.onView view).sendUntil messageType payload deadline =
      (d.sendUntil messageType payload deadline).onView view := by
  have hprepare : (d.onView view).prepareHeader messageType payload =
      ((d.prepareHeader messageType payload).1,
        (d.prepareHeader messageType payload).2.onView view) := rfl
  unfold sendUntil
  rw [hprepare]
  rcases d.prepareHeader messageType payload with ⟨e | header, d'⟩
  · rfl
  · dsimp only
    rw [sendFrameUntil_onView hv, Run.finish_onView]

/-- A request is seen as such. -/
lemma request_onView (hv : Link.FullView view) (messageType : MessageType)
    (payload : List UInt8) (timeout : Nat) (d : Device τ) :
    (d.onView view).request messageType payload timeout =
      (d.request messageType payload timeout).onView view := by
  simp only [request, deadlineAfter_onView hv.toView, sendUntil_onView hv]
  rcases d.sendUntil messageType payload (d.deadlineAfter timeout) with ⟨e | sequence, d', events⟩
  · dsimp only [Run.onView]
    split <;> rfl
  · exact Run.andThen_onView fun sequence d => waitUntil_onView hv.toView ..

/-- **An operation goes the same way in a view.** -/
theorem perform_onView (hv : Link.FullView view) (d : Device τ) (op : Operation) :
    (d.onView view).perform op = (d.perform op).onView view := by
  cases op with
  | prepareHeader messageType payload => rfl
  | sendFrame header payload timeout =>
    rw [perform, sendFrame, deadlineAfter_onView hv.toView, sendFrameUntil_onView hv]
    rfl
  | send messageType payload timeout =>
    rw [perform, send, deadlineAfter_onView hv.toView, sendUntil_onView hv]
    rfl
  | waitFor sequence types timeout => rw [perform, waitFor_onView hv.toView]; rfl
  | waitForReply sequence timeout => rw [perform, waitForReply_onView hv.toView]; rfl
  | waitForAck sequence timeout => rw [perform, waitForAck_onView hv.toView]; rfl
  | request messageType payload timeout => rw [perform, request_onView hv]; rfl
  | ping timeout => rw [perform, ping, request_onView hv, Run.finish_onView]; rfl
  | reset timeout =>
    rw [perform, reset, send, deadlineAfter_onView hv.toView, sendUntil_onView hv,
      Run.finish_onView]
    rfl

/-- **A session leaves, in a view, what it leaves of the view.** -/
theorem after_onView (hv : Link.FullView view) (d : Device τ) (ops : List Operation) :
    (d.onView view).after ops = (d.after ops).onView view := by
  induction ops generalizing d with
  | nil => rfl
  | cons op ops ih =>
    rw [after, perform_onView hv]
    exact ih _

/-- What is handed to the link is the same for a device that is looked at. -/
lemma transmit_onView (hv : Link.FullView view) (header : FrameHeader) (payload : List UInt8)
    (timeout : Nat) (d : Device τ) :
    (d.onView view).transmit header payload timeout = d.transmit header payload timeout := by
  rcases hsent : Link.sendFrame header payload (d.deadlineAfter timeout) d.link with ⟨r, link⟩
  rw [transmit, transmit, deadlineAfter_onView hv.toView, link_onView, hv.sendFrame hsent, hsent]

/-- So is the next frame that is handed to it. -/
lemma transmitNext?_onView (hv : Link.FullView view) (messageType : MessageType)
    (payload : List UInt8) (timeout : Nat) (d : Device τ) :
    (d.onView view).transmitNext? messageType payload timeout =
      d.transmitNext? messageType payload timeout := by
  unfold transmitNext?
  rw [show ((d.onView view).prepareHeader messageType payload).1 =
    (d.prepareHeader messageType payload).1 from rfl]
  simp only [transmit_onView hv]

/-- **A session hands the same frames to a link and to its view,** with the same results. -/
theorem transmissions_onView (hv : Link.FullView view) (d : Device τ) (ops : List Operation) :
    (d.onView view).transmissions ops = d.transmissions ops := by
  induction ops generalizing d with
  | nil => rfl
  | cons op ops ih =>
    have hop : (d.onView view).transmission? op = d.transmission? op := by
      cases op <;> simp only [transmission?, transmit_onView hv, transmitNext?_onView hv]
    rw [transmissions, transmissions, hop, perform_onView hv]
    exact congrArg _ (ih _)

end Device

/-! ## Observed links -/

namespace Observed

variable {σ : Type} [Link σ]

/-- **Observing a link does not change what is read from it.** -/
theorem view : Link.View (Observed.link : Observed σ → σ) where
  now _ := rfl
  read h := (of_readAvailable h).1

/-- An observed link writes everything by repeated partial writes. -/
lemma writesByParts : Link.WritesByParts (Observed σ) := fun _ _ _ => rfl

/-- Repeated writes do to the observed link what they do to the link below. -/
lemma writeAllBy_link {data : List UInt8} {deadline : Deadline} {p q : Observed σ}
    {r : Except LinkError Unit} (h : Link.writeAllBy write data deadline p = (r, q)) :
    Link.writeAllBy Link.write data deadline p.link = (r, q.link) := by
  fun_induction Link.writeAllBy write data deadline p with
  | case1 p => cases h; rw [Link.writeAllBy]
  | case2 p b rest e q' hw => cases h; rw [Link.writeAllBy, (of_write hw).1]
  | case3 p b rest q' hw => cases h; rw [Link.writeAllBy, (of_write hw).1]
  | case4 p b rest n q' hw ih => rw [Link.writeAllBy, (of_write hw).1, ← ih h]

/-- **Observing a link that writes by parts changes nothing at all.** -/
theorem fullView (hparts : Link.WritesByParts σ) :
    Link.FullView (Observed.link : Observed σ → σ) where
  toView := view
  writeAll h := by
    rw [hparts]
    exact writeAllBy_link h

end Observed

/-- The device on the observed link, before any call has been made. -/
def Device.observed {σ : Type} (d : Device σ) : Device (Observed σ) := d.onView Observed.ofLink

/-- The observation of a device can be left out again. -/
@[simp] lemma Device.onView_observed {σ : Type} (d : Device σ) :
    d.observed.onView Observed.link = d := rfl

end FramedLink
