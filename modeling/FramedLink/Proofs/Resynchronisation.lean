import FramedLink.Proofs.ByteQueue
import FramedLink.Proofs.Completeness
import Mathlib.Control.Monad.Basic

set_option autoImplicit false
set_option relaxedAutoImplicit false

/-!
# Finding a frame behind damaged bytes

A receiver that has lost its place looks for the next marker. An attempt, however, takes what
follows its marker for a header and a payload, also where that is a bare marker, and a read that
meets a damaged pair takes the bytes behind the pair along. An attempt that starts in front of a
frame can therefore be rejected behind the marker of that frame. **This is the only way to miss a
frame that follows arbitrary bytes,** and a frame whose marker is gone is missed for good, since
no other marker stands in it.

## Main definitions

* `FramedLink.MemoryLink.Overruns` — an attempt in front of a frame is rejected behind its
  marker.

## Main results

* `FramedLink.MemoryLink.HoldsBytes.awaitReply_cases` — how a wait on a frame behind arbitrary
  bytes ends.
* `FramedLink.Device.waitFor_behind_damage` — the same for a device: the wait ends with a reply
  exactly if no attempt overruns the marker of the frame, and times out otherwise.
-/

namespace FramedLink

namespace MemoryLink

open Link Stuffing

variable {expect : Expectation} {deadline : Deadline} {raw payload : List UInt8}
  {p q : MemoryLink}

/-! ## Overrunning a marker -/

/-- An attempt of the wait on `p` starts before the last `size` pending bytes, and is rejected
when fewer are left: it has overrun the first of them. -/
def Overruns (expect : Expectation) (deadline : Deadline) (size : Nat) (p : MemoryLink) : Prop :=
  ∃ start why stop, Starts expect deadline p start ∧
    attempt expect deadline start = (.ok (.rejected why), stop) ∧
    size ≤ start.pendingBytes.length ∧ stop.pendingBytes.length < size

/-- No marker is overrun if the first attempt is accepted. -/
lemma not_overruns_of_accepted {size : Nat} {reply : Reply} {q' : MemoryLink}
    (hlive : ¬ deadline.expired (Link.now p) = true)
    (hfound : waitForByte marker deadline p = (.ok (), q))
    (htried : attempt expect deadline q = (.ok (.accepted reply), q')) :
    ¬ Overruns expect deadline size p := by
  rintro ⟨start, why, stop, hstart, hstop, -, -⟩
  obtain rfl | ⟨why', q'', htried', -⟩ := (starts_iff hlive hfound).mp hstart
  · rw [htried] at hstop
    cases hstop
  · rw [htried] at htried'
    cases htried'

/-- A first attempt that leaves enough bytes does not overrun, so it depends on the others.

**Proof sketch.** An attempt that overruns is either the first one or one that starts later. The
first one does not, because it leaves enough bytes; and the later ones are those of the wait that
goes on behind it. -/
lemma overruns_iff_of_rejected {size : Nat} {why : Rejection} {q' : MemoryLink}
    (hlive : ¬ deadline.expired (Link.now p) = true)
    (hfound : waitForByte marker deadline p = (.ok (), q))
    (htried : attempt expect deadline q = (.ok (.rejected why), q'))
    (hleft : size ≤ q'.pendingBytes.length) :
    Overruns expect deadline size p ↔ Overruns expect deadline size q' := by
  constructor
  · rintro ⟨start, why', stop, hstart, hstop, hbefore, hbehind⟩
    obtain rfl | ⟨why'', q'', htried', hstart'⟩ := (starts_iff hlive hfound).mp hstart
    · rw [htried] at hstop
      obtain ⟨-, rfl⟩ := Prod.mk.inj hstop
      omega
    · rw [htried] at htried'
      obtain ⟨-, rfl⟩ := Prod.mk.inj htried'
      exact ⟨start, why', stop, hstart', hstop, hbefore, hbehind⟩
  · rintro ⟨start, why', stop, hstart, hstop⟩
    exact ⟨start, why', stop, .later hlive hfound htried hstart, hstop⟩

/-! ## Waits -/

/-- **How a wait on a frame behind arbitrary bytes ends:** with a reply, or, if an attempt
overruns the marker of the frame, by timing out.

**Proof sketch.** Induction on the number of bytes before the frame. If no marker stands among
them, the wait finds the marker of the frame, and the frame is accepted. Otherwise an attempt
starts before the frame. Accepted, it ends the wait; rejected in front of the frame, it leaves
fewer bytes before it; rejected behind the marker of the frame, it leaves no marker at all. -/
theorem HoldsBytes.awaitReply_cases {before : List UInt8} (hmeets : expect.Meets raw payload)
    (h : p.HoldsBytes) (hlive : ¬ deadline.expired (Link.now p) = true)
    (hpending : p.pendingBytes = before ++ wireBytes raw payload) :
    (¬ Overruns expect deadline (wireBytes raw payload).length p ∧
        ∃ reply, (awaitReply expect deadline p).result = .ok (.matched reply)) ∨
      (Overruns expect deadline (wireBytes raw payload).length p ∧
        (awaitReply expect deadline p).result = .ok .timedOut) := by
  induction hlen : before.length using Nat.strongRecOn generalizing before p with
  | ind n ih =>
  have harriving := h.arriving hlive
  rw [hpending] at harriving
  by_cases hmem : marker ∈ before
  · obtain ⟨noise, rest, rfl, hnoise⟩ := List.eq_append_cons_of_mem hmem
    rw [List.append_assoc, List.cons_append] at harriving
    obtain ⟨q, hfound, hq⟩ := harriving.waitForByte hnoise
    have hqpending := hq.pendingBytes_eq_of_nil
    have hqholds := ((chains deadline).waitForByte hfound h).1
    rcases htried : attempt expect deadline q with ⟨r, q'⟩
    obtain ⟨verdict, rfl⟩ := hqholds.attempt_isOk htried
    obtain ⟨hqholds', hsuffix, hclock⟩ := (chains deadline).attempt htried hqholds
    rw [awaitReply_marked _ hlive hfound, htried]
    rw [hqpending] at hsuffix
    cases verdict with
    | accepted reply => exact .inl ⟨not_overruns_of_accepted hlive hfound htried, reply, rfl⟩
    | rejected why =>
      by_cases hleft : q'.pendingBytes.length < (wireBytes raw payload).length
      · -- The marker of the frame is gone, and what is left lies in its stuffed form.
        refine .inr ⟨⟨q, why, q', .first hlive hfound, htried, ?_, hleft⟩, ?_⟩
        · rw [hqpending, List.length_append]
          omega
        · have htail : q'.pendingBytes <:+ encode (raw ++ payload) := by
            refine List.suffix_of_suffix_length_le hsuffix
              ((List.suffix_cons marker _).trans (List.suffix_append rest _)) ?_
            simpa [wireBytes, Nat.lt_succ_iff] using hleft
          exact hqholds'.awaitReply_of_not_mem fun hm =>
            marker_not_mem_encode (raw ++ payload) (htail.subset hm)
      · have hframe : wireBytes raw payload <:+ q'.pendingBytes :=
          List.suffix_of_suffix_length_le (List.suffix_append rest _) hsuffix (by omega)
        obtain ⟨rest', hrest⟩ := hframe
        have hshorter : rest'.length < n := by
          have := hsuffix.length_le
          rw [← hrest] at this
          simp only [List.length_append, List.length_cons] at this hlen
          omega
        have hlive' : ¬ deadline.expired (Link.now q') = true := by
          rcases hclock with hclock | hnil
          · have := hq.not_expired
            show ¬ deadline.expired q'.clock.now = true
            rw [hclock]
            exact this
          · rw [hnil] at hrest
            simp [wireBytes] at hrest
        rw [overruns_iff_of_rejected hlive hfound htried (by omega)]
        exact ih rest'.length hshorter hqholds' hlive' hrest.symm rfl
  · obtain ⟨q, hfound, hq⟩ := harriving.waitForByte hmem
    rw [← List.append_nil (encode (raw ++ payload))] at hq
    obtain ⟨q', htried, -⟩ := hq.attempt hmeets.length_raw hmeets.announced hmeets.fits
    rw [hmeets.judge_eq] at htried
    rw [awaitReply_marked _ hlive hfound, htried]
    exact .inl ⟨not_overruns_of_accepted hlive hfound htried, _, rfl⟩

end MemoryLink

/-! ## Devices -/

/-- **A frame behind arbitrary bytes is missed exactly if an attempt overruns its marker.** Let
the queue hold any bytes and then a frame that passes all checks, and nothing else. Then the wait
ends with a reply if no attempt that starts before the frame is rejected behind the marker of the
frame, and times out if one is.

**Proof sketch.** The wait of the device is that of its link, with a deadline that has not passed.
The two ends in `awaitReply_cases` exclude each other, hence each of them is equivalent to its
condition. -/
theorem Device.waitFor_behind_damage (d : Device MemoryLink) (sequence : UInt16)
    (types : List MessageType) (timeout : Nat) (before raw payload : List UInt8)
    (hactive : d.link.cancelled = false)
    (hqueue : d.link.inbound = (before ++ wireBytes raw payload).map .byte)
    (htimeout : 0 < timeout)
    (hmeets : Expectation.Meets ⟨sequence, types, d.config.maxPayloadSize⟩ raw payload) :
    ((∃ reply, (d.waitFor sequence types timeout).result = .ok (.matched reply)) ↔
      ¬ MemoryLink.Overruns ⟨sequence, types, d.config.maxPayloadSize⟩ (d.deadlineAfter timeout)
        (wireBytes raw payload).length d.link) ∧
    ((d.waitFor sequence types timeout).result = .ok .timedOut ↔
      MemoryLink.Overruns ⟨sequence, types, d.config.maxPayloadSize⟩ (d.deadlineAfter timeout)
        (wireBytes raw payload).length d.link) := by
  have hpending : d.link.pendingBytes = before ++ wireBytes raw payload := by
    rw [MemoryLink.pendingBytes, hqueue, MemoryLink.filterMap_map_byte]
  have hholds : d.link.HoldsBytes := ⟨hactive, by rw [hpending, hqueue]⟩
  have hlive : ¬ (d.deadlineAfter timeout).expired (Link.now d.link) = true := by
    show ¬ decide (d.link.clock.now + min timeout maxTimeout ≤ d.link.clock.now) = true
    have : 0 < maxTimeout := by decide
    rw [decide_eq_true_eq]
    omega
  rw [waitFor_result]
  obtain ⟨hclear, reply, hreply⟩ | ⟨hover, htime⟩ :=
    hholds.awaitReply_cases hmeets hlive hpending
  · rw [hreply]
    refine ⟨iff_of_true ⟨reply, rfl⟩ hclear, iff_of_false ?_ hclear⟩
    rintro ⟨⟩
  · rw [htime]
    refine ⟨iff_of_false ?_ (not_not_intro hover), iff_of_true rfl hover⟩
    rintro ⟨reply, ⟨⟩⟩

/-- A device whose peer has sent a lone marker, and then an acknowledgement of number 8. -/
def Device.doubledMarker : Device MemoryLink :=
  .ofLink
    (MemoryLink.pushInbound {} ([Stuffing.marker] ++
      wireBytes [10, 0, 0, 2, 0, 160, 239, 87] [8, 0]))
    {}

/-- The wait of this device for the reply times out. -/
lemma Device.doubledMarker_result :
    (doubledMarker.waitFor 8 [.ack] 10).result = .ok .timedOut := by
  rw [waitFor_result]
  decide +kernel

/-- The frame behind the second marker meets what this device waits for. -/
lemma Device.doubledMarker_meets :
    Expectation.Meets ⟨8, [.ack], doubledMarker.config.maxPayloadSize⟩
      [10, 0, 0, 2, 0, 160, 239, 87] [8, 0] :=
  ⟨rfl, by decide, by decide, by decide +kernel, by decide, ⟨[], rfl⟩⟩

/-- The attempt behind the lone marker takes the second marker for a byte of its header. -/
theorem Device.doubledMarker_overruns :
    (doubledMarker.waitFor 8 [.ack] 10).result = .ok .timedOut ∧
      MemoryLink.Overruns ⟨8, [.ack], doubledMarker.config.maxPayloadSize⟩
        (doubledMarker.deadlineAfter 10) 11 doubledMarker.link := by
  refine ⟨doubledMarker_result, ?_⟩
  exact (waitFor_behind_damage doubledMarker 8 [.ack] 10 [Stuffing.marker] _ _ rfl rfl (by decide)
    doubledMarker_meets).2.mp doubledMarker_result

/-- **Not every frame behind damaged bytes is found:** one lone marker in front of it is enough
to miss it. -/
theorem Device.not_waitFor_behind_damage :
    ¬ ∀ (d : Device MemoryLink) (sequence : UInt16) (types : List MessageType) (timeout : Nat)
        (before raw payload : List UInt8), d.link.cancelled = false →
        d.link.inbound = (before ++ wireBytes raw payload).map .byte → 0 < timeout →
        Expectation.Meets ⟨sequence, types, d.config.maxPayloadSize⟩ raw payload →
        ∃ reply, (d.waitFor sequence types timeout).result = .ok (.matched reply) := by
  intro h
  obtain ⟨reply, hreply⟩ := h doubledMarker 8 [.ack] 10 [Stuffing.marker] _ _ rfl rfl (by decide)
    doubledMarker_meets
  rw [doubledMarker_result] at hreply
  cases hreply

end FramedLink
