import FramedLink.Proofs.Arrival
import FramedLink.Link.Window
import Mathlib.Data.List.Infix

set_option autoImplicit false
set_option relaxedAutoImplicit false

/-!
# Exact receipt

A receiver asks for as many raw bytes as data bytes are missing, without knowing how many of them
are stuffed, and its reads may be cut off anywhere. **It takes the stuffed form of its data and not
one byte more:** what follows in the queue is left as it is, pauses and failures included. The
buffer is filled with the data, whatever stood in it.

What a receiver takes is always a part of the queue from its front, unless it runs out of time in
the middle of a pause and leaves the rest of that. So it is enough to know that it does not stop
before the last byte of the stuffed form, nor behind it.

## Main definitions

* `FramedLink.MemoryLink.Drains` — reads have taken a part of the queue from its front, if they did
  not run out of time.

## Main results

* `FramedLink.MemoryLink.chains_drains` — every sequence of reads drains the queue from its front.
* `FramedLink.MemoryLink.receiveInto_encode` — what is received into a buffer, and what is left.
-/

namespace FramedLink.MemoryLink

open Link Stuffing

variable {deadline : Deadline} {p q : MemoryLink}

/-! ## Draining the queue -/

/-- From `p` to `q` time has passed, and if some is left, a part of the queue has been taken from
its front. -/
structure Drains (deadline : Deadline) (p q : MemoryLink) : Prop where
  /-- The clock does not run backwards. -/
  le : p.clock.now ≤ q.clock.now
  /-- What is left of the queue was its end. -/
  suffix : q.clock.now < deadline.instant → q.inbound <:+ p.inbound

/-- Waiting for a byte takes pauses from the front of the queue. Only a pause that is cut short by
the deadline is put back in part.

**Proof sketch.** Induction on the queue. If the deadline has not passed at the end, every pause
that was met has been taken as a whole. -/
lemma settle_suffix {clock clock' : ManualClock} {queue queue' : List Inbound}
    {r : Except LinkError Unit} (h : settle deadline clock queue = (r, clock', queue'))
    (hlive : clock'.now < deadline.instant) : queue' <:+ queue := by
  have hexpire : ∀ c : ManualClock, ¬ (expire c deadline).now < deadline.instant :=
    fun c => Nat.not_lt.mpr (Nat.le_max_right _ _)
  fun_induction settle deadline clock queue with
  | case1 clock =>
    obtain ⟨rfl, -⟩ := Prod.mk.inj (Prod.mk.inj h).2
    exact absurd hlive (hexpire clock)
  | case2 clock b rest =>
    obtain ⟨-, rfl⟩ := Prod.mk.inj (Prod.mk.inj h).2
    exact List.suffix_refl _
  | case3 clock kind rest =>
    obtain ⟨-, rfl⟩ := Prod.mk.inj (Prod.mk.inj h).2
    exact List.suffix_cons _ _
  | case4 clock span rest remaining hspan =>
    obtain ⟨rfl, -⟩ := Prod.mk.inj (Prod.mk.inj h).2
    exact absurd hlive (hexpire clock)
  | case5 clock span rest remaining hspan ih => exact (ih h).trans (List.suffix_cons _ _)

/-- **Every sequence of reads drains the queue from its front.** -/
theorem chains_drains (deadline : Deadline) : Chains deadline (Drains deadline) where
  refl p := ⟨Nat.le_refl _, fun _ => List.suffix_refl _⟩
  trans h h' := by
    refine ⟨Nat.le_trans h.le h'.le, fun hlive => ?_⟩
    exact (h'.suffix hlive).trans (h.suffix (Nat.lt_of_le_of_lt h'.le hlive))
  read {n r p q} h := by
    refine ⟨((chains_inTime deadline).read h).le, fun hlive => ?_⟩
    change MemoryLink.readAvailable n deadline p = (r, q) at h
    unfold MemoryLink.readAvailable at h
    split at h
    · obtain ⟨-, rfl⟩ := Prod.mk.inj h; exact List.suffix_refl _
    split at h
    · obtain ⟨-, rfl⟩ := Prod.mk.inj h; exact List.suffix_refl _
    rcases hs : settle deadline p.clock p.inbound with ⟨e | _, clock, inbound⟩ <;> rw [hs] at h <;>
      obtain ⟨-, rfl⟩ := Prod.mk.inj h
    · exact settle_suffix hs hlive
    · exact (List.drop_suffix _ _).trans (settle_suffix hs hlive)

/-! ## What is left -/

/-- If reads have taken all the bytes before `behind`, and the last entry before `behind` was a
byte, then `behind` is exactly what is left. -/
lemma Arriving.inbound_eq {front behind : List Inbound} {last : UInt8}
    (h : Arriving deadline behind [] q) (hdrains : Drains deadline p q)
    (hqueue : p.inbound = front ++ .byte last :: behind) : q.inbound = behind := by
  obtain ⟨rest, hrest, hbytes, -, htime⟩ := h.queued
  have hsuffix : rest <:+ front ++ [.byte last] := by
    have hsuffix := hdrains.suffix (by omega)
    rw [hrest, hqueue, List.append_cons] at hsuffix
    exact ((List.suffix_append_inj_of_length_eq rfl).mp hsuffix).1
  obtain rfl | ⟨middle, rfl, -⟩ := List.suffix_concat_iff.mp hsuffix
  · exact hrest
  · -- Whatever is left before `behind` ends in the byte `last`, but no byte is left there.
    rw [List.filterMap_append, List.append_eq_nil_iff] at hbytes
    cases hbytes.2

/-! ## Receiving into a buffer -/

/-- A receiver that has been called off takes nothing. -/
lemma receiveInto_cancelled {w : Window} (hmissing : 0 < w.missing) (hc : p.cancelled = true) :
    receiveInto deadline w p = (.error (.link .cancelled), w, p) := by
  have hsome : receiveSomeInto deadline w p = (.error (.link .cancelled), w, p) := by
    unfold receiveSomeInto
    split
    · next hread => rw [readAvailable_cancelled hmissing hc] at hread; cases hread; rfl
    · next hread => rw [readAvailable_cancelled hmissing hc] at hread; cases hread
  rw [receiveInto, dif_pos hmissing]
  split
  · next hread => rw [hsome] at hread; cases hread; rfl
  · next hread => rw [hsome] at hread; cases hread

/-- **Data whose stuffed form arrives in time fills a buffer of its size, and the queue behind it
is left as it is.** The queue is the bytes of the stuffed form, the last of which is `last`, with
pauses anywhere before it, and then anything at all. The reads may be of any size. Nothing but the
clock and the queue of the link changes. A receiver that has been called off takes nothing.

**Proof sketch.** The data is received whatever the size of the reads is, since a receipt in larger
reads is one byte by byte. What is left of the queue is one of its ends, and it starts with no byte
of the stuffed form. The entry before `behind` is such a byte, so it is gone, and nothing more. -/
theorem receiveInto_encode (deadline : Deadline) (buffer : Array UInt8) (data : List UInt8)
    (p : MemoryLink) (front behind : List Inbound) (last : UInt8)
    (hsize : buffer.size = data.length) (hqueue : p.inbound = front ++ .byte last :: behind)
    (hbytes : front.filterMap Inbound.byte? ++ [last] = encode data)
    (hfailure : ∀ kind, .failure kind ∉ front)
    (htime : totalDelay front < deadline.remaining p.clock.now) :
    (p.cancelled = true → receiveInto deadline (.ofBuffer buffer) p =
      (.error (.link .cancelled), .ofBuffer buffer, p)) ∧
    (p.cancelled = false → ∃ w clock, receiveInto deadline (.ofBuffer buffer) p =
        (.ok (), w, { p with clock, inbound := behind }) ∧
      w.buffer.toList = data) := by
  have hdata : 0 < data.length := by
    cases data with
    | nil => simp at hbytes
    | cons b data => exact Nat.succ_pos _
  refine ⟨fun hc => receiveInto_cancelled (by rw [Window.missing_ofBuffer]; omega) hc, fun hc => ?_⟩
  have harriving : Arriving deadline behind (encode data ++ []) p := by
    refine ⟨hc, front ++ [.byte last], ?_, ?_, fun kind hmem => ?_, ?_⟩
    · rw [hqueue, List.append_cons]
    · rw [List.filterMap_append, List.append_nil, ← hbytes]
      rfl
    · obtain hmem | hmem := List.mem_append.mp hmem
      · exact hfailure kind hmem
      · cases List.mem_singleton.mp hmem
    · have hsplit : totalDelay (front ++ [.byte last]) = totalDelay front := by
        simp [totalDelay, delayOf]
      rw [hsplit]
      unfold Deadline.remaining at htime
      omega
  obtain ⟨q, hq, hrest⟩ := harriving.receiveStuffed hsize.symm
  have hbuffer := receiveStuffed_size deadline buffer p
  rw [hq] at hbuffer
  rcases hinto : receiveInto deadline (.ofBuffer buffer) p with ⟨r, w, q'⟩
  rw [hinto] at hbuffer
  obtain ⟨hr, rfl⟩ := Prod.mk.inj hbuffer
  obtain ⟨⟨⟩, rfl, hw⟩ := map_eq_ok_iff.mp hr.symm
  have hkeeps := (chains_keepsSettings deadline).receiveFrom hq
  have hinbound := hrest.inbound_eq ((chains_drains deadline).receiveFrom hq) hqueue
  refine ⟨w, q.clock, ?_, hw⟩
  rw [hkeeps, hinbound]

/-- What a slow peer sends before the last byte of its data: most of the stuffed form of a marker,
an escape byte and a plain byte, with pauses inside and between the pairs. -/
def slowFront : List Inbound :=
  [.delay 3, .byte 120, .delay 4, .byte 49, .byte 120, .delay 2, .byte 85]

/-- What it sends after the last byte. -/
def slowBehind : List Inbound := [.delay 1, .failure .notFound, .byte 120]

/-- A link to the slow peer that yields one byte at a time. -/
def slowPeer : MemoryLink :=
  setReadChunk { inbound := slowFront ++ .byte 5 :: slowBehind } 1

/-- The data of the slow peer is received within ten units of time, and nothing behind it. -/
theorem slowPeer_receiveInto :
    ∃ w clock, receiveInto ⟨10⟩ (.ofBuffer #[7, 7, 7]) slowPeer =
        (.ok (), w, { slowPeer with clock, inbound := slowBehind }) ∧
      w.buffer.toList = [115, 120, 5] :=
  (receiveInto_encode ⟨10⟩ #[7, 7, 7] [115, 120, 5] slowPeer slowFront slowBehind 5 rfl rfl
    (by decide) (by intro kind; simp [slowFront]) (by decide)).2 rfl

end FramedLink.MemoryLink
