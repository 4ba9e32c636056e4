import FramedLink.Link.Memory
import FramedLink.Proofs.Preservation

set_option autoImplicit false
set_option relaxedAutoImplicit false

/-!
# Reading from a memory link

A read takes bytes from the front of the inbound queue, after the pauses before the first of
them have passed. This file says what a single byte costs and leaves, and reduces every longer
read to single bytes: **a read of several bytes is a read of one byte, after which the others
are gone as well.** The size of the read and the read chunk decide only how many these are.

## Main definitions

* `FramedLink.MemoryLink.unread` — put bytes back in front of the queue.
* `FramedLink.MemoryLink.KeepsSettings` — two states differ at most in the clock and the queue.
* `FramedLink.MemoryLink.InTime` — the clock does not run backwards, nor past the deadline.

## Main results

* `FramedLink.MemoryLink.readByte_of_readAvailable`,
  `FramedLink.MemoryLink.readByte_of_readAvailable_error` — a read against the read of one byte.
* `FramedLink.MemoryLink.readByte_setReadChunk` — the read chunk does not matter to single
  bytes.
* `FramedLink.MemoryLink.pendingBytes_readByte` — no byte is lost or made up.
* `FramedLink.MemoryLink.chains_keepsSettings`, `FramedLink.MemoryLink.chains_pendingBytes`,
  `FramedLink.MemoryLink.chains_inTime` — what every sequence of reads keeps.
-/

namespace FramedLink.MemoryLink

open Link

variable {deadline : Deadline} {p q : MemoryLink} {b : UInt8} {bs : List UInt8}

/-- The bytes of a queue that holds nothing but bytes. -/
lemma filterMap_map_byte (bytes : List UInt8) :
    (bytes.map .byte).filterMap Inbound.byte? = bytes := by
  induction bytes with
  | nil => rfl
  | cons b bytes ih => rw [List.map_cons, List.filterMap_cons, Inbound.byte?_byte, ih]

/-! ## Putting bytes back -/

/-- Put bytes back in front of the queue. -/
def unread (bytes : List UInt8) (p : MemoryLink) : MemoryLink :=
  { p with inbound := bytes.map .byte ++ p.inbound }

/-- Putting nothing back changes nothing. -/
@[simp] lemma unread_nil (p : MemoryLink) : p.unread [] = p := rfl

/-- Putting bytes back takes no time. -/
@[simp] lemma clock_unread (bytes : List UInt8) (p : MemoryLink) :
    (p.unread bytes).clock = p.clock := rfl

/-- Putting bytes back calls nothing off. -/
@[simp] lemma cancelled_unread (bytes : List UInt8) (p : MemoryLink) :
    (p.unread bytes).cancelled = p.cancelled := rfl

/-- Putting bytes back does not change the read chunk. -/
@[simp] lemma readChunk_unread (bytes : List UInt8) (p : MemoryLink) :
    (p.unread bytes).readChunk = p.readChunk := rfl

/-- Bytes that have been put back are pending in front of the others. -/
@[simp] lemma pendingBytes_unread (bytes : List UInt8) (p : MemoryLink) :
    (p.unread bytes).pendingBytes = bytes ++ p.pendingBytes := by
  rw [pendingBytes, unread, List.filterMap_append, filterMap_map_byte]
  rfl

/-- The read chunk may be changed before or after bytes are put back. -/
@[simp] lemma setReadChunk_unread (bytes : List UInt8) (p : MemoryLink) (c : Nat) :
    (p.unread bytes).setReadChunk c = (p.setReadChunk c).unread bytes := rfl

/-- Only the last change of the read chunk counts. -/
@[simp] lemma setReadChunk_setReadChunk (p : MemoryLink) (c d : Nat) :
    (p.setReadChunk c).setReadChunk d = p.setReadChunk d := rfl

/-! ## Single bytes -/

/-- The bytes taken from the front of a queue are its front. -/
lemma map_frontBytes_append (n : Nat) (queue : List Inbound) :
    (frontBytes n queue).map .byte ++ queue.drop (frontBytes n queue).length = queue := by
  induction n generalizing queue with
  | zero => simp [frontBytes]
  | succ n ih =>
    cases queue with
    | nil => simp [frontBytes]
    | cons entry rest =>
      cases entry with
      | byte b => simpa [frontBytes_cons_byte] using ih rest
      | _ => simp [frontBytes, Inbound.byte?]

/-- A read fails as the wait for its first byte does. -/
lemma readAvailable_of_settle_error {n : Nat} {e : LinkError} {clock : ManualClock}
    {inbound : List Inbound} (hn : 0 < n) (hc : p.cancelled = false)
    (hs : settle deadline p.clock p.inbound = (.error e, clock, inbound)) :
    Link.readAvailable n deadline p = (.error e, { p with clock, inbound }) := by
  show MemoryLink.readAvailable n deadline p = _
  unfold MemoryLink.readAvailable
  rw [if_neg (by omega), hc, hs]
  rfl

/-- A read that has waited for its first byte takes the bytes at the front. -/
lemma readAvailable_of_settle_ok {n : Nat} {clock : ManualClock} {inbound : List Inbound}
    (hn : 0 < n) (hc : p.cancelled = false)
    (hs : settle deadline p.clock p.inbound = (.ok (), clock, inbound)) :
    Link.readAvailable n deadline p =
      (.ok (frontBytes (min n p.readChunk) inbound),
        { p with
          clock
          inbound := inbound.drop (frontBytes (min n p.readChunk) inbound).length }) := by
  show MemoryLink.readAvailable n deadline p = _
  unfold MemoryLink.readAvailable
  rw [if_neg (by omega), hc, hs]
  rfl

/-- A read that asks for nothing does nothing. -/
lemma readAvailable_zero : Link.readAvailable 0 deadline p = (.ok [], p) := by
  show MemoryLink.readAvailable 0 deadline p = _
  rw [MemoryLink.readAvailable, if_pos rfl]

/-- Nothing is read once the link has been called off. -/
lemma readAvailable_cancelled {n : Nat} (hn : 0 < n) (hc : p.cancelled = true) :
    Link.readAvailable n deadline p = (.error .cancelled, p) := by
  show MemoryLink.readAvailable n deadline p = _
  unfold MemoryLink.readAvailable
  rw [if_neg (by omega), if_pos hc]

/-- **All that a read can do.** -/
lemma readAvailable_cases (n : Nat) (deadline : Deadline) (p : MemoryLink) :
    n = 0 ∧ Link.readAvailable n deadline p = (.ok [], p) ∨
    p.cancelled = true ∧ Link.readAvailable n deadline p = (.error .cancelled, p) ∨
    (∃ e clock inbound, settle deadline p.clock p.inbound = (.error e, clock, inbound) ∧
      Link.readAvailable n deadline p = (.error e, { p with clock, inbound })) ∨
    ∃ clock inbound, settle deadline p.clock p.inbound = (.ok (), clock, inbound) ∧
      Link.readAvailable n deadline p =
        (.ok (frontBytes (min n p.readChunk) inbound),
          { p with
            clock
            inbound := inbound.drop (frontBytes (min n p.readChunk) inbound).length }) := by
  rcases Nat.eq_zero_or_pos n with rfl | hn
  · exact .inl ⟨rfl, readAvailable_zero⟩
  rcases Bool.eq_false_or_eq_true p.cancelled with hc | hc
  · exact .inr (.inl ⟨hc, readAvailable_cancelled hn hc⟩)
  rcases hs : settle deadline p.clock p.inbound with ⟨e | _, clock, inbound⟩
  · exact .inr (.inr (.inl ⟨e, clock, inbound, rfl, readAvailable_of_settle_error hn hc hs⟩))
  · exact .inr (.inr (.inr ⟨clock, inbound, rfl, readAvailable_of_settle_ok hn hc hs⟩))

/-- A single byte is read once time has brought it to the front. -/
lemma readByte_of_settle_ok {clock : ManualClock} {rest : List Inbound}
    (hc : p.cancelled = false)
    (hs : settle deadline p.clock p.inbound = (.ok (), clock, .byte b :: rest)) :
    readByte deadline p = (.ok b, { p with clock, inbound := rest }) := by
  have hmin : min 1 p.readChunk = 0 + 1 := by have := p.readChunk_pos; omega
  unfold readByte
  rw [readAvailable_of_settle_ok (by decide) hc hs, hmin, frontBytes_cons_byte]
  simp [frontBytes]

/-- A byte that has been put back is the next one to be read, at once. -/
lemma readByte_unread_cons (hc : p.cancelled = false) :
    readByte deadline (p.unread (b :: bs)) = (.ok b, p.unread bs) :=
  readByte_of_settle_ok hc (by simp [unread, settle])

/-! ## Longer reads -/

/-- **A read that fails fails as the read of one byte.** -/
lemma readByte_of_readAvailable_error {n : Nat} {e : LinkError} (hn : 0 < n)
    (h : Link.readAvailable n deadline p = (.error e, q)) :
    readByte deadline p = (.error e, q) := by
  unfold readByte
  cases hc : p.cancelled with
  | true =>
    rw [readAvailable_cancelled hn hc] at h
    rw [readAvailable_cancelled (by decide) hc, h]
  | false =>
    rcases hs : settle deadline p.clock p.inbound with ⟨e' | _, clock, inbound⟩
    · rw [readAvailable_of_settle_error hn hc hs] at h
      rw [readAvailable_of_settle_error (by decide) hc hs, h]
    · rw [readAvailable_of_settle_ok hn hc hs] at h
      cases h

/-- **A read that succeeds is the read of one byte, after which the others are gone as well.** -/
lemma readByte_of_readAvailable {n : Nat} {bytes : List UInt8} (hn : 0 < n)
    (h : Link.readAvailable n deadline p = (.ok bytes, q)) :
    ∃ b bs, bytes = b :: bs ∧ bytes.length ≤ p.readChunk ∧
      readByte deadline p = (.ok b, q.unread bs) ∧ q.cancelled = false := by
  cases hc : p.cancelled with
  | true => rw [readAvailable_cancelled hn hc] at h; cases h
  | false =>
    rcases hs : settle deadline p.clock p.inbound with ⟨e | _, clock, inbound⟩
    · rw [readAvailable_of_settle_error hn hc hs] at h; cases h
    · rw [readAvailable_of_settle_ok hn hc hs] at h
      obtain ⟨hbytes, rfl⟩ := Prod.mk.inj h
      obtain rfl := Except.ok.inj hbytes
      obtain ⟨b, rest, rfl⟩ := settle_eq_ok hs
      obtain ⟨k, hk⟩ : ∃ k, min n p.readChunk = k + 1 :=
        ⟨min n p.readChunk - 1, by have := p.readChunk_pos; omega⟩
      have hle := length_frontBytes_le (min n p.readChunk) (.byte b :: rest)
      rw [hk, frontBytes_cons_byte] at hle ⊢
      refine ⟨b, frontBytes k rest, rfl, by omega, ?_, hc⟩
      rw [readByte_of_settle_ok hc hs]
      simp only [unread, List.length_cons, List.drop_succ_cons, map_frontBytes_append]

/-- A read that succeeds yields nothing exactly if nothing was asked for. -/
lemma readAvailable_eq_nil_iff {n : Nat} {bytes : List UInt8}
    (h : Link.readAvailable n deadline p = (.ok bytes, q)) : bytes = [] ↔ n = 0 := by
  rcases Nat.eq_zero_or_pos n with rfl | hn
  · rw [readAvailable_zero] at h
    cases h
    exact iff_of_true rfl rfl
  · obtain ⟨b, bs, rfl, -⟩ := readByte_of_readAvailable hn h
    exact iff_of_false (List.cons_ne_nil b bs) (Nat.ne_of_gt hn)

/-! ## What single bytes cost and leave -/

/-- **All that the reading of one byte can do.** -/
lemma readByte_cases (deadline : Deadline) (p : MemoryLink) :
    p.cancelled = true ∧ readByte deadline p = (.error .cancelled, p) ∨
    p.cancelled = false ∧ (∃ e clock inbound,
      settle deadline p.clock p.inbound = (.error e, clock, inbound) ∧
      readByte deadline p = (.error e, { p with clock, inbound })) ∨
    p.cancelled = false ∧ ∃ b clock rest,
      settle deadline p.clock p.inbound = (.ok (), clock, .byte b :: rest) ∧
      readByte deadline p = (.ok b, { p with clock, inbound := rest }) := by
  rcases Bool.eq_false_or_eq_true p.cancelled with hc | hc
  · refine .inl ⟨hc, ?_⟩
    unfold readByte
    rw [readAvailable_cancelled (by decide) hc]
  · rcases hs : settle deadline p.clock p.inbound with ⟨e | _, clock, inbound⟩
    · refine .inr (.inl ⟨hc, e, clock, inbound, rfl, ?_⟩)
      unfold readByte
      rw [readAvailable_of_settle_error (by decide) hc hs]
    · obtain ⟨b, rest, rfl⟩ := settle_eq_ok hs
      exact .inr (.inr ⟨hc, b, clock, rest, rfl, readByte_of_settle_ok hc hs⟩)

/-- The read chunk does not matter to single bytes. -/
lemma readByte_setReadChunk (deadline : Deadline) (p : MemoryLink) (c : Nat) :
    readByte deadline (p.setReadChunk c) =
      ((readByte deadline p).1, (readByte deadline p).2.setReadChunk c) := by
  rcases readByte_cases deadline p with ⟨hc, h⟩ | ⟨hc, e, clock, inbound, hs, h⟩ |
    ⟨hc, b, clock, rest, hs, h⟩
  · rw [h]
    unfold readByte
    rw [readAvailable_cancelled (p := p.setReadChunk c) (by decide) hc]
  · rw [h]
    unfold readByte
    rw [readAvailable_of_settle_error (p := p.setReadChunk c) (by decide) hc hs]
    rfl
  · rw [h, readByte_of_settle_ok (p := p.setReadChunk c) hc hs]
    rfl

/-- The passing of time takes no byte from the queue. -/
lemma filterMap_settle (deadline : Deadline) (clock : ManualClock) (queue : List Inbound) :
    (settle deadline clock queue).2.2.filterMap Inbound.byte? = queue.filterMap Inbound.byte? := by
  fun_induction settle deadline clock queue with
  | case5 clock span rest remaining h ih => simpa [List.filterMap_cons] using ih
  | _ => simp [List.filterMap_cons]

/-- Reading a byte takes it from the front of the pending bytes. -/
lemma pendingBytes_readByte (h : readByte deadline p = (.ok b, q)) :
    p.pendingBytes = b :: q.pendingBytes := by
  have hp := filterMap_settle deadline p.clock p.inbound
  rcases readByte_cases deadline p with ⟨-, h'⟩ | ⟨-, e, clock, inbound, -, h'⟩ |
    ⟨-, b', clock, rest, hs, h'⟩ <;> rw [h] at h' <;> cases h'
  rw [hs] at hp
  simpa [pendingBytes] using hp.symm

/-- Failing to read a byte leaves the pending bytes as they are. -/
lemma pendingBytes_readByte_error {e : LinkError} (h : readByte deadline p = (.error e, q)) :
    p.pendingBytes = q.pendingBytes := by
  have hp := filterMap_settle deadline p.clock p.inbound
  rcases readByte_cases deadline p with ⟨-, h'⟩ | ⟨-, e', clock, inbound, hs, h'⟩ |
    ⟨-, b', clock, rest, -, h'⟩ <;> rw [h] at h' <;> cases h'
  · rfl
  · rw [hs] at hp
    exact hp.symm

/-- A read takes its bytes from the front of the pending bytes. -/
lemma pendingBytes_readAvailable {n : Nat} {bytes : List UInt8}
    (h : Link.readAvailable n deadline p = (.ok bytes, q)) :
    p.pendingBytes = bytes ++ q.pendingBytes := by
  rcases Nat.eq_zero_or_pos n with rfl | hn
  · rw [readAvailable_zero] at h
    cases h
    rfl
  · obtain ⟨b, bs, rfl, -, hread, -⟩ := readByte_of_readAvailable hn h
    rw [pendingBytes_readByte hread, pendingBytes_unread, List.cons_append]

/-- A read that fails takes none of the pending bytes. -/
lemma pendingBytes_readAvailable_error {n : Nat} {e : LinkError}
    (h : Link.readAvailable n deadline p = (.error e, q)) : p.pendingBytes = q.pendingBytes := by
  rcases Nat.eq_zero_or_pos n with rfl | hn
  · rw [readAvailable_zero] at h
    cases h
  · exact pendingBytes_readByte_error (readByte_of_readAvailable_error hn h)

/-! ## What every read keeps -/

/-- Two states differ at most in the clock and the queue. -/
def KeepsSettings (p q : MemoryLink) : Prop := q = { p with clock := q.clock, inbound := q.inbound }

/-- The read chunk is one of the settings that are kept. -/
lemma KeepsSettings.readChunk (h : KeepsSettings p q) : q.readChunk = p.readChunk := by rw [h]

/-- Whether the link has been called off is kept. -/
lemma KeepsSettings.cancelled (h : KeepsSettings p q) : q.cancelled = p.cancelled := by rw [h]

/-- What has been written is kept. -/
lemma KeepsSettings.outbound (h : KeepsSettings p q) : q.outbound = p.outbound := by rw [h]

/-- **Reads change nothing but the clock and the queue.** -/
theorem chains_keepsSettings (deadline : Deadline) : Chains deadline KeepsSettings where
  refl _ := rfl
  trans h₁ h₂ := by rw [KeepsSettings, h₂, h₁]
  read {n r p q} h := by
    change MemoryLink.readAvailable n deadline p = (r, q) at h
    unfold MemoryLink.readAvailable at h
    repeat' split at h
    all_goals obtain ⟨-, rfl⟩ := Prod.mk.inj h; rfl

/-- **What is pending after reads was pending before them,** behind the bytes that were read. -/
theorem chains_pendingBytes (deadline : Deadline) :
    Chains deadline fun p q : MemoryLink => q.pendingBytes <:+ p.pendingBytes where
  refl p := List.suffix_refl _
  trans h₁ h₂ := h₂.trans h₁
  read {n r p q} h := by
    cases r with
    | error e => exact ⟨[], (pendingBytes_readAvailable_error h).symm⟩
    | ok bytes => exact ⟨bytes, (pendingBytes_readAvailable h).symm⟩

/-! ## Time -/

/-- From `p` to `q`, the clock does not run backwards, nor past the deadline. -/
structure InTime (deadline : Deadline) (p q : MemoryLink) : Prop where
  /-- It does not run backwards. -/
  le : p.clock.now ≤ q.clock.now
  /-- It does not run past the deadline. -/
  le_instant : p.clock.now ≤ deadline.instant → q.clock.now ≤ deadline.instant

namespace InTime

/-- If nothing happens, that is in time. -/
lemma refl (p : MemoryLink) : InTime deadline p p := ⟨Nat.le_refl _, id⟩

/-- One thing in time after another. -/
lemma trans {s : MemoryLink} (h : InTime deadline p q) (h' : InTime deadline q s) :
    InTime deadline p s :=
  ⟨Nat.le_trans h.le h'.le, h'.le_instant ∘ h.le_instant⟩

end InTime

/-- A call that times out ends in time. -/
lemma expire_inTime (clock : ManualClock) (deadline : Deadline) :
    clock.now ≤ (expire clock deadline).now ∧
      (clock.now ≤ deadline.instant → (expire clock deadline).now ≤ deadline.instant) :=
  ⟨clock.le_advanceTo _, fun hle => Nat.max_le.mpr ⟨hle, Nat.le_refl _⟩⟩

/-- Waiting for a byte ends in time: a pause is waited for only if it fits into the time that is
left.

**Proof sketch.** Induction on the queue. A pause is waited for in full only if it is shorter than
the time that is left; otherwise the clock moves to the deadline. -/
lemma settle_inTime {clock clock' : ManualClock} {queue queue' : List Inbound}
    {r : Except LinkError Unit} (h : settle deadline clock queue = (r, clock', queue')) :
    clock.now ≤ clock'.now ∧ (clock.now ≤ deadline.instant → clock'.now ≤ deadline.instant) := by
  fun_induction settle deadline clock queue with
  | case1 clock =>
    obtain ⟨rfl, -⟩ := Prod.mk.inj (Prod.mk.inj h).2
    exact expire_inTime clock deadline
  | case2 clock b rest =>
    obtain ⟨rfl, -⟩ := Prod.mk.inj (Prod.mk.inj h).2
    exact ⟨Nat.le_refl _, id⟩
  | case3 clock kind rest =>
    obtain ⟨rfl, -⟩ := Prod.mk.inj (Prod.mk.inj h).2
    exact ⟨Nat.le_refl _, id⟩
  | case4 clock span rest remaining hspan =>
    obtain ⟨rfl, -⟩ := Prod.mk.inj (Prod.mk.inj h).2
    exact expire_inTime clock deadline
  | case5 clock span rest remaining hspan ih =>
    have hnow : (clock.advance span).now = clock.now + min span maxTimeout := rfl
    obtain ⟨hle, hinstant⟩ := ih h
    simp only [remaining, Deadline.remaining] at hspan
    exact ⟨by omega, fun _ => hinstant (by omega)⟩

/-- **Reads end in time.** -/
theorem chains_inTime (deadline : Deadline) : Chains deadline (InTime deadline) where
  refl := InTime.refl
  trans := InTime.trans
  read {n r p q} h := by
    change MemoryLink.readAvailable n deadline p = (r, q) at h
    unfold MemoryLink.readAvailable at h
    split at h
    · obtain ⟨-, rfl⟩ := Prod.mk.inj h; exact .refl p
    split at h
    · obtain ⟨-, rfl⟩ := Prod.mk.inj h; exact .refl p
    rcases hs : settle deadline p.clock p.inbound with ⟨e | _, clock, inbound⟩ <;> rw [hs] at h <;>
      obtain ⟨-, rfl⟩ := Prod.mk.inj h
    · exact ⟨(settle_inTime hs).1, (settle_inTime hs).2⟩
    · exact ⟨(settle_inTime hs).1, (settle_inTime hs).2⟩

end FramedLink.MemoryLink
