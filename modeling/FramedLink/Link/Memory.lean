import FramedLink.Link

set_option autoImplicit false
set_option relaxedAutoImplicit false

/-!
# The memory link

A link whose peer is a queue. Inbound traffic is a list of bytes, pauses and failures, in the
order in which reads meet them; outbound traffic is a log of the bytes written. The link owns a
manual clock and lets time pass by moving it: a pause that is read through moves it by the
length of the pause, and a read that finds nothing moves it to the deadline and times out.
Writes may be stalled in the same way.

A pause or a stall that a deadline cuts short **keeps the rest of its length** for the next
call, and the time up to the deadline passes.

## Main definitions

* `FramedLink.Inbound` — an entry of the inbound queue.
* `FramedLink.MemoryLink` — the state of the link, and its `Link` instance.
* `FramedLink.MemoryLink.settle` — let time pass until the queue starts with a byte.
* `FramedLink.MemoryLink.pendingBytes` — the bytes still queued.

## Main results

* `FramedLink.MemoryLink.length_settle_le` — waiting does not lengthen the queue.
-/

namespace FramedLink

/-- An entry of the inbound queue. -/
inductive Inbound where
  /-- A byte to be read. -/
  | byte (b : UInt8)
  /-- A pause before whatever follows. -/
  | delay (span : Nat)
  /-- A failure, reported once by the read that reaches it. -/
  | failure (kind : IoErrorKind)
  deriving DecidableEq, Repr

/-- The byte of an entry, if it is one. -/
def Inbound.byte? : Inbound → Option UInt8
  | byte b => some b
  | _ => none

/-- A byte is a byte. -/
@[simp] theorem Inbound.byte?_byte (b : UInt8) : (byte b).byte? = some b := rfl

/-- A pause is no byte. -/
@[simp] theorem Inbound.byte?_delay (span : Nat) : (delay span).byte? = none := rfl

/-- A failure is no byte. -/
@[simp] theorem Inbound.byte?_failure (kind : IoErrorKind) : (failure kind).byte? = none := rfl

/-- The read chunk of a new link leaves room for a byte. -/
theorem unlimited_pos : 0 < UInt64.size - 1 := by decide

/-- The state of a memory link. -/
structure MemoryLink where
  /-- The clock, moved by pauses, stalls and timeouts. -/
  clock : ManualClock := ⟨0⟩
  /-- What reads will meet, in this order. -/
  inbound : List Inbound := []
  /-- The bytes written and not taken away yet. -/
  outbound : Array UInt8 := #[]
  /-- The most bytes that a single read returns. -/
  readChunk : Nat := UInt64.size - 1
  /-- A read may always return at least one byte. -/
  readChunk_pos : 0 < readChunk := by exact unlimited_pos
  /-- A failure that the next write will report. -/
  writeFailure : Option IoErrorKind := none
  /-- How long the next writes are still held up, in total. -/
  writeStall : Nat := 0
  /-- Calls have been called off. -/
  cancelled : Bool := false

namespace MemoryLink

/-! ## Arranging traffic -/

/-- Queue bytes to be read. -/
def pushInbound (p : MemoryLink) (data : List UInt8) : MemoryLink :=
  { p with inbound := p.inbound ++ data.map .byte }

/-- Queue a pause. -/
def pushDelay (p : MemoryLink) (span : Nat) : MemoryLink :=
  { p with inbound := p.inbound ++ [.delay span] }

/-- Queue a failure of the read that reaches it. -/
def pushReadError (p : MemoryLink) (kind : IoErrorKind) : MemoryLink :=
  { p with inbound := p.inbound ++ [.failure kind] }

/-- Limit how many bytes a single read returns, to one at the least. -/
def setReadChunk (p : MemoryLink) (n : Nat) : MemoryLink :=
  { p with readChunk := max n 1, readChunk_pos := by omega }

/-- Let the next write fail. -/
def failNextWrite (p : MemoryLink) (kind : IoErrorKind) : MemoryLink :=
  { p with writeFailure := some kind }

/-- Hold up the next writes for `span` more, in total. -/
def stallWrites (p : MemoryLink) (span : Nat) : MemoryLink :=
  { p with writeStall := p.writeStall + span }

/-- Call off every call from now on. -/
def cancel (p : MemoryLink) : MemoryLink := { p with cancelled := true }

/-- Let `span` pass. -/
def advance (p : MemoryLink) (span : Nat) : MemoryLink :=
  { p with clock := p.clock.advance span }

/-- Take away the bytes written so far. -/
def takeOutbound (p : MemoryLink) : List UInt8 × MemoryLink :=
  (p.outbound.toList, { p with outbound := #[] })

/-- Move everything written so far into the inbound queue. -/
def loopBack (p : MemoryLink) : MemoryLink :=
  let (written, p) := p.takeOutbound
  p.pushInbound written

/-- The bytes still queued. -/
def pendingBytes (p : MemoryLink) : List UInt8 := p.inbound.filterMap Inbound.byte?

/-! ## Writing -/

/-- Let the time up to `deadline` pass and time out. -/
def expire (clock : ManualClock) (deadline : Deadline) : ManualClock :=
  clock.advanceTo deadline.instant

/-- Write to the log. The checks come in this order: cancellation, an arranged failure, the
stall. -/
def write (data : List UInt8) (deadline : Deadline) (p : MemoryLink) :
    Except LinkError Nat × MemoryLink :=
  if p.cancelled then (.error .cancelled, p)
  else
    match p.writeFailure with
    | some kind => (.error (.io ⟨kind, none⟩), { p with writeFailure := none })
    | none =>
      if p.writeStall = 0 then
        (.ok data.length, { p with outbound := p.outbound ++ data })
      else
        let remaining := deadline.remaining p.clock.now
        if remaining ≤ p.writeStall then
          (.error .timeout,
            { p with writeStall := p.writeStall - remaining, clock := expire p.clock deadline })
        else
          (.ok data.length,
            { p with
              clock := p.clock.advance p.writeStall
              writeStall := 0
              outbound := p.outbound ++ data })

/-! ## Reading -/

/-- Let time pass until the queue starts with a byte. Pauses are used up on the way; a failure
or a lack of time ends the wait. -/
def settle (deadline : Deadline) (clock : ManualClock) :
    List Inbound → Except LinkError Unit × ManualClock × List Inbound
  | [] => (.error .timeout, expire clock deadline, [])
  | .byte b :: rest => (.ok (), clock, .byte b :: rest)
  | .failure kind :: rest => (.error (.io ⟨kind, none⟩), clock, rest)
  | .delay span :: rest =>
    let remaining := deadline.remaining clock.now
    if remaining ≤ span then
      (.error .timeout, expire clock deadline, .delay (span - remaining) :: rest)
    else settle deadline (clock.advance span) rest

/-- The bytes at the front of a queue, at most `n` of them. -/
def frontBytes (n : Nat) (queue : List Inbound) : List UInt8 :=
  ((queue.take n).takeWhile fun entry => entry.byte?.isSome).filterMap Inbound.byte?

/-- Read from the queue: the bytes at its front, but no more than the read chunk, once time has
brought them there. -/
def readAvailable (n : Nat) (deadline : Deadline) (p : MemoryLink) :
    Except LinkError (List UInt8) × MemoryLink :=
  if n = 0 then (.ok [], p)
  else if p.cancelled then (.error .cancelled, p)
  else
    match settle deadline p.clock p.inbound with
    | (.error e, clock, inbound) => (.error e, { p with clock, inbound })
    | (.ok (), clock, inbound) =>
      let bytes := frontBytes (min n p.readChunk) inbound
      (.ok bytes, { p with clock, inbound := inbound.drop bytes.length })

/-! ## Rules -/

/-- All that a write can do. -/
theorem write_cases (data : List UInt8) (deadline : Deadline) (p : MemoryLink) :
    p.cancelled = true ∧ write data deadline p = (.error .cancelled, p) ∨
    (∃ kind, p.writeFailure = some kind ∧
      write data deadline p = (.error (.io ⟨kind, none⟩), { p with writeFailure := none })) ∨
    (p.cancelled = false ∧ p.writeFailure = none) ∧
      (p.writeStall = 0 ∧
        write data deadline p = (.ok data.length, { p with outbound := p.outbound ++ data }) ∨
      deadline.remaining p.clock.now ≤ p.writeStall ∧ write data deadline p = (.error .timeout,
        { p with
          writeStall := p.writeStall - deadline.remaining p.clock.now
          clock := expire p.clock deadline }) ∨
      p.writeStall < deadline.remaining p.clock.now ∧ write data deadline p = (.ok data.length,
        { p with
          clock := p.clock.advance p.writeStall
          writeStall := 0
          outbound := p.outbound ++ data })) := by
  unfold write
  split
  · next hc => exact .inl ⟨hc, rfl⟩
  next hlive =>
  split
  · next kind hkind => exact .inr (.inl ⟨kind, hkind, rfl⟩)
  next hfailure =>
  refine .inr (.inr ⟨⟨eq_false_of_ne_true hlive, hfailure⟩, ?_⟩)
  split
  · next hstall => exact .inl ⟨hstall, rfl⟩
  dsimp only
  split
  · next hle => exact .inr (.inl ⟨hle, rfl⟩)
  · next hlt => exact .inr (.inr ⟨Nat.lt_of_not_le hlt, rfl⟩)

/-- Waiting does not lengthen the queue. -/
theorem length_settle_le (deadline : Deadline) (clock : ManualClock) (queue : List Inbound) :
    (settle deadline clock queue).2.2.length ≤ queue.length := by
  fun_induction settle deadline clock queue with
  | case5 clock span rest remaining h ih => simp only [List.length_cons]; omega
  | _ => simp

/-- A wait that succeeds ends before a byte. -/
theorem settle_eq_ok {deadline : Deadline} {clock clock' : ManualClock}
    {queue queue' : List Inbound} (h : settle deadline clock queue = (.ok (), clock', queue')) :
    ∃ b rest, queue' = .byte b :: rest := by
  fun_induction settle deadline clock queue with
  | case2 clock b rest =>
    simp only [Prod.mk.injEq, true_and] at h
    exact ⟨b, rest, h.2.symm⟩
  | case5 clock span rest remaining hlt ih => exact ih h
  | _ => simp at h

/-- No more bytes are taken from the front than are asked for. -/
theorem length_frontBytes_le (n : Nat) (queue : List Inbound) :
    (frontBytes n queue).length ≤ n := by
  unfold frontBytes
  have h₁ := List.length_filterMap_le Inbound.byte?
    ((queue.take n).takeWhile fun entry => entry.byte?.isSome)
  have h₂ := (List.takeWhile_sublist (fun entry : Inbound => entry.byte?.isSome)
    (l := queue.take n)).length_le
  have h₃ := List.length_take_le n queue
  omega

/-- A queue that starts with a byte yields at least one. -/
theorem frontBytes_cons_byte (n : Nat) (b : UInt8) (rest : List Inbound) :
    frontBytes (n + 1) (.byte b :: rest) = b :: frontBytes n rest := by
  simp [frontBytes, Inbound.byte?]

instance : Link MemoryLink where
  now p := p.clock.now
  write := write
  readAvailable := readAvailable
  supply p := p.inbound.length
  length_le_of_read {n deadline p p' bytes} h := by
    unfold readAvailable at h
    split at h
    · simp_all
    split at h
    · simp at h
    split at h
    · simp at h
    · simp only [Prod.mk.injEq, Except.ok.injEq] at h
      have := length_frontBytes_le (min n p.readChunk) ‹List Inbound›
      rw [h.1] at this
      omega
  supply_le_of_read {n deadline p p' r} h := by
    unfold readAvailable at h
    have hle := length_settle_le deadline p.clock p.inbound
    split at h
    · simp_all
    split at h
    · simp_all
    split at h
    · next hs => rw [hs] at hle; obtain ⟨-, rfl⟩ := Prod.mk.inj h; exact hle
    · next hs =>
      rw [hs] at hle
      obtain ⟨-, rfl⟩ := Prod.mk.inj h
      simp only [List.length_drop] at hle ⊢
      omega
  supply_lt_of_read {n deadline p p' bytes} hn h := by
    unfold readAvailable at h
    have hle := length_settle_le deadline p.clock p.inbound
    split at h
    · omega
    split at h
    · simp at h
    split at h
    · simp at h
    · next hs =>
      rw [hs] at hle
      obtain ⟨b, rest, rfl⟩ := settle_eq_ok hs
      obtain ⟨k, hk⟩ : ∃ k, min n p.readChunk = k + 1 :=
        ⟨min n p.readChunk - 1, by have := p.readChunk_pos; omega⟩
      obtain ⟨-, rfl⟩ := Prod.mk.inj h
      rw [hk, frontBytes_cons_byte]
      simp only [List.length_drop, List.length_cons] at hle ⊢
      omega

end MemoryLink

end FramedLink
