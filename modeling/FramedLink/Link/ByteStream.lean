import FramedLink.IoError
import FramedLink.Time

set_option autoImplicit false
set_option relaxedAutoImplicit false

/-!
# A byte stream with time limits

The stream below a stream link, as its scripts describe it: what each read, each write, each
flush and each setting of a time limit does, how long reads and writes wait, and how much time goes
by from one call to the next. The stream keeps a log of all calls, readings of the clock included.

A read or a write may wait before bytes move, but **it does not wait longer than the time limit set
last.** What the clock shows to someone who looks at it between the calls may be any later instant.

A script that is used up stands for a stream without troubles: reads find the end of the
stream, writes take everything, flushes and settings succeed, and no time goes by.

## Main definitions

* `FramedLink.ByteStream` — the state of a stream, with `read`, `write`, `flush`,
  `setReadTimeout`, `setWriteTimeout` and `readClock`.
* `FramedLink.ByteStream.pause` — the wait of a read or a write.
* `FramedLink.ByteStream.glance` — what the clock shows between the calls.
* `FramedLink.ByteStream.Fault` — how a call may fail.
* `FramedLink.ByteStream.Call` — an entry of the log.
* `FramedLink.ByteStream.unread` — the number of bytes that reads can still yield.

## Main results

* `FramedLink.ByteStream.unread_read`, `FramedLink.ByteStream.unread_read_lt` — a read does not
  add to the unread bytes, and one that yields bytes uses some up.
* `FramedLink.ByteStream.reads_read_lt`, `writes_write_lt`, `flushes_flush_lt` — a call that
  fails uses up an entry of its script, so a call cannot be retried forever.
-/

namespace FramedLink

namespace ByteStream

/-- How a call may fail. -/
inductive Fault where
  /-- With a failure of this kind. -/
  | error (kind : IoErrorKind)
  /-- As interrupted; meanwhile, all work on the stream has been called off. -/
  | cancel
  /-- As interrupted, after the whole time limit set last. -/
  | block
  deriving DecidableEq, Repr

/-- What a read does. -/
inductive Read where
  /-- Yield these bytes. What is not asked for stays for the next read. -/
  | data (bytes : List UInt8)
  | fault (f : Fault)
  deriving DecidableEq, Repr

/-- What a write does. -/
inductive Write where
  /-- Take at most `n` bytes. -/
  | accept (n : Nat)
  | fault (f : Fault)
  deriving DecidableEq, Repr

/-- An entry of the log of calls. -/
inductive Call where
  /-- The clock was read and showed this instant. -/
  | clock (now : Nat)
  /-- The time limit of reads was set. -/
  | setReadTimeout (span : Nat)
  /-- The time limit of writes was set. -/
  | setWriteTimeout (span : Nat)
  /-- Up to `n` bytes were asked for. -/
  | read (n : Nat)
  /-- These bytes were offered. -/
  | write (data : List UInt8)
  /-- What had been written was pushed on. -/
  | flush
  /-- The call before failed. -/
  | failed (f : Fault)
  deriving DecidableEq, Repr

/-- The number of bytes that an entry of the script of reads can still yield. -/
def Read.size : Read → Nat
  | data bytes => bytes.length
  | fault _ => 0

/-- The number of bytes that a script of reads can still yield. -/
def Read.total (script : List Read) : Nat := script.foldr (fun entry n => entry.size + n) 0

/-- A script that is used up yields nothing. -/
@[simp] theorem Read.total_nil : Read.total [] = 0 := rfl

/-- A script yields what its first entry yields, and then what the others do. -/
@[simp] theorem Read.total_cons (entry : Read) (script : List Read) :
    Read.total (entry :: script) = entry.size + Read.total script := rfl

end ByteStream

open ByteStream in
/-- The state of a stream. -/
structure ByteStream where
  /-- What the next reads do. -/
  reads : List ByteStream.Read := []
  /-- What the next writes do. -/
  writes : List ByteStream.Write := []
  /-- What the next flushes do. -/
  flushes : List (Option Fault) := []
  /-- What the next settings of a time limit do. -/
  settings : List (Option Fault) := []
  /-- How long the next reads and writes wait that do not fail. -/
  pauses : List Nat := []
  /-- How long after the last call the clock is looked at from outside, up to the next reading of
  the clock, up to the reading after that and so on. -/
  lags : List Nat := []
  /-- How much more time goes by before the next readings of the clock. -/
  ticks : List Nat := []
  /-- The instant at which the last call ended. -/
  now : Nat := 0
  /-- The time limit set last. -/
  limit : Nat := 0
  /-- All work on the stream has been called off. -/
  cancelled : Bool := false
  /-- The bytes taken so far. -/
  outbound : Array UInt8 := #[]
  /-- The calls made so far. -/
  calls : Array Call := #[]

namespace ByteStream

/-- Add a call to the log. -/
def note (s : ByteStream) (call : Call) : ByteStream := { s with calls := s.calls.push call }

/-- The instant that the clock shows to someone who looks at it between the calls. -/
def glance (s : ByteStream) : Nat := s.now + s.lags.headD 0

/-- Read the clock. -/
def readClock (s : ByteStream) : Nat × ByteStream :=
  let now := s.glance + s.ticks.headD 0
  (now, { s with lags := s.lags.tail, ticks := s.ticks.tail, now }.note (.clock now))

/-- Wait as a read or a write does, not beyond the time limit set last. -/
def pause (s : ByteStream) : ByteStream :=
  { s with now := s.now + min (s.pauses.headD 0) s.limit, pauses := s.pauses.tail }

/-- Fail. -/
def fail (s : ByteStream) (f : Fault) : IoError × ByteStream :=
  let s := s.note (.failed f)
  match f with
  | .error kind => (⟨kind, none⟩, s)
  | .cancel => (⟨.wouldBlock, none⟩, { s with cancelled := true })
  | .block => (⟨.wouldBlock, none⟩, { s with now := s.now + s.limit })

/-- Go through with a setting of the time limit. -/
def setTimeout (s : ByteStream) (call : Call) (span : Nat) : Except IoError Unit × ByteStream :=
  let s := { s with limit := span }.note call
  match s.settings with
  | [] => (.ok (), s)
  | none :: settings => (.ok (), { s with settings })
  | some f :: settings =>
    let (e, s) := { s with settings }.fail f
    (.error e, s)

/-- Set the time limit of reads. -/
def setReadTimeout (s : ByteStream) (span : Nat) : Except IoError Unit × ByteStream :=
  s.setTimeout (.setReadTimeout span) span

/-- Set the time limit of writes. -/
def setWriteTimeout (s : ByteStream) (span : Nat) : Except IoError Unit × ByteStream :=
  s.setTimeout (.setWriteTimeout span) span

/-- Read up to `n` bytes. No bytes mean the end of the stream. -/
def read (s : ByteStream) (n : Nat) : Except IoError (List UInt8) × ByteStream :=
  let s := s.note (.read n)
  match s.reads with
  | [] => (.ok [], s.pause)
  | .data bytes :: reads =>
    let reads := if bytes.length ≤ n then reads else .data (bytes.drop n) :: reads
    (.ok (bytes.take n), { s with reads }.pause)
  | .fault f :: reads =>
    let (e, s) := { s with reads }.fail f
    (.error e, s)

/-- Offer bytes. The result is how many were taken. -/
def write (s : ByteStream) (data : List UInt8) : Except IoError Nat × ByteStream :=
  let s := s.note (.write data)
  match s.writes with
  | [] => (.ok data.length, { s with outbound := s.outbound ++ data }.pause)
  | .accept n :: writes =>
    (.ok (min n data.length), { s with writes, outbound := s.outbound ++ data.take n }.pause)
  | .fault f :: writes =>
    let (e, s) := { s with writes }.fail f
    (.error e, s)

/-- Push on what has been written. -/
def flush (s : ByteStream) : Except IoError Unit × ByteStream :=
  let s := s.note .flush
  match s.flushes with
  | [] => (.ok (), s)
  | none :: flushes => (.ok (), { s with flushes })
  | some f :: flushes =>
    let (e, s) := { s with flushes }.fail f
    (.error e, s)

/-- The number of bytes that reads can still yield. -/
def unread (s : ByteStream) : Nat := Read.total s.reads

/-! ## What the calls leave of the scripts -/

/-- A reading of the clock is no read. -/
@[simp] theorem reads_readClock (s : ByteStream) : s.readClock.2.reads = s.reads := rfl

/-- A reading of the clock is no write. -/
@[simp] theorem writes_readClock (s : ByteStream) : s.readClock.2.writes = s.writes := rfl

/-- A wait is no read. -/
@[simp] theorem reads_pause (s : ByteStream) : s.pause.reads = s.reads := rfl

/-- A wait is no write. -/
@[simp] theorem writes_pause (s : ByteStream) : s.pause.writes = s.writes := rfl

/-- A wait takes no byte. -/
@[simp] theorem outbound_pause (s : ByteStream) : s.pause.outbound = s.outbound := rfl

/-- A wait is not logged. -/
@[simp] theorem calls_pause (s : ByteStream) : s.pause.calls = s.calls := rfl

/-- A failure leaves the script of reads. -/
@[simp] theorem reads_fail (s : ByteStream) (f : Fault) : (s.fail f).2.reads = s.reads := by
  cases f <;> rfl

/-- A failure leaves the script of writes. -/
@[simp] theorem writes_fail (s : ByteStream) (f : Fault) : (s.fail f).2.writes = s.writes := by
  cases f <;> rfl

/-- A failure leaves the script of flushes. -/
@[simp] theorem flushes_fail (s : ByteStream) (f : Fault) : (s.fail f).2.flushes = s.flushes := by
  cases f <;> rfl

/-- The setting of the time limit of reads is no read. -/
@[simp] theorem reads_setReadTimeout (s : ByteStream) (span : Nat) :
    (s.setReadTimeout span).2.reads = s.reads := by
  unfold setReadTimeout setTimeout note
  dsimp only
  split <;> simp

/-- The setting of the time limit of writes is no write. -/
@[simp] theorem writes_setWriteTimeout (s : ByteStream) (span : Nat) :
    (s.setWriteTimeout span).2.writes = s.writes := by
  unfold setWriteTimeout setTimeout note
  dsimp only
  split <;> simp

/-- A read does not add to the unread bytes, and uses up those that it yields. -/
theorem unread_read {s s' : ByteStream} {n : Nat} {r : Except IoError (List UInt8)}
    (h : s.read n = (r, s')) :
    s'.unread ≤ s.unread ∧ ∀ bytes, r = .ok bytes → s'.unread + bytes.length = s.unread := by
  unfold read note at h
  dsimp only at h
  split at h
  · next hs =>
    obtain ⟨rfl, rfl⟩ := Prod.mk.inj h
    simp [unread, hs]
  · next bytes reads hs =>
    obtain ⟨rfl, rfl⟩ := Prod.mk.inj h
    have key : Read.total (if bytes.length ≤ n then reads else .data (bytes.drop n) :: reads) +
        (bytes.take n).length = Read.total s.reads := by
      rw [hs]
      split <;> simp [Read.size] <;> omega
    refine ⟨by simp only [unread, reads_pause]; omega, fun b hb => ?_⟩
    obtain rfl := Except.ok.inj hb
    exact key
  · next f reads hs =>
    obtain ⟨rfl, rfl⟩ := Prod.mk.inj h
    simp [unread, hs, Read.size]

/-- A read that fails uses up an entry of its script. -/
theorem reads_read_lt {s s' : ByteStream} {n : Nat} {e : IoError}
    (h : s.read n = (.error e, s')) : s'.reads.length < s.reads.length := by
  unfold read note at h
  dsimp only at h
  split at h
  · simp at h
  · simp at h
  · next hs =>
    obtain ⟨-, rfl⟩ := Prod.mk.inj h
    simp [hs]

/-- A read returns no more than what it was asked for. -/
theorem length_read_le {s s' : ByteStream} {n : Nat} {bytes : List UInt8}
    (h : s.read n = (.ok bytes, s')) : bytes.length ≤ n := by
  unfold read note at h
  dsimp only at h
  split at h
  · obtain ⟨rfl, -⟩ : _ ∧ _ := by simpa using h
    simp
  · obtain ⟨rfl, -⟩ : _ ∧ _ := by simpa using h
    exact List.length_take_le ..
  · simp at h

/-- A write that fails uses up an entry of its script. -/
theorem writes_write_lt {s s' : ByteStream} {data : List UInt8} {e : IoError}
    (h : s.write data = (.error e, s')) : s'.writes.length < s.writes.length := by
  unfold write note at h
  dsimp only at h
  split at h
  · simp at h
  · simp at h
  · next hs =>
    obtain ⟨-, rfl⟩ := Prod.mk.inj h
    simp [hs]

/-- A flush that fails uses up an entry of its script. -/
theorem flushes_flush_lt {s s' : ByteStream} {e : IoError}
    (h : s.flush = (.error e, s')) : s'.flushes.length < s.flushes.length := by
  unfold flush note at h
  dsimp only at h
  split at h
  · simp at h
  · simp at h
  · next hs =>
    obtain ⟨-, rfl⟩ := Prod.mk.inj h
    simp [hs]

end ByteStream

end FramedLink
