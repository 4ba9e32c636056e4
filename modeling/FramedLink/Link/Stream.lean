import FramedLink.Link
import FramedLink.Link.ByteStream
import FramedLink.Text.Number

set_option autoImplicit false
set_option relaxedAutoImplicit false

/-!
# The stream link

A link over a connected byte stream. Blocking calls are cut into slices of at most the poll
interval, so that a cancellation and the deadline of the caller are noticed soon, both while the
device is silent and while the peer does not drain what is sent. A slice that ends without
progress is not a failure: the call is repeated with the next slice.

A write may also be bound by a limit of its own. `writeAll` fixes that limit once for all the
partial writes that it makes.

## Main definitions

* `FramedLink.LinkConfig` — poll interval and time limits.
* `FramedLink.StreamLink` — the state of the link, and its `Link` instance.
* `FramedLink.StreamLink.slice` — the length of the next slice.
-/

namespace FramedLink

/-- The shortest slice: one millisecond. -/
def minPollInterval : Nat := millis 1

/-- The settings of a stream link. -/
structure LinkConfig where
  /-- The longest slice. -/
  pollInterval : Nat := millis 100
  /-- The longest time for a single write, even when the deadline is later. -/
  writeTimeout : Option Nat := some (seconds 5)
  /-- The longest time for making a network connection. -/
  connectTimeout : Nat := seconds 5
  deriving DecidableEq, Repr

/-- The text that shows the settings of a stream link. -/
def LinkConfig.describe (c : LinkConfig) : String :=
  let limit :=
    match c.writeTimeout with
    | some span => "Some(" ++ Text.span span ++ ")"
    | none => "None"
  "PortConfig \x7b poll_interval: " ++ Text.span c.pollInterval ++ ", write_timeout: " ++ limit ++
    ", connect_timeout: " ++ Text.span c.connectTimeout ++ " \x7d"

/-- The state of a stream link. -/
structure StreamLink where
  /-- The stream below. -/
  stream : ByteStream
  /-- The settings. -/
  config : LinkConfig

namespace StreamLink

/-- Put a link on a stream. This sets the time limit of writes for the first time. -/
def ofStream (stream : ByteStream) (config : LinkConfig) :
    Except LinkError Unit × StreamLink :=
  match stream.setWriteTimeout (max config.pollInterval minPollInterval) with
  | (.error e, stream) => (.error (.io e), ⟨stream, config⟩)
  | (.ok (), stream) => (.ok (), ⟨stream, config⟩)

/-- Call off all work on the link. -/
def cancel (p : StreamLink) : StreamLink := { p with stream := { p.stream with cancelled := true } }

/-- The earlier of `deadline` and the limit of writes, counted from now. -/
def writeDeadline (deadline : Deadline) (p : StreamLink) : Deadline × StreamLink :=
  match p.config.writeTimeout with
  | none => (deadline, p)
  | some limit =>
    let (now, stream) := p.stream.readClock
    (deadline.earlier (.after now limit), { p with stream })

/-- The length of the next slice, unless the deadline has been reached. -/
def slice (deadline : Deadline) (p : StreamLink) : Except LinkError Nat × StreamLink :=
  let (now, stream) := p.stream.readClock
  let remaining := deadline.remaining now
  if remaining = 0 then (.error .timeout, { p with stream })
  else (.ok (max (min remaining p.config.pollInterval) minPollInterval), { p with stream })

/-- The choice of a slice is no read. -/
@[simp] theorem reads_slice (deadline : Deadline) (p : StreamLink) :
    (p.slice deadline).2.stream.reads = p.stream.reads := by
  unfold slice
  dsimp only
  split <;> simp

/-- The choice of a slice is no write. -/
@[simp] theorem writes_slice (deadline : Deadline) (p : StreamLink) :
    (p.slice deadline).2.stream.writes = p.stream.writes := by
  unfold slice
  dsimp only
  split <;> simp

/-! ## Writing -/

/-- Write some bytes before `deadline`, slice by slice. -/
def writeUntil (data : List UInt8) (deadline : Deadline) (p : StreamLink) :
    Except LinkError Nat × StreamLink :=
  if p.stream.cancelled then (.error .cancelled, p)
  else
    match _slice : p.slice deadline with
    | (.error e, p') => (.error e, p')
    | (.ok span, p') =>
      match _set : p'.stream.setWriteTimeout span with
      | (.error e, stream) => (.error (.io e), { p' with stream })
      | (.ok (), stream) =>
        match _write : stream.write data with
        | (.ok n, stream') => (.ok n, { p' with stream := stream' })
        | (.error e, stream') =>
          if e.kind.isInterruption then writeUntil data deadline { p' with stream := stream' }
          else (.error (.io e), { p' with stream := stream' })
termination_by p.stream.writes.length
decreasing_by
  have h₁ := writes_slice deadline p
  have h₂ := ByteStream.writes_setWriteTimeout p'.stream span
  have h₃ := ByteStream.writes_write_lt _write
  rw [_slice] at h₁
  rw [_set] at h₂
  simp_all

/-- Write some bytes, within the limit of writes. -/
def write (data : List UInt8) (deadline : Deadline) (p : StreamLink) :
    Except LinkError Nat × StreamLink :=
  let (deadline, p) := p.writeDeadline deadline
  p.writeUntil data deadline

/-- Push on what has been written. A signal meanwhile is no failure. -/
def flush (p : StreamLink) : Except LinkError Unit × StreamLink :=
  match _flush : p.stream.flush with
  | (.ok (), stream) => (.ok (), { p with stream })
  | (.error e, stream) =>
    if e.kind = .interrupted then flush { p with stream }
    else (.error (.io e), { p with stream })
termination_by p.stream.flushes.length
decreasing_by exact ByteStream.flushes_flush_lt _flush

/-- Write every byte within one limit of writes, and push it on. -/
def writeAll (data : List UInt8) (deadline : Deadline) (p : StreamLink) :
    Except LinkError Unit × StreamLink :=
  let (deadline, p) := p.writeDeadline deadline
  match Link.writeAllBy write data deadline p with
  | (.error e, p) => (.error e, p)
  | (.ok (), p) => p.flush

/-! ## Reading -/

/-- Read up to `n` bytes before `deadline`, slice by slice. -/
def readUntil (n : Nat) (deadline : Deadline) (p : StreamLink) :
    Except LinkError (List UInt8) × StreamLink :=
  if p.stream.cancelled then (.error .cancelled, p)
  else
    match _slice : p.slice deadline with
    | (.error e, p') => (.error e, p')
    | (.ok span, p') =>
      match _set : p'.stream.setReadTimeout span with
      | (.error e, stream) => (.error (.io e), { p' with stream })
      | (.ok (), stream) =>
        match _read : stream.read n with
        | (.ok [], stream') => (.error .closed, { p' with stream := stream' })
        | (.ok (b :: bytes), stream') => (.ok (b :: bytes), { p' with stream := stream' })
        | (.error e, stream') =>
          if e.kind.isInterruption then readUntil n deadline { p' with stream := stream' }
          else (.error (.io e), { p' with stream := stream' })
termination_by p.stream.reads.length
decreasing_by
  have h₁ := reads_slice deadline p
  have h₂ := ByteStream.reads_setReadTimeout p'.stream span
  have h₃ := ByteStream.reads_read_lt _read
  rw [_slice] at h₁
  rw [_set] at h₂
  simp_all

/-- Read up to `n` bytes. The end of the stream means that the other end is gone. -/
def readAvailable (n : Nat) (deadline : Deadline) (p : StreamLink) :
    Except LinkError (List UInt8) × StreamLink :=
  if n = 0 then (.ok [], p) else p.readUntil n deadline

/-- A read does not add to the unread bytes; what it yields is used up, is not empty and is no
more than what was asked for.

**Proof sketch.** Induction on the interrupted reads. Neither the choice of a slice nor a time limit
touches what is unread, and a read that yields bytes uses them up. -/
theorem unread_readUntil {n : Nat} {deadline : Deadline} {p q : StreamLink}
    {r : Except LinkError (List UInt8)} (h : p.readUntil n deadline = (r, q)) :
    q.stream.unread ≤ p.stream.unread ∧
      ∀ bytes, r = .ok bytes → bytes.length ≤ n ∧ q.stream.unread < p.stream.unread := by
  have same {p p' : StreamLink} {r} (h : p.slice deadline = (r, p')) :
      p'.stream.unread = p.stream.unread := by
    have h' := reads_slice deadline p
    rw [h] at h'
    rw [ByteStream.unread, ByteStream.unread, h']
  have same' {s s' : ByteStream} {span} {r} (h : s.setReadTimeout span = (r, s')) :
      s'.unread = s.unread := by
    have h' := ByteStream.reads_setReadTimeout s span
    rw [h] at h'
    rw [ByteStream.unread, ByteStream.unread, h']
  fun_induction readUntil n deadline p with
  | case1 p hc =>
    obtain ⟨rfl, rfl⟩ := Prod.mk.inj h
    simp
  | case2 p hc e p' hs =>
    obtain ⟨rfl, rfl⟩ := Prod.mk.inj h
    simp [same hs]
  | case3 p hc span p' hs e stream ht =>
    obtain ⟨rfl, rfl⟩ := Prod.mk.inj h
    simp [same' ht, same hs]
  | case4 p hc span p' hs stream ht stream' hr =>
    obtain ⟨rfl, rfl⟩ := Prod.mk.inj h
    have h₁ := (ByteStream.unread_read hr).1
    rw [same' ht, same hs] at h₁
    simp [h₁]
  | case5 p hc span p' hs stream ht b bytes stream' hr =>
    obtain ⟨rfl, rfl⟩ := Prod.mk.inj h
    have h₁ := (ByteStream.unread_read hr).2 _ rfl
    rw [same' ht, same hs] at h₁
    refine ⟨by simp only at h₁ ⊢; omega, fun bs hbs => ?_⟩
    obtain rfl := Except.ok.inj hbs
    refine ⟨ByteStream.length_read_le hr, ?_⟩
    simp only [List.length_cons] at h₁ ⊢
    omega
  | case6 p hc span p' hs stream ht e stream' hr hi ih =>
    have h₁ := (ByteStream.unread_read hr).1
    rw [same' ht, same hs] at h₁
    have h₂ := ih h
    simp only at h₂
    exact ⟨by omega, fun bs hbs => ⟨(h₂.2 bs hbs).1, by have := (h₂.2 bs hbs).2; omega⟩⟩
  | case7 p hc span p' hs stream ht e stream' hr hi =>
    obtain ⟨rfl, rfl⟩ := Prod.mk.inj h
    have h₁ := (ByteStream.unread_read hr).1
    rw [same' ht, same hs] at h₁
    simp [h₁]

instance : Link StreamLink where
  now p := p.stream.glance
  write := write
  readAvailable := readAvailable
  writeAll := writeAll
  supply p := p.stream.unread
  length_le_of_read {n deadline p p' bytes} h := by
    unfold readAvailable at h
    split at h
    · obtain ⟨rfl, -⟩ : _ ∧ _ := by simpa using h
      simp
    · exact ((unread_readUntil h).2 _ rfl).1
  supply_le_of_read {n deadline p p' r} h := by
    unfold readAvailable at h
    split at h
    · obtain ⟨-, rfl⟩ := Prod.mk.inj h
      exact Nat.le_refl _
    · exact (unread_readUntil h).1
  supply_lt_of_read {n deadline p p' bytes} hn h := by
    unfold readAvailable at h
    split at h
    · omega
    · exact ((unread_readUntil h).2 _ rfl).2

/-- The text that shows the state of a stream link, without its stream. -/
def describe (p : StreamLink) : String :=
  "StreamPort \x7b config: " ++ p.config.describe ++ ", cancelled: " ++
    toString p.stream.cancelled ++ " \x7d"

end StreamLink

end FramedLink
