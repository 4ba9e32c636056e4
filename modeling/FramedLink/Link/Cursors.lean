import FramedLink.Link.Window

set_option autoImplicit false
set_option relaxedAutoImplicit false

/-!
# Decoding in place with plain cursors

A window carries the order of its positions, and a link the end of its supply. Here nothing is
carried: two plain cursors run over a plain buffer, and the port below is anything that can be
read. It may yield bytes for ever, or none at all, or more than it was asked for. What a window
excludes is therefore a result of its own here: **every access to the buffer is checked, and every
read is paid from a budget of rounds.**

## Main definitions

* `FramedLink.Reader` — a port that can be read, and nothing else.
* `FramedLink.Reader.Obliging` — reads yield at least one byte, and no more than asked for.
* `FramedLink.Halt` — why decoding comes to a halt, an access outside of the buffer included.
* `FramedLink.Cursors.step`, `FramedLink.Cursors.run` — decode one byte in place; decode all that
  was read.
* `FramedLink.Cursors.receive` — one read, decoded in place.
* `FramedLink.Filling.fill` — rounds of reading until a buffer is full.
-/

namespace FramedLink

open Stuffing

/-! ## Ports -/

/-- A port that can be read: what comes of asking it for up to so many bytes. -/
def Reader (σ : Type) : Type := Nat → σ → Except LinkError (List UInt8) × σ

namespace Reader

variable {σ : Type}

/-- The reads of a link with a deadline. -/
def ofLink [Link σ] (deadline : Deadline) : Reader σ := fun n link =>
  Link.readAvailable n deadline link

/-- Read one byte. A read that yields nothing means that the other end is gone. -/
def byte (read : Reader σ) (s : σ) : Except LinkError UInt8 × σ :=
  match read 1 s with
  | (.error e, s) => (.error e, s)
  | (.ok [], s) => (.error .closed, s)
  | (.ok (b :: _), s) => (.ok b, s)

/-- Asked for some bytes, the port yields at least one of them and no more than that, or fails. -/
def Obliging (read : Reader σ) : Prop :=
  ∀ ⦃n : Nat⦄ ⦃s s' : σ⦄ ⦃bytes : List UInt8⦄, 0 < n → read n s = (.ok bytes, s') →
    1 ≤ bytes.length ∧ bytes.length ≤ n

end Reader

/-! ## Cursors -/

/-- Why decoding in place comes to a halt. -/
inductive Halt where
  /-- An access is outside of the buffer. -/
  | outside
  /-- The budget of rounds is used up before the buffer is full. -/
  | unfinished
  /-- The port fails, or what it yields cannot be decoded. -/
  | failed (e : FrameError)
  deriving DecidableEq, Repr

/-- A buffer and the cursors over it, with no order among them. -/
structure Cursors where
  /-- The bytes. -/
  buffer : Array UInt8
  /-- The place of the next decoded byte. -/
  written : Nat
  /-- The place of the next raw byte. -/
  read : Nat
  /-- The number of raw bytes. -/
  stop : Nat
  deriving DecidableEq, Repr

namespace Cursors

variable {σ : Type}

/-- The cursors over a buffer at whose start the bytes of a read have been put. -/
def load (dest : Array UInt8) (raw : List UInt8) : Cursors := ⟨overlay dest 0 raw, 0, 0, raw.length⟩

/-- The byte at a place. -/
def look (c : Cursors) (i : Nat) : Except Halt UInt8 :=
  match c.buffer[i]? with
  | some b => .ok b
  | none => .error .outside

/-- Replace the next `n` raw bytes by the byte that they stand for. -/
def store (c : Cursors) (n : Nat) (value : UInt8) : Except Halt Cursors :=
  if c.written < c.buffer.size then
    .ok { c with
      buffer := c.buffer.setIfInBounds c.written value
      written := c.written + 1
      read := c.read + n }
  else .error .outside

/-- How many of the next raw bytes stand for a byte, and for which, given the second half of a
pair. -/
def complete (n : Nat) (code : UInt8) : Except Halt (Nat × UInt8) :=
  match decodeCode code with
  | .ok value => .ok (n, value)
  | .error e => .error (.failed e)

/-- How many of the next raw bytes stand for a byte, and for which. The second half of a pair that
is cut off by their end is fetched from the port. -/
def next (read : Reader σ) (c : Cursors) (s : σ) : Except Halt (Nat × UInt8) × σ :=
  match c.look c.read with
  | .error e => (.error e, s)
  | .ok b =>
    if b = escape then
      if c.read + 1 < c.stop then
        match c.look (c.read + 1) with
        | .error e => (.error e, s)
        | .ok code => (complete 2 code, s)
      else
        match read.byte s with
        | (.error e, s) => (.error (.failed (.link e)), s)
        | (.ok code, s) => (complete 1 code, s)
    else (.ok (1, b), s)

/-- Decode one byte. -/
def step (read : Reader σ) (c : Cursors) (s : σ) : Except Halt Cursors × σ :=
  match next read c s with
  | (.error e, s) => (.error e, s)
  | (.ok (n, value), s) => (c.store n value, s)

/-- There is a raw byte, and decoding it leads from one state to the other. -/
def Steps (read : Reader σ) (p q : Cursors × σ) : Prop :=
  p.1.read < p.1.stop ∧ step read p.1 p.2 = (.ok q.1, q.2)

/-- Completing a pair does not change how many raw bytes are used. -/
theorem complete_eq_ok {n k : Nat} {code value : UInt8} (h : complete n code = .ok (k, value)) :
    k = n := by
  unfold complete at h
  split at h
  · cases h
    rfl
  · cases h

/-- Completing a pair can only fail because of the byte that completes it. -/
theorem complete_eq_error {n : Nat} {code : UInt8} {e : Halt} (h : complete n code = .error e) :
    ∃ f, e = .failed f ∧ decodeCode code = .error f := by
  unfold complete at h
  split at h
  · cases h
  · next f hf => exact ⟨f, (Except.error.inj h).symm, hf⟩

/-- A byte is decoded from at least one raw byte, and from raw bytes only. -/
theorem next_eq_ok {read : Reader σ} {c : Cursors} {s s' : σ} {n : Nat} {value : UInt8}
    (hraw : c.read < c.stop) (h : next read c s = (.ok (n, value), s')) :
    0 < n ∧ c.read + n ≤ c.stop := by
  unfold next at h
  split at h
  · cases h
  split at h
  · split at h
    · next hpair =>
      split at h
      · cases h
      · obtain rfl := complete_eq_ok (Prod.mk.inj h).1
        exact ⟨by omega, hpair⟩
    · split at h
      · cases h
      · obtain rfl := complete_eq_ok (Prod.mk.inj h).1
        exact ⟨by omega, hraw⟩
  · cases h
    exact ⟨by omega, hraw⟩

/-- Storing a byte moves both cursors and changes the buffer in one place. -/
theorem store_eq_ok {c c' : Cursors} {n : Nat} {value : UInt8} (h : c.store n value = .ok c') :
    c.written < c.buffer.size ∧
      c' = ⟨c.buffer.setIfInBounds c.written value, c.written + 1, c.read + n, c.stop⟩ := by
  unfold store at h
  split at h
  · next hlt => exact ⟨hlt, (Except.ok.inj h).symm⟩
  · cases h

/-- **All that a step can do.** -/
theorem step_eq_ok {read : Reader σ} {c c' : Cursors} {s s' : σ} (hraw : c.read < c.stop)
    (h : step read c s = (.ok c', s')) :
    c.written < c.buffer.size ∧ ∃ n value, 0 < n ∧ c.read + n ≤ c.stop ∧
      c' = ⟨c.buffer.setIfInBounds c.written value, c.written + 1, c.read + n, c.stop⟩ := by
  unfold step at h
  split at h
  · cases h
  · next n value s₁ hnext =>
    obtain ⟨hstore, -⟩ := Prod.mk.inj h
    obtain ⟨hn, hle⟩ := next_eq_ok hraw hnext
    obtain ⟨hlt, hc'⟩ := store_eq_ok hstore
    exact ⟨hlt, n, value, hn, hle, hc'⟩

/-- Decode all raw bytes. -/
def run (read : Reader σ) (c : Cursors) (s : σ) : Except Halt Unit × Cursors × σ :=
  if _raw : c.read < c.stop then
    match _step : step read c s with
    | (.error e, s) => (.error e, c, s)
    | (.ok c', s) => run read c' s
  else (.ok (), c, s)
termination_by c.stop - c.read
decreasing_by
  obtain ⟨-, n, value, hn, -, rfl⟩ := step_eq_ok _raw _step
  dsimp only
  omega

/-! ## Reads -/

/-- Read once into a buffer, asking for as many bytes as it holds, and decode in place what was
read. The result is the number of bytes decoded. -/
def receive (read : Reader σ) (dest : Array UInt8) (s : σ) :
    Except Halt Nat × Array UInt8 × σ :=
  match read dest.size s with
  | (.error e, s) => (.error (.failed (.link e)), dest, s)
  | (.ok raw, s) =>
    let (r, c, s) := (load dest raw).run read s
    (r.map fun _ => c.written, c.buffer, s)

end Cursors

/-- A buffer that is filled from the front. -/
structure Filling where
  /-- The bytes. -/
  dest : Array UInt8
  /-- How many of them have been received. -/
  filled : Nat
  deriving DecidableEq, Repr

namespace Filling

variable {σ : Type}

/-- A buffer of which nothing is filled. -/
def ofBuffer (dest : Array UInt8) : Filling := ⟨dest, 0⟩

/-- The part that is still to be filled. -/
def rest (f : Filling) : Array UInt8 := f.dest.extract f.filled

/-- Give back the part that was still to be filled, with `n` more bytes received. -/
def put (f : Filling) (part : Array UInt8) (n : Nat) : Filling :=
  ⟨f.dest.extract 0 f.filled ++ part, f.filled + n⟩

/-- Read into a buffer until it is full, in at most so many rounds. -/
def fill (read : Reader σ) (rounds : Nat) (f : Filling) (s : σ) :
    Except Halt Unit × Filling × σ :=
  if f.filled < f.dest.size then
    match rounds with
    | 0 => (.error .unfinished, f, s)
    | rounds + 1 =>
      match Cursors.receive read f.rest s with
      | (.error e, part, s) => (.error e, f.put part 0, s)
      | (.ok n, part, s) => fill read rounds (f.put part n) s
  else (.ok (), f, s)

end Filling

end FramedLink
