import FramedLink.Link.Stuffed

set_option autoImplicit false
set_option relaxedAutoImplicit false

/-!
# Decoding in place

A receiver is given a buffer and fills it from the front. Raw bytes are read into the part that
is still empty, and are decoded where they stand: two positions run over the buffer, one at the
next raw byte to be looked at, one at the place of the next decoded byte. No byte of data takes
less than one raw byte, so the second position never passes the first: **no raw byte is
overwritten before it has been looked at**.

## Main definitions

* `FramedLink.Window` — a buffer with its positions, which carries their order.
* `FramedLink.Link.decodeInPlace` — decode the raw bytes of a window.
* `FramedLink.Link.receiveSomeInto`, `FramedLink.Link.receiveInto` — one read; reads until the
  buffer is full.

## Main results

* `FramedLink.Link.decodeRead_decoded`, `FramedLink.Link.receiveFrom_decoded` — decoding in place
  gives the bytes, the error and the link that decoding into a list gives.
-/

namespace FramedLink

/-- Overwrite the bytes of a buffer from `start` on. -/
def overlay (buffer : Array UInt8) (start : Nat) : List UInt8 → Array UInt8
  | [] => buffer
  | b :: bytes => overlay (buffer.setIfInBounds start b) (start + 1) bytes

/-- Overwriting does not change the size of a buffer. -/
@[simp] theorem size_overlay (buffer : Array UInt8) (start : Nat) (bytes : List UInt8) :
    (overlay buffer start bytes).size = buffer.size := by
  fun_induction overlay buffer start bytes with
  | case1 => rfl
  | case2 buffer start b bytes ih => rw [ih, Array.size_setIfInBounds]

/-- Bytes that fit lie between what stood before them and what stood after them.

**Proof sketch.** Induction on the bytes. The first of them is put at `start`, and those behind it
from `start + 1` on. -/
theorem toList_overlay (buffer : Array UInt8) (start : Nat) (bytes : List UInt8)
    (h : start + bytes.length ≤ buffer.size) :
    (overlay buffer start bytes).toList =
      buffer.toList.take start ++ bytes ++ buffer.toList.drop (start + bytes.length) := by
  fun_induction overlay buffer start bytes with
  | case1 buffer start => simp
  | case2 buffer start b bytes ih =>
    simp only [List.length_cons] at h
    have hlen : start < buffer.toList.length := by rw [Array.length_toList]; omega
    rw [ih (by rw [Array.size_setIfInBounds]; omega), Array.toList_setIfInBounds,
      List.take_succ_eq_append_getElem (by simpa using hlen), List.getElem_set_self,
      List.take_set_of_le (Nat.le_refl _), List.drop_set_of_lt (by omega)]
    simp [Nat.add_assoc, Nat.add_comm 1]

/-! ## Windows -/

/-- A buffer that is being filled. Below `written` it holds decoded bytes; from `read` up to
`stop`, raw bytes still to be looked at. -/
structure Window where
  /-- The bytes. -/
  buffer : Array UInt8
  /-- The place of the next decoded byte. -/
  written : Nat
  /-- The place of the next raw byte. -/
  read : Nat
  /-- The end of the raw bytes. -/
  stop : Nat
  /-- Decoding does not overtake reading. -/
  written_le_read : written ≤ read
  /-- Reading does not run past the raw bytes. -/
  read_le_stop : read ≤ stop
  /-- The raw bytes lie inside the buffer. -/
  stop_le_size : stop ≤ buffer.size

namespace Window

/-- A buffer of which nothing is filled. -/
def ofBuffer (buffer : Array UInt8) : Window :=
  ⟨buffer, 0, 0, 0, Nat.le_refl 0, Nat.le_refl 0, Nat.zero_le _⟩

/-- How many bytes are missing until the buffer is full. -/
def missing (w : Window) : Nat := w.buffer.size - w.written

/-- The decoded bytes. -/
def decoded (w : Window) : List UInt8 := w.buffer.toList.take w.written

/-- The raw bytes still to be looked at. -/
def raw (w : Window) : List UInt8 := (w.buffer.toList.take w.stop).drop w.read

/-- Put the bytes of a read behind the decoded ones. -/
def load (w : Window) (bytes : List UInt8) (h : bytes.length ≤ w.missing) : Window where
  buffer := overlay w.buffer w.written bytes
  written := w.written
  read := w.written
  stop := w.written + bytes.length
  written_le_read := Nat.le_refl _
  read_le_stop := Nat.le_add_right _ _
  stop_le_size := by
    have := w.written_le_read
    have := w.read_le_stop
    have := w.stop_le_size
    simp only [missing] at h
    rw [size_overlay]
    omega

/-- Replace the next `n` raw bytes by the byte that they stand for. -/
def put (w : Window) (n : Nat) (value : UInt8) (hn : 0 < n) (h : w.read + n ≤ w.stop) :
    Window where
  buffer := w.buffer.set w.written value (by
    have := w.written_le_read
    have := w.stop_le_size
    omega)
  written := w.written + 1
  read := w.read + n
  stop := w.stop
  written_le_read := by have := w.written_le_read; omega
  read_le_stop := h
  stop_le_size := by rw [Array.size_set]; exact w.stop_le_size

/-- The decoded bytes lie inside the buffer. -/
theorem written_le_size (w : Window) : w.written ≤ w.buffer.size := by
  have := w.written_le_read
  have := w.read_le_stop
  have := w.stop_le_size
  omega

/-- The number of the decoded bytes. -/
@[simp] theorem length_decoded (w : Window) : w.decoded.length = w.written := by
  simp [decoded, w.written_le_size]

/-- In a fresh window nothing has been decoded. -/
@[simp] theorem decoded_ofBuffer (buffer : Array UInt8) : (ofBuffer buffer).decoded = [] := rfl

/-- In a fresh window everything is missing. -/
@[simp] theorem missing_ofBuffer (buffer : Array UInt8) :
    (ofBuffer buffer).missing = buffer.size := rfl

/-- A full window is decoded throughout. -/
theorem decoded_eq_toList (w : Window) (h : w.missing = 0) : w.decoded = w.buffer.toList := by
  have := w.written_le_size
  simp only [missing] at h
  exact List.take_of_length_le (by rw [Array.length_toList]; omega)

/-- Loading raw bytes does not change the size of the buffer. -/
@[simp] theorem size_load (w : Window) (bytes : List UInt8) (h : bytes.length ≤ w.missing) :
    (w.load bytes h).buffer.size = w.buffer.size := size_overlay _ _ _

/-- Loading raw bytes leaves the decoded ones. -/
@[simp] theorem decoded_load (w : Window) (bytes : List UInt8) (h : bytes.length ≤ w.missing) :
    (w.load bytes h).decoded = w.decoded := by
  have := w.written_le_size
  simp only [missing] at h
  simp only [decoded, load]
  rw [toList_overlay _ _ _ (by omega), List.append_assoc,
    List.take_append_of_le_length (by simp; omega), List.take_take, Nat.min_self]

/-- The raw bytes of a window are those that have been loaded. -/
@[simp] theorem raw_load (w : Window) (bytes : List UInt8) (h : bytes.length ≤ w.missing) :
    (w.load bytes h).raw = bytes := by
  have := w.written_le_size
  simp only [missing] at h
  have hlen : (w.buffer.toList.take w.written).length = w.written := by simp; omega
  simp only [raw, load]
  rw [toList_overlay _ _ _ (by omega), List.take_append_of_le_length (by simp; omega),
    List.take_of_length_le (by rw [List.length_append]; omega),
    List.drop_append_of_le_length (by omega),
    List.drop_of_length_le (by omega), List.nil_append]

/-- Storing a decoded byte does not change the size of the buffer. -/
@[simp] theorem size_put (w : Window) (n : Nat) (value : UInt8) (hn : 0 < n)
    (h : w.read + n ≤ w.stop) : (w.put n value hn h).buffer.size = w.buffer.size := by
  simp only [put, Array.size_set]

/-- A decoded byte is stored behind the ones before it. -/
theorem decoded_put (w : Window) (n : Nat) (value : UInt8) (hn : 0 < n)
    (h : w.read + n ≤ w.stop) : (w.put n value hn h).decoded = w.decoded ++ [value] := by
  have hlt : w.written < w.buffer.toList.length := by
    have := w.written_le_read
    have := w.stop_le_size
    rw [Array.length_toList]
    omega
  simp only [decoded, put, Array.toList_set]
  rw [List.take_succ_eq_append_getElem (by simpa using hlt), List.getElem_set_self,
    List.take_set_of_le (Nat.le_refl _)]

/-- Storing a decoded byte leaves the raw bytes behind the used ones as they are. -/
theorem raw_put (w : Window) (n : Nat) (value : UInt8) (hn : 0 < n)
    (h : w.read + n ≤ w.stop) : (w.put n value hn h).raw = w.raw.drop n := by
  have := w.written_le_read
  simp only [raw, put, Array.toList_set]
  rw [List.take_set, List.drop_set_of_lt (by omega), List.drop_drop]

/-- Without raw bytes, nothing is left to be looked at. -/
theorem raw_eq_nil (w : Window) (h : ¬ w.read < w.stop) : w.raw = [] :=
  List.drop_of_length_le (by simp; omega)

/-- The raw bytes are those of the buffer from the place of reading on. -/
theorem drop_raw (w : Window) (n : Nat) (h : w.read + n < w.stop)
    (h' : w.read + n < w.buffer.size) :
    w.raw.drop n = w.buffer[w.read + n] :: w.raw.drop (n + 1) := by
  simp only [raw, List.drop_drop]
  rw [List.drop_eq_getElem_cons (by simp; omega), List.getElem_take, Array.getElem_toList]
  rfl

/-- The first raw byte. -/
theorem raw_eq_cons (w : Window) (h : w.read < w.stop) (h' : w.read < w.buffer.size) :
    w.raw = w.buffer[w.read] :: w.raw.drop 1 := w.drop_raw 0 h h'

/-- The last raw byte. -/
theorem raw_eq_singleton (w : Window) (h : w.read < w.stop) (h' : ¬ w.read + 1 < w.stop)
    (hsize : w.read < w.buffer.size) : w.raw = [w.buffer[w.read]] := by
  rw [w.raw_eq_cons h hsize, List.drop_of_length_le (by simp [raw]; omega)]

end Window

/-! ## Receiving into a window -/

namespace Link

open Stuffing

variable {σ : Type} [Link σ]

/-- Decode the raw bytes of a window in place. The second half of a pair that is cut off by
their end is fetched from the link. -/
def decodeInPlace (deadline : Deadline) (w : Window) (link : σ) :
    Except FrameError Unit × Window × σ :=
  if h : w.read < w.stop then
    have hsize : w.read < w.buffer.size := Nat.lt_of_lt_of_le h w.stop_le_size
    if w.buffer[w.read] = escape then
      if h' : w.read + 1 < w.stop then
        have hsize' : w.read + 1 < w.buffer.size := Nat.lt_of_lt_of_le h' w.stop_le_size
        match decodeCode w.buffer[w.read + 1] with
        | .ok value => decodeInPlace deadline (w.put 2 value (by decide) h') link
        | .error e => (.error e, w, link)
      else
        match readByte deadline link with
        | (.error e, link) => (.error (.link e), w, link)
        | (.ok code, link) =>
          match decodeCode code with
          | .ok value => decodeInPlace deadline (w.put 1 value (by decide) h) link
          | .error e => (.error e, w, link)
    else decodeInPlace deadline (w.put 1 w.buffer[w.read] (by decide) h) link
  else (.ok (), w, link)
termination_by w.stop - w.read
decreasing_by all_goals simp only [Window.put]; omega

/-- Nothing happens to a window without raw bytes. -/
theorem decodeInPlace_of_not_lt (deadline : Deadline) (w : Window) (link : σ)
    (h : ¬ w.read < w.stop) : decodeInPlace deadline w link = (.ok (), w, link) := by
  rw [decodeInPlace, dif_neg h]

/-- Decoding in place does not change the size of the buffer. -/
theorem size_decodeInPlace (deadline : Deadline) (w : Window) (link : σ) :
    (decodeInPlace deadline w link).2.1.buffer.size = w.buffer.size := by
  fun_induction decodeInPlace deadline w link <;> simp_all

/-- **Decoding in place is decoding the raw bytes behind those decoded before.**

**Proof sketch.** Induction on the course of the decoding. Each step takes a plain byte or a pair
off the raw bytes and puts what it stands for behind the decoded ones. -/
theorem decodeRead_decoded (deadline : Deadline) (w : Window) (link : σ) :
    decodeRead deadline w.decoded.reverse w.raw link =
      let (r, w', link') := decodeInPlace deadline w link
      (r.map fun _ => w'.decoded, link') := by
  fun_induction decodeInPlace deadline w link with
  | case1 w link h hsize hb h' hsize' value hv ih =>
    rw [w.raw_eq_cons h hsize, hb, w.drop_raw 1 h' hsize', decodeRead]
    simpa [hv, Window.decoded_put, Window.raw_put] using ih
  | case2 w link h hsize hb h' hsize' e he =>
    rw [w.raw_eq_cons h hsize, hb, w.drop_raw 1 h' hsize', decodeRead]
    simp [he, Except.map]
  | case3 w link h hsize hb h' e link' hr =>
    rw [w.raw_eq_singleton h h' hsize, hb, decodeRead]
    simp [hr, Except.map]
  | case4 w link h hsize hb h' code link' hr value hv ih =>
    rw [w.raw_eq_singleton h h' hsize, hb, decodeRead]
    rw [decodeInPlace_of_not_lt _ _ _ (by simp only [Window.put]; omega)]
    simp [hr, hv, Except.map, Window.decoded_put]
  | case5 w link h hsize hb h' code link' hr e he =>
    rw [w.raw_eq_singleton h h' hsize, hb, decodeRead]
    simp [hr, he, Except.map]
  | case6 w link h hsize hb ih =>
    rw [w.raw_eq_cons h hsize, decodeRead.eq_def]
    simpa [hb, Window.decoded_put, Window.raw_put] using ih
  | case7 w link h =>
    rw [w.raw_eq_nil h, decodeRead]
    simp [Except.map]

/-! ## Reading into a window -/

/-- Read once, asking for the bytes that are missing, and decode in place what was read. -/
def receiveSomeInto (deadline : Deadline) (w : Window) (link : σ) :
    Except FrameError Unit × Window × σ :=
  match h : readAvailable w.missing deadline link with
  | (.error e, link) => (.error (.link e), w, link)
  | (.ok raw, link) => decodeInPlace deadline (w.load raw (length_le_of_read h)) link

/-- **A read into a window adds to it what a read decodes.** -/
theorem receiveSome_decoded (deadline : Deadline) (w : Window) (link : σ) :
    ((receiveSome w.missing deadline link).1.map (w.decoded ++ ·),
        (receiveSome w.missing deadline link).2) =
      let (r, w', link') := receiveSomeInto deadline w link
      (r.map fun _ => w'.decoded, link') := by
  rcases hs : receiveSomeInto deadline w link with ⟨r, w', link'⟩
  unfold receiveSomeInto at hs
  split at hs
  · next e q hr =>
    cases hs
    simp [receiveSome, hr, Except.map]
  · next raw q hr =>
    have h := decodeRead_decoded deadline (w.load raw (length_le_of_read hr)) q
    rw [decodeRead_eq, Window.decoded_load, Window.raw_load, List.reverse_reverse, hs] at h
    rw [receiveSome, hr]
    exact h

/-- A read into a window does not change the size of the buffer. -/
theorem size_receiveSomeInto (deadline : Deadline) (w : Window) (link : σ) :
    (receiveSomeInto deadline w link).2.1.buffer.size = w.buffer.size := by
  unfold receiveSomeInto
  split
  · rfl
  · rw [size_decodeInPlace, Window.size_load]

/-- A read into a window that succeeds has decoded some bytes. -/
theorem receiveSome_eq_ok {deadline : Deadline} {w w' : Window} {link link' : σ}
    (h : receiveSomeInto deadline w link = (.ok (), w', link')) :
    ∃ bytes, receiveSome w.missing deadline link = (.ok bytes, link') ∧
      w'.decoded = w.decoded ++ bytes := by
  have hd := receiveSome_decoded deadline w link
  rw [h] at hd
  obtain ⟨h₁, h₂⟩ := Prod.mk.inj hd
  cases hr : (receiveSome w.missing deadline link).1 with
  | error e => rw [hr] at h₁; cases h₁
  | ok bytes =>
    rw [hr] at h₁
    exact ⟨bytes, Prod.ext hr h₂, (Except.ok.inj h₁).symm⟩

/-- Read into a window until its buffer is full. A read that yields nothing is repeated. -/
def receiveInto (deadline : Deadline) (w : Window) (link : σ) :
    Except FrameError Unit × Window × σ :=
  if _more : 0 < w.missing then
    match _read : receiveSomeInto deadline w link with
    | (.error e, w', link') => (.error e, w', link')
    | (.ok (), w', link') => receiveInto deadline w' link'
  else (.ok (), w, link)
termination_by supply link
decreasing_by
  obtain ⟨bytes, h, -⟩ := receiveSome_eq_ok _read
  exact (supply_receiveSome h).2 _more rfl

/-- **Receiving into a window fills its buffer with the data received.**

**Proof sketch.** Induction on the reads. A read that decodes to some bytes makes the missing part
of the window shorter by so many, which is what the receipt still asks for. -/
theorem receiveFrom_decoded (deadline : Deadline) (w : Window) (link : σ) :
    receiveFrom w.decoded.reverse w.missing deadline link =
      let (r, w', link') := receiveInto deadline w link
      (r.map fun _ => w'.buffer.toList, link') := by
  fun_induction receiveInto deadline w link with
  | case1 w link hmore e w' link' hr =>
    have hd := receiveSome_decoded deadline w link
    rw [hr] at hd
    obtain ⟨h₁, h₂⟩ := Prod.mk.inj hd
    rw [receiveFrom, dif_pos hmore]
    split
    · next e' q hq =>
      rw [hq] at h₁ h₂
      obtain rfl := Except.error.inj h₁
      exact Prod.ext rfl h₂
    · next bytes q hq => rw [hq] at h₁; cases h₁
  | case2 w link hmore w' link' hr ih =>
    obtain ⟨bytes, hs, hdec⟩ := receiveSome_eq_ok hr
    have hsize := size_receiveSomeInto deadline w link
    rw [hr] at hsize
    have hlen : w'.written = w.written + bytes.length := by
      rw [← w'.length_decoded, hdec, List.length_append, w.length_decoded]
    rw [receiveFrom, dif_pos hmore]
    split
    · next e q hq => rw [hs] at hq; cases hq
    · next bytes' q hq =>
      rw [hs] at hq
      obtain ⟨h₁, rfl⟩ := Prod.mk.inj hq
      obtain rfl := Except.ok.inj h₁
      rw [← ih, hdec, List.reverse_append]
      congr 1
      simp only [Window.missing, hsize, hlen]
      omega
  | case3 w link hmore =>
    rw [receiveFrom, dif_neg hmore, List.reverse_reverse, w.decoded_eq_toList (by omega)]
    rfl

/-- Receiving as much data as a buffer holds is filling the buffer, whatever stood in it. -/
theorem receiveStuffed_size (deadline : Deadline) (buffer : Array UInt8) (link : σ) :
    receiveStuffed buffer.size deadline link =
      let (r, w, link') := receiveInto deadline (.ofBuffer buffer) link
      (r.map fun _ => w.buffer.toList, link') :=
  receiveFrom_decoded deadline (.ofBuffer buffer) link

end Link

end FramedLink
