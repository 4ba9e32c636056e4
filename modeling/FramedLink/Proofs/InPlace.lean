import FramedLink.Link.Cursors
import FramedLink.Proofs.Reading
import Mathlib.Control.Monad.Basic
import Mathlib.Logic.Relation

set_option autoImplicit false
set_option relaxedAutoImplicit false

/-!
# Decoding in place is safe

Two cursors run over one buffer, at different speeds: that of reading moves by one or two places
with every byte that is decoded, that of writing by one, and where the raw bytes end inside a pair,
a byte comes in from outside. **The byte decoded next is always stored in front of the raw bytes
that are still to be looked at.** So nothing is read or written outside of the buffer, no raw byte
is lost, and every read adds a byte at least. This asks no more of a port than that it is obliging;
it need not come to an end.

## Main definitions

* `FramedLink.Cursors.InOrder` — the order of the cursors, and what of the buffer is untouched.
* `FramedLink.Cursors.Faulty` — the pairs that cannot be decoded.
* `FramedLink.Window.Over` — a window stands over plain cursors.

## Main results

* `FramedLink.Cursors.InOrder.step`, `FramedLink.Cursors.InOrder.steps` — the order is kept by a
  step, hence wherever the loop gets.
* `FramedLink.Cursors.receive_cases`, `FramedLink.Filling.fill_cases` — what a read and what rounds
  of reading can come to.
* `FramedLink.Window.receive_ofLink`, `FramedLink.Window.fill_ofLink` — on a link, plain cursors do
  what a window does.
* `FramedLink.Reader.Obliging.stays_inside` — all of this together.
-/

namespace FramedLink

open Stuffing

/-! ## What is in order -/

namespace Cursors

variable {σ : Type} {read : Reader σ} {dest : Array UInt8} {raw : List UInt8} {c c' : Cursors}
  {s s' : σ}

/-- **The cursors over the bytes of a read are in order.** -/
structure InOrder (dest : Array UInt8) (raw : List UInt8) (c : Cursors) : Prop where
  /-- Writing does not overtake reading. -/
  written_le_read : c.written ≤ c.read
  /-- Reading does not run past the raw bytes. -/
  read_le_stop : c.read ≤ c.stop
  /-- The raw bytes are those of the read. -/
  stop_eq : c.stop = raw.length
  /-- The raw bytes lie inside the buffer. -/
  stop_le_size : c.stop ≤ c.buffer.size
  /-- The buffer keeps its size. -/
  size_eq : c.buffer.size = dest.size
  /-- From the next raw byte on, the buffer is as the read has left it. -/
  untouched : c.buffer.toList.drop c.read = (raw ++ dest.toList.drop raw.length).drop c.read
  /-- Whoever has read has written. -/
  written_pos : 0 < c.read → 0 < c.written

/-- The bytes of a read that fit are in order. -/
lemma inOrder_load (h : raw.length ≤ dest.size) : InOrder dest raw (load dest raw) where
  written_le_read := Nat.le_refl _
  read_le_stop := Nat.zero_le _
  stop_eq := rfl
  stop_le_size := by
    rw [load, size_overlay]
    exact h
  size_eq := size_overlay dest 0 raw
  untouched := by
    rw [load, toList_overlay dest 0 raw (by omega), List.take_zero, List.nil_append, Nat.zero_add]
  written_pos := id

/-- **A step keeps the order.** The byte is stored in front of all raw bytes that are still to be
read. -/
lemma InOrder.step (h : InOrder dest raw c) (hraw : c.read < c.stop)
    (hstep : step read c s = (.ok c', s')) : InOrder dest raw c' := by
  obtain ⟨-, n, value, hn, hle, rfl⟩ := step_eq_ok hraw hstep
  have horder := h.written_le_read
  exact {
    written_le_read := by dsimp only; omega
    read_le_stop := hle
    stop_eq := h.stop_eq
    stop_le_size := by
      rw [Array.size_setIfInBounds]
      exact h.stop_le_size
    size_eq := by
      rw [Array.size_setIfInBounds]
      exact h.size_eq
    untouched := by
      dsimp only
      rw [Array.toList_setIfInBounds, List.drop_set_of_lt (by omega), ← List.drop_drop,
        h.untouched, List.drop_drop]
    written_pos := fun _ => Nat.succ_pos _ }

/-- **Whatever is reached by steps is in order.** -/
lemma InOrder.steps {p q : Cursors × σ} (h : InOrder dest raw p.1)
    (hsteps : Relation.ReflTransGen (Steps read) p q) : InOrder dest raw q.1 := by
  induction hsteps with
  | refl => exact h
  | tail _ hstep ih => exact ih.step hstep.1 hstep.2

/-- **The port is at fault for the pair at this place:** `escape` stands there, and either a byte
follows that completes no pair, or it is the last raw byte and the port fails to yield another. -/
def Faulty (raw : List UInt8) (i : Nat) (f : FrameError) : Prop :=
  raw[i]? = some escape ∧
    ((∃ code, decodeCode code = .error f) ∨ i + 1 = raw.length ∧ ∃ e, f = .link e)

/-- There is a byte at every place inside of the buffer. -/
lemma look_eq {i : Nat} (h : i < c.buffer.size) : c.look i = .ok c.buffer[i] := by
  rw [look, Array.getElem?_eq_getElem h]

/-- The next raw byte is the one that was read. -/
lemma InOrder.getElem?_raw (h : InOrder dest raw c) (hraw : c.read < c.stop) :
    raw[c.read]? = c.buffer[c.read]? := by
  have hstop := h.stop_eq
  calc raw[c.read]?
      = (raw ++ dest.toList.drop raw.length)[c.read]? :=
        (List.getElem?_append_left (by omega)).symm
    _ = ((raw ++ dest.toList.drop raw.length).drop c.read)[0]? := by rw [List.getElem?_drop]; rfl
    _ = (c.buffer.toList.drop c.read)[0]? := by rw [h.untouched]
    _ = c.buffer[c.read]? := by rw [List.getElem?_drop, Array.getElem?_toList]; rfl

/-- Cursors in order find the next byte inside of the buffer, unless the port is at fault. -/
lemma InOrder.next_eq_error {e : Halt} (h : InOrder dest raw c) (hraw : c.read < c.stop)
    (hnext : next read c s = (.error e, s')) : ∃ f, e = .failed f ∧ Faulty raw c.read f := by
  have hsize := h.stop_le_size
  have hread := h.getElem?_raw hraw
  rw [Array.getElem?_eq_getElem (by omega)] at hread
  rw [next, look_eq (by omega)] at hnext
  dsimp only at hnext
  split at hnext
  · next hescape =>
    rw [hescape] at hread
    split at hnext
    · rw [look_eq (by omega)] at hnext
      obtain ⟨f, he, hf⟩ := complete_eq_error (Prod.mk.inj hnext).1
      exact ⟨f, he, hread, .inl ⟨_, hf⟩⟩
    · split at hnext
      · have hstop := h.stop_eq
        exact ⟨_, (Except.error.inj (Prod.mk.inj hnext).1).symm, hread, .inr ⟨by omega, _, rfl⟩⟩
      · obtain ⟨f, he, hf⟩ := complete_eq_error (Prod.mk.inj hnext).1
        exact ⟨f, he, hread, .inl ⟨_, hf⟩⟩
  · cases hnext

/-- **A step from cursors in order stays inside of the buffer and makes progress, unless the port is
at fault.** It looks at one raw byte at least, and stores its byte in front of those that it has not
looked at. -/
lemma InOrder.step_cases (h : InOrder dest raw c) (hraw : c.read < c.stop) (s : σ) :
    (∃ c', (Cursors.step read c s).1 = .ok c' ∧ c.read < c'.read ∧ c.written < c'.read ∧
        c'.written = c.written + 1) ∨
      ∃ f, (Cursors.step read c s).1 = .error (.failed f) ∧ Faulty raw c.read f := by
  have horder := h.written_le_read
  have hsize := h.stop_le_size
  rw [Cursors.step]
  rcases hnext : next read c s with ⟨e | ⟨n, value⟩, s'⟩
  · obtain ⟨f, rfl, hf⟩ := h.next_eq_error hraw hnext
    exact .inr ⟨f, rfl, hf⟩
  · obtain ⟨hn, -⟩ := next_eq_ok hraw hnext
    dsimp only
    rw [store, if_pos (by omega)]
    exact .inl ⟨_, rfl, by dsimp only; omega, by dsimp only; omega, rfl⟩

/-! ## A whole read -/

/-- **A run is a sequence of steps.** It ends where no raw byte is left or where the next step
fails.

**Proof sketch.** Induction on the run, one step at a time. -/
lemma run_reaches {r : Except Halt Unit} (h : run read c s = (r, c', s')) :
    ∃ s₁, Relation.ReflTransGen (Steps read) (c, s) (c', s₁) ∧
      (r = .ok () ∧ ¬ c'.read < c'.stop ∨
        ∃ e, r = .error e ∧ c'.read < c'.stop ∧ step read c' s₁ = (.error e, s')) := by
  fun_induction run read c s with
  | case1 c s hraw e s₁ hstep =>
    cases h
    exact ⟨_, .refl, .inr ⟨e, rfl, hraw, hstep⟩⟩
  | case2 c s hraw c₁ s₁ hstep ih =>
    obtain ⟨s₂, hsteps, hend⟩ := ih h
    exact ⟨s₂, .head ⟨hraw, hstep⟩ hsteps, hend⟩
  | case3 c s hraw =>
    cases h
    exact ⟨_, .refl, .inl ⟨rfl, hraw⟩⟩

/-- A run goes on behind a byte that is decoded. -/
lemma run_of_next_ok {n : Nat} {value : UInt8} (hraw : c.read < c.stop)
    (hnext : next read c s = (.ok (n, value), s')) (hstore : c.store n value = .ok c') :
    run read c s = run read c' s' := by
  have hstep : step read c s = (.ok c', s') := by rw [step, hnext, ← hstore]
  rw [run, dif_pos hraw]
  split <;> next hq => rw [hstep] at hq; cases hq <;> rfl

/-- A run ends where no byte is decoded. -/
lemma run_of_next_error {e : Halt} (hraw : c.read < c.stop)
    (hnext : next read c s = (.error e, s')) : run read c s = (.error e, c, s') := by
  have hstep : step read c s = (.error e, s') := by rw [step, hnext]
  rw [run, dif_pos hraw]
  split <;> next hq => rw [hstep] at hq; cases hq <;> rfl

/-- A run from cursors in order keeps the order. It uses up the raw bytes, unless the port is at
fault. -/
lemma InOrder.run {r : Except Halt Unit} (h : InOrder dest raw c)
    (hrun : Cursors.run read c s = (r, c', s')) :
    InOrder dest raw c' ∧
      (r = .ok () ∧ c'.read = raw.length ∨
        ∃ f, r = .error (.failed f) ∧ Faulty raw c'.read f) := by
  obtain ⟨s₁, hsteps, hend⟩ := run_reaches hrun
  have h' : InOrder dest raw c' := h.steps hsteps
  refine ⟨h', ?_⟩
  rcases hend with ⟨rfl, hraw⟩ | ⟨e, rfl, hraw, hstep⟩
  · have := h'.read_le_stop
    have := h'.stop_eq
    exact .inl ⟨rfl, by omega⟩
  · rcases h'.step_cases hraw s₁ with ⟨c₁, hok, -⟩ | ⟨f, hfail, hf⟩
    · rw [hstep] at hok
      cases hok
    · rw [hstep] at hfail
      cases hfail
      exact .inr ⟨f, rfl, hf⟩

/-- A read into a buffer fails as the port does. -/
lemma receive_of_error {e : LinkError} (hread : read dest.size s = (.error e, s')) :
    receive read dest s = (.error (.failed (.link e)), dest, s') := by
  rw [receive, hread]

/-- The bytes that a port yields are decoded where they stand. -/
lemma receive_of_ok {s₁ : σ} {r : Except Halt Unit} (hread : read dest.size s = (.ok raw, s₁))
    (hrun : (load dest raw).run read s₁ = (r, c, s')) :
    receive read dest s = (r.map fun _ => c.written, c.buffer, s') := by
  rw [receive, hread]
  dsimp only
  rw [hrun]

/-- **What a read into a buffer can come to.** The buffer keeps its size. Either the port has
yielded bytes, and at least one and at most as many have been decoded, or the port has failed, or
what it has yielded is at fault. -/
lemma receive_cases (obliging : read.Obliging) (hdest : 0 < dest.size) (s : σ) :
    (receive read dest s).2.1.size = dest.size ∧
      ((∃ raw s₁ n, read dest.size s = (.ok raw, s₁) ∧ (receive read dest s).1 = .ok n ∧
          1 ≤ n ∧ n ≤ raw.length ∧ raw.length ≤ dest.size) ∨
        ∃ f, (receive read dest s).1 = .error (.failed f) ∧
          ((∃ e s₁, read dest.size s = (.error e, s₁) ∧ f = .link e) ∨
            ∃ raw s₁ i, read dest.size s = (.ok raw, s₁) ∧ Faulty raw i f)) := by
  rcases hread : read dest.size s with ⟨e | raw, s₁⟩
  · rw [receive_of_error hread]
    exact ⟨rfl, .inr ⟨_, rfl, .inl ⟨e, s₁, rfl, rfl⟩⟩⟩
  obtain ⟨hpos, hle⟩ := obliging hdest hread
  rcases hrun : (load dest raw).run read s₁ with ⟨r, c, s'⟩
  obtain ⟨horder, hend⟩ := (inOrder_load hle).run hrun
  rw [receive_of_ok hread hrun]
  refine ⟨horder.size_eq, ?_⟩
  rcases hend with ⟨rfl, hall⟩ | ⟨f, rfl, hf⟩
  · have := horder.written_le_read
    exact .inl ⟨raw, s₁, c.written, rfl, rfl, horder.written_pos (by omega), by omega, hle⟩
  · exact .inr ⟨f, rfl, .inr ⟨raw, s₁, c.read, rfl, hf⟩⟩

end Cursors

/-! ## Filling a buffer -/

namespace Filling

variable {σ : Type} {read : Reader σ} {f f' : Filling} {s s' : σ}

/-- The part that is still to be filled. -/
@[simp] lemma size_rest (f : Filling) : f.rest.size = f.dest.size - f.filled := by
  simp [rest]

/-- Filling does not change the size of the destination. -/
lemma size_put {part : Array UInt8} (hfilled : f.filled ≤ f.dest.size)
    (hpart : part.size = f.rest.size) (n : Nat) : (f.put part n).dest.size = f.dest.size := by
  rw [size_rest] at hpart
  simp only [put, Array.size_append, Array.size_extract]
  omega

/-- **What a round can come to.** The buffer keeps its size. Either bytes are added, and not more
than are missing, or the port is at fault. -/
lemma receive_rest (obliging : read.Obliging) {part : Array UInt8} {r : Except Halt Nat}
    (hmore : f.filled < f.dest.size) (h : Cursors.receive read f.rest s = (r, part, s')) :
    (∀ n, (f.put part n).dest.size = f.dest.size) ∧
      ((∃ n, r = .ok n ∧ 1 ≤ n ∧ f.filled + n ≤ f.dest.size) ∨
        ∃ e, r = .error (.failed e)) := by
  have hrest : 0 < f.rest.size := by
    rw [size_rest]
    omega
  obtain ⟨hsize, hcases⟩ := Cursors.receive_cases obliging hrest s
  rw [h] at hsize hcases
  refine ⟨fun n => size_put (Nat.le_of_lt hmore) hsize n, ?_⟩
  rcases hcases with ⟨raw, _, n, _, rfl, hpos, hle, hraw⟩ | ⟨e, hfail, -⟩
  · rw [size_rest] at hraw
    exact .inl ⟨n, rfl, hpos, by omega⟩
  · exact .inr ⟨e, hfail⟩

/-- **What filling a buffer can come to, whatever the budget.** The buffer keeps its size and is not
filled beyond its end. Every round adds a byte, so no more rounds are taken than bytes were
missing. It fails only with a round.

**Proof sketch.** Induction on the budget. A round that succeeds adds at least one byte and none
beyond the end, so the rounds are covered by the bytes that are filled; a round that fails is the
last one. -/
lemma fill_cases (obliging : read.Obliging) {rounds : Nat} {r : Except Halt Unit}
    (hfilled : f.filled ≤ f.dest.size) (h : fill read rounds f s = (r, f', s')) :
    f'.dest.size = f.dest.size ∧ f'.filled ≤ f.dest.size ∧
      (r = .ok () ∧ f'.filled = f.dest.size ∨
        r = .error .unfinished ∧ f.filled + rounds ≤ f'.filled ∧ f'.filled < f.dest.size ∨
        ∃ e rest s₁, r = .error (.failed e) ∧ 0 < rest.size ∧
          (Cursors.receive read rest s₁).1 = .error (.failed e)) := by
  fun_induction fill read rounds f s with
  | case1 f s hmore =>
    cases h
    exact ⟨rfl, hfilled, .inr (.inl ⟨rfl, Nat.le_refl _, hmore⟩)⟩
  | case2 f s hmore rounds e part s₁ hreceive =>
    obtain ⟨hsize, ⟨n, hn, -⟩ | ⟨e', he⟩⟩ := receive_rest obliging hmore hreceive
    · cases hn
    · cases h
      cases he
      refine ⟨hsize 0, hfilled, .inr (.inr ⟨e', f.rest, s, rfl, ?_, by rw [hreceive]⟩)⟩
      rw [size_rest]
      omega
  | case3 f s hmore rounds n part s₁ hreceive ih =>
    obtain ⟨hsize, ⟨n', hn, hpos, hle⟩ | ⟨e', he⟩⟩ := receive_rest obliging hmore hreceive
    · cases hn
      have hput : (f.put part n).filled = f.filled + n := rfl
      rw [hsize n, hput] at ih
      obtain ⟨hsize', hfilled', hend⟩ := ih hle h
      refine ⟨hsize', hfilled', ?_⟩
      rcases hend with hend | ⟨hr, hrounds, hlt⟩ | hend
      · exact .inl hend
      · exact .inr (.inl ⟨hr, by omega, hlt⟩)
      · exact .inr (.inr hend)
    · cases he
  | case4 rounds f s hmore =>
    cases h
    exact ⟨rfl, hfilled, .inl ⟨rfl, by omega⟩⟩

/-- **A budget of one round for each missing byte is enough.** -/
lemma fill_enough (obliging : read.Obliging) {rounds : Nat} (hfilled : f.filled ≤ f.dest.size)
    (hrounds : f.dest.size ≤ f.filled + rounds) (s : σ) :
    (fill read rounds f s).1 = .ok () ∨ ∃ e, (fill read rounds f s).1 = .error (.failed e) := by
  rcases h : fill read rounds f s with ⟨r, f', s'⟩
  obtain ⟨-, -, ⟨hr, -⟩ | ⟨-, hle, hlt⟩ | ⟨e, -, -, hfail, -⟩⟩ := fill_cases obliging hfilled h
  · exact .inl hr
  · omega
  · exact .inr ⟨e, hfail⟩

end Filling

/-! ## Windows over cursors -/

/-- What stands in front of a buffer is not overwritten with it. -/
lemma overlay_append (front dest : Array UInt8) (start : Nat) (bytes : List UInt8) :
    overlay (front ++ dest) (front.size + start) bytes = front ++ overlay dest start bytes := by
  induction bytes generalizing dest start with
  | nil => rfl
  | cons b bytes ih =>
    rw [overlay, overlay, Array.setIfInBounds_append_right (by omega), Nat.add_sub_cancel_left,
      Nat.add_assoc, ih]

namespace Window

/-- The buffer of a window, filled as far as it is decoded. -/
def filling (w : Window) : Filling := ⟨w.buffer, w.written⟩

/-- What is missing in a window is what is still to be filled. -/
lemma missing_eq (w : Window) : w.missing = w.filling.dest.size - w.filling.filled := rfl

/-- A window is still to be filled exactly if something is missing. -/
lemma filled_lt_iff (w : Window) : w.filling.filled < w.filling.dest.size ↔ 0 < w.missing := by
  rw [missing_eq]
  omega

/-- The part of a window that is still to be filled. -/
lemma size_rest (w : Window) : w.filling.rest.size = w.missing := w.filling.size_rest

/-- The part of a window that has been filled. -/
lemma size_front (w : Window) : (w.buffer.extract 0 w.written).size = w.written := by
  simp [w.written_le_size]

/-- The two parts make up the buffer. -/
lemma front_append_rest (w : Window) :
    w.buffer.extract 0 w.written ++ w.filling.rest = w.buffer := by
  rw [Filling.rest, filling, Array.extract_append_extract, Nat.min_eq_left (Nat.zero_le _),
    Nat.max_eq_right w.written_le_size, Array.extract_size]

end Window

/-- A window stands over plain cursors, behind a part that has been filled before. -/
structure Window.Over (front : Array UInt8) (w : Window) (c : Cursors) : Prop where
  buffer_eq : w.buffer = front ++ c.buffer
  written_eq : w.written = front.size + c.written
  read_eq : w.read = front.size + c.read
  stop_eq : w.stop = front.size + c.stop

namespace Window.Over

variable {σ : Type} {front : Array UInt8} {w w' : Window} {c : Cursors}

/-- The buffer of the window is that of the cursors behind the front. -/
lemma size_eq (h : w.Over front c) : w.buffer.size = front.size + c.buffer.size := by
  rw [h.buffer_eq, Array.size_append]

/-- If the window has raw bytes left, so have the cursors. -/
lemma lt_stop (h : w.Over front c) (hraw : w.read < w.stop) : c.read < c.stop := by
  rwa [h.read_eq, h.stop_eq, Nat.add_lt_add_iff_left] at hraw

/-- What stands in the window stands under the cursors. -/
lemma look_eq (h : w.Over front c) {i j : Nat} (hj : j < w.buffer.size)
    (hij : j = front.size + i) : c.look i = .ok w.buffer[j] := by
  have hlookup : w.buffer[j]? = c.buffer[i]? := by
    rw [h.buffer_eq, hij, Array.getElem?_append_right (by omega), Nat.add_sub_cancel_left]
  rw [Cursors.look, ← hlookup, Array.getElem?_eq_getElem hj]

/-- The bytes of a read are put at the same place. -/
lemma load {bytes : List UInt8} (hbytes : bytes.length ≤ w.missing) :
    (w.load bytes hbytes).Over (w.buffer.extract 0 w.written)
      (Cursors.load w.filling.rest bytes) := by
  have hoverlay := overlay_append (w.buffer.extract 0 w.written) w.filling.rest 0 bytes
  rw [w.front_append_rest, w.size_front] at hoverlay
  exact {
    buffer_eq := hoverlay
    written_eq := w.size_front.symm
    read_eq := w.size_front.symm
    stop_eq := congrArg (· + bytes.length) w.size_front.symm }

/-- A byte is stored at the same place. -/
lemma store (h : w.Over front c) {n : Nat} (value : UInt8) (hn : 0 < n)
    (hle : w.read + n ≤ w.stop) :
    ∃ c', c.store n value = .ok c' ∧ (w.put n value hn hle).Over front c' := by
  have := w.written_le_read
  have := w.stop_le_size
  have := h.size_eq
  have := h.written_eq
  have := h.read_eq
  refine ⟨_, if_pos (by omega), ?_, ?_, ?_, h.stop_eq⟩
  · have hset : (w.put n value hn hle).buffer = w.buffer.setIfInBounds w.written value := by
      rw [Array.setIfInBounds_def, dif_pos (by omega)]
      rfl
    rw [hset, h.buffer_eq, h.written_eq, Array.setIfInBounds_append_right (by omega),
      Nat.add_sub_cancel_left]
  · simp only [Window.put]
    omega
  · simp only [Window.put]
    omega

variable [Link σ] {deadline : Deadline} {link link' : σ}

/-- A byte that the reader of a link yields is read from the link. -/
lemma byte_ofLink : (Reader.ofLink deadline).byte link = Link.readByte deadline link := by
  unfold Reader.byte Link.readByte Reader.ofLink
  rcases Link.readAvailable 1 deadline link with ⟨_ | _ | _, _⟩ <;> rfl

/-- A byte other than `escape` stands for itself. -/
lemma next_plain (h : w.Over front c) (hsize : w.read < w.buffer.size)
    (hb : w.buffer[w.read] ≠ escape) :
    c.next (.ofLink deadline) link = (.ok (1, w.buffer[w.read]), link) := by
  rw [Cursors.next, h.look_eq hsize h.read_eq]
  exact if_neg hb

/-- A pair stands for the byte behind its second half. -/
lemma next_pair (h : w.Over front c) (hsize : w.read < w.buffer.size)
    (hb : w.buffer[w.read] = escape) (hpair : w.read + 1 < w.stop)
    (hsize' : w.read + 1 < w.buffer.size) :
    c.next (.ofLink deadline) link =
      (Cursors.complete 2 w.buffer[w.read + 1], link) := by
  have hread := h.read_eq
  have hstop := h.stop_eq
  rw [Cursors.next, h.look_eq hsize hread]
  dsimp only
  rw [if_pos hb, if_pos (by omega), h.look_eq hsize' (by omega)]

/-- The second half of a pair that is cut off is fetched from the link. -/
lemma next_cut (h : w.Over front c) (hsize : w.read < w.buffer.size)
    (hb : w.buffer[w.read] = escape) (hcut : ¬ w.read + 1 < w.stop) {r : Except LinkError UInt8}
    (hbyte : Link.readByte deadline link = (r, link')) :
    c.next (.ofLink deadline) link =
      ((r.mapError fun e => .failed (.link e)).bind (Cursors.complete 1), link') := by
  have hread := h.read_eq
  have hstop := h.stop_eq
  rw [Cursors.next, h.look_eq hsize hread]
  dsimp only
  rw [if_pos hb, if_neg (by omega), byte_ofLink, hbyte]
  cases r <;> rfl

/-- A run goes on behind a byte that is decoded and stored. -/
lemma run_put (h : w.Over front c) {n : Nat} {value : UInt8} (hn : 0 < n)
    (hle : w.read + n ≤ w.stop)
    (hnext : c.next (.ofLink deadline) link = (.ok (n, value), link')) :
    ∃ c', c.run (.ofLink deadline) link = c'.run (.ofLink deadline) link' ∧
      (w.put n value hn hle).Over front c' := by
  obtain ⟨c', hstore, hover⟩ := h.store value hn hle
  exact ⟨c', Cursors.run_of_next_ok (h.lt_stop (by omega)) hnext hstore, hover⟩

/-- **Decoding in place runs the cursors.**

**Proof sketch.** Induction on the course of the decoding. A step of the decoding and a step of the
cursors look at the same byte, fetch the second half of a pair in the same case, and store at the
same place. -/
lemma run (h : w.Over front c) {r : Except FrameError Unit}
    (hdecode : Link.decodeInPlace deadline w link = (r, w', link')) :
    ∃ c', c.run (.ofLink deadline) link = (r.mapError .failed, c', link') ∧ w'.Over front c' := by
  fun_induction Link.decodeInPlace deadline w link generalizing c with
  | case1 w link hraw hsize hb hpair hsize' value hv ih =>
    have hnext : c.next (.ofLink deadline) link = (.ok (2, value), link) := by
      rw [h.next_pair hsize hb hpair hsize', Cursors.complete, hv]
    obtain ⟨c₁, hrun, hover⟩ := h.run_put (by decide) hpair hnext
    rw [hrun]
    exact ih hover hdecode
  | case2 w link hraw hsize hb hpair hsize' e he =>
    have hnext : c.next (.ofLink deadline) link = (.error (.failed e), link) := by
      rw [h.next_pair hsize hb hpair hsize', Cursors.complete, he]
    cases hdecode
    exact ⟨c, Cursors.run_of_next_error (h.lt_stop hraw) hnext, h⟩
  | case3 w link hraw hsize hb hcut e link₁ hread =>
    cases hdecode
    exact ⟨c, Cursors.run_of_next_error (h.lt_stop hraw) (h.next_cut hsize hb hcut hread), h⟩
  | case4 w link hraw hsize hb hcut code link₁ hread value hv ih =>
    have hnext : c.next (.ofLink deadline) link = (.ok (1, value), link₁) := by
      rw [h.next_cut hsize hb hcut hread]
      simp only [Except.mapError, Except.bind, Cursors.complete, hv]
    obtain ⟨c₁, hrun, hover⟩ := h.run_put (by decide) hraw hnext
    rw [hrun]
    exact ih hover hdecode
  | case5 w link hraw hsize hb hcut code link₁ hread e he =>
    have hnext : c.next (.ofLink deadline) link = (.error (.failed e), link₁) := by
      rw [h.next_cut hsize hb hcut hread]
      simp only [Except.mapError, Except.bind, Cursors.complete, he]
    cases hdecode
    exact ⟨c, Cursors.run_of_next_error (h.lt_stop hraw) hnext, h⟩
  | case6 w link hraw hsize hb ih =>
    have hnext : c.next (.ofLink deadline) link = (.ok (1, w.buffer[w.read]), link) :=
      h.next_plain hsize hb
    obtain ⟨c₁, hrun, hover⟩ := h.run_put (by decide) hraw hnext
    rw [hrun]
    exact ih hover hdecode
  | case7 w link hraw =>
    cases hdecode
    rw [h.read_eq, h.stop_eq, Nat.add_lt_add_iff_left] at hraw
    exact ⟨c, by rw [Cursors.run, dif_neg hraw]; rfl, h⟩

end Window.Over

namespace Window

variable {σ : Type} [Link σ] {deadline : Deadline} {w w' : Window} {link link' : σ}
  {r : Except FrameError Unit}

/-- **A read into a window is a read into the part that is still to be filled.** -/
lemma receive_ofLink (h : Link.receiveSomeInto deadline w link = (r, w', link')) :
    ∃ n part, Cursors.receive (.ofLink deadline) w.filling.rest link =
        ((r.map fun _ => n).mapError .failed, part, link') ∧
      w'.filling = w.filling.put part n := by
  unfold Link.receiveSomeInto at h
  split at h
  · next e link₁ hread =>
    rw [← w.size_rest] at hread
    cases h
    refine ⟨0, _, Cursors.receive_of_error hread, ?_⟩
    exact congrArg (Filling.mk · w.written) w.front_append_rest.symm
  · next raw link₁ hread =>
    obtain ⟨c, hrun, hover⟩ := (Over.load (Link.length_le_of_read hread)).run h
    rw [← w.size_rest] at hread
    refine ⟨c.written, c.buffer, ?_, ?_⟩
    · rw [Cursors.receive_of_ok hread hrun]
      cases r <;> rfl
    · rw [filling, hover.buffer_eq, hover.written_eq, w.size_front]
      rfl

/-- **Receiving into a window is filling its buffer,** if the budget covers the missing bytes.

**Proof sketch.** Induction on the reads into the window. Each of them is one round, behind which
less is missing, so the budget still covers the missing bytes. -/
lemma fill_ofLink (obliging : (Reader.ofLink deadline : Reader σ).Obliging) {rounds : Nat}
    (hrounds : w.missing ≤ rounds) (h : Link.receiveInto deadline w link = (r, w', link')) :
    ∃ f, Filling.fill (.ofLink deadline) rounds w.filling link = (r.mapError .failed, f, link') ∧
      f.dest = w'.buffer := by
  fun_induction Link.receiveInto deadline w link generalizing rounds with
  | case1 w link hmore e w₁ link₁ hround =>
    obtain ⟨rounds, rfl⟩ := Nat.exists_eq_add_one.mpr (Nat.lt_of_lt_of_le hmore hrounds)
    obtain ⟨n, part, hreceive, hput⟩ := receive_ofLink hround
    cases h
    rw [Filling.fill, if_pos (w.filled_lt_iff.mpr hmore), hreceive]
    exact ⟨_, rfl, (congrArg Filling.dest hput).symm⟩
  | case2 w link hmore w₁ link₁ hround ih =>
    obtain ⟨rounds, rfl⟩ := Nat.exists_eq_add_one.mpr (Nat.lt_of_lt_of_le hmore hrounds)
    obtain ⟨n, part, hreceive, hput⟩ := receive_ofLink hround
    obtain ⟨hsize, ⟨n', hn, hpos, -⟩ | ⟨e, he⟩⟩ :=
      Filling.receive_rest obliging (w.filled_lt_iff.mpr hmore) hreceive
    · obtain rfl : n = n' := Except.ok.inj hn
      have hmissing : w₁.missing = w.missing - n := by
        rw [missing_eq, hput, hsize, missing_eq, Nat.sub_sub]
        rfl
      rw [Filling.fill, if_pos (w.filled_lt_iff.mpr hmore), hreceive]
      dsimp only [Except.map, Except.mapError]
      rw [← hput]
      exact ih (by omega) h
    · cases he
  | case3 w link hmore =>
    cases h
    unfold Filling.fill
    rw [if_neg fun hlt => hmore (w'.filled_lt_iff.mp hlt)]
    exact ⟨_, rfl, rfl⟩

/-- A read into a fresh window is a read into its buffer. -/
lemma receive_ofBuffer {dest : Array UInt8}
    (h : Link.receiveSomeInto deadline (.ofBuffer dest) link = (r, w', link')) :
    Cursors.receive (.ofLink deadline) dest link =
      ((r.map fun _ => w'.written).mapError .failed, w'.buffer, link') := by
  obtain ⟨n, part, hreceive, hput⟩ := receive_ofLink h
  obtain ⟨hbuffer, hwritten⟩ := Filling.mk.inj hput
  have hrest : (ofBuffer dest).filling.rest = dest := by simp [Filling.rest, filling, ofBuffer]
  rw [hrest] at hreceive
  rw [hreceive, hbuffer, hwritten]
  simp [filling, ofBuffer]

end Window

/-! ## Obliging ports -/

namespace Reader

variable {σ : Type}

open Cursors Filling

/-- Memory links are obliging. -/
lemma obliging_memoryLink (deadline : Deadline) :
    (ofLink deadline : Reader MemoryLink).Obliging := by
  intro n p q bytes hn h
  have hnil := MemoryLink.readAvailable_eq_nil_iff h
  refine ⟨List.length_pos_iff.mpr fun hbytes => ?_, Link.length_le_of_read h⟩
  exact Nat.ne_of_gt hn (hnil.mp hbytes)

/-- **Decoding in place stays inside of its buffer and makes progress, whatever an obliging port
yields,** for ever or not.

In a single read into a buffer that is not empty, every state that the loop reaches is in order:
the place of writing is at most that of reading, this is at most the number of the raw bytes, which
is at most the size of the buffer, and no raw byte has changed before it is looked at. The next step
finds every place that it asks for, and stores its byte in front of the raw bytes that it has not
looked at. It can only fail for a pair that is completed by a wrong byte or not at all. So the read
comes to a number of bytes between one and the number of the raw bytes, or the port is at fault.

Filling a buffer does not go beyond its end, whatever the budget, and fails only as a read does. If
the budget is the size of the buffer, the buffer is full at the end or a read has failed. On links,
all of this is what windows do.

**Proof sketch.** The order of the places holds after the load and is kept by every step, hence in
every state that is reached, and what the next step does follows from it. A round is
`receive_cases`, the filling of a buffer `fill_cases` and `fill_enough`, and on links they are the
reads into windows. -/
theorem Obliging.stays_inside {read : Reader σ} (obliging : read.Obliging) (dest : Array UInt8)
    (s : σ) :
    (0 < dest.size →
      (∀ raw s₁ c s₂, read dest.size s = (.ok raw, s₁) →
        Relation.ReflTransGen (Steps read) (load dest raw, s₁) (c, s₂) →
          InOrder dest raw c ∧
          (c.read < c.stop →
            (∃ c', (step read c s₂).1 = .ok c' ∧ c.read < c'.read ∧ c.written < c'.read ∧
                c'.written = c.written + 1) ∨
              ∃ f, (step read c s₂).1 = .error (.failed f) ∧ Faulty raw c.read f)) ∧
      ((∃ raw s₁ n, read dest.size s = (.ok raw, s₁) ∧ (receive read dest s).1 = .ok n ∧
          1 ≤ n ∧ n ≤ raw.length ∧ raw.length ≤ dest.size) ∨
        ∃ f, (receive read dest s).1 = .error (.failed f) ∧
          ((∃ e s₁, read dest.size s = (.error e, s₁) ∧ f = .link e) ∨
            ∃ raw s₁ i, read dest.size s = (.ok raw, s₁) ∧ Faulty raw i f))) ∧
    (∀ rounds r f s', fill read rounds (.ofBuffer dest) s = (r, f, s') →
      f.dest.size = dest.size ∧ f.filled ≤ dest.size ∧
      (r = .ok () ∧ f.filled = dest.size ∨
        r = .error .unfinished ∧ rounds ≤ f.filled ∧ f.filled < dest.size ∨
        ∃ e rest s₁, r = .error (.failed e) ∧ 0 < rest.size ∧
          (receive read rest s₁).1 = .error (.failed e))) ∧
    (∀ rounds, dest.size ≤ rounds →
      (fill read rounds (.ofBuffer dest) s).1 = .ok () ∨
        ∃ e, (fill read rounds (.ofBuffer dest) s).1 = .error (.failed e)) ∧
    (∀ [Link σ] (deadline : Deadline), read = .ofLink deadline →
      (∀ r w s', Link.receiveSomeInto deadline (.ofBuffer dest) s = (r, w, s') →
        receive read dest s = ((r.map fun _ => w.written).mapError .failed, w.buffer, s')) ∧
      ∀ r w s', Link.receiveInto deadline (.ofBuffer dest) s = (r, w, s') →
        ∃ f, fill read dest.size (.ofBuffer dest) s = (r.mapError .failed, f, s') ∧
          f.dest = w.buffer) := by
  refine ⟨fun hdest => ⟨fun raw s₁ c s₂ hread hsteps => ?_, (receive_cases obliging hdest s).2⟩,
    fun rounds r f s' h => ?_, fun rounds hrounds => ?_, ?_⟩
  · have horder : InOrder dest raw c := (inOrder_load (obliging hdest hread).2).steps hsteps
    exact ⟨horder, fun hraw => horder.step_cases hraw s₂⟩
  · simpa only [Filling.ofBuffer, Nat.zero_add] using fill_cases obliging (Nat.zero_le _) h
  · exact fill_enough obliging (Nat.zero_le _) (by rwa [Filling.ofBuffer, Nat.zero_add]) s
  · rintro _ deadline rfl
    exact ⟨fun r w s' h => Window.receive_ofBuffer h,
      fun r w s' h => Window.fill_ofLink obliging (Nat.le_refl _) h⟩

/-- A port that yields pairs for `marker` for ever, at most three bytes at a time. Its state is the
number of bytes that it has yielded. -/
def markers : Reader Nat := fun n s =>
  (.ok ((List.range (min n 3)).map fun i => if (s + i) % 2 = 0 then escape else markerCode),
    s + min n 3)

/-- This port never yields more than it is asked for. -/
lemma markers_obliging : markers.Obliging := by
  intro n s s' bytes hn h
  cases h
  rw [List.length_map, List.length_range]
  omega

/-- Three reads of this port fill a buffer of four bytes: the first ends inside a pair, for which a
byte more is fetched. On a memory link, too, a pair that is cut off by a pause is completed. -/
theorem markers_stays_inside :
    markers.Obliging ∧
      (∃ raw s₁ n, markers 4 0 = (.ok raw, s₁) ∧ (receive markers #[9, 9, 9, 9] 0).1 = .ok n ∧
        1 ≤ n ∧ n ≤ raw.length ∧ raw.length ≤ 4) ∧
      fill markers 3 (.ofBuffer #[9, 9, 9, 9]) 0 =
        (.ok (), ⟨#[marker, marker, marker, marker], 4⟩, 8) ∧
      let link : MemoryLink := { inbound := [.byte escape, .delay 3, .byte markerCode, .byte 7] }
      ∃ f link', fill (.ofLink ⟨5⟩) 2 (.ofBuffer #[9, 9]) link = (.ok (), f, link') ∧
        f.dest = #[marker, 7] := by
  refine ⟨markers_obliging, ?_, by decide +kernel, ?_⟩
  · obtain ⟨hreceive, -⟩ := markers_obliging.stays_inside #[9, 9, 9, 9] 0
    refine (hreceive (by decide)).2.resolve_right ?_
    rintro ⟨f, hf, -⟩
    have hok : (receive markers #[9, 9, 9, 9] 0).1 = .ok 2 := by decide +kernel
    rw [hok] at hf
    cases hf
  · intro link
    obtain ⟨-, -, -, hlink⟩ := (obliging_memoryLink ⟨5⟩).stays_inside #[9, 9] link
    obtain ⟨f, hfill, hdest⟩ := (hlink ⟨5⟩ rfl).2 _ _ _ rfl
    have hok : (Link.receiveInto ⟨5⟩ (.ofBuffer #[9, 9]) link).1 = .ok () := by decide +kernel
    have hbuffer : (Link.receiveInto ⟨5⟩ (.ofBuffer #[9, 9]) link).2.1.buffer = #[marker, 7] := by
      decide +kernel
    rw [hok] at hfill
    rw [hbuffer] at hdest
    exact ⟨f, _, hfill, hdest⟩

/-- A port that yields more than it was asked for leads out of the buffer, and one that yields
nothing uses up every budget. -/
example :
    let lavish : Reader Unit := fun n s => (.ok (List.replicate (n + 1) 7), s)
    let silent : Reader Unit := fun _ s => (.ok [], s)
    (receive lavish #[9, 9] ()).1 = .error .outside ∧
      (fill silent 5 (.ofBuffer #[9, 9]) ()).1 = .error .unfinished := by
  decide +kernel

end Reader

end FramedLink
