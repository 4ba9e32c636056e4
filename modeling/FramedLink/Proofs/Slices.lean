import FramedLink.Link.Recorded
import FramedLink.Proofs.Patience

set_option autoImplicit false
set_option relaxedAutoImplicit false

/-!
# Waiting in slices

A stream link waits for data in slices, while a recorded link moves its clock to the instant of the
next arrival. **The two come to the same.** A stream that stays silent until some bytes arrive lets
all slices go by that end before, and in the next one the bytes are read at the very instant of
their arrival. If nothing arrives before the deadline, the link times out behind the slice that
reaches it. This slice may go beyond the deadline, but by less than the shortest slice.

A recorded link has neither a limit of writes nor a cancellation. Its writes cost no time, so they
would not come to a limit, and nothing calls it off.

## Main definitions

* `FramedLink.ByteStream.Idle` — a stream on which nothing but slices takes time.
* `FramedLink.RecordedLink.Sliced` — a read in slices comes to the same as that of a recorded link.

## Main results

* `FramedLink.StreamLink.exists_reads_data` — data that arrives in some slice.
* `FramedLink.StreamLink.exists_reads_timeout` — nothing arrives in time.
* `FramedLink.RecordedLink.readAvailable_sliced` — a read of a recorded link is a read in slices.
-/

namespace FramedLink

namespace ByteStream

/-- Work on the stream has not been called off, time limits can be set, and no time goes by between
the calls. -/
structure Idle (s : ByteStream) : Prop where
  /-- Nothing has been called off. -/
  active : s.cancelled = false
  /-- Time limits can be set. -/
  settings : s.settings = []
  /-- No time goes by before a look from outside. -/
  lags : s.lags = []
  /-- No time goes by before a reading of the clock. -/
  ticks : s.ticks = []

/-- The stream with these reads to come, and these pauses before those that do not fail. -/
def scripted (s : ByteStream) (reads : List Read) (pauses : List Nat) : ByteStream :=
  { s with reads, pauses }

/-- The stream after a look at the clock and the setting of the time limit of reads. -/
def armed (s : ByteStream) (span : Nat) : ByteStream :=
  ({ s.note (.clock s.now) with limit := span }).note (.setReadTimeout span)

/-- The stream after a slice in which it has been silent. -/
def idled (s : ByteStream) (n span : Nat) : ByteStream :=
  (((s.armed span).note (.read n)).fail .block).2

variable {s : ByteStream}

/-- The stream is as idle with other reads to come. -/
lemma Idle.scripted (h : s.Idle) (reads : List Read) (pauses : List Nat) :
    (s.scripted reads pauses).Idle :=
  ⟨h.active, h.settings, h.lags, h.ticks⟩

/-- It is as idle after a slice. -/
lemma Idle.idled (h : s.Idle) (n span : Nat) : (s.idled n span).Idle := by
  obtain ⟨hactive, hsettings, hlags, hticks⟩ := h
  cases s
  exact ⟨hactive, hsettings, hlags, hticks⟩

/-- The slice has gone by. -/
lemma now_idled (s : ByteStream) (n span : Nat) : (s.idled n span).now = s.now + span := rfl

/-- The look at the clock shows the instant at which the last call ended. -/
lemma Idle.readClock_eq (h : s.Idle) : s.readClock = (s.now, s.note (.clock s.now)) := by
  obtain ⟨-, -, hlags, hticks⟩ := h
  cases s
  subst hlags hticks
  rfl

/-- The time limit can be set. -/
lemma Idle.setReadTimeout_eq (h : s.Idle) (span : Nat) :
    (s.note (.clock s.now)).setReadTimeout span = (.ok (), s.armed span) := by
  obtain ⟨-, hsettings, -, -⟩ := h
  cases s
  subst hsettings
  rfl

end ByteStream

namespace StreamLink

open ByteStream

variable {deadline : Deadline} {s : ByteStream} {n : Nat}

/-- A read whose deadline has come times out at once. -/
lemma readUntil_expired (h : s.Idle) (hexpired : deadline.instant ≤ s.now) (c : LinkConfig) :
    readUntil n deadline ⟨s, c⟩ = (.error .timeout, ⟨s.note (.clock s.now), c⟩) := by
  obtain ⟨-, hslice⟩ | ⟨span, -, hlive, -⟩ := slice_cases deadline ⟨s, c⟩
  · rw [h.readClock_eq] at hslice
    rw [readUntil, if_neg (by simp [h.active])]
    split
    · next e q hs =>
      rw [hslice] at hs
      cases hs
      rfl
    · next span q hs =>
      rw [hslice] at hs
      cases hs
  · rw [h.readClock_eq] at hlive
    exact absurd hexpired (Nat.not_le_of_lt hlive)

/-- The length of the slice that is found at the instant `now`. -/
def sliceAt (c : LinkConfig) (deadline : Deadline) (now : Nat) : Nat :=
  max (min (deadline.remaining now) c.pollInterval) minPollInterval

/-- No slice is shorter than the shortest one. -/
lemma minPollInterval_le_sliceAt (c : LinkConfig) (deadline : Deadline) (now : Nat) :
    minPollInterval ≤ sliceAt c deadline now :=
  Nat.le_max_right _ _

/-- No other slice is longer than what is left. -/
lemma sliceAt_le (c : LinkConfig) (deadline : Deadline) (now : Nat) :
    sliceAt c deadline now ≤ max (deadline.instant - now) minPollInterval := by
  unfold sliceAt Deadline.remaining
  omega

/-- A read whose deadline is still to come finds a slice. -/
lemma slice_live (h : s.Idle) (hlive : s.now < deadline.instant) (c : LinkConfig) :
    slice deadline ⟨s, c⟩ =
      (.ok (sliceAt c deadline s.now), ⟨s.note (.clock s.now), c⟩) := by
  unfold slice
  rw [h.readClock_eq]
  have hleft : deadline.remaining s.now ≠ 0 := by
    unfold Deadline.remaining
    omega
  exact if_neg hleft

/-- In its slice, it makes one attempt. -/
lemma readUntil_live (h : s.Idle) (hlive : s.now < deadline.instant) (c : LinkConfig) :
    readUntil n deadline ⟨s, c⟩ =
      match (s.armed (sliceAt c deadline s.now)).read n with
      | (.ok bytes, s') => (readResult (.ok bytes), ⟨s', c⟩)
      | (.error e, s') =>
        if e.kind.isInterruption then readUntil n deadline ⟨s', c⟩
        else (.error (.io e), ⟨s', c⟩) := by
  have hslice := slice_live h hlive c
  rw [readUntil, if_neg (by simp [h.active])]
  split
  · next e q hs =>
    rw [hslice] at hs
    cases hs
  next span q hs =>
  rw [hslice] at hs
  cases hs
  split
  · next e s' hset =>
    rw [h.setReadTimeout_eq] at hset
    cases hset
  next s' hset =>
  rw [h.setReadTimeout_eq] at hset
  cases hset
  rcases (s.armed (sliceAt c deadline s.now)).read n with ⟨e | - | ⟨b, bytes⟩, s'⟩ <;> rfl

/-- If the stream is silent first, the slice goes by, and the read goes on in the next one. -/
lemma readUntil_silent (h : s.Idle) (hlive : s.now < deadline.instant) (c : LinkConfig)
    (reads : List Read) (pauses : List Nat) :
    readUntil n deadline ⟨s.scripted (.fault .block :: reads) pauses, c⟩ =
      readUntil n deadline ⟨(s.idled n (sliceAt c deadline s.now)).scripted reads pauses, c⟩ := by
  rw [readUntil_live (h.scripted (.fault .block :: reads) pauses) hlive]
  rfl

/-- **Data that arrives in some slice** is read at the instant of its arrival.

**Proof sketch.** Induction on the time until then. If it arrives in the next slice, the read of
this slice waits for it. If not, the slice goes by as a whole, and less time is left. -/
lemma exists_reads_data (h : s.Idle) (c : LinkConfig) (bytes : List UInt8) {wait : Nat}
    (hwait : s.now + wait < deadline.instant) :
    ∃ reads pauses, let run := readUntil n deadline ⟨s.scripted reads pauses, c⟩
      run.1 = readResult (.ok (bytes.take n)) ∧ run.2.stream.now = s.now + wait := by
  induction wait using Nat.strongRecOn generalizing s with
  | ind wait ih =>
  have hlive : s.now < deadline.instant := by omega
  by_cases hslice : wait ≤ sliceAt c deadline s.now
  · refine ⟨[.data bytes], [wait], ?_⟩
    rw [readUntil_live (h.scripted [.data bytes] [wait]) hlive]
    refine ⟨rfl, ?_⟩
    show s.now + min wait (sliceAt c deadline s.now) = s.now + wait
    rw [Nat.min_eq_left hslice]
  · have hmin := minPollInterval_le_sliceAt c deadline s.now
    have hpos : 0 < minPollInterval := by decide
    have hnow := s.now_idled n (sliceAt c deadline s.now)
    obtain ⟨reads, pauses, hresult, hend⟩ := ih (wait - sliceAt c deadline s.now) (by omega)
      (h.idled n (sliceAt c deadline s.now)) (by omega)
    refine ⟨.fault .block :: reads, pauses, ?_⟩
    rw [readUntil_silent h hlive]
    exact ⟨hresult, by omega⟩

/-- **If nothing arrives,** the read times out in the slice that reaches the deadline.

**Proof sketch.** Induction on the time that is left. A slice that is longer than this is the
shortest one. -/
lemma exists_reads_timeout (h : s.Idle) (c : LinkConfig) (n : Nat)
    (hlive : s.now < deadline.instant) :
    ∃ reads, let run := readUntil n deadline ⟨s.scripted reads [], c⟩
      run.1 = .error .timeout ∧ deadline.instant ≤ run.2.stream.now ∧
        run.2.stream.now < deadline.instant + minPollInterval := by
  induction hleft : deadline.instant - s.now using Nat.strongRecOn generalizing s with
  | ind left ih =>
  have hmin := minPollInterval_le_sliceAt c deadline s.now
  have hmax := sliceAt_le c deadline s.now
  have hpos : 0 < minPollInterval := by decide
  have hidle := h.idled n (sliceAt c deadline s.now)
  have hnow := s.now_idled n (sliceAt c deadline s.now)
  by_cases hnext : (s.idled n (sliceAt c deadline s.now)).now < deadline.instant
  · obtain ⟨reads, hrun⟩ := ih _ (by omega) hidle hnext rfl
    refine ⟨.fault .block :: reads, ?_⟩
    rw [readUntil_silent h hlive]
    exact hrun
  · refine ⟨[.fault .block], ?_⟩
    rw [readUntil_silent h hlive,
      readUntil_expired (hidle.scripted [] []) (Nat.le_of_not_lt hnext)]
    refine ⟨rfl, Nat.le_of_not_lt hnext, ?_⟩
    show (s.idled n (sliceAt c deadline s.now)).now < deadline.instant + minPollInterval
    omega

end StreamLink

namespace RecordedLink

open ByteStream StreamLink

/-- A read in slices, `sliced`, comes to the same as a read of a recorded link. -/
structure Sliced (run : Except LinkError (List UInt8) × RecordedLink)
    (sliced : Except LinkError (List UInt8) × StreamLink) : Prop where
  /-- The results are the same. -/
  result : sliced.1 = run.1
  /-- Unless they time out, the two end at the same instant. -/
  prompt : run.1 ≠ .error .timeout → sliced.2.stream.now = run.2.now
  /-- The one in slices never ends before the other. -/
  le : run.2.now ≤ sliced.2.stream.now
  /-- It ends later by less than the shortest slice. -/
  lt : sliced.2.stream.now < run.2.now + minPollInterval

/-- Reads that end at the same instant with the same result. -/
lemma Sliced.of_eq {run : Except LinkError (List UInt8) × RecordedLink}
    {sliced : Except LinkError (List UInt8) × StreamLink} (hresult : sliced.1 = run.1)
    (hnow : sliced.2.stream.now = run.2.now) : Sliced run sliced where
  result := hresult
  prompt _ := hnow
  le := Nat.le_of_eq hnow.symm
  lt := by
    have hpos : 0 < minPollInterval := by decide
    omega

variable {deadline : Deadline} {n : Nat}

/-- A stream on which nothing arrives in time. -/
lemma exists_sliced_timeout (hn : n ≠ 0) (c : LinkConfig) (deadline : Deadline)
    (p : RecordedLink) :
    ∃ s : ByteStream, s.now = p.now ∧
      Sliced (.error .timeout, { p with now := max p.now deadline.instant })
        (StreamLink.readAvailable n deadline ⟨s, c⟩) := by
  have hidle : ({ now := p.now } : ByteStream).Idle := ⟨rfl, rfl, rfl, rfl⟩
  by_cases hlive : p.now < deadline.instant
  · obtain ⟨reads, hresult, hle, hlt⟩ := exists_reads_timeout hidle c n hlive
    have hinstant : max p.now deadline.instant = deadline.instant :=
      Nat.max_eq_right (Nat.le_of_lt hlive)
    refine ⟨ByteStream.scripted { now := p.now } reads [], rfl, ?_⟩
    rw [hinstant, StreamLink.readAvailable, if_neg hn]
    exact ⟨hresult, fun h => absurd rfl h, hle, hlt⟩
  · have hexpired : deadline.instant ≤ p.now := Nat.le_of_not_lt hlive
    refine ⟨{ now := p.now }, rfl, ?_⟩
    rw [StreamLink.readAvailable, if_neg hn, readUntil_expired hidle hexpired]
    exact .of_eq rfl (Nat.max_eq_left hexpired).symm

/-- A stream on which bytes arrive in time, or the end of the link. -/
lemma exists_sliced_data (hn : n ≠ 0) (c : LinkConfig) (bytes : List UInt8) {p : RecordedLink}
    (q : RecordedLink) (hle : p.now ≤ q.now) (hlive : q.now < deadline.instant) :
    ∃ s : ByteStream, s.now = p.now ∧ Sliced (readResult (.ok (bytes.take n)), q)
      (StreamLink.readAvailable n deadline ⟨s, c⟩) := by
  have hidle : ({ now := p.now } : ByteStream).Idle := ⟨rfl, rfl, rfl, rfl⟩
  have hmet : p.now + (q.now - p.now) = q.now := Nat.add_sub_cancel' hle
  obtain ⟨reads, pauses, hresult, hend⟩ :=
    exists_reads_data (n := n) hidle c bytes (hmet.symm ▸ hlive)
  refine ⟨ByteStream.scripted { now := p.now } reads pauses, rfl, ?_⟩
  rw [StreamLink.readAvailable, if_neg hn]
  exact .of_eq hresult (hend.trans hmet)

/-- **A read of a recorded link is a read in slices.** Unless the link fails, there is a stream on
which a stream link with any settings has the same result. If it yields bytes or finds the end of
the link, it ends at the same instant; if it times out, it ends later by less than the shortest
slice.

**Proof sketch.** What the read meets decides. An arrival before the deadline is data that a silent
stream yields in some slice, and the end of the link is data without bytes. If there is no such
arrival, the stream stays silent. -/
theorem readAvailable_sliced (c : LinkConfig) (n : Nat) (deadline : Deadline) (p : RecordedLink)
    (hserious : ∀ e, (p.readAvailable n deadline).1 ≠ .error (.io e)) :
    ∃ s : ByteStream, s.now = p.now ∧
      Sliced (p.readAvailable n deadline) (StreamLink.readAvailable n deadline ⟨s, c⟩) := by
  unfold readAvailable at hserious ⊢
  split
  · next hn =>
    refine ⟨{ now := p.now }, rfl, ?_⟩
    rw [StreamLink.readAvailable, if_pos hn]
    exact .of_eq rfl rfl
  next hn =>
  rw [if_neg hn] at hserious
  split
  · exact exists_sliced_timeout hn c deadline p
  next instant arrival rest harrivals =>
  rw [harrivals] at hserious
  dsimp only at hserious ⊢
  split
  · exact exists_sliced_timeout hn c deadline p
  next hlive =>
  rw [if_neg hlive] at hserious
  have hmet : max p.now instant < deadline.instant := by
    simpa [Deadline.expired] using hlive
  have hle : p.now ≤ max p.now instant := Nat.le_max_left _ _
  obtain ⟨n, rfl⟩ := Nat.exists_eq_succ_of_ne_zero hn
  cases arrival with
  | failure e => exact absurd rfl (hserious e)
  | hangUp => exact exists_sliced_data hn c [] _ hle hmet
  | data first more => exact exists_sliced_data hn c (first :: more) _ hle hmet

end RecordedLink

end FramedLink
