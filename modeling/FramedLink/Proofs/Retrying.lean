import FramedLink.Link.Stream
import FramedLink.Proofs.Preservation
import FramedLink.Proofs.StreamCalls
import Mathlib.Control.Monad.Basic

set_option autoImplicit false
set_option relaxedAutoImplicit false

/-!
# Failures that only mean "try again"

A stream reports an interruption where nothing is wrong. A stream link repeats a read or a write
that is interrupted, until it comes to its deadline: **no interruption gets out of it, and it times
out exactly if the clock shows that there is no time left.** Only the flush that ends a complete
write is different. It is repeated after a signal, but not when it would block, so a complete write
may report an interruption after all bytes have been taken.

## Main definitions

* `FramedLink.LinkError.isRetryable` — an error that only means "try again".
* `FramedLink.StreamLink.RunsOut` — the last thing that a call has done is to see on the clock that
  its deadline has come.
* `FramedLink.StreamLink.Persists` — a call reports no interruption, and times out exactly if it
  runs out of time.
* `FramedLink.ByteStream.decisiveFlush` — the failure of the first flush that is not repeated.

## Main results

* `FramedLink.StreamLink.ends_readUntil`, `FramedLink.StreamLink.ends_writeUntil` — how the loop of
  a read ends, and that of a write.
* `FramedLink.StreamLink.fst_flush` — how the flushes of a complete write end.
* `FramedLink.StreamLink.calls_persist` — how the calls of a stream link end.
-/

namespace FramedLink

/-- An error that only means "try again". -/
def LinkError.isRetryable : LinkError → Bool
  | io source => source.kind.isInterruption
  | _ => false

/-! ## Calls that persist -/

namespace StreamLink

open ByteStream

variable {α β : Type} {deadline : Deadline} {p q m : StreamLink}

/-- The call that has led from `p` to `q` has not been called off, and the last thing that it has
done is to see on the clock that its deadline has come. -/
def RunsOut (deadline : Deadline) (p q : StreamLink) : Prop :=
  q.stream.cancelled = false ∧ ∃ before now,
    q.stream.calls.toList = p.stream.calls.toList ++ before ++ [.clock now] ∧
      deadline.instant ≤ now

/-- A call reports no interruption, and times out exactly if it runs out of time. -/
structure Persists (deadline : Deadline) (p : StreamLink) (run : Except LinkError α × StreamLink) :
    Prop where
  /-- Interruptions are not reported. -/
  harmless : ∀ e, run.1 = .error e → e.isRetryable = false
  /-- It times out if it runs out of time, and only then. -/
  timely : run.1 = .error .timeout ↔ RunsOut deadline p run.2

/-- A call persists, and does not end without having done anything, unless it is called off. -/
structure Ends (deadline : Deadline) (p : StreamLink) (run : Except LinkError α × StreamLink) :
    Prop extends Persists deadline p run where
  /-- What every call does to the stream. -/
  precedes : p.stream.Precedes run.2.stream
  /-- Something was done. -/
  moves : run.2.stream.cancelled = false → p.stream.calls.toList ≠ run.2.stream.calls.toList

/-- A log is not the same after a call. -/
lemma ne_append_append_singleton (log before : List α) (call : α) :
    log ≠ log ++ before ++ [call] := by
  intro h
  have hlength := congrArg List.length h
  simp only [List.length_append, List.length_singleton] at hlength
  omega

/-- A call that has not ended with a reading of the clock has not run out of time. -/
lemma not_runsOut_of_acts (h : p.stream.Acts q.stream) : ¬ RunsOut deadline p q := by
  rintro ⟨-, before, now, hcalls, -⟩
  obtain ⟨before', call, hcalls', hcall⟩ := h.last
  rw [hcalls'] at hcalls
  have hlast := List.append_inj_right' hcalls rfl
  exact hcall now (List.cons.inj hlast).1

namespace Ends

/-- A call that ends with another call than a reading of the clock. -/
lemma of_acts {r : Except LinkError α} (h : p.stream.Acts q.stream) (hr : r ≠ .error .timeout)
    (hharmless : ∀ e, r = .error e → e.isRetryable = false) : Ends deadline p (r, q) where
  harmless := hharmless
  timely := iff_of_false hr (not_runsOut_of_acts h)
  precedes := h.toPrecedes
  moves _ heq := by
    obtain ⟨before, call, hcalls, -⟩ := h.last
    exact ne_append_append_singleton _ before call (heq.trans hcalls)

/-- A call that is called off. -/
lemma of_cancelled (h : p.stream.cancelled = true) :
    Ends deadline p ((.error .cancelled, p) : Except LinkError α × StreamLink) where
  harmless _ he := by cases he; rfl
  timely := iff_of_false (fun he => by cases he) fun hruns => by
    rw [hruns.1] at h
    cases h
  precedes := .refl _
  moves hactive := by
    rw [hactive] at h
    cases h

/-- What has been done before does not matter to the end of a call.

**Proof sketch.** A call that ends late has looked at the clock last. This look belongs to the
second part, which has made a call, and what has been called before does not matter to it. -/
lemma behind {run : Except LinkError α × StreamLink} (hbefore : p.stream.Precedes m.stream)
    (h : Ends deadline m run) : Ends deadline p run where
  harmless := h.harmless
  timely := by
    obtain ⟨between, hbetween⟩ := hbefore.calls
    obtain ⟨rest, hrest⟩ := h.precedes.calls
    refine h.timely.trans ⟨?_, ?_⟩
    · rintro ⟨hactive, before, now, hcalls, hnow⟩
      refine ⟨hactive, between ++ before, now, ?_, hnow⟩
      rw [hcalls, ← hbetween]
      simp only [List.append_assoc]
    · rintro ⟨hactive, before, now, hcalls, hnow⟩
      -- the last call belongs to the second part, because that has made one
      obtain rfl | ⟨rest', call, rfl⟩ := rest.eq_nil_or_concat
      · exact absurd ((List.append_nil _).symm.trans hrest) (h.moves hactive)
      · refine ⟨hactive, rest', now, ?_, hnow⟩
        rw [← hrest, List.concat_eq_append, ← List.append_assoc] at hcalls
        rw [← hrest, List.concat_eq_append, ← List.append_assoc,
          List.append_inj_right' hcalls rfl]
  precedes := hbefore.trans h.precedes
  moves hactive heq := by
    refine h.moves hactive (h.precedes.calls.eq_of_length_le ?_)
    rw [← heq]
    exact hbefore.calls.length_le

/-- What a call makes of a result is not important, as long as it keeps timeouts. -/
lemma congr {r : Except LinkError α} {r' : Except LinkError β} (h : Ends deadline p (r, q))
    (htimeout : r' = .error .timeout ↔ r = .error .timeout)
    (hharmless : ∀ e, r' = .error e → e.isRetryable = false) : Ends deadline p (r', q) where
  harmless := hharmless
  timely := htimeout.trans h.timely
  precedes := h.precedes
  moves := h.moves

/-- An error that is passed on. -/
lemma error {e : LinkError}
    (h : Ends deadline p ((.error e, q) : Except LinkError α × StreamLink)) :
    Ends deadline p ((.error e, q) : Except LinkError β × StreamLink) :=
  h.congr (by simp) fun e' he => by
    obtain rfl := Except.error.inj he
    exact h.harmless e rfl

end Ends

/-! ## The loops -/

/-- **All that the choice of a slice can do.** -/
lemma slice_cases (deadline : Deadline) (p : StreamLink) :
    (deadline.instant ≤ p.stream.readClock.1 ∧
      p.slice deadline = (.error .timeout, { p with stream := p.stream.readClock.2 })) ∨
    ∃ span, p.slice deadline = (.ok span, { p with stream := p.stream.readClock.2 }) ∧
      p.stream.readClock.1 < deadline.instant ∧ minPollInterval ≤ span ∧
      span ≤ max minPollInterval
        (min p.config.pollInterval (deadline.instant - p.stream.readClock.1)) := by
  unfold slice Deadline.remaining
  dsimp only
  split
  · next h => exact .inl ⟨by omega, rfl⟩
  · exact .inr ⟨_, rfl, by omega, by omega, by omega⟩

/-- A slice that has been found is no longer than what is left, or it is the shortest one. -/
lemma slice_eq_ok {span : Nat} (h : p.slice deadline = (.ok span, q)) :
    q = { p with stream := p.stream.readClock.2 } ∧ p.stream.readClock.1 < deadline.instant ∧
      minPollInterval ≤ span ∧ span ≤ max minPollInterval
        (min p.config.pollInterval (deadline.instant - p.stream.readClock.1)) := by
  obtain ⟨-, hslice⟩ | ⟨span', hslice, hspan⟩ := slice_cases deadline p <;> rw [hslice] at h <;>
    cases h
  exact ⟨rfl, hspan⟩

/-- If none is found, then the deadline has come. -/
lemma slice_eq_error {e : LinkError} (h : p.slice deadline = (.error e, q)) :
    q = { p with stream := p.stream.readClock.2 } ∧ e = .timeout ∧
      deadline.instant ≤ p.stream.readClock.1 := by
  obtain ⟨hnow, hslice⟩ | ⟨span, hslice, -⟩ := slice_cases deadline p <;> rw [hslice] at h <;>
    cases h
  exact ⟨rfl, rfl, hnow⟩

/-- A call that finds no slice runs out of time. -/
lemma ends_of_slice_error {e : LinkError} (hactive : p.stream.cancelled = false)
    (h : p.slice deadline = (.error e, q)) :
    Ends deadline p ((.error e, q) : Except LinkError α × StreamLink) := by
  obtain ⟨hprecedes, -, hcancelled, hcalls⟩ := p.stream.readClock_spec
  rw [← List.append_nil p.stream.calls.toList] at hcalls
  obtain ⟨rfl, rfl, hnow⟩ := slice_eq_error h
  refine ⟨⟨fun e he => ?_, iff_of_true rfl ⟨hcancelled.trans hactive, [], _, hcalls, hnow⟩⟩,
    hprecedes, fun _ heq => ne_append_append_singleton _ [] _ (heq.trans hcalls)⟩
  cases he
  rfl

/-- A call that has found a slice goes on. -/
lemma precedes_of_slice {span : Nat} (h : p.slice deadline = (.ok span, q)) :
    p.stream.Precedes q.stream := by
  obtain ⟨rfl, -⟩ := slice_eq_ok h
  exact p.stream.readClock_spec.1

section Slice

variable {span : Nat} {call : ByteStream.Call} {s : ByteStream}
  (hslice : p.slice deadline = (.ok span, q))

include hslice

/-- Setting the time limit to the length of the slice is a call. -/
lemma acts_of_set {r : Except IoError Unit} (hcall : ∀ now, call ≠ .clock now)
    (h : q.stream.setTimeout call span = (r, s)) : p.stream.Acts s := by
  have hacts := q.stream.acts_setTimeout span hcall
  rw [h] at hacts
  exact (precedes_of_slice hslice).acts hacts

/-- It succeeds, if time limits can be set. -/
lemma set_ne_error {e : IoError} (hset : p.stream.SettingsSucceed) :
    q.stream.setTimeout call span ≠ (.error e, s) := by
  intro h
  have hok := fst_setTimeout ((precedes_of_slice hslice).settings hset) call span
  rw [h] at hok
  cases hok

end Slice

/-- **How the loop of a read ends,** if time limits can be set.

**Proof sketch.** Induction on the repetitions. Each of them reads the clock first, and ends the
loop there or makes another call; a repetition that has failed because of an interruption precedes
the next one. -/
theorem ends_readUntil (n : Nat) (deadline : Deadline) (p : StreamLink)
    (hset : p.stream.SettingsSucceed) : Ends deadline p (p.readUntil n deadline) := by
  have hcall (span now : Nat) : ByteStream.Call.setReadTimeout span ≠ .clock now := by simp
  have hread {p p' : StreamLink} {stream stream' : ByteStream} {span : Nat}
      {r : Except IoError Unit} {r' : Except IoError (List UInt8)}
      (hs : p.slice deadline = (.ok span, p')) (ht : p'.stream.setReadTimeout span = (r, stream))
      (hr : stream.read n = (r', stream')) : p.stream.Acts stream' := by
    have hacts := stream.acts_read n
    rw [hr] at hacts
    exact (acts_of_set hs (hcall span) ht).acts hacts
  fun_induction readUntil n deadline p with
  | case1 p hc => exact .of_cancelled hc
  | case2 p hc e p' hs => exact ends_of_slice_error (by simpa using hc) hs
  | case3 p hc span p' hs e stream ht => exact absurd ht (set_ne_error hs hset)
  | case4 p hc span p' hs stream ht stream' hr =>
    exact .of_acts (hread hs ht hr) (by simp) fun e he => by cases he; rfl
  | case5 p hc span p' hs stream ht b bytes stream' hr =>
    exact .of_acts (hread hs ht hr) (by simp) fun e he => by cases he
  | case6 p hc span p' hs stream ht e stream' hr hi ih =>
    have hacts := hread hs ht hr
    exact .behind hacts.toPrecedes (ih (hacts.settings hset))
  | case7 p hc span p' hs stream ht e stream' hr hi =>
    refine .of_acts (hread hs ht hr) (by simp) fun e' he => ?_
    cases he
    simpa [LinkError.isRetryable] using hi

/-- **How the loop of a write ends,** if time limits can be set.

**Proof sketch.** Induction on the repetitions, as for reads. -/
theorem ends_writeUntil (data : List UInt8) (deadline : Deadline) (p : StreamLink)
    (hset : p.stream.SettingsSucceed) : Ends deadline p (p.writeUntil data deadline) := by
  have hcall (span now : Nat) : ByteStream.Call.setWriteTimeout span ≠ .clock now := by simp
  have hwrite {p p' : StreamLink} {stream stream' : ByteStream} {span : Nat}
      {r : Except IoError Unit} {r' : Except IoError Nat}
      (hs : p.slice deadline = (.ok span, p')) (ht : p'.stream.setWriteTimeout span = (r, stream))
      (hr : stream.write data = (r', stream')) : p.stream.Acts stream' := by
    have hacts := stream.acts_write data
    rw [hr] at hacts
    exact (acts_of_set hs (hcall span) ht).acts hacts
  fun_induction writeUntil data deadline p with
  | case1 p hc => exact .of_cancelled hc
  | case2 p hc e p' hs => exact ends_of_slice_error (by simpa using hc) hs
  | case3 p hc span p' hs e stream ht => exact absurd ht (set_ne_error hs hset)
  | case4 p hc span p' hs stream ht n stream' hr =>
    exact .of_acts (hwrite hs ht hr) (by simp) fun e he => by cases he
  | case5 p hc span p' hs stream ht e stream' hr hi ih =>
    have hacts := hwrite hs ht hr
    exact .behind hacts.toPrecedes (ih (hacts.settings hset))
  | case6 p hc span p' hs stream ht e stream' hr hi =>
    refine .of_acts (hwrite hs ht hr) (by simp) fun e' he => ?_
    cases he
    simpa [LinkError.isRetryable] using hi

/-! ## Reading -/

/-- A read that asks for some bytes is such a loop. -/
lemma ends_readAvailable {n : Nat} (hn : n ≠ 0) (deadline : Deadline)
    (hset : p.stream.SettingsSucceed) : Ends deadline p (Link.readAvailable n deadline p) := by
  show Ends deadline p (p.readAvailable n deadline)
  rw [readAvailable, if_neg hn]
  exact ends_readUntil n deadline p hset

/-- The read of one byte ends like a read. -/
lemma ends_readByte (deadline : Deadline) (hset : p.stream.SettingsSucceed) :
    Ends deadline p (Link.readByte deadline p) := by
  have h := ends_readAvailable Nat.one_ne_zero deadline hset
  unfold Link.readByte
  rcases hread : Link.readAvailable 1 deadline p with ⟨e | - | ⟨b, bytes⟩, q⟩ <;> rw [hread] at h
  · exact h.error
  · exact h.congr (by simp) fun e he => by cases he; rfl
  · exact h.congr (by simp) fun e he => by cases he

/-- So does the search for a byte. -/
lemma ends_waitForByte (value : UInt8) (deadline : Deadline) (hset : p.stream.SettingsSucceed) :
    Ends deadline p (Link.waitForByte value deadline p) := by
  fun_induction Link.waitForByte value deadline p with
  | case1 p e q hread =>
    have h := ends_readByte deadline hset
    rw [hread] at h
    exact h.error
  | case2 p q hread =>
    have h := ends_readByte deadline hset
    rw [hread] at h
    exact h.congr (by simp) fun e he => by cases he
  | case3 p b q hread hb ih =>
    have h := ends_readByte deadline hset
    rw [hread] at h
    exact .behind h.precedes (ih (h.precedes.settings hset))

/-- A read that asks for nothing does nothing. -/
lemma persists_nothing (deadline : Deadline) (p : StreamLink) (value : α) :
    Persists deadline p (.ok value, p) where
  harmless _ he := by cases he
  timely := iff_of_false (fun he => by cases he) fun ⟨_, before, now, hcalls, _⟩ =>
    ne_append_append_singleton _ before _ hcalls

/-! ## Writing -/

/-- The limit of writes, counted from now, does not come before the deadline. -/
def WithinLimit (deadline : Deadline) (p : StreamLink) : Prop :=
  ∀ limit, p.config.writeTimeout = some limit →
    deadline.instant ≤ p.stream.now + min limit maxTimeout

/-- A deadline within the limit of writes is not changed by it, now or later. -/
lemma WithinLimit.writeDeadline (h : WithinLimit deadline p) :
    (p.writeDeadline deadline).1 = deadline := by
  unfold StreamLink.writeDeadline
  split
  · rfl
  · next limit hlimit =>
    have hle := h limit hlimit
    have hnow := p.stream.readClock_spec.1.now
    have hshown := p.stream.readClock_spec.2.1
    show Deadline.mk (min deadline.instant (p.stream.readClock.1 + min limit maxTimeout)) = deadline
    rw [Nat.min_eq_left (by omega)]

/-- A deadline within the limit of writes is still within it later. -/
lemma WithinLimit.later (h : WithinLimit deadline p) (hconfig : q.config = p.config)
    (hprecedes : p.stream.Precedes q.stream) : WithinLimit deadline q := by
  intro limit hlimit
  have hle := h limit (hconfig ▸ hlimit)
  have hnow := hprecedes.now
  omega

/-- The deadline of a write is within its limit. -/
lemma writeDeadline_spec (deadline : Deadline) (p : StreamLink) :
    p.stream.Precedes (p.writeDeadline deadline).2.stream ∧
      (p.writeDeadline deadline).2.config = p.config ∧
      WithinLimit (p.writeDeadline deadline).1 (p.writeDeadline deadline).2 := by
  unfold StreamLink.writeDeadline
  split
  · next hnone =>
    exact ⟨.refl _, rfl, fun limit hlimit => by rw [hnone] at hlimit; cases hlimit⟩
  · next limit hsome =>
    refine ⟨p.stream.readClock_spec.1, rfl, fun limit' hlimit => ?_⟩
    obtain rfl := Option.some.inj (hsome.symm.trans hlimit)
    have hshown := p.stream.readClock_spec.2.1
    show min deadline.instant (p.stream.readClock.1 + min limit maxTimeout) ≤
      p.stream.readClock.2.now + min limit maxTimeout
    omega

/-- A write ends like its loop, at the deadline that its limit sets. -/
lemma ends_write (data : List UInt8) (deadline : Deadline) (hset : p.stream.SettingsSucceed) :
    Ends (p.writeDeadline deadline).1 p (Link.write data deadline p) := by
  have hbefore := (p.writeDeadline_spec deadline).1
  exact .behind hbefore (ends_writeUntil data _ _ (hbefore.settings hset))

/-- What the bytes that are written do not change: the settings, and what flushes do. -/
structure Keeps (p q : StreamLink) : Prop where
  /-- The settings. -/
  config : q.config = p.config
  /-- What flushes do. -/
  flushes : q.stream.flushes = p.stream.flushes

/-- One thing after another. -/
lemma Keeps.trans (h : Keeps p m) (h' : Keeps m q) : Keeps p q :=
  ⟨h'.config.trans h.config, h'.flushes.trans h.flushes⟩

/-- The choice of a slice keeps the settings and the script of flushes. -/
lemma keeps_slice (deadline : Deadline) (p : StreamLink) : Keeps p (p.slice deadline).2 := by
  obtain ⟨-, hslice⟩ | ⟨span, hslice, -⟩ := slice_cases deadline p <;> rw [hslice] <;>
    exact ⟨rfl, flushes_readClock _⟩

/-- So does the loop of a write.

**Proof sketch.** Induction on the repetitions. Each of them chooses a slice, sets the time limit
and writes; none of the three touches the settings of the link or the script of the flushes. -/
lemma keeps_writeUntil (data : List UInt8) (deadline : Deadline) (p : StreamLink) :
    Keeps p (p.writeUntil data deadline).2 := by
  have hslice {p p' : StreamLink} {r : Except LinkError Nat} (h : p.slice deadline = (r, p')) :
      Keeps p p' := by
    have hkeeps := keeps_slice deadline p
    rwa [h] at hkeeps
  have hset {p' : StreamLink} {s : ByteStream} {span : Nat} {r : Except IoError Unit}
      (h : p'.stream.setWriteTimeout span = (r, s)) : Keeps p' { p' with stream := s } := by
    have hflushes := p'.stream.flushes_setTimeout (.setWriteTimeout span) span
    rw [show p'.stream.setTimeout (.setWriteTimeout span) span = _ from h] at hflushes
    exact ⟨rfl, hflushes⟩
  have hwrite {p' : StreamLink} {s s' : ByteStream} {r : Except IoError Nat}
      (h : s.write data = (r, s')) :
      Keeps { p' with stream := s } { p' with stream := s' } := by
    have hflushes := s.flushes_write data
    rw [h] at hflushes
    exact ⟨rfl, hflushes⟩
  fun_induction writeUntil data deadline p with
  | case1 p hc => exact ⟨rfl, rfl⟩
  | case2 p hc e p' hs => exact hslice hs
  | case3 p hc span p' hs e stream ht => exact (hslice hs).trans (hset ht)
  | case4 p hc span p' hs stream ht n stream' hr =>
    exact ((hslice hs).trans (hset ht)).trans (hwrite hr)
  | case5 p hc span p' hs stream ht e stream' hr hi ih =>
    exact (((hslice hs).trans (hset ht)).trans (hwrite hr)).trans ih
  | case6 p hc span p' hs stream ht e stream' hr hi =>
    exact ((hslice hs).trans (hset ht)).trans (hwrite hr)

/-- So does the look at the limit of writes. -/
lemma keeps_writeDeadline (deadline : Deadline) (p : StreamLink) :
    Keeps p (p.writeDeadline deadline).2 := by
  unfold StreamLink.writeDeadline
  split
  · exact ⟨rfl, rfl⟩
  · exact ⟨rfl, flushes_readClock _⟩

/-- How repeated writes go, within their limit: if all of them succeed, only what every call does
has been done; otherwise the last one ends as a write does. -/
def EndsByParts (deadline : Deadline) (p q : StreamLink) (r : Except LinkError Unit) : Prop :=
  p.stream.SettingsSucceed → WithinLimit deadline p →
    Keeps p q ∧ p.stream.Precedes q.stream ∧ (r ≠ .ok () → Ends deadline p (r, q))

/-- A single write, for the repetition of writes. -/
lemma keeps_write {data : List UInt8} {r : Except LinkError Nat}
    (h : Link.write data deadline p = (r, q)) : Keeps p q := by
  have hkeeps := (keeps_writeDeadline deadline p).trans
    (keeps_writeUntil data (p.writeDeadline deadline).1 (p.writeDeadline deadline).2)
  rwa [show (p.writeDeadline deadline).2.writeUntil data (p.writeDeadline deadline).1 = (r, q)
    from h] at hkeeps

/-- The deadline of a write that is within the limit of writes holds for the write as it is. -/
lemma ends_write_of_withinLimit {data : List UInt8} {r : Except LinkError Nat}
    (h : Link.write data deadline p = (r, q)) (hset : p.stream.SettingsSucceed)
    (hlimit : WithinLimit deadline p) : Ends deadline p (r, q) := by
  have hends := ends_write data deadline hset
  rwa [h, hlimit.writeDeadline] at hends

/-- **How repeated writes end.** -/
theorem writeChains_endsByParts (deadline : Deadline) :
    Link.WriteChains deadline (EndsByParts deadline) where
  refl p _ _ := ⟨⟨rfl, rfl⟩, .refl _, fun h => absurd rfl h⟩
  trans h h' hset hlimit := by
    obtain ⟨hkeeps, hprecedes, -⟩ := h hset hlimit
    obtain ⟨hkeeps', hprecedes', hends⟩ :=
      h' (hprecedes.settings hset) (hlimit.later hkeeps.config hprecedes)
    exact ⟨hkeeps.trans hkeeps', hprecedes.trans hprecedes',
      fun hr => .behind hprecedes (hends hr)⟩
  wrote h hset hlimit :=
    ⟨keeps_write h, (ends_write_of_withinLimit h hset hlimit).precedes, fun hr => absurd rfl hr⟩
  wroteNothing h hset hlimit := by
    have hends := ends_write_of_withinLimit h hset hlimit
    exact ⟨keeps_write h, hends.precedes,
      fun _ => hends.congr (by simp) fun e he => by cases he; rfl⟩
  failed h hset hlimit := by
    have hends := ends_write_of_withinLimit h hset hlimit
    exact ⟨keeps_write h, hends.precedes, fun _ => hends.error⟩

/-! ## Flushing -/

/-- The flushes of a complete write are calls. -/
lemma acts_flush (p : StreamLink) : p.stream.Acts p.flush.2.stream := by
  have hflush {s s' : ByteStream} {r : Except IoError Unit} (h : s.flush = (r, s')) :
      s.Acts s' := by
    have hacts := s.acts_flush
    rwa [h] at hacts
  fun_induction flush p with
  | case1 p s h => exact hflush h
  | case2 p e s h hinterrupted ih => exact (hflush h).acts ih
  | case3 p e s h hne => exact hflush h

/-- What the first flush that is not repeated lets a complete write report. -/
def flushResult (flushes : List (Option Fault)) : Except LinkError Unit :=
  match decisiveFlush flushes with
  | some f => .error (.io ⟨f.kind, none⟩)
  | none => .ok ()

/-- A complete write does not time out in a flush. -/
lemma flushResult_ne_timeout (flushes : List (Option Fault)) :
    flushResult flushes ≠ .error .timeout := by
  unfold flushResult
  split <;> simp

/-- Flushes end with a failure that could be retried exactly if the decisive one does. -/
lemma flushResult_retryable_iff (flushes : List (Option Fault)) :
    (∃ e, flushResult flushes = .error e ∧ e.isRetryable = true) ↔
      ∃ f, decisiveFlush flushes = some f ∧ f.kind.isInterruption = true := by
  unfold flushResult
  rcases decisiveFlush flushes with - | f <;> simp [LinkError.isRetryable]

/-- **The flushes of a complete write end with the first one that is not repeated.**

**Proof sketch.** Induction on the repetitions. A flush takes the first entry of the script, and is
repeated exactly if `decisiveFlush` skips this entry. -/
lemma fst_flush (p : StreamLink) : p.flush.1 = flushResult p.stream.flushes := by
  unfold flushResult
  fun_induction flush p with
  | case1 p s h =>
    obtain ⟨-, hdecisive⟩ | ⟨f, flushes, -, hfailed, -⟩ := p.stream.flush_cases
    · rw [hdecisive]
    · rw [h] at hfailed
      cases hfailed
  | case2 p e s h hinterrupted ih =>
    obtain ⟨hok, -⟩ | ⟨f, flushes, hscript, hfailed, hrest⟩ := p.stream.flush_cases
    · rw [h] at hok
      cases hok
    · rw [h] at hfailed hrest
      obtain rfl := Except.error.inj hfailed
      rw [ih, hscript, decisiveFlush_of_kind_eq hinterrupted, ← hrest]
  | case3 p e s h hne =>
    obtain ⟨hok, -⟩ | ⟨f, flushes, hscript, hfailed, hrest⟩ := p.stream.flush_cases
    · rw [h] at hok
      cases hok
    · rw [h] at hfailed
      obtain rfl := Except.error.inj hfailed
      rw [hscript, decisiveFlush_of_kind_ne hne]

/-! ## Complete writes -/

/-- A complete write whose repeated writes fail fails as they do. -/
lemma writeAll_of_error {data : List UInt8} {e : LinkError}
    (h : Link.writeAllBy Link.write data (p.writeDeadline deadline).1
      (p.writeDeadline deadline).2 = (.error e, q)) :
    Link.writeAll data deadline p = (.error e, q) := by
  show StreamLink.writeAll data deadline p = _
  change Link.writeAllBy StreamLink.write data _ _ = _ at h
  unfold StreamLink.writeAll
  generalize p.writeDeadline deadline = limited at h ⊢
  dsimp only
  rw [h]

/-- A complete write whose repeated writes succeed ends with flushes. -/
lemma writeAll_of_ok {data : List UInt8}
    (h : Link.writeAllBy Link.write data (p.writeDeadline deadline).1
      (p.writeDeadline deadline).2 = (.ok (), q)) :
    Link.writeAll data deadline p = q.flush := by
  show StreamLink.writeAll data deadline p = _
  change Link.writeAllBy StreamLink.write data _ _ = _ at h
  unfold StreamLink.writeAll
  generalize p.writeDeadline deadline = limited at h ⊢
  dsimp only
  rw [h]

/-- **A complete write fails in a write, or comes to its flushes.** -/
lemma writeAll_cases (data : List UInt8) (deadline : Deadline) (hset : p.stream.SettingsSucceed) :
    ((∃ e, (Link.writeAllBy Link.write data (p.writeDeadline deadline).1
        (p.writeDeadline deadline).2).1 = .error e) ∧
      Ends (p.writeDeadline deadline).1 p (Link.writeAll data deadline p)) ∨
    (Link.writeAllBy Link.write data (p.writeDeadline deadline).1
        (p.writeDeadline deadline).2).1 = .ok () ∧
      p.stream.Acts (Link.writeAll data deadline p).2.stream ∧
      (Link.writeAll data deadline p).1 = flushResult p.stream.flushes := by
  obtain ⟨hbefore, hconfig, hlimit⟩ := p.writeDeadline_spec deadline
  rcases hparts : Link.writeAllBy Link.write data (p.writeDeadline deadline).1
    (p.writeDeadline deadline).2 with ⟨e | _, q⟩
  all_goals
    obtain ⟨hkeeps, hprecedes, hends⟩ := (writeChains_endsByParts _).writeAllBy hparts
      (hbefore.settings hset) hlimit
  · rw [writeAll_of_error hparts]
    exact .inl ⟨⟨e, rfl⟩, .behind hbefore (hends (by simp))⟩
  · rw [writeAll_of_ok hparts]
    refine .inr ⟨rfl, (hbefore.trans hprecedes).acts q.acts_flush, ?_⟩
    rw [← (keeps_writeDeadline deadline p).flushes, ← hkeeps.flushes]
    exact q.fst_flush

/-- A complete write times out exactly if it runs out of time. -/
lemma writeAll_timeout_iff (data : List UInt8) (deadline : Deadline)
    (hset : p.stream.SettingsSucceed) : (Link.writeAll data deadline p).1 = .error .timeout ↔
      RunsOut (p.writeDeadline deadline).1 p (Link.writeAll data deadline p).2 := by
  obtain ⟨-, hends⟩ | ⟨-, hacts, hresult⟩ := writeAll_cases data deadline hset
  · exact hends.timely
  · refine iff_of_false (fun htimeout => ?_) (not_runsOut_of_acts hacts)
    rw [hresult] at htimeout
    exact flushResult_ne_timeout _ htimeout

/-- **A complete write reports an interruption exactly if all bytes have been taken, and the first
flush that is not repeated fails with one.** -/
theorem writeAll_retryable_iff (data : List UInt8) (deadline : Deadline)
    (hset : p.stream.SettingsSucceed) :
    (∃ e, (Link.writeAll data deadline p).1 = .error e ∧ e.isRetryable = true) ↔
      (Link.writeAllBy Link.write data (p.writeDeadline deadline).1
        (p.writeDeadline deadline).2).1 = .ok () ∧
      ∃ f, decisiveFlush p.stream.flushes = some f ∧ f.kind.isInterruption = true := by
  obtain ⟨⟨e, hfailed⟩, hends⟩ | ⟨hwritten, -, hresult⟩ := writeAll_cases data deadline hset
  · refine iff_of_false ?_ ?_
    · rintro ⟨e', he, hretryable⟩
      rw [hends.harmless e' he] at hretryable
      cases hretryable
    · rintro ⟨hwritten, -⟩
      rw [hfailed] at hwritten
      cases hwritten
  · rw [hresult, and_iff_right hwritten]
    exact flushResult_retryable_iff _

/-! ## All calls -/

/-- **How the calls of a stream link end,** if time limits can be set. A write, a read, the read of
a byte and the search for a byte report no interruption, whatever the stream does, and time out
exactly if they run out of time; for a write this is the time that its limit leaves. A complete
write, also that of a single byte, times out in the same way. But it reports an interruption exactly
if all bytes have been taken, and the first flush that does not fail because of a signal fails
because of another interruption. -/
theorem calls_persist (deadline : Deadline) (p : StreamLink) (hset : p.stream.SettingsSucceed) :
    (∀ data, Persists (p.writeDeadline deadline).1 p (Link.write data deadline p)) ∧
    (∀ n, Persists deadline p (Link.readAvailable n deadline p)) ∧
    Persists deadline p (Link.readByte deadline p) ∧
    (∀ value, Persists deadline p (Link.waitForByte value deadline p)) ∧
    ∀ data, ((Link.writeAll data deadline p).1 = .error .timeout ↔
        RunsOut (p.writeDeadline deadline).1 p (Link.writeAll data deadline p).2) ∧
      ((∃ e, (Link.writeAll data deadline p).1 = .error e ∧ e.isRetryable = true) ↔
        (Link.writeAllBy Link.write data (p.writeDeadline deadline).1
          (p.writeDeadline deadline).2).1 = .ok () ∧
        ∃ f, decisiveFlush p.stream.flushes = some f ∧ f.kind.isInterruption = true) := by
  refine ⟨fun data => (ends_write data deadline hset).toPersists, fun n => ?_,
    (ends_readByte deadline hset).toPersists,
    fun value => (ends_waitForByte value deadline hset).toPersists,
    fun data => ⟨writeAll_timeout_iff data deadline hset,
      writeAll_retryable_iff data deadline hset⟩⟩
  rcases Nat.eq_zero_or_pos n with rfl | hn
  · exact persists_nothing deadline p []
  · exact (ends_readAvailable (Nat.pos_iff_ne_zero.mp hn) deadline hset).toPersists

/-- A link whose stream interrupts the first read and the second flush, and whose clock moves on
between its first two readings. -/
def reluctant : StreamLink :=
  ⟨{ reads := [.fault (.error .timedOut)]
     flushes := [some (.error .interrupted), some (.error .wouldBlock)]
     ticks := [1, 10] }, {}⟩

/-- The read is repeated until its deadline and times out, but the second flush is reported. -/
theorem reluctant_calls :
    RunsOut ⟨5⟩ reluctant (Link.readByte ⟨5⟩ reluctant).2 ∧
      ∃ e, (Link.writeAll [1] ⟨seconds 1⟩ reluctant).1 = .error e ∧ e.isRetryable = true := by
  have hset : reluctant.stream.SettingsSucceed := fun f hf => by cases hf
  obtain ⟨-, -, hread, -, -⟩ := calls_persist ⟨5⟩ reluctant hset
  obtain ⟨-, -, -, -, hwrites⟩ := calls_persist ⟨seconds 1⟩ reluctant hset
  refine ⟨hread.timely.mp (by decide +kernel), (hwrites [1]).2.mpr ⟨by decide +kernel, ?_⟩⟩
  exact ⟨.error .wouldBlock, rfl, rfl⟩

/-- Not every call of a stream link keeps interruptions to itself. -/
theorem not_writeAll_harmless :
    ¬ ∀ (data : List UInt8) (deadline : Deadline) (p : StreamLink), p.stream.SettingsSucceed →
      ∀ e, (Link.writeAll data deadline p).1 = .error e → e.isRetryable = false := by
  intro h
  have hharmless := h [1] ⟨seconds 3600⟩ ⟨{ flushes := [some (.error .wouldBlock)] }, {}⟩
    (fun f hf => by cases hf) (.io ⟨.wouldBlock, none⟩) (by decide +kernel)
  cases hharmless

end StreamLink

end FramedLink
