import FramedLink.Link.Recorded
import FramedLink.Proofs.Sending
import FramedLink.Proofs.WriteBudget

set_option autoImplicit false
set_option relaxedAutoImplicit false

/-!
# What a link has taken, and when

What goes out over a link can be told from the bytes that the link has taken. A complete write adds
bytes from the front of its data, in whatever way it ends, and a read adds nothing. So do all kinds
of links, whatever their other end does.

It is also known when the last call of a link began and when it ended. **A read that yields bytes
begins before its deadline, but it need not end before it:** a stream link looks at the clock, sets
a time limit and then reads, and the time limit is never shorter than the shortest slice. So the
read may outlast the deadline by less than that, and nobody looks at the clock again. On the other
links a read that yields bytes ends before the deadline as well.

This is all that has to be known of a link in order to say what an exchange may leave in its
outbound stream, and how late a frame may be that is accepted.

## Main definitions

* `FramedLink.Link.Ledger` — the links for which it is known which bytes they have taken, and when.
* `FramedLink.Link.Writes` — between two states, bytes from the front of some data have been taken.
* `FramedLink.Link.InTime` — the last call began before the deadline.

## Main results

* `FramedLink.Link.writes_sendFrame` — the sending of a frame.
* `FramedLink.Link.inTime_of_attempt_accepted` — the last read of a frame that is accepted has begun
  in time.
* `FramedLink.StreamLink.readUntil_within_slice` — the calls of a stream by which a read ends.
* The instances of `FramedLink.Link.Ledger` for `MemoryLink`, `RecordedLink` and `StreamLink`.
-/

namespace FramedLink

namespace Link

/-! ## Ledgers -/

/-- A link for which it is known which bytes it has taken, and when its last call began and ended.
-/
class Ledger (σ : Type) [Link σ] where
  /-- The bytes that the link has taken so far. -/
  taken : σ → List UInt8
  /-- A complete write takes bytes from the front of its data, and all of them if it succeeds. -/
  taken_writeAll {data : List UInt8} {deadline : Deadline} {r : Except LinkError Unit}
    {link link' : σ} : writeAll data deadline link = (r, link') →
      ∃ piece, taken link' = taken link ++ piece ∧ piece <+: data ∧ (r = .ok () → piece = data)
  /-- A read takes nothing. -/
  taken_read {n : Nat} {deadline : Deadline} {r : Except LinkError (List UInt8)} {link link' : σ} :
    readAvailable n deadline link = (r, link') → taken link' = taken link
  /-- What the clock showed when the last call began. -/
  began : σ → Nat
  /-- The instant at which the last call ended. -/
  ended : σ → Nat
  /-- How much longer a read may last than until its deadline. -/
  overrun : Nat
  /-- The last call is over when the clock is looked at. -/
  ended_le_now (link : σ) : ended link ≤ now link
  /-- A read that yields bytes begins before its deadline, and ends before the overrun is over. -/
  inTime_of_read {n : Nat} {deadline : Deadline} {bytes : List UInt8} {link link' : σ} : 0 < n →
    ended link < deadline.instant + overrun →
      readAvailable n deadline link = (.ok bytes, link') →
        began link' < deadline.instant ∧ ended link' < deadline.instant + overrun

variable {σ : Type} [Link σ] [Ledger σ] {deadline : Deadline} {link link₁ link₂ : σ}
  {xs ys data : List UInt8}

open Ledger (taken)

/-- Between two states, the link has taken bytes from the front of `data`, and all of them if `done`
holds. -/
def Writes (link link' : σ) (data : List UInt8) (done : Prop) : Prop :=
  ∃ piece, taken link' = taken link ++ piece ∧ piece <+: data ∧ (done → piece = data)

/-- After some data has been taken completely, the link takes from the front of what follows. -/
lemma Writes.append {done done' : Prop} (h : Writes link link₁ xs done) (hdone : done)
    (h' : Writes link₁ link₂ ys done') : Writes link link₂ (xs ++ ys) done' := by
  obtain ⟨piece, hfirst, -, hall⟩ := h
  obtain rfl := hall hdone
  obtain ⟨piece', hsecond, hfront, hall'⟩ := h'
  refine ⟨piece ++ piece', ?_, (List.prefix_append_right_inj piece).mpr hfront, fun h => ?_⟩
  · rw [hsecond, hfirst, List.append_assoc]
  · rw [hall' h]

/-- What has been taken from the front of some data has been taken from the front of more data. -/
lemma Writes.append_of_not {done done' : Prop} (h : Writes link link₁ xs done) (ys : List UInt8)
    (hnot : ¬ done') : Writes link link₁ (xs ++ ys) done' := by
  obtain ⟨piece, hpiece, hfront, -⟩ := h
  exact ⟨piece, hpiece, hfront.trans (List.prefix_append xs ys), fun h => absurd h hnot⟩

/-- Byte strings written one after another are taken from the front.

**Proof sketch.** Induction on the pieces. If one of them fails, a front of it is the last thing
that has been taken. -/
lemma writes_writePieces {pieces : List (List UInt8)} {r : Except LinkError Unit}
    (h : writePieces pieces deadline link = (r, link₁)) :
    Writes link link₁ pieces.flatten (r = .ok ()) := by
  induction pieces generalizing link with
  | nil =>
    cases h
    exact ⟨[], (List.append_nil _).symm, List.nil_prefix, fun _ => rfl⟩
  | cons piece rest ih =>
    rw [writePieces] at h
    rw [List.flatten_cons]
    rcases hpiece : writeAll piece deadline link with ⟨e | _, link₂⟩ <;> rw [hpiece] at h
    · cases h
      exact Writes.append_of_not (Ledger.taken_writeAll hpiece) rest.flatten fun hok => by cases hok
    · exact Writes.append (Ledger.taken_writeAll hpiece) rfl (ih h)

/-- **A frame that is sent is taken from the front,** and as a whole if the sending succeeds. -/
theorem writes_sendFrame {header : FrameHeader} {payload : List UInt8} {r : Except LinkError Unit}
    (h : sendFrame header payload deadline link = (r, link₁)) :
    Writes link link₁ (frameBytes header payload) (r = .ok ()) := by
  rw [← flatten_framePieces]
  exact writes_writePieces h

/-- Reads take nothing. -/
lemma chains_taken (deadline : Deadline) :
    Chains deadline fun link link' : σ => taken link' = taken link where
  refl _ := rfl
  trans h h' := h'.trans h
  read h := Ledger.taken_read h

/-! ## Time -/

/-- The last call of the link began before the deadline, and ended before the overrun was over. -/
structure InTime (deadline : Deadline) (link : σ) : Prop where
  /-- When it began, the clock showed an instant before the deadline. -/
  began : Ledger.began link < deadline.instant
  /-- It did not last much longer than until the deadline. -/
  ended : Ledger.ended link < deadline.instant + Ledger.overrun σ

/-- From `link` to `link'`, there has been no call, or the last one was in time. -/
def StaysInTime (deadline : Deadline) (link link' : σ) : Prop :=
  Ledger.ended link < deadline.instant + Ledger.overrun σ →
    link' = link ∨ InTime deadline link'

/-- Reads that succeed stay in time. -/
lemma readChains_staysInTime (deadline : Deadline) :
    ReadChains deadline fun (link link' : σ) failed =>
      failed = false → StaysInTime deadline link link' where
  refl _ _ _ := .inl rfl
  trans h h' hok hended := by
    obtain rfl | hmid := h rfl hended
    · exact h' hok hended
    · obtain rfl | hend := h' hok hmid.ended
      · exact .inr hmid
      · exact .inr hend
  weaken _ := nofun
  read hn h _ hended := by
    obtain ⟨hbegan, hended'⟩ := Ledger.inTime_of_read hn hended h
    exact .inr ⟨hbegan, hended'⟩
  failed _ _ := nofun

/-- The search for a byte that is found is in time if it starts before the deadline. -/
lemma inTime_of_waitForByte {value : UInt8} (hlive : ¬ deadline.expired (now link) = true)
    (h : waitForByte value deadline link = (.ok (), link₁)) : InTime deadline link₁ := by
  have hended : Ledger.ended link < deadline.instant + Ledger.overrun σ := by
    have hle := Ledger.ended_le_now link
    simp only [Deadline.expired, decide_eq_true_eq] at hlive
    omega
  obtain rfl | hin := (readChains_staysInTime deadline).waitForByte h rfl hended
  · -- a search that finds its byte has read something
    exact absurd ((supply_waitForByte h).2 rfl) (Nat.lt_irrefl _)
  · exact hin

/-- The marker before every attempt of a wait has been read in time. -/
lemma inTime_of_starts {expect : Expectation} {start : σ} (h : Starts expect deadline link start) :
    InTime deadline start := by
  induction h with
  | first live found => exact inTime_of_waitForByte live found
  | later live found tried starts ih => exact ih

/-- **The last read of a frame that is accepted has begun before the deadline.** -/
theorem inTime_of_attempt_accepted {expect : Expectation} {start : σ} {reply : Reply}
    (hstart : Starts expect deadline link start)
    (h : attempt expect deadline start = (.ok (.accepted reply), link₁)) :
    InTime deadline link₁ := by
  have hin := inTime_of_starts hstart
  obtain rfl | hend := (readChains_staysInTime deadline).attempt_accepted h rfl hin.ended
  · exact hin
  · exact hend

end Link

/-! ## Memory links -/

namespace MemoryLink

variable {deadline : Deadline} {p q : MemoryLink}

/-- A complete write to a memory link takes all bytes or none. -/
lemma outbound_writeAll {data : List UInt8} {r : Except LinkError Unit}
    (h : Link.writeAll data deadline p = (r, q)) :
    ∃ piece, q.outbound.toList = p.outbound.toList ++ piece ∧ piece <+: data ∧
      (r = .ok () → piece = data) := by
  rcases eq_or_ne data [] with rfl | hdata
  · rw [writesByParts, Link.writeAllBy] at h
    cases h
    exact ⟨[], (List.append_nil _).symm, List.nil_prefix, fun _ => rfl⟩
  rw [writeAll_eq_write hdata] at h
  rcases hwrite : Link.write data deadline p with ⟨e | n, q'⟩ <;> rw [hwrite] at h <;> cases h
  · refine ⟨[], ?_, List.nil_prefix, fun hok => by cases hok⟩
    rw [(allOrNothing_write hwrite).outbound_of_error rfl, List.append_nil]
  · refine ⟨data, ?_, List.prefix_refl data, fun _ => rfl⟩
    rw [(allOrNothing_write hwrite).outbound_of_ok rfl, Array.toList_appendList]

instance : Link.Ledger MemoryLink where
  taken p := p.outbound.toList
  taken_writeAll := outbound_writeAll
  taken_read {n deadline r p q} h := by
    rw [KeepsSettings.outbound ((chains_keepsSettings deadline).read h)]
  began p := p.clock.now
  ended p := p.clock.now
  overrun := 0
  ended_le_now _ := Nat.le_refl _
  inTime_of_read {n deadline bytes p q} hn hended h := by
    have hlive : ¬ deadline.expired (Link.now p) = true := by
      simpa [Deadline.expired, Link.now] using hended
    have hlive' := (follows_readAvailable hn h).live hlive
    have hend : q.clock.now < deadline.instant := by
      simpa [Deadline.expired, Link.now] using hlive'
    exact ⟨hend, hend⟩

end MemoryLink

/-! ## Recorded links -/

namespace RecordedLink

variable {deadline : Deadline} {p q : RecordedLink}

/-- A write to a recorded link takes as many bytes as it says, from the front of its data. -/
lemma outbound_write {data : List UInt8} {r : Except LinkError Nat}
    (h : Link.write data deadline p = (r, q)) :
    q.outbound.toList = p.outbound.toList ++ data.take (ByteStream.taken r) := by
  change RecordedLink.write data deadline p = (r, q) at h
  unfold RecordedLink.write at h
  dsimp only at h
  repeat' split at h
  all_goals obtain ⟨rfl, rfl⟩ := Prod.mk.inj h
  · simp [ByteStream.taken]
  · simp [ByteStream.taken, List.take_eq_take_min]
  · simp [ByteStream.taken]

/-- Writes to a recorded link, one after another, take bytes from the front of their data.

**Proof sketch.** Induction on the writes. Each of them takes bytes from the front of what is left,
and the next one is offered the rest. A write that fails takes nothing. -/
lemma outbound_writeAll {data : List UInt8} {r : Except LinkError Unit}
    (h : Link.writeAll data deadline p = (r, q)) :
    ∃ piece, q.outbound.toList = p.outbound.toList ++ piece ∧ piece <+: data ∧
      (r = .ok () → piece = data) := by
  change Link.writeAllBy Link.write data deadline p = (r, q) at h
  fun_induction Link.writeAllBy Link.write data deadline p with
  | case1 p =>
    cases h
    exact ⟨[], (List.append_nil _).symm, List.nil_prefix, fun _ => rfl⟩
  | case2 p b rest e m hwrite =>
    cases h
    exact ⟨[], outbound_write hwrite, List.nil_prefix, fun hok => by cases hok⟩
  | case3 p b rest m hwrite =>
    cases h
    exact ⟨[], outbound_write hwrite, List.nil_prefix, fun hok => by cases hok⟩
  | case4 p b rest n m hwrite ih =>
    obtain ⟨piece, hpiece, hfront, hall⟩ := ih h
    have hfirst := outbound_write hwrite
    rw [ByteStream.taken, List.take_succ_cons] at hfirst
    have hsplit : b :: rest.take n ++ rest.drop n = b :: rest := by
      rw [List.cons_append, List.take_append_drop]
    refine ⟨b :: rest.take n ++ piece, ?_, ?_, fun hok => ?_⟩
    · rw [hpiece, hfirst, List.append_assoc]
    · rw [← hsplit]
      exact (List.prefix_append_right_inj _).mpr hfront
    · rw [hall hok, hsplit]

/-- A read takes no byte, and one that yields bytes ends before the deadline. -/
lemma outbound_readAvailable {n : Nat} {r : Except LinkError (List UInt8)}
    (h : p.readAvailable n deadline = (r, q)) :
    q.outbound = p.outbound ∧ ∀ bytes, 0 < n → r = .ok bytes → q.now < deadline.instant := by
  unfold readAvailable at h
  split at h
  · next hn =>
    cases h
    exact ⟨rfl, fun _ hpos => absurd hn (Nat.ne_of_gt hpos)⟩
  split at h
  · cases h
    exact ⟨rfl, fun _ _ hok => by cases hok⟩
  · next instant arrival rest harrivals =>
    dsimp only at h
    split at h
    · cases h
      exact ⟨rfl, fun _ _ hok => by cases hok⟩
    · next hlive =>
      simp only [Deadline.expired, decide_eq_true_eq, Nat.not_le] at hlive
      split at h <;> cases h
      · exact ⟨rfl, fun _ _ hok => by cases hok⟩
      · exact ⟨rfl, fun _ _ hok => by cases hok⟩
      · exact ⟨rfl, fun _ _ _ => hlive⟩

instance : Link.Ledger RecordedLink where
  taken p := p.outbound.toList
  taken_writeAll := outbound_writeAll
  taken_read h := congrArg Array.toList (outbound_readAvailable h).1
  began p := p.now
  ended p := p.now
  overrun := 0
  ended_le_now _ := Nat.le_refl _
  inTime_of_read hn _ h :=
    have hend := (outbound_readAvailable h).2 _ hn rfl
    ⟨hend, hend⟩

end RecordedLink

/-! ## Stream links -/

namespace ByteStream

variable {s s' : ByteStream}

/-- A read takes no byte. -/
lemma made_read (s : ByteStream) (n : Nat) :
    ∃ made, s.Made (s.read n).2 made [] ∧ Logged (.read n) (s.read n).1 made := by
  have hprecedes := (s.acts_read n).toPrecedes
  revert hprecedes
  unfold read
  dsimp only
  split
  · exact fun h => ⟨_, ⟨h, by simp [note], by simp [note]⟩, rfl⟩
  · exact fun h => ⟨_, ⟨h, by simp [note], by simp [note]⟩, rfl⟩
  · next f reads _ =>
    refine fun h => ⟨_, ⟨h, ?_, ?_⟩, f, rfl⟩
    · rw [calls_fail]
      simp [note]
    · rw [outbound_fail]
      simp [note]

/-- A time limit that can be set holds from then on, and setting it takes no time. -/
lemma limit_of_setReadTimeout {span : Nat} (h : s.setReadTimeout span = (.ok (), s')) :
    s'.limit = span ∧ s'.now = s.now := by
  unfold setReadTimeout setTimeout at h
  dsimp only at h
  split at h
  · obtain ⟨-, rfl⟩ := Prod.mk.inj h
    exact ⟨rfl, rfl⟩
  · obtain ⟨-, rfl⟩ := Prod.mk.inj h
    exact ⟨rfl, rfl⟩
  · cases h

/-- A read that does not fail ends within the time limit. -/
lemma now_le_of_read {n : Nat} {bytes : List UInt8} (h : s.read n = (.ok bytes, s')) :
    s'.now ≤ s.now + s.limit := by
  unfold read at h
  dsimp only at h
  split at h
  · obtain ⟨-, rfl⟩ := Prod.mk.inj h
    exact Nat.add_le_add_left (Nat.min_le_right _ _) _
  · obtain ⟨-, rfl⟩ := Prod.mk.inj h
    exact Nat.add_le_add_left (Nat.min_le_right _ _) _
  · cases h

/-- The instant that a call shows, if it is a reading of the clock. -/
def Call.shown? : Call → Option Nat
  | clock now => some now
  | _ => none

/-- The instant that the clock showed when it was read last, as the log has it. -/
def looked (s : ByteStream) : Nat := (s.calls.toList.reverse.findSome? Call.shown?).getD 0

/-- The last reading of the clock is the one before the read at the end of the log. -/
lemma looked_of_calls {before : List Call} {now span n : Nat}
    (h : s.calls.toList = before ++ [.clock now, .setReadTimeout span, .read n]) :
    s.looked = now := by
  rw [looked, h, List.reverse_append]
  rfl

end ByteStream

namespace StreamLink

open ByteStream

variable {deadline : Deadline} {p q : StreamLink}

/-- A complete write to a stream link takes bytes from the front of its data: its failure may come
after any of them, and even after all of them, from the flush. -/
lemma outbound_writeAll {data : List UInt8} {r : Except LinkError Unit}
    (h : Link.writeAll data deadline p = (r, q)) :
    ∃ piece, q.stream.outbound.toList = p.stream.outbound.toList ++ piece ∧ piece <+: data ∧
      (r = .ok () → piece = data) := by
  obtain ⟨-, -, hlimit⟩ := p.writeDeadline_spec deadline
  obtain ⟨-, limited, hlimited⟩ :=
    wrote_writeDeadline (p.writeDeadline deadline).1.instant data deadline p
  obtain ⟨parts, n, hparts, hok, -⟩ :=
    wrote_writeAllBy data (p.writeDeadline deadline).1 (p.writeDeadline deadline).2 hlimit
  have hwrote := (hlimited.behind hparts).log.outbound
  rcases hall : Link.writeAllBy Link.write data (p.writeDeadline deadline).1
    (p.writeDeadline deadline).2 with ⟨e | _, m⟩ <;> rw [hall] at hwrote hok
  · rw [writeAll_of_error hall] at h
    cases h
    exact ⟨data.take n, hwrote, List.take_prefix n data, nofun⟩
  · rw [writeAll_of_ok hall] at h
    obtain ⟨flushes, hflushes, -⟩ := m.made_flushes
    have hflushed := hflushes.outbound
    rw [h, List.append_nil] at hflushed
    refine ⟨data.take n, hflushed.trans hwrote, List.take_prefix n data, fun _ => ?_⟩
    rw [hok rfl, List.take_length]

/-- The calls before an attempt to read take no byte. -/
lemma made_setRead {span : Nat} {m : StreamLink} {s : ByteStream} {r : Except IoError Unit}
    (hslice : p.slice deadline = (.ok span, m)) (hset : m.stream.setReadTimeout span = (r, s)) :
    ∃ made, p.stream.Made s (.clock p.stream.readClock.1 :: made) [] ∧
      Logged (.setReadTimeout span) r made := by
  obtain ⟨rfl, -⟩ := slice_eq_ok hslice
  obtain ⟨made, hmade, hlogged⟩ :=
    p.stream.readClock.2.made_setTimeout (.setReadTimeout span) span (by simp)
  change p.stream.readClock.2.setTimeout (.setReadTimeout span) span = _ at hset
  rw [hset] at hmade hlogged
  exact ⟨made, p.stream.made_readClock.trans hmade, hlogged⟩

/-- One attempt to read takes no byte. -/
lemma made_attempt {span n : Nat} {m : StreamLink} {s s' : ByteStream}
    {r : Except IoError (List UInt8)} (hslice : p.slice deadline = (.ok span, m))
    (hset : m.stream.setReadTimeout span = (.ok (), s)) (hread : s.read n = (r, s')) :
    ∃ made, p.stream.Made s' (.clock p.stream.readClock.1 :: .setReadTimeout span :: made) [] ∧
      Logged (.read n) r made := by
  obtain ⟨_, hmade, rfl⟩ := made_setRead hslice hset
  obtain ⟨made, hmade', hlogged⟩ := s.made_read n
  rw [hread] at hmade' hlogged
  exact ⟨made, hmade.trans hmade', hlogged⟩

/-- A read takes no byte.

**Proof sketch.** Induction on the interrupted reads. None of the calls of an attempt takes a byte.
-/
lemma outbound_readUntil {n : Nat} {r : Except LinkError (List UInt8)}
    (h : p.readUntil n deadline = (r, q)) : q.stream.outbound = p.stream.outbound := by
  have hsame {s s' : ByteStream} {made : List ByteStream.Call} (hmade : s.Made s' made []) :
      s'.outbound = s.outbound := by
    simpa [Array.toList_inj] using hmade.outbound
  fun_induction readUntil n deadline p with
  | case1 p hc => cases h; rfl
  | case2 p hc e p' hs =>
    cases h
    obtain ⟨rfl, -⟩ := slice_eq_error hs
    rfl
  | case3 p hc span p' hs e stream ht =>
    cases h
    obtain ⟨_, hmade, -⟩ := made_setRead hs ht
    exact hsame hmade
  | case6 p hc span p' hs stream ht e stream' hr hi ih =>
    obtain ⟨_, hmade, -⟩ := made_attempt hs ht hr
    exact (ih h).trans (hsame hmade)
  | case4 p hc span p' hs stream ht stream' hr
  | case5 p hc span p' hs stream ht b bytes stream' hr
  | case7 p hc span p' hs stream ht e stream' hr hi =>
    cases h
    obtain ⟨_, hmade, -⟩ := made_attempt hs ht hr
    exact hsame hmade

/-- **A read that yields bytes begins before the deadline and lasts no longer than its slice.** The
last three calls are a look at the clock, the setting of the time limit and the read, and what the
clock has shown is an instant before the deadline.

**Proof sketch.** Induction on the interrupted reads. Every one of them is followed by a new look at
the clock, so that only the last attempt matters. Its slice has been chosen because the deadline was
still to come, and the read ends within the time limit that has been set to this slice. -/
theorem readUntil_within_slice {n : Nat} {bytes : List UInt8}
    (h : p.readUntil n deadline = (.ok bytes, q)) :
    ∃ before now span,
      q.stream.calls.toList = before ++ [.clock now, .setReadTimeout span, .read n] ∧
        now < deadline.instant ∧ q.stream.now ≤ now + span ∧
        span ≤ max minPollInterval (min p.config.pollInterval (deadline.instant - now)) := by
  fun_induction readUntil n deadline p with
  | case5 p hc span p' hs stream ht b bytes stream' hr =>
    cases h
    obtain ⟨_, hmade, rfl⟩ := made_attempt hs ht hr
    obtain ⟨rfl, hlive, -, hmax⟩ := slice_eq_ok hs
    obtain ⟨hlimit, hnow⟩ := limit_of_setReadTimeout ht
    have hend := now_le_of_read hr
    rw [hlimit, hnow] at hend
    exact ⟨_, _, _, hmade.calls, hlive, hend, hmax⟩
  | case6 p hc span p' hs stream ht e stream' hr hi ih =>
    obtain ⟨rfl, -⟩ := slice_eq_ok hs
    exact ih h
  | _ => cases h

/-- A call that reads takes no byte. -/
lemma outbound_readAvailable {n : Nat} {r : Except LinkError (List UInt8)}
    (h : p.readAvailable n deadline = (r, q)) : q.stream.outbound = p.stream.outbound := by
  unfold readAvailable at h
  split at h
  · cases h
    rfl
  · exact outbound_readUntil h

/-- A read that yields bytes begins before the deadline, and outlasts it by less than the shortest
slice. -/
lemma inTime_readAvailable {n : Nat} {bytes : List UInt8} (hn : 0 < n)
    (h : p.readAvailable n deadline = (.ok bytes, q)) :
    q.stream.looked < deadline.instant ∧ q.stream.now < deadline.instant + minPollInterval := by
  rw [readAvailable, if_neg (Nat.ne_of_gt hn)] at h
  obtain ⟨before, now, span, hcalls, hlive, hend, hmax⟩ := readUntil_within_slice h
  refine ⟨looked_of_calls hcalls ▸ hlive, ?_⟩
  have hslice := Nat.min_le_right p.config.pollInterval (deadline.instant - now)
  have hpos : 0 < minPollInterval := by decide
  omega

instance : Link.Ledger StreamLink where
  taken p := p.stream.outbound.toList
  taken_writeAll := outbound_writeAll
  taken_read h := congrArg Array.toList (outbound_readAvailable h)
  began p := p.stream.looked
  ended p := p.stream.now
  overrun := minPollInterval
  ended_le_now _ := Nat.le_add_right _ _
  inTime_of_read hn _ h := inTime_readAvailable hn h

end StreamLink

end FramedLink
