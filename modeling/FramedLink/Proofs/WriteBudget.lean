import FramedLink.Proofs.Retrying

set_option autoImplicit false
set_option relaxedAutoImplicit false

/-!
# The budget of a complete write

A complete write may take many writes of the stream: some take only a part of what they are offered,
and some are interrupted. Every one of them starts with a look at the clock, and the limit of writes
is worked out again for each part. **All the same, one instant that is fixed at the first look
bounds the whole.** The reason is that the limit, counted from a later look, never comes before a
deadline that is already within the limit.

The log of the calls shows what this amounts to: each write is offered exactly what has not been
taken yet, for a time that does not go beyond the stop, and the call times out only once the clock
has come to the stop.

## Main definitions

* `FramedLink.LinkConfig.writeStop` — the instant at which a complete write gives up.
* `FramedLink.ByteStream.Made` — which calls have been made between two states of a stream, and
  which bytes have been taken.
* `FramedLink.ByteStream.Paced` — every write in a log has looked at the clock and has set its time
  limit just before.
* `FramedLink.StreamLink.Wrote` — what writes do to the stream of a link.

## Main results

* `FramedLink.StreamLink.wrote_writeUntil` — the loop of a write.
* `FramedLink.StreamLink.wrote_writeAllBy` — repeated writes under one deadline.
* `FramedLink.StreamLink.writeAll_within_budget` — a complete write.
-/

namespace FramedLink

/-- The instant at which a complete write gives up that first looks at the clock at `start`. -/
def LinkConfig.writeStop (c : LinkConfig) (deadline : Deadline) (start : Nat) : Nat :=
  match c.writeTimeout with
  | none => deadline.instant
  | some limit => min deadline.instant (start + min limit maxTimeout)

namespace ByteStream

/-! ## The calls made between two states -/

/-- Between `s` and `s'`, the calls `made` have been made, and the bytes `sent` have been taken. -/
structure Made (s s' : ByteStream) (made : List Call) (sent : List UInt8) : Prop where
  /-- What all calls have in common. -/
  precedes : s.Precedes s'
  /-- The calls. -/
  calls : s'.calls.toList = s.calls.toList ++ made
  /-- The bytes. -/
  outbound : s'.outbound.toList = s.outbound.toList ++ sent

variable {s s' s'' : ByteStream} {made made' : List Call} {sent sent' : List UInt8}

/-- No calls. -/
lemma Made.refl (s : ByteStream) : s.Made s [] [] := ⟨.refl s, by simp, by simp⟩

/-- Calls followed by calls. -/
lemma Made.trans (h : s.Made s' made sent) (h' : s'.Made s'' made' sent') :
    s.Made s'' (made ++ made') (sent ++ sent') where
  precedes := h.precedes.trans h'.precedes
  calls := by rw [h'.calls, h.calls, List.append_assoc]
  outbound := by rw [h'.outbound, h.outbound, List.append_assoc]

/-- A reading of the clock takes no byte. -/
lemma outbound_readClock (s : ByteStream) : s.readClock.2.outbound = s.outbound := rfl

/-- A reading of the clock. -/
lemma made_readClock (s : ByteStream) : s.Made s.readClock.2 [.clock s.readClock.1] [] where
  precedes := s.readClock_spec.1
  calls := s.readClock_spec.2.2.2
  outbound := by rw [outbound_readClock, List.append_nil]

/-- A failure is logged. -/
lemma calls_fail (s : ByteStream) (f : Fault) :
    (s.fail f).2.calls.toList = s.calls.toList ++ [.failed f] := by
  cases f <;> simp [fail, note]

/-- A failure takes no byte. -/
lemma outbound_fail (s : ByteStream) (f : Fault) : (s.fail f).2.outbound = s.outbound := by
  cases f <;> rfl

/-- How a call is logged that is no reading of the clock: a failure is logged behind it. -/
def Logged {ε α : Type} (call : Call) (r : Except ε α) (made : List Call) : Prop :=
  match r with
  | .ok _ => made = [call]
  | .error _ => ∃ f, made = [call, .failed f]

/-- The setting of a time limit takes no byte. -/
lemma made_setTimeout (s : ByteStream) (call : Call) (span : Nat)
    (hcall : ∀ now, call ≠ .clock now) :
    ∃ made, s.Made (s.setTimeout call span).2 made [] ∧
      Logged call (s.setTimeout call span).1 made := by
  have hprecedes := (s.acts_setTimeout span hcall).toPrecedes
  revert hprecedes
  unfold setTimeout
  dsimp only
  split
  · exact fun h => ⟨_, ⟨h, by simp [note], by simp [note]⟩, rfl⟩
  · exact fun h => ⟨_, ⟨h, by simp [note], by simp [note]⟩, rfl⟩
  · next f settings _ =>
    refine fun h => ⟨_, ⟨h, ?_, ?_⟩, f, rfl⟩
    · rw [calls_fail]
      simp [note]
    · rw [outbound_fail]
      simp [note]

/-- How many bytes a write has taken. -/
def taken {ε : Type} : Except ε Nat → Nat
  | .ok n => n
  | .error _ => 0

/-- A write takes bytes from the front of what it is offered, and none if it fails. -/
lemma made_write (s : ByteStream) (data : List UInt8) :
    ∃ made, s.Made (s.write data).2 made (data.take (taken (s.write data).1)) ∧
      Logged (.write data) (s.write data).1 made ∧ taken (s.write data).1 ≤ data.length := by
  have hprecedes := (s.acts_write data).toPrecedes
  revert hprecedes
  unfold write
  dsimp only
  split
  · refine fun h => ⟨_, ⟨h, by simp [note], ?_⟩, rfl, Nat.le_refl _⟩
    simp [note, taken]
  · refine fun h => ⟨_, ⟨h, by simp [note], ?_⟩, rfl, Nat.min_le_right _ _⟩
    simp [note, taken, List.take_eq_take_min]
  · next f writes _ =>
    refine fun h => ⟨_, ⟨h, ?_, ?_⟩, ⟨f, rfl⟩, Nat.zero_le _⟩
    · rw [calls_fail]
      simp [note]
    · rw [outbound_fail]
      simp [note, taken]

/-- A flush takes no byte. -/
lemma made_flush (s : ByteStream) :
    ∃ made, s.Made s.flush.2 made [] ∧ Logged .flush s.flush.1 made := by
  have hprecedes := s.acts_flush.toPrecedes
  revert hprecedes
  unfold flush
  dsimp only
  split
  · exact fun h => ⟨_, ⟨h, by simp [note], by simp [note]⟩, rfl⟩
  · exact fun h => ⟨_, ⟨h, by simp [note], by simp [note]⟩, rfl⟩
  · next f flushes _ =>
    refine fun h => ⟨_, ⟨h, ?_, ?_⟩, f, rfl⟩
    · rw [calls_fail]
      simp [note]
    · rw [outbound_fail]
      simp [note]

/-! ## Paced writes -/

/-- Just before every write, the clock has shown an instant before `stop`, and the time limit has
been set to what is left until then, at most to `poll`, and at least to the shortest slice. -/
def Paced (poll stop : Nat) (calls : List Call) : Prop :=
  ∀ before offered after, calls = before ++ .write offered :: after →
    ∃ earlier now span, before = earlier ++ [.clock now, .setWriteTimeout span] ∧ now < stop ∧
      minPollInterval ≤ span ∧ span ≤ max minPollInterval (min poll (stop - now))

variable {poll stop : Nat}

/-- A log without writes is paced. -/
lemma paced_of_no_write (h : ∀ offered, .write offered ∉ made) : Paced poll stop made := by
  rintro before offered after rfl
  exact absurd (by simp) (h offered)

/-- A log with one write is paced if the calls before it are those of an attempt. -/
lemma paced_of_one_write {now span : Nat} {data : List UInt8} {rest : List Call}
    (hlive : now < stop) (hmin : minPollInterval ≤ span)
    (hmax : span ≤ max minPollInterval (min poll (stop - now)))
    (hrest : ∀ offered, .write offered ∉ rest) :
    Paced poll stop (.clock now :: .setWriteTimeout span :: .write data :: rest) := by
  intro before offered after hcalls
  obtain - | ⟨c₁, - | ⟨c₂, - | ⟨c₃, before⟩⟩⟩ := before <;>
    simp only [List.cons_append, List.nil_append, List.cons.injEq] at hcalls
  · cases hcalls.1
  · cases hcalls.2.1
  · obtain ⟨rfl, rfl, -⟩ := hcalls
    exact ⟨[], _, span, rfl, hlive, hmin, hmax⟩
  · obtain ⟨-, -, -, rfl⟩ := hcalls
    exact absurd (by simp) (hrest offered)

/-- A paced log can be continued by another.

**Proof sketch.** A write of the joined log is in the first or in the second one. Its two
predecessors are in the same log, since no paced log starts with a write. -/
lemma Paced.append (h : Paced poll stop made) (h' : Paced poll stop made') :
    Paced poll stop (made ++ made') := by
  intro before offered after hcalls
  obtain ⟨between, rfl, hrest⟩ | ⟨between, rfl, hrest⟩ := List.append_eq_append_iff.mp hcalls
  · -- the write belongs to the second log
    obtain ⟨earlier, now, span, rfl, hspan⟩ := h' between offered after hrest
    exact ⟨made ++ earlier, now, span, by rw [List.append_assoc], hspan⟩
  · obtain - | ⟨call, between⟩ := between
    · obtain ⟨earlier, now, span, hnil, -⟩ := h' [] offered after hrest.symm
      simp at hnil
    · obtain ⟨rfl, -⟩ := List.cons.inj hrest
      exact h before offered between rfl

end ByteStream

/-! ## Writes up to one stop -/

namespace StreamLink

open ByteStream

/-- Between `p` and `q`, the calls `made` have written `n` bytes of `data`, every write of them
paced by `stop`. -/
structure Wrote (stop : Nat) (data : List UInt8) (p q : StreamLink) (made : List ByteStream.Call)
    (n : Nat) : Prop where
  /-- The first `n` bytes have been taken. -/
  log : p.stream.Made q.stream made (data.take n)
  /-- No more bytes than there are. -/
  le : n ≤ data.length
  /-- The settings stay. -/
  config : q.config = p.config
  /-- The writes are paced. -/
  paced : Paced p.config.pollInterval stop made
  /-- What has been taken is not offered again, and nothing is left out. -/
  offers : ∀ offered, .write offered ∈ made → ∃ j ≤ n, offered = data.drop j
  /-- The clock is looked at first. -/
  start : (made = [] ∧ q = p) ∨ ∃ rest, made = .clock p.stream.readClock.1 :: rest

/-- The last call of a log is a look at the clock, and that shows that `stop` has come. -/
def EndsLate (stop : Nat) (made : List ByteStream.Call) : Prop :=
  ∃ before now, made = before ++ [.clock now] ∧ stop ≤ now

variable {stop n n' : Nat} {data : List UInt8} {deadline : Deadline} {p m q : StreamLink}
  {made made' : List ByteStream.Call}

/-- What has been logged before does not matter to the last look at the clock. -/
lemma EndsLate.append (made : List ByteStream.Call) (h : EndsLate stop made') :
    EndsLate stop (made ++ made') := by
  obtain ⟨before, now, rfl, hnow⟩ := h
  exact ⟨made ++ before, now, by rw [List.append_assoc], hnow⟩

namespace Wrote

/-- No writes. -/
lemma refl (stop : Nat) (data : List UInt8) (p : StreamLink) : Wrote stop data p p [] 0 where
  log := .refl _
  le := Nat.zero_le _
  config := rfl
  paced := paced_of_no_write fun _ => List.not_mem_nil
  offers _ h := absurd h List.not_mem_nil
  start := .inl ⟨rfl, rfl⟩

/-- What has not been written before can be written later. -/
lemma trans (h : Wrote stop data p m made n) (h' : Wrote stop (data.drop n) m q made' n') :
    Wrote stop data p q (made ++ made') (n + n') where
  log := by
    rw [List.take_add]
    exact h.log.trans h'.log
  le := by
    have hle := h'.le
    have hle' := h.le
    rw [List.length_drop] at hle
    omega
  config := h'.config.trans h.config
  paced := h.paced.append (h.config ▸ h'.paced)
  offers offered hmem := by
    obtain hmem | hmem := List.mem_append.mp hmem
    · obtain ⟨j, hj, hoffered⟩ := h.offers offered hmem
      exact ⟨j, by omega, hoffered⟩
    · obtain ⟨j, hj, hoffered⟩ := h'.offers offered hmem
      exact ⟨n + j, by omega, by rw [hoffered, List.drop_drop]⟩
  start := by
    obtain ⟨rfl, rfl⟩ | ⟨rest, rfl⟩ := h.start
    · exact h'.start
    · exact .inr ⟨rest ++ made', rfl⟩

/-- Calls before the writes. -/
lemma behind (h : Wrote stop data p m made 0) (h' : Wrote stop data m q made' n) :
    Wrote stop data p q (made ++ made') n := by
  have hboth := h.trans h'
  rwa [Nat.zero_add] at hboth

/-- A look at the clock. -/
lemma look (stop : Nat) (data : List UInt8) (p : StreamLink) :
    Wrote stop data p { p with stream := p.stream.readClock.2 }
      [.clock p.stream.readClock.1] 0 where
  log := p.stream.made_readClock
  le := Nat.zero_le _
  config := rfl
  paced := paced_of_no_write fun _ h => by simp at h
  offers _ h := by simp at h
  start := .inr ⟨[], rfl⟩

/-- If the clock is looked at, then before the first write, whatever other calls follow. -/
lemma head? {rest : List ByteStream.Call} (h : Wrote stop data p q made n)
    (hrest : ∀ now, .clock now ∉ rest) (hlook : ∃ now, .clock now ∈ made ++ rest) :
    (made ++ rest).head? = some (.clock p.stream.readClock.1) := by
  obtain ⟨rfl, -⟩ | ⟨made, rfl⟩ := h.start
  · obtain ⟨now, hnow⟩ := hlook
    exact absurd hnow (hrest now)
  · rfl

end Wrote

/-- The calls before an attempt to write. -/
lemma made_set {span : Nat} {s : ByteStream} {r : Except IoError Unit}
    (hslice : p.slice deadline = (.ok span, m)) (h : m.stream.setWriteTimeout span = (r, s)) :
    ∃ made, p.stream.Made s (.clock p.stream.readClock.1 :: made) [] ∧
      Logged (.setWriteTimeout span) r made := by
  obtain ⟨rfl, -⟩ := slice_eq_ok hslice
  obtain ⟨made, hmade, hlogged⟩ :=
    p.stream.readClock.2.made_setTimeout (.setWriteTimeout span) span (by simp)
  change p.stream.readClock.2.setTimeout (.setWriteTimeout span) span = _ at h
  rw [h] at hmade hlogged
  exact ⟨made, p.stream.made_readClock.trans hmade, hlogged⟩

/-- An attempt that does not come to its write, because no time limit can be set. -/
lemma wrote_of_setWriteTimeout_error {span : Nat} {e : IoError} {s : ByteStream}
    (hslice : p.slice deadline = (.ok span, m))
    (hset : m.stream.setWriteTimeout span = (.error e, s)) :
    ∃ made, Wrote deadline.instant data p { m with stream := s } made 0 := by
  obtain ⟨-, hmade, f, rfl⟩ := made_set hslice hset
  obtain ⟨rfl, -⟩ := slice_eq_ok hslice
  exact ⟨_, hmade, Nat.zero_le _, rfl, paced_of_no_write fun _ h => by simp at h,
    fun _ h => by simp at h, .inr ⟨_, rfl⟩⟩

/-- **One attempt to write.** -/
lemma wrote_of_write {span : Nat} {s s' : ByteStream} {r : Except IoError Nat}
    (hslice : p.slice deadline = (.ok span, m))
    (hset : m.stream.setWriteTimeout span = (.ok (), s)) (hwrite : s.write data = (r, s')) :
    ∃ made, Wrote deadline.instant data p { m with stream := s' } made (taken r) := by
  obtain ⟨-, hmade, rfl⟩ := made_set hslice hset
  obtain ⟨rfl, hlive, hmin, hmax⟩ := slice_eq_ok hslice
  obtain ⟨wrote, hmade', hlogged, hle⟩ := s.made_write data
  rw [hwrite] at hmade' hlogged hle
  -- behind the write there is at most its failure
  obtain ⟨rest, rfl, hrest⟩ : ∃ rest, wrote = .write data :: rest ∧
      ∀ offered, .write offered ∉ rest := by
    cases r with
    | ok n => exact ⟨[], hlogged, fun _ => List.not_mem_nil⟩
    | error e =>
      obtain ⟨f, hwrote⟩ := hlogged
      exact ⟨[.failed f], hwrote, fun _ h => by simp at h⟩
  refine ⟨_, hmade.trans hmade', hle, rfl, paced_of_one_write hlive hmin hmax hrest,
    fun offered hmem => ⟨0, Nat.zero_le _, ?_⟩, .inr ⟨_, rfl⟩⟩
  simpa [hrest offered] using hmem

/-- **The loop of a write.**

**Proof sketch.** Induction on the repetitions. An attempt that is interrupted takes nothing, so its
calls stand in front of those of the next one. The loop times out only at a look at the clock, which
is then the last call. -/
theorem wrote_writeUntil (data : List UInt8) (deadline : Deadline) (p : StreamLink) :
    ∃ made, Wrote deadline.instant data p (p.writeUntil data deadline).2 made
        (taken (p.writeUntil data deadline).1) ∧
      ((p.writeUntil data deadline).1 = .error .timeout → EndsLate deadline.instant made) := by
  fun_induction writeUntil data deadline p with
  | case1 p hc => exact ⟨[], .refl .., by simp⟩
  | case2 p hc e p' hs =>
    obtain ⟨rfl, -, hlate⟩ := slice_eq_error hs
    exact ⟨_, .look .., fun _ => ⟨[], _, rfl, hlate⟩⟩
  | case3 p hc span p' hs e stream ht =>
    obtain ⟨made, hmade⟩ := wrote_of_setWriteTimeout_error hs ht
    exact ⟨made, hmade, by simp⟩
  | case4 p hc span p' hs stream ht n stream' hr =>
    obtain ⟨made, hmade⟩ := wrote_of_write hs ht hr
    exact ⟨made, hmade, by simp⟩
  | case5 p hc span p' hs stream ht e stream' hr hi ih =>
    obtain ⟨made, hmade⟩ := wrote_of_write hs ht hr
    obtain ⟨made', hmade', hlate⟩ := ih
    exact ⟨made ++ made', hmade.behind hmade', fun htimeout => (hlate htimeout).append made⟩
  | case6 p hc span p' hs stream ht e stream' hr hi =>
    obtain ⟨made, hmade⟩ := wrote_of_write hs ht hr
    exact ⟨made, hmade, by simp⟩

/-- The limit of writes is worked out at the first look at the clock. -/
lemma wrote_writeDeadline (stop : Nat) (data : List UInt8) (deadline : Deadline) (p : StreamLink) :
    (p.writeDeadline deadline).1.instant =
        p.config.writeStop deadline p.stream.readClock.1 ∧
      ∃ made, Wrote stop data p (p.writeDeadline deadline).2 made 0 := by
  rw [writeDeadline, LinkConfig.writeStop]
  cases p.config.writeTimeout with
  | none => exact ⟨rfl, [], .refl ..⟩
  | some limit => exact ⟨rfl, _, .look ..⟩

/-- A write within its limit. -/
lemma wrote_write {r : Except LinkError Nat} (hlimit : WithinLimit deadline p)
    (h : Link.write data deadline p = (r, q)) :
    ∃ made, Wrote deadline.instant data p q made (taken r) ∧
      (r = .error .timeout → EndsLate deadline.instant made) := by
  obtain ⟨-, made, hmade⟩ := wrote_writeDeadline deadline.instant data deadline p
  obtain ⟨made', hmade', hlate⟩ := wrote_writeUntil data deadline (p.writeDeadline deadline).2
  have hrun : (p.writeDeadline deadline).2.writeUntil data deadline = (r, q) := by
    rw [← h]
    show _ = (p.writeDeadline deadline).2.writeUntil data (p.writeDeadline deadline).1
    rw [hlimit.writeDeadline]
  rw [hrun] at hmade' hlate
  exact ⟨made ++ made', hmade.behind hmade', fun htimeout => (hlate htimeout).append made⟩

/-- **Repeated writes under one deadline.**

**Proof sketch.** Induction on the parts. The clock does not run backwards, hence what is within the
limit now is within it at the next part too, and the limit never changes the deadline. -/
theorem wrote_writeAllBy (data : List UInt8) (deadline : Deadline) (p : StreamLink)
    (hlimit : WithinLimit deadline p) :
    ∃ made n, Wrote deadline.instant data p (Link.writeAllBy Link.write data deadline p).2 made n ∧
      ((Link.writeAllBy Link.write data deadline p).1 = .ok () → n = data.length) ∧
      ((Link.writeAllBy Link.write data deadline p).1 = .error .timeout →
        n < data.length ∧ EndsLate deadline.instant made) := by
  fun_induction Link.writeAllBy Link.write data deadline p with
  | case1 p => exact ⟨[], 0, .refl .., fun _ => rfl, by simp⟩
  | case2 p b rest e q h =>
    obtain ⟨made, hmade, hlate⟩ := wrote_write hlimit h
    refine ⟨made, 0, hmade, by simp, fun htimeout => ⟨Nat.succ_pos _, hlate ?_⟩⟩
    cases htimeout
    rfl
  | case3 p b rest q h =>
    obtain ⟨made, hmade, -⟩ := wrote_write hlimit h
    exact ⟨made, 0, hmade, by simp, by simp⟩
  | case4 p b rest n q h ih =>
    obtain ⟨made, hmade, -⟩ := wrote_write hlimit h
    obtain ⟨made', n', hmade', hok, hlate⟩ :=
      ih (hlimit.later hmade.config hmade.log.precedes)
    have hle := hmade.le
    change n + 1 ≤ rest.length + 1 at hle
    refine ⟨made ++ made', n + 1 + n', hmade.trans hmade', fun hr => ?_, fun htimeout => ?_⟩
    · have hall := hok hr
      simp only [List.length_drop, List.length_cons] at hall ⊢
      omega
    · obtain ⟨hlt, hends⟩ := hlate htimeout
      simp only [List.length_drop, List.length_cons] at hlt ⊢
      exact ⟨by omega, hends.append made⟩

/-- The flushes at the end of a complete write.

**Proof sketch.** Induction on the flushes. None of their calls is a look at the clock or a write,
and the last call is the flush that has not been repeated. -/
lemma made_flushes (p : StreamLink) :
    ∃ made, p.stream.Made p.flush.2.stream made [] ∧
      (∀ now, .clock now ∉ made) ∧ (∀ offered, .write offered ∉ made) ∧
      (p.flush.1 = .ok () → made.getLast? = some .flush) := by
  have hflush {s s' : ByteStream} {r : Except IoError Unit} (h : s.flush = (r, s')) :
      ∃ made, s.Made s' made [] ∧ Logged .flush r made := by
    have hmade := s.made_flush
    rwa [h] at hmade
  fun_induction flush p with
  | case1 p s h =>
    obtain ⟨made, hmade, rfl⟩ := hflush h
    exact ⟨_, hmade, by simp, by simp, fun _ => rfl⟩
  | case2 p e s h hinterrupted ih =>
    obtain ⟨made, hmade, f, rfl⟩ := hflush h
    obtain ⟨made', hmade', hlook, hwrite, hlast⟩ := ih
    refine ⟨_, hmade.trans hmade', by simpa using hlook, by simpa using hwrite, fun hr => ?_⟩
    rw [List.getLast?_append, hlast hr]
    rfl
  | case3 p e s h hne =>
    obtain ⟨made, hmade, f, rfl⟩ := hflush h
    exact ⟨_, hmade, by simp, by simp, by simp⟩

/-- **The budget of a complete write.** Let the first look at the clock show `start`. The write then
stops at `p.config.writeStop deadline start`, however many parts and repetitions it takes. Each
write of the stream looks at the clock before the stop, and is given no more than what is left until
then, or the shortest slice; it offers what has not been taken yet. What the stream has taken is a
beginning of the bytes. A complete write succeeds only if all bytes have been taken and a flush has
succeeded. It times out only if some bytes have not been taken, and then the last thing that it has
done is to see on the clock that the stop has come.

**Proof sketch.** The first look at the clock fixes the stop, and the repeated writes keep to it by
`wrote_writeAllBy`. If they fail, the log ends with them. Otherwise only flushes follow, which do
not look at the clock, write nothing and never time out. -/
theorem writeAll_within_budget (data : List UInt8) (deadline : Deadline) (p : StreamLink) :
    let start := p.stream.readClock.1
    let stop := p.config.writeStop deadline start
    let run := Link.writeAll data deadline p
    ∃ made n,
      run.2.stream.calls.toList = p.stream.calls.toList ++ made ∧
      ((∃ now, .clock now ∈ made) → made.head? = some (.clock start)) ∧
      Paced p.config.pollInterval stop made ∧
      (∀ offered, .write offered ∈ made → ∃ j ≤ n, offered = data.drop j) ∧
      run.2.stream.outbound.toList = p.stream.outbound.toList ++ data.take n ∧ n ≤ data.length ∧
      (run.1 = .ok () → n = data.length ∧ made.getLast? = some .flush) ∧
      (run.1 = .error .timeout → n < data.length ∧ EndsLate stop made) := by
  intro start stop run
  obtain ⟨hstop, limited, hlimited⟩ := wrote_writeDeadline stop data deadline p
  obtain ⟨-, -, hlimit⟩ := p.writeDeadline_spec deadline
  obtain ⟨parts, n, hparts, hok, hlate⟩ :=
    wrote_writeAllBy data (p.writeDeadline deadline).1 (p.writeDeadline deadline).2 hlimit
  rw [hstop] at hparts hlate
  have hwrote := hlimited.behind hparts
  rcases hall : Link.writeAllBy Link.write data (p.writeDeadline deadline).1
    (p.writeDeadline deadline).2 with ⟨e | _, q⟩
  all_goals rw [hall] at hwrote hok hlate
  · have hrun : run = (.error e, q) := writeAll_of_error hall
    rw [hrun]
    have hstart := hwrote.head? fun _ => List.not_mem_nil
    rw [List.append_nil] at hstart
    refine ⟨_, n, hwrote.log.calls, hstart, hwrote.paced, hwrote.offers, hwrote.log.outbound,
      hwrote.le, by simp, fun htimeout => ?_⟩
    cases htimeout
    exact ⟨(hlate rfl).1, (hlate rfl).2.append limited⟩
  · have hrun : run = q.flush := writeAll_of_ok hall
    rw [hrun]
    obtain ⟨flushes, hflushes, hlook, hwrite, hlast⟩ := q.made_flushes
    have hmade := hwrote.log.trans hflushes
    rw [List.append_nil] at hmade
    refine ⟨_, n, hmade.calls, hwrote.head? hlook, hwrote.paced.append (paced_of_no_write hwrite),
      fun offered hmem => ?_, hmade.outbound, hwrote.le, fun hr => ⟨hok rfl, ?_⟩, fun hr => ?_⟩
    · exact hwrote.offers offered ((List.mem_append.mp hmem).resolve_right (hwrite offered))
    · rw [List.getLast?_append, hlast hr]
      rfl
    · rw [fst_flush] at hr
      exact absurd hr (flushResult_ne_timeout _)

/-- A link whose stream takes one byte, blocks for a whole slice, and does so again. -/
def halting : StreamLink :=
  ⟨{ writes := [.accept 1, .fault .block, .accept 1, .fault .block] },
    { pollInterval := 0, writeTimeout := some (millis 2) }⟩

/-- The two slices use up the limit of writes, although no part of the write has come near to it. -/
theorem halting_writeAll :
    (Link.writeAll [7, 8, 9] ⟨seconds 1⟩ halting).1 = .error .timeout ∧ ∃ made n,
      (Link.writeAll [7, 8, 9] ⟨seconds 1⟩ halting).2.stream.calls.toList = made ∧
      (Link.writeAll [7, 8, 9] ⟨seconds 1⟩ halting).2.stream.outbound.toList = [7, 8, 9].take n ∧
      n < 3 ∧ made.head? = some (.clock 0) ∧ Paced 0 (millis 2) made ∧
      EndsLate (millis 2) made := by
  have htimeout : (Link.writeAll [7, 8, 9] ⟨seconds 1⟩ halting).1 = .error .timeout := by
    decide +kernel
  have hstop : halting.config.writeStop ⟨seconds 1⟩ halting.stream.readClock.1 = millis 2 := by
    decide +kernel
  obtain ⟨made, n, hcalls, hstart, hpaced, -, houtbound, -, -, hlate⟩ :=
    writeAll_within_budget [7, 8, 9] ⟨seconds 1⟩ halting
  rw [hstop] at hpaced hlate
  obtain ⟨hlt, before, now, rfl, hnow⟩ := hlate htimeout
  exact ⟨htimeout, _, n, hcalls, houtbound, hlt, hstart ⟨now, by simp⟩, hpaced, before, now, rfl,
    hnow⟩

end StreamLink

end FramedLink
