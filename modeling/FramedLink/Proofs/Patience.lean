import FramedLink.Proofs.Retrying

set_option autoImplicit false
set_option relaxedAutoImplicit false

/-!
# Patient links

A patient link is a stream link without time: its stream is never interrupted, there is no deadline
that it could come to, and nothing calls it off. It shows what a stream link is for. **Unless it
times out or is called off, a stream link does exactly what the patient link does that is left when
time and interruptions are forgotten.** What is repeated after an interruption is repeated without
any loss: no byte is skipped, none is read or written twice.

## Main definitions

* `FramedLink.PatientLink` — a link without time, and its `Link` instance.
* `FramedLink.ByteStream.patient` — what is left of a stream when time and interruptions are
  forgotten.

## Main results

* `FramedLink.ByteStream.patient_read`, `FramedLink.ByteStream.patient_write`,
  `FramedLink.ByteStream.patient_flush` — the calls of a stream.
* `FramedLink.StreamLink.patient_readUntil`, `FramedLink.StreamLink.patient_writeUntil`,
  `FramedLink.StreamLink.patient_flush` — the loops of a stream link.
-/

namespace FramedLink

open ByteStream (Fault Read)

/-! ## Interruptions in scripts -/

namespace ByteStream

/-- A read is only interrupted. -/
def Read.interrupts : Read → Bool
  | data _ => false
  | fault f => f.kind.isInterruption

/-- A write is only interrupted. -/
def Write.interrupts : Write → Bool
  | accept _ => false
  | fault f => f.kind.isInterruption

/-- A flush is only interrupted by a signal. -/
def signals (entry : Option Fault) : Bool := decide (entry = some (.error .interrupted))

end ByteStream

/-! ## Links without time -/

/-- The state of a link without time. -/
structure PatientLink where
  /-- What the next reads do. -/
  reads : List ByteStream.Read
  /-- What the next writes do. -/
  writes : List ByteStream.Write
  /-- What the next flushes do. -/
  flushes : List (Option Fault)
  /-- The bytes taken so far. -/
  outbound : Array UInt8

namespace PatientLink

/-- Write some bytes. -/
def write (data : List UInt8) (_ : Deadline) (p : PatientLink) :
    Except LinkError Nat × PatientLink :=
  match p.writes with
  | [] => (.ok data.length, { p with outbound := p.outbound ++ data })
  | .accept n :: writes =>
    (.ok (min n data.length), { p with writes, outbound := p.outbound ++ data.take n })
  | .fault f :: writes => (.error (.io ⟨f.kind, none⟩), { p with writes })

/-- Push on what has been written. -/
def flush (p : PatientLink) : Except LinkError Unit × PatientLink :=
  match p.flushes with
  | [] => (.ok (), p)
  | none :: flushes => (.ok (), { p with flushes })
  | some f :: flushes => (.error (.io ⟨f.kind, none⟩), { p with flushes })

/-- Write every byte and push it on. -/
def writeAll (data : List UInt8) (deadline : Deadline) (p : PatientLink) :
    Except LinkError Unit × PatientLink :=
  match Link.writeAllBy write data deadline p with
  | (.error e, p) => (.error e, p)
  | (.ok (), p) => p.flush

/-- Read up to `n` bytes. -/
def readAvailable (n : Nat) (_ : Deadline) (p : PatientLink) :
    Except LinkError (List UInt8) × PatientLink :=
  if n = 0 then (.ok [], p)
  else
    match p.reads with
    | [] => (.error .closed, p)
    | .data [] :: reads => (.error .closed, { p with reads })
    | .data (b :: bytes) :: reads =>
      let rest := if (b :: bytes).length ≤ n then reads else .data ((b :: bytes).drop n) :: reads
      (.ok ((b :: bytes).take n), { p with reads := rest })
    | .fault f :: reads => (.error (.io ⟨f.kind, none⟩), { p with reads })

/-- A read does not add to the unread bytes; what it yields is used up, and is no more than what was
asked for. -/
lemma unread_readAvailable {n : Nat} {deadline : Deadline} {p q : PatientLink}
    {r : Except LinkError (List UInt8)} (h : p.readAvailable n deadline = (r, q)) :
    Read.total q.reads ≤ Read.total p.reads ∧ ∀ bytes, r = .ok bytes →
      bytes.length ≤ n ∧ (0 < n → Read.total q.reads < Read.total p.reads) := by
  unfold readAvailable at h
  split at h
  · cases h
    refine ⟨Nat.le_refl _, fun bytes hbytes => ?_⟩
    cases hbytes
    exact ⟨Nat.zero_le _, by omega⟩
  split at h
  · cases h
    exact ⟨Nat.le_refl _, by simp⟩
  · next reads hreads =>
    cases h
    exact ⟨by simp [hreads, Read.size], by simp⟩
  · next b bytes reads hreads =>
    cases h
    have hrest : Read.total (if (b :: bytes).length ≤ n then reads
        else .data ((b :: bytes).drop n) :: reads) + min n (bytes.length + 1) =
          Read.total p.reads := by
      rw [hreads, List.length_cons]
      split <;> simp [Read.size] <;> omega
    refine ⟨by dsimp only; omega, fun taken htaken => ?_⟩
    cases htaken
    exact ⟨List.length_take_le .., fun hn => by dsimp only; omega⟩
  · next f reads hreads =>
    cases h
    exact ⟨by simp [hreads, Read.size], by simp⟩

instance : Link PatientLink where
  now _ := 0
  write := write
  readAvailable := readAvailable
  writeAll := writeAll
  supply p := Read.total p.reads
  length_le_of_read h := ((unread_readAvailable h).2 _ rfl).1
  supply_le_of_read h := (unread_readAvailable h).1
  supply_lt_of_read hn h := ((unread_readAvailable h).2 _ rfl).2 hn

end PatientLink

/-! ## What is left of a stream -/

namespace ByteStream

/-- What is left of a stream when time and interruptions are forgotten. -/
def patient (s : ByteStream) : PatientLink where
  reads := s.reads.filter fun entry => !entry.interrupts
  writes := s.writes.filter fun entry => !entry.interrupts
  flushes := s.flushes.filter fun entry => !signals entry
  outbound := s.outbound

variable {s s' : ByteStream}

/-- A patient link has no clock. -/
@[simp] lemma patient_readClock (s : ByteStream) : s.readClock.2.patient = s.patient := rfl

/-- A patient link does not know how long a call waits. -/
@[simp] lemma patient_pause (s : ByteStream) : s.pause.patient = s.patient := rfl

/-- A failure leaves all that a patient link knows. -/
@[simp] lemma patient_fail (s : ByteStream) (f : Fault) : (s.fail f).2.patient = s.patient := by
  cases f <;> rfl

/-- A patient link has no time limits. -/
@[simp] lemma patient_setTimeout (s : ByteStream) (call : Call) (span : Nat) :
    (s.setTimeout call span).2.patient = s.patient := by
  unfold setTimeout
  dsimp only
  split
  · rfl
  · rfl
  · rw [patient_fail]
    rfl

/-- How a read of a stream ends that is not repeated. -/
def readResult : Except IoError (List UInt8) → Except LinkError (List UInt8)
  | .ok [] => .error .closed
  | .ok (b :: bytes) => .ok (b :: bytes)
  | .error e => .error (.io e)

/-- **A read is interrupted, or it is what a patient link reads.**

**Proof sketch.** One case for each entry of the script. A fault that interrupts is dropped from the
script of the patient link; every other entry is the first one there too. -/
lemma patient_read {n : Nat} (hn : n ≠ 0) (deadline : Deadline)
    {r : Except IoError (List UInt8)} (h : s.read n = (r, s')) :
    (∃ e, r = .error e ∧ e.kind.isInterruption = true ∧ s'.patient = s.patient) ∨
      (∀ e, r = .error e → e.kind.isInterruption = false) ∧
        s.patient.readAvailable n deadline = (readResult r, s'.patient) := by
  unfold read at h
  dsimp only at h
  split at h
  · next hreads =>
    cases h
    change s.reads = [] at hreads
    refine .inr ⟨by simp, ?_⟩
    simp [PatientLink.readAvailable, hn, patient, hreads, note, readResult]
  · next bytes reads hreads =>
    cases h
    change s.reads = .data bytes :: reads at hreads
    refine .inr ⟨by simp, ?_⟩
    obtain _ | ⟨b, bytes⟩ := bytes
    · simp [PatientLink.readAvailable, hn, patient, hreads, note, readResult, Read.interrupts]
    · obtain ⟨n, rfl⟩ := Nat.exists_eq_succ_of_ne_zero hn
      simp only [PatientLink.readAvailable, patient, hreads, note, Read.interrupts, if_neg hn,
        List.filter_cons, Bool.not_false, if_true, List.take_succ_cons, readResult]
      split <;> rfl
  · next f reads hreads =>
    cases h
    change s.reads = .fault f :: reads at hreads
    cases hf : f.kind.isInterruption with
    | true =>
      refine .inl ⟨_, rfl, by rw [fst_fail]; exact hf, ?_⟩
      rw [patient_fail]
      simp [patient, hreads, Read.interrupts, hf, note]
    | false =>
      refine .inr ⟨fun e he => ?_, ?_⟩
      · cases he
        rw [fst_fail]
        exact hf
      · rw [patient_fail]
        simp [PatientLink.readAvailable, hn, patient, hreads, note, readResult, Read.interrupts, hf,
          fst_fail]

/-- A write is interrupted, or it is what a patient link writes.

**Proof sketch.** One case for each entry of the script, as for a read. -/
lemma patient_write {data : List UInt8} (deadline : Deadline) {r : Except IoError Nat}
    (h : s.write data = (r, s')) :
    (∃ e, r = .error e ∧ e.kind.isInterruption = true ∧ s'.patient = s.patient) ∨
      (∀ e, r = .error e → e.kind.isInterruption = false) ∧
        s.patient.write data deadline = (r.mapError .io, s'.patient) := by
  unfold write at h
  dsimp only at h
  split at h
  · next hwrites =>
    cases h
    change s.writes = [] at hwrites
    refine .inr ⟨by simp, ?_⟩
    simp [PatientLink.write, patient, hwrites, note, Except.mapError]
  · next n writes hwrites =>
    cases h
    change s.writes = .accept n :: writes at hwrites
    refine .inr ⟨by simp, ?_⟩
    simp [PatientLink.write, patient, hwrites, note, Except.mapError, Write.interrupts]
  · next f writes hwrites =>
    cases h
    change s.writes = .fault f :: writes at hwrites
    cases hf : f.kind.isInterruption with
    | true =>
      refine .inl ⟨_, rfl, by rw [fst_fail]; exact hf, ?_⟩
      rw [patient_fail]
      simp [patient, hwrites, Write.interrupts, hf, note]
    | false =>
      refine .inr ⟨fun e he => ?_, ?_⟩
      · cases he
        rw [fst_fail]
        exact hf
      · rw [patient_fail]
        simp [PatientLink.write, patient, hwrites, note, Except.mapError, Write.interrupts, hf,
          fst_fail]

/-- A flush is interrupted by a signal, or it is that of a patient link.

**Proof sketch.** One case for each entry of the script. Only a signal is dropped from the script of
the patient link: a flush that would have to wait is not repeated. -/
lemma patient_flush {r : Except IoError Unit} (h : s.flush = (r, s')) :
    (∃ e, r = .error e ∧ e.kind = .interrupted ∧ s'.patient = s.patient) ∨
      (∀ e, r = .error e → e.kind ≠ .interrupted) ∧
        s.patient.flush = (r.mapError .io, s'.patient) := by
  unfold flush at h
  dsimp only at h
  split at h
  · next hflushes =>
    cases h
    change s.flushes = [] at hflushes
    refine .inr ⟨by simp, ?_⟩
    simp [PatientLink.flush, patient, hflushes, note, Except.mapError]
  · next flushes hflushes =>
    cases h
    change s.flushes = none :: flushes at hflushes
    refine .inr ⟨by simp, ?_⟩
    simp [PatientLink.flush, patient, hflushes, note, Except.mapError, signals]
  · next f flushes hflushes =>
    cases h
    change s.flushes = some f :: flushes at hflushes
    by_cases hf : f.kind = .interrupted
    · obtain rfl : f = .error .interrupted := by
        cases f with
        | error kind => exact congrArg Fault.error hf
        | _ => cases hf
      refine .inl ⟨_, rfl, rfl, ?_⟩
      rw [patient_fail]
      simp [patient, hflushes, signals, note]
    · have hsignal : signals (some f) = false := by
        refine decide_eq_false fun hsome => hf ?_
        obtain rfl := Option.some.inj hsome
        rfl
      refine .inr ⟨fun e he => ?_, ?_⟩
      · cases he
        rw [fst_fail]
        exact hf
      · rw [patient_fail]
        simp [PatientLink.flush, patient, hflushes, note, Except.mapError, hsignal, fst_fail]

end ByteStream

/-! ## The loops -/

namespace StreamLink

open ByteStream

variable {deadline : Deadline} {p q : StreamLink}

/-- Neither the choice of a slice nor the setting of a time limit matters to a patient link. -/
lemma patient_set {call : ByteStream.Call} {span span' : Nat} {r : Except IoError Unit}
    {s : ByteStream} (hslice : p.slice deadline = (.ok span, q))
    (h : q.stream.setTimeout call span' = (r, s)) : s.patient = p.stream.patient := by
  obtain ⟨rfl, -⟩ := slice_eq_ok hslice
  rw [← patient_readClock p.stream, ← patient_setTimeout p.stream.readClock.2 call span', h]

/-- **The loop of a read,** with time forgotten.

**Proof sketch.** Induction on the interrupted reads, which leave nothing that a patient link knows
of. The loop is not left because of a time limit, of the clock or of a cancellation; so it ends with
a read, and this is that of the patient link. -/
theorem patient_readUntil {n : Nat} (hn : n ≠ 0) (d : Deadline) {r : Except LinkError (List UInt8)}
    (h : p.readUntil n deadline = (r, q)) (hset : p.stream.SettingsSucceed)
    (htime : r ≠ .error .timeout) (hactive : q.stream.cancelled = false) :
    p.stream.patient.readAvailable n d = (r, q.stream.patient) := by
  have hcall (span now : Nat) : ByteStream.Call.setReadTimeout span ≠ .clock now := by simp
  fun_induction readUntil n deadline p with
  | case1 p hc =>
    cases h
    rw [hc] at hactive
    cases hactive
  | case2 p hc e p' hs =>
    cases h
    exact absurd (congrArg _ (slice_eq_error hs).2.1) htime
  | case3 p hc span p' hs e stream ht => exact absurd ht (set_ne_error hs hset)
  | case4 p hc span p' hs stream ht stream' hr =>
    cases h
    obtain ⟨e, he, -⟩ | ⟨-, hread⟩ := patient_read hn d hr
    · cases he
    · rwa [patient_set hs ht] at hread
  | case5 p hc span p' hs stream ht b bytes stream' hr =>
    cases h
    obtain ⟨e, he, -⟩ | ⟨-, hread⟩ := patient_read hn d hr
    · cases he
    · rwa [patient_set hs ht] at hread
  | case6 p hc span p' hs stream ht e stream' hr hi ih =>
    have hacts := stream.acts_read n
    rw [hr] at hacts
    have hrest := ih h (((acts_of_set hs (hcall span) ht).acts hacts).settings hset)
    obtain ⟨e', -, -, hsame⟩ | ⟨hserious, -⟩ := patient_read hn d hr
    · rwa [hsame, patient_set hs ht] at hrest
    · rw [hserious e rfl] at hi
      cases hi
  | case7 p hc span p' hs stream ht e stream' hr hi =>
    cases h
    obtain ⟨e', he, hi', -⟩ | ⟨-, hread⟩ := patient_read hn d hr
    · cases he
      exact absurd hi' hi
    · rwa [patient_set hs ht] at hread

/-- The loop of a write, with time forgotten.

**Proof sketch.** Induction on the interrupted writes, as for reads. -/
theorem patient_writeUntil {data : List UInt8} (d : Deadline) {r : Except LinkError Nat}
    (h : p.writeUntil data deadline = (r, q)) (hset : p.stream.SettingsSucceed)
    (htime : r ≠ .error .timeout) (hactive : q.stream.cancelled = false) :
    p.stream.patient.write data d = (r, q.stream.patient) := by
  have hcall (span now : Nat) : ByteStream.Call.setWriteTimeout span ≠ .clock now := by simp
  fun_induction writeUntil data deadline p with
  | case1 p hc =>
    cases h
    rw [hc] at hactive
    cases hactive
  | case2 p hc e p' hs =>
    cases h
    exact absurd (congrArg _ (slice_eq_error hs).2.1) htime
  | case3 p hc span p' hs e stream ht => exact absurd ht (set_ne_error hs hset)
  | case4 p hc span p' hs stream ht n stream' hr =>
    cases h
    obtain ⟨e, he, -⟩ | ⟨-, hwrite⟩ := patient_write d hr
    · cases he
    · rwa [patient_set hs ht] at hwrite
  | case5 p hc span p' hs stream ht e stream' hr hi ih =>
    have hacts := stream.acts_write data
    rw [hr] at hacts
    have hrest := ih h (((acts_of_set hs (hcall span) ht).acts hacts).settings hset)
    obtain ⟨e', -, -, hsame⟩ | ⟨hserious, -⟩ := patient_write d hr
    · rwa [hsame, patient_set hs ht] at hrest
    · rw [hserious e rfl] at hi
      cases hi
  | case6 p hc span p' hs stream ht e stream' hr hi =>
    cases h
    obtain ⟨e', he, hi', -⟩ | ⟨-, hwrite⟩ := patient_write d hr
    · cases he
      exact absurd hi' hi
    · rwa [patient_set hs ht] at hwrite

/-- The flushes of a complete write. They take no time in any case. -/
theorem patient_flush {r : Except LinkError Unit} (h : p.flush = (r, q)) :
    p.stream.patient.flush = (r, q.stream.patient) := by
  fun_induction flush p with
  | case1 p s hs =>
    cases h
    obtain ⟨e, he, -⟩ | ⟨-, hflush⟩ := ByteStream.patient_flush hs
    · cases he
    · exact hflush
  | case2 p e s hs hinterrupted ih =>
    have hrest := ih h
    obtain ⟨e', -, -, hsame⟩ | ⟨hserious, -⟩ := ByteStream.patient_flush hs
    · rwa [hsame] at hrest
    · exact absurd hinterrupted (hserious e rfl)
  | case3 p e s hs hne =>
    cases h
    obtain ⟨e', he, hinterrupted, -⟩ | ⟨-, hflush⟩ := ByteStream.patient_flush hs
    · cases he
      exact absurd hinterrupted hne
    · exact hflush

end StreamLink

end FramedLink
