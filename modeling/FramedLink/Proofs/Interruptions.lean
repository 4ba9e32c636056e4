import FramedLink.Link.Conversation
import FramedLink.Proofs.Patience

set_option autoImplicit false
set_option relaxedAutoImplicit false

/-!
# Interruptions leave no trace

Two streams that differ only in interruptions, and in what their clocks show, leave the same behind
when time and interruptions are forgotten. Every request to a stream link is answered as the patient
link answers it, unless it times out or the link is called off. Hence **the two answer every
conversation in the same way,** and the same bytes are read and written.

## Main definitions

* `FramedLink.ByteStream.Calmed` — a stream, and what it would be without interruptions.
* `FramedLink.ByteStream.unreadBytes` — the bytes that reads can still yield.

## Main results

* `FramedLink.StreamLink.patient_writeAll`, `FramedLink.StreamLink.patient_waitForByte`,
  `FramedLink.StreamLink.patient_receiveInto` — the longer calls, with time forgotten.
* `FramedLink.StreamLink.patient_converse` — a conversation, with time forgotten.
* `FramedLink.StreamLink.converse_without_interruptions` — interruptions change no conversation.
-/

namespace FramedLink

namespace StreamLink

open ByteStream (patient_readClock)

variable {deadline : Deadline} {p q : StreamLink}

/-! ## Writing -/

/-- The limit of writes does not matter to a patient link. -/
lemma patient_writeDeadline (deadline : Deadline) (p : StreamLink) :
    (p.writeDeadline deadline).2.stream.patient = p.stream.patient := by
  unfold writeDeadline
  split
  · rfl
  · exact patient_readClock _

/-- A write, with time forgotten. -/
lemma patient_write {data : List UInt8} (d : Deadline) {r : Except LinkError Nat}
    (h : Link.write data deadline p = (r, q)) (hset : p.stream.SettingsSucceed)
    (htime : r ≠ .error .timeout) (hactive : q.stream.cancelled = false) :
    Link.write data d p.stream.patient = (r, q.stream.patient) := by
  rw [← patient_writeDeadline deadline p]
  exact patient_writeUntil d h ((p.writeDeadline_spec deadline).1.settings hset) htime hactive

/-- A write precedes what comes after it. -/
lemma precedes_write {data : List UInt8} {r : Except LinkError Nat}
    (h : Link.write data deadline p = (r, q)) (hset : p.stream.SettingsSucceed) :
    p.stream.Precedes q.stream := by
  have hends := ends_write (p := p) data deadline hset
  rw [h] at hends
  exact hends.precedes

/-- So do repeated writes. -/
lemma writeChains_precedes (deadline : Deadline) :
    Link.WriteChains deadline fun (p q : StreamLink) (_ : Except LinkError Unit) =>
      p.stream.SettingsSucceed → p.stream.Precedes q.stream where
  refl _ _ := .refl _
  trans h h' hset := (h hset).trans (h' ((h hset).settings hset))
  wrote := precedes_write
  wroteNothing := precedes_write
  failed := precedes_write

/-- Repeated writes, with time forgotten.

**Proof sketch.** Induction on the writes. Each of them is that of the patient link, and leaves a
stream that can still set its time limits. A link that is active at the end has been active after
every write, since it is never set right again. -/
lemma patient_writeAllBy {data : List UInt8} (d : Deadline) {r : Except LinkError Unit}
    (h : Link.writeAllBy Link.write data deadline p = (r, q)) (hset : p.stream.SettingsSucceed)
    (htime : r ≠ .error .timeout) (hactive : q.stream.cancelled = false) :
    Link.writeAllBy Link.write data d p.stream.patient = (r, q.stream.patient) := by
  fun_induction Link.writeAllBy Link.write data deadline p with
  | case1 p =>
    cases h
    rw [Link.writeAllBy]
  | case2 p b rest e m hwrite =>
    cases h
    have htime' : (.error e : Except LinkError Nat) ≠ .error .timeout := by simpa using htime
    rw [Link.writeAllBy, patient_write d hwrite hset htime' hactive]
  | case3 p b rest m hwrite =>
    cases h
    rw [Link.writeAllBy, patient_write d hwrite hset (by simp) hactive]
  | case4 p b rest n m hwrite ih =>
    have hset' := (precedes_write hwrite hset).settings hset
    have hafter := (writeChains_precedes deadline).writeAllBy h hset'
    rw [Link.writeAllBy, patient_write d hwrite hset (by simp) (hafter.active hactive)]
    exact ih h hset'

/-- A complete write precedes what comes after it. -/
lemma precedes_writeAll {data : List UInt8} {r : Except LinkError Unit}
    (h : Link.writeAll data deadline p = (r, q)) (hset : p.stream.SettingsSucceed) :
    p.stream.Precedes q.stream := by
  obtain ⟨-, hends⟩ | ⟨-, hacts, -⟩ := writeAll_cases data deadline hset
  · rw [h] at hends
    exact hends.precedes
  · rw [h] at hacts
    exact hacts.toPrecedes

/-- **A complete write, with time forgotten.**

**Proof sketch.** The limit of writes concerns time only. If not all parts are written, the call
fails as they do; if they are, the flushes behind them are those of the patient link. -/
theorem patient_writeAll {data : List UInt8} (d : Deadline) {r : Except LinkError Unit}
    (h : Link.writeAll data deadline p = (r, q)) (hset : p.stream.SettingsSucceed)
    (htime : r ≠ .error .timeout) (hactive : q.stream.cancelled = false) :
    Link.writeAll data d p.stream.patient = (r, q.stream.patient) := by
  have hset' := (p.writeDeadline_spec deadline).1.settings hset
  show PatientLink.writeAll data d _ = _
  rw [PatientLink.writeAll]
  rcases hparts : Link.writeAllBy Link.write data (p.writeDeadline deadline).1
    (p.writeDeadline deadline).2 with ⟨e | _, m⟩
  · rw [writeAll_of_error hparts] at h
    cases h
    have hall := patient_writeAllBy d hparts hset' htime hactive
    rw [patient_writeDeadline] at hall
    change Link.writeAllBy PatientLink.write _ _ _ = _ at hall
    rw [hall]
  · rw [writeAll_of_ok hparts] at h
    have hafter := m.acts_flush.toPrecedes
    rw [h] at hafter
    have hall := patient_writeAllBy d hparts hset' (by simp) (hafter.active hactive)
    rw [patient_writeDeadline] at hall
    change Link.writeAllBy PatientLink.write _ _ _ = _ at hall
    rw [hall]
    exact patient_flush h

/-- So do complete writes one after another. -/
lemma precedes_writePieces {pieces : List (List UInt8)} {r : Except LinkError Unit}
    (h : Link.writePieces pieces deadline p = (r, q)) (hset : p.stream.SettingsSucceed) :
    p.stream.Precedes q.stream := by
  induction pieces generalizing p with
  | nil =>
    cases h
    exact .refl _
  | cons piece rest ih =>
    rw [Link.writePieces] at h
    rcases hpiece : Link.writeAll piece deadline p with ⟨e | _, m⟩ <;> rw [hpiece] at h
    · cases h
      exact precedes_writeAll hpiece hset
    · have hbefore := precedes_writeAll hpiece hset
      exact hbefore.trans (ih h (hbefore.settings hset))

/-- Complete writes one after another, with time forgotten.

**Proof sketch.** Induction on the pieces. Each of them is a complete write, and what it leaves
meets the conditions again. -/
theorem patient_writePieces {pieces : List (List UInt8)} (d : Deadline)
    {r : Except LinkError Unit} (h : Link.writePieces pieces deadline p = (r, q))
    (hset : p.stream.SettingsSucceed) (htime : r ≠ .error .timeout)
    (hactive : q.stream.cancelled = false) :
    Link.writePieces pieces d p.stream.patient = (r, q.stream.patient) := by
  induction pieces generalizing p with
  | nil =>
    cases h
    rfl
  | cons piece rest ih =>
    rw [Link.writePieces] at h ⊢
    rcases hpiece : Link.writeAll piece deadline p with ⟨e | _, m⟩ <;> rw [hpiece] at h
    · cases h
      rw [patient_writeAll d hpiece hset htime hactive]
    · have hset' := (precedes_writeAll hpiece hset).settings hset
      have hafter := precedes_writePieces h hset'
      rw [patient_writeAll d hpiece hset (by simp) (hafter.active hactive)]
      exact ih h hset'

/-! ## Reading -/

/-- What every read does to the stream. -/
lemma chains_precedes (deadline : Deadline) :
    Link.Chains deadline fun p q : StreamLink =>
      p.stream.SettingsSucceed → p.stream.Precedes q.stream where
  refl _ _ := .refl _
  trans h h' hset := (h hset).trans (h' ((h hset).settings hset))
  read {n r p q} h hset := by
    rcases eq_or_ne n 0 with rfl | hn
    · cases h
      exact .refl _
    · have hends := ends_readAvailable hn deadline hset
      rw [h] at hends
      exact hends.precedes

/-- A read, with time forgotten. -/
lemma patient_readAvailable {n : Nat} (d : Deadline) {r : Except LinkError (List UInt8)}
    (h : Link.readAvailable n deadline p = (r, q)) (hset : p.stream.SettingsSucceed)
    (htime : r ≠ .error .timeout) (hactive : q.stream.cancelled = false) :
    Link.readAvailable n d p.stream.patient = (r, q.stream.patient) := by
  rcases eq_or_ne n 0 with rfl | hn
  · cases h
    rfl
  · change StreamLink.readAvailable n deadline p = _ at h
    rw [readAvailable, if_neg hn] at h
    exact patient_readUntil hn d h hset htime hactive

/-- The read of one byte, with time forgotten. -/
lemma patient_readByte (d : Deadline) {r : Except LinkError UInt8}
    (h : Link.readByte deadline p = (r, q)) (hset : p.stream.SettingsSucceed)
    (htime : r ≠ .error .timeout) (hactive : q.stream.cancelled = false) :
    Link.readByte d p.stream.patient = (r, q.stream.patient) := by
  unfold Link.readByte at h ⊢
  rcases hread : Link.readAvailable 1 deadline p with ⟨e | - | ⟨b, bytes⟩, m⟩ <;>
    rw [hread] at h <;> cases h
  · rw [patient_readAvailable d hread hset (by simpa using htime) hactive]
  · rw [patient_readAvailable d hread hset (by simp) hactive]
  · rw [patient_readAvailable d hread hset (by simp) hactive]

/-- **The search for a byte, with time forgotten.**

**Proof sketch.** Induction on the bytes in front of the one that is looked for. The patient link
reads each of them too. -/
theorem patient_waitForByte {value : UInt8} (d : Deadline) {r : Except LinkError Unit}
    (h : Link.waitForByte value deadline p = (r, q)) (hset : p.stream.SettingsSucceed)
    (htime : r ≠ .error .timeout) (hactive : q.stream.cancelled = false) :
    Link.waitForByte value d p.stream.patient = (r, q.stream.patient) := by
  fun_induction Link.waitForByte value deadline p with
  | case1 p e m hread =>
    cases h
    exact Link.waitForByte_of_readByte_error
      (patient_readByte d hread hset (by simpa using htime) hactive)
  | case2 p m hread =>
    cases h
    rw [Link.waitForByte_of_readByte (patient_readByte d hread hset (by simp) hactive), if_pos rfl]
  | case3 p b m hread hb ih =>
    have hset' := ((chains_precedes deadline).readByte hread hset).settings hset
    have hafter := (chains_precedes deadline).waitForByte h hset'
    rw [Link.waitForByte_of_readByte
      (patient_readByte d hread hset (by simp) (hafter.active hactive)), if_neg hb]
    exact ih h hset'

/-! ## Receiving -/

/-- Decoding in place precedes what comes after it. -/
lemma precedes_decodeInPlace {w w' : Window} {r : Except FrameError Unit}
    (h : Link.decodeInPlace deadline w p = (r, w', q)) (hset : p.stream.SettingsSucceed) :
    p.stream.Precedes q.stream := by
  have hlist := Link.decodeRead_decoded deadline w p
  rw [h] at hlist
  exact (chains_precedes deadline).decodeRead hlist hset

/-- So does a receipt. -/
lemma precedes_receiveInto {w w' : Window} {r : Except FrameError Unit}
    (h : Link.receiveInto deadline w p = (r, w', q)) (hset : p.stream.SettingsSucceed) :
    p.stream.Precedes q.stream := by
  have hlist := Link.receiveFrom_decoded deadline w p
  rw [h] at hlist
  exact (chains_precedes deadline).receiveFrom hlist hset

/-- Decoding in place, with time forgotten.

**Proof sketch.** Induction on the raw bytes in the window. The link is touched only if a pair is
cut off at their end; the patient link then reads the same byte, and everything else is done in the
window. -/
lemma patient_decodeInPlace {w w' : Window} (d : Deadline) {r : Except FrameError Unit}
    (h : Link.decodeInPlace deadline w p = (r, w', q)) (hset : p.stream.SettingsSucceed)
    (htime : r ≠ .error (.link .timeout)) (hactive : q.stream.cancelled = false) :
    Link.decodeInPlace d w p.stream.patient = (r, w', q.stream.patient) := by
  fun_induction Link.decodeInPlace deadline w p with
  | case1 w p hmore hsize hb hpair hsize' value hvalue ih =>
    rw [Link.decodeInPlace, dif_pos hmore, if_pos hb, dif_pos hpair]
    dsimp only
    rw [hvalue]
    exact ih h hset
  | case2 w p hmore hsize hb hpair hsize' e he =>
    cases h
    rw [Link.decodeInPlace, dif_pos hmore, if_pos hb, dif_pos hpair]
    dsimp only
    rw [he]
  | case3 w p hmore hsize hb hpair e m hread =>
    cases h
    rw [Link.decodeInPlace, dif_pos hmore, if_pos hb, dif_neg hpair,
      patient_readByte d hread hset (by simpa using htime) hactive]
  | case4 w p hmore hsize hb hpair code m hread value hvalue ih =>
    have hset' := ((chains_precedes deadline).readByte hread hset).settings hset
    have hafter := precedes_decodeInPlace h hset'
    rw [Link.decodeInPlace, dif_pos hmore, if_pos hb, dif_neg hpair,
      patient_readByte d hread hset (by simp) (hafter.active hactive)]
    dsimp only
    rw [hvalue]
    exact ih h hset'
  | case5 w p hmore hsize hb hpair code m hread e he =>
    cases h
    rw [Link.decodeInPlace, dif_pos hmore, if_pos hb, dif_neg hpair,
      patient_readByte d hread hset (by simp) hactive]
    dsimp only
    rw [he]
  | case6 w p hmore hsize hb ih =>
    rw [Link.decodeInPlace, dif_pos hmore, if_neg hb]
    exact ih h hset
  | case7 w p hmore =>
    cases h
    rw [Link.decodeInPlace, dif_neg hmore]

end StreamLink

namespace Link

variable {σ : Type} [Link σ] {deadline : Deadline} {w w' : Window} {link link' : σ}

/-- What a read into a window has read is decoded in place. -/
lemma receiveSomeInto_of_read {raw : List UInt8}
    (h : readAvailable w.missing deadline link = (.ok raw, link')) :
    receiveSomeInto deadline w link =
      decodeInPlace deadline (w.load raw (length_le_of_read h)) link' := by
  unfold receiveSomeInto
  split <;> next hq => rw [h] at hq; cases hq <;> rfl

/-- A read into a window fails if the read fails. -/
lemma receiveSomeInto_of_read_error {e : LinkError}
    (h : readAvailable w.missing deadline link = (.error e, link')) :
    receiveSomeInto deadline w link = (.error (.link e), w, link') := by
  unfold receiveSomeInto
  split <;> next hq => rw [h] at hq; cases hq <;> rfl

/-- A window is filled by one read after another. -/
lemma receiveInto_of_receiveSomeInto (hmissing : 0 < w.missing)
    (h : receiveSomeInto deadline w link = (.ok (), w', link')) :
    receiveInto deadline w link = receiveInto deadline w' link' := by
  rw [receiveInto, dif_pos hmissing]
  split <;> next hq => rw [h] at hq; cases hq <;> rfl

/-- It is not filled further if a read into it fails. -/
lemma receiveInto_of_receiveSomeInto_error {e : FrameError} (hmissing : 0 < w.missing)
    (h : receiveSomeInto deadline w link = (.error e, w', link')) :
    receiveInto deadline w link = (.error e, w', link') := by
  rw [receiveInto, dif_pos hmissing]
  split <;> next hq => rw [h] at hq; cases hq <;> rfl

end Link

namespace StreamLink

variable {deadline : Deadline} {p q : StreamLink} {w w' : Window} {r : Except FrameError Unit}

/-- One read into a window, with time forgotten. -/
lemma patient_receiveSomeInto (d : Deadline)
    (h : Link.receiveSomeInto deadline w p = (r, w', q)) (hset : p.stream.SettingsSucceed)
    (htime : r ≠ .error (.link .timeout)) (hactive : q.stream.cancelled = false) :
    Link.receiveSomeInto d w p.stream.patient = (r, w', q.stream.patient) := by
  rcases hread : Link.readAvailable w.missing deadline p with ⟨e | raw, m⟩
  · rw [Link.receiveSomeInto_of_read_error hread] at h
    cases h
    exact Link.receiveSomeInto_of_read_error
      (patient_readAvailable d hread hset (by simpa using htime) hactive)
  · have hset' := ((chains_precedes deadline).read hread hset).settings hset
    rw [Link.receiveSomeInto_of_read hread] at h
    have hafter := precedes_decodeInPlace h hset'
    rw [Link.receiveSomeInto_of_read
      (patient_readAvailable d hread hset (by simp) (hafter.active hactive))]
    exact patient_decodeInPlace d h hset' htime hactive

/-- A read into a window precedes what comes after it. -/
lemma precedes_receiveSomeInto (h : Link.receiveSomeInto deadline w p = (r, w', q))
    (hset : p.stream.SettingsSucceed) : p.stream.Precedes q.stream := by
  have hlist := Link.receiveSome_decoded deadline w p
  rw [h] at hlist
  exact (congrArg (fun q : StreamLink => p.stream.Precedes q.stream) (Prod.mk.inj hlist).2).mp
    ((chains_precedes deadline).receiveSome rfl hset)

/-- **A receipt, with time forgotten.**

**Proof sketch.** Induction on the reads into the window. Each of them is that of the patient link,
and it leaves both with the same window. -/
theorem patient_receiveInto (d : Deadline)
    (h : Link.receiveInto deadline w p = (r, w', q)) (hset : p.stream.SettingsSucceed)
    (htime : r ≠ .error (.link .timeout)) (hactive : q.stream.cancelled = false) :
    Link.receiveInto d w p.stream.patient = (r, w', q.stream.patient) := by
  fun_induction Link.receiveInto deadline w p with
  | case1 w p hmore e w₁ m hsome =>
    cases h
    exact Link.receiveInto_of_receiveSomeInto_error hmore
      (patient_receiveSomeInto d hsome hset (by simpa using htime) hactive)
  | case2 w p hmore w₁ m hsome ih =>
    have hset' := (precedes_receiveSomeInto hsome hset).settings hset
    have hafter := precedes_receiveInto h hset'
    rw [Link.receiveInto_of_receiveSomeInto hmore
      (patient_receiveSomeInto d hsome hset (by simp) (hafter.active hactive))]
    exact ih h hset'
  | case3 w p hmore =>
    cases h
    rw [Link.receiveInto, dif_neg hmore]

end StreamLink

/-! ## Conversations -/

namespace StreamLink

variable {deadline : Deadline} {p q : StreamLink} {request : Request} {answer : Answer}

/-- A request precedes what comes after it. -/
lemma precedes_perform (h : request.perform deadline p = (answer, q))
    (hset : p.stream.SettingsSucceed) : p.stream.Precedes q.stream := by
  cases request with
  | write data =>
    obtain ⟨-, rfl⟩ := Prod.mk.inj h
    exact precedes_write rfl hset
  | writeAll data =>
    obtain ⟨-, rfl⟩ := Prod.mk.inj h
    exact precedes_writeAll rfl hset
  | readAvailable n =>
    obtain ⟨-, rfl⟩ := Prod.mk.inj h
    exact (chains_precedes deadline).read rfl hset
  | readByte =>
    obtain ⟨-, rfl⟩ := Prod.mk.inj h
    exact (chains_precedes deadline).readByte rfl hset
  | waitForByte value =>
    obtain ⟨-, rfl⟩ := Prod.mk.inj h
    exact (chains_precedes deadline).waitForByte rfl hset
  | sendStuffed data =>
    obtain ⟨-, rfl⟩ := Prod.mk.inj h
    exact precedes_writePieces rfl hset
  | receiveInto buffer =>
    obtain ⟨-, rfl⟩ := Prod.mk.inj h
    exact precedes_receiveInto rfl hset

/-- **A request, with time forgotten.**

**Proof sketch.** One case for each kind of request, from the lemma about that call. The result of
the call is no timeout, because the answer reports none. -/
theorem patient_perform (d : Deadline) (h : request.perform deadline p = (answer, q))
    (hset : p.stream.SettingsSucceed) (htime : answer.timedOut = false)
    (hactive : q.stream.cancelled = false) :
    request.perform d p.stream.patient = (answer, q.stream.patient) := by
  have hr {α : Type} {reply : Except LinkError α → Answer} {r : Except LinkError α}
      (hlate : (reply (.error .timeout)).timedOut = true) (hr : (reply r).timedOut = false) :
      r ≠ .error .timeout := by
    rintro rfl
    rw [hlate] at hr
    cases hr
  cases request with
  | write data =>
    obtain ⟨rfl, rfl⟩ := Prod.mk.inj h
    exact congrArg (Prod.map Answer.taken id) (patient_write d rfl hset (hr rfl htime) hactive)
  | writeAll data =>
    obtain ⟨rfl, rfl⟩ := Prod.mk.inj h
    exact congrArg (Prod.map Answer.done id) (patient_writeAll d rfl hset (hr rfl htime) hactive)
  | readAvailable n =>
    obtain ⟨rfl, rfl⟩ := Prod.mk.inj h
    exact congrArg (Prod.map Answer.bytes id)
      (patient_readAvailable d rfl hset (hr rfl htime) hactive)
  | readByte =>
    obtain ⟨rfl, rfl⟩ := Prod.mk.inj h
    exact congrArg (Prod.map Answer.byte id) (patient_readByte d rfl hset (hr rfl htime) hactive)
  | waitForByte value =>
    obtain ⟨rfl, rfl⟩ := Prod.mk.inj h
    exact congrArg (Prod.map Answer.done id) (patient_waitForByte d rfl hset (hr rfl htime) hactive)
  | sendStuffed data =>
    obtain ⟨rfl, rfl⟩ := Prod.mk.inj h
    exact congrArg (Prod.map Answer.done id) (patient_writePieces d rfl hset (hr rfl htime) hactive)
  | receiveInto buffer =>
    rcases hrun : Link.receiveInto deadline (.ofBuffer buffer) p with ⟨r, w, m⟩
    rw [Request.perform, hrun] at h
    cases h
    have hr' : r ≠ .error (.link .timeout) := by
      rintro rfl
      cases htime
    rw [Request.perform, patient_receiveInto d hrun hset hr' hactive]

variable {answers : List Answer} {ops ops' : List (Request × Deadline)}

/-- A conversation precedes what comes after it. -/
lemma precedes_converse (h : Link.converse p ops = (answers, q))
    (hset : p.stream.SettingsSucceed) : p.stream.Precedes q.stream := by
  induction ops generalizing p answers with
  | nil =>
    cases h
    exact .refl _
  | cons op ops ih =>
    cases h
    have hbefore : p.stream.Precedes (op.1.perform op.2 p).2.stream := precedes_perform rfl hset
    exact hbefore.trans (ih rfl (hbefore.settings hset))

/-- **A conversation, with time forgotten.** The deadlines do not matter then.

**Proof sketch.** Induction on the requests. A link that is active at the end has been active after
the first request, so this is answered as by the patient link; what it leaves meets the conditions
for the others. -/
theorem patient_converse (hsame : ops.map Prod.fst = ops'.map Prod.fst)
    (h : Link.converse p ops = (answers, q)) (hset : p.stream.SettingsSucceed)
    (htime : ∀ answer ∈ answers, answer.timedOut = false) (hactive : q.stream.cancelled = false) :
    Link.converse p.stream.patient ops' = (answers, q.stream.patient) := by
  induction ops generalizing p answers ops' with
  | nil =>
    cases h
    rw [List.map_eq_nil_iff.mp hsame.symm]
    rfl
  | cons op ops ih =>
    obtain _ | ⟨op', ops'⟩ := ops'
    · cases hsame
    obtain ⟨hop, hops⟩ := List.cons.inj hsame
    rcases hfirst : op.1.perform op.2 p with ⟨answer, m⟩
    rcases hrest : Link.converse m ops with ⟨answers', q'⟩
    rw [Link.converse, hfirst] at h
    dsimp only at h
    rw [hrest] at h
    cases h
    have hset' := (precedes_perform hfirst hset).settings hset
    have hafter := precedes_converse hrest hset'
    have hanswer := patient_perform op'.2 hfirst hset (htime _ List.mem_cons_self)
      (hafter.active hactive)
    have hanswers := ih hops hrest hset'
      fun answer hmem => htime answer (List.mem_cons_of_mem _ hmem)
    change op.1 = op'.1 at hop
    rw [hop] at hanswer
    rw [Link.converse, hanswer]
    dsimp only
    rw [hanswers]

end StreamLink

/-! ## Streams without interruptions -/

namespace ByteStream

/-- The bytes that a read of a script can still yield. -/
def Read.bytes : Read → List UInt8
  | data bytes => bytes
  | fault _ => []

/-- The bytes that reads can still yield. -/
def unreadBytes (s : ByteStream) : List UInt8 := s.reads.flatMap Read.bytes

/-- `s'` is what `s` would be without interruptions. The clock, the time limits and the settings of
time limits do not matter. -/
structure Calmed (s s' : ByteStream) : Prop where
  /-- The same reads, but for interruptions. -/
  reads : s'.reads = s.reads.filter fun entry => !entry.interrupts
  /-- The same writes, but for interruptions. -/
  writes : s'.writes = s.writes.filter fun entry => !entry.interrupts
  /-- The same flushes, but for signals. -/
  flushes : s'.flushes = s.flushes.filter fun entry => !signals entry
  /-- The same bytes have been taken before. -/
  outbound : s'.outbound = s.outbound

variable {s s' : ByteStream}

/-- The same is left when time and interruptions are forgotten. -/
lemma Calmed.patient_eq (h : s.Calmed s') : s'.patient = s.patient := by
  simp only [patient, h.reads, h.writes, h.flushes, h.outbound, List.filter_filter, Bool.and_self]

/-- Interruptions yield no bytes.

**Proof sketch.** Induction on the script. An entry that is dropped is a fault, which yields
nothing. -/
lemma flatMap_reads_patient (s : ByteStream) :
    s.patient.reads.flatMap Read.bytes = s.unreadBytes := by
  have hscript (script : List Read) :
      (script.filter fun entry => !entry.interrupts).flatMap Read.bytes =
        script.flatMap Read.bytes := by
    induction script with
    | nil => rfl
    | cons entry script ih =>
      rw [List.filter_cons]
      split
      · rw [List.flatMap_cons, List.flatMap_cons, ih]
      · next h =>
        obtain bytes | f := entry
        · exact absurd rfl h
        · rw [List.flatMap_cons, ih]
          rfl
  exact hscript s.reads

end ByteStream

namespace StreamLink

/-- **Interruptions leave no trace.** Let two stream links differ only in that the stream of the
second is not interrupted, and in their clocks, settings and deadlines. If both can set their time
limits, if no request of a conversation times out and if neither link is called off, then both give
the same answers; the same bytes have been written, and the same bytes are left to be read.

**Proof sketch.** When time and interruptions are forgotten, the same patient link is left of both
streams. By `patient_converse` its answers are those of both conversations, and what it leaves is
left of both. -/
theorem converse_without_interruptions {p p' : StreamLink} (hcalmed : p.stream.Calmed p'.stream)
    (hset : p.stream.SettingsSucceed) (hset' : p'.stream.SettingsSucceed)
    {ops ops' : List (Request × Deadline)} (hsame : ops.map Prod.fst = ops'.map Prod.fst)
    (htime : ∀ answer ∈ (Link.converse p ops).1, answer.timedOut = false)
    (htime' : ∀ answer ∈ (Link.converse p' ops').1, answer.timedOut = false)
    (hactive : (Link.converse p ops).2.stream.cancelled = false)
    (hactive' : (Link.converse p' ops').2.stream.cancelled = false) :
    (Link.converse p' ops').1 = (Link.converse p ops).1 ∧
      (Link.converse p' ops').2.stream.outbound = (Link.converse p ops).2.stream.outbound ∧
      (Link.converse p' ops').2.stream.unreadBytes =
        (Link.converse p ops).2.stream.unreadBytes := by
  -- both conversations are the one with the patient link that is left of both
  have hrun := patient_converse hsame rfl hset htime hactive
  have hrun' := patient_converse (Eq.refl (ops'.map Prod.fst)) rfl hset' htime' hactive'
  rw [hcalmed.patient_eq, hrun] at hrun'
  obtain ⟨hanswers, hleft⟩ := Prod.mk.inj hrun'
  refine ⟨hanswers.symm, congrArg PatientLink.outbound hleft.symm, ?_⟩
  rw [← ByteStream.flatMap_reads_patient, ← ByteStream.flatMap_reads_patient, hleft]

/-- A link whose stream interrupts reads, writes and a flush. -/
def fitful : StreamLink :=
  ⟨{ reads := [.fault (.error .timedOut), .data [1, 115, 7, 120], .fault .block, .data [85],
       .fault (.error .interrupted)]
     writes := [.accept 1, .fault .block, .fault (.error .interrupted), .accept 1]
     flushes := [some (.error .interrupted), none, some (.error .wouldBlock)]
     ticks := [3, 5] }, {}⟩

/-- The same stream without interruptions. -/
def steady : StreamLink :=
  ⟨{ reads := [.data [1, 115, 7, 120], .data [85]]
     writes := [.accept 1, .accept 1]
     flushes := [none, some (.error .wouldBlock)] }, {}⟩

/-- Some bytes are written and read, a start byte is looked for, and a stuffed byte is received
whose pair is cut in two; more data does not come. -/
def chat : List Request :=
  [.writeAll [7, 8, 9], .readByte, .waitForByte 115, .readAvailable 1, .receiveInto #[0],
    .sendStuffed [1], .receiveInto #[6, 6]]

/-- The two links are answered in the same way, although the clock of the first goes on in between:
a flush that would block is an error for both. -/
theorem fitful_chat :
    let run := Link.converse fitful (chat.map (·, ⟨seconds 2⟩))
    let run' := Link.converse steady (chat.map (·, ⟨seconds 1⟩))
    run'.1 = run.1 ∧ run'.2.stream.outbound = run.2.stream.outbound ∧
      run'.2.stream.unreadBytes = run.2.stream.unreadBytes ∧
      run.2.stream.outbound = #[7, 8, 9, 1] ∧ run'.2.stream.now < run.2.stream.now := by
  have hcalmed : fitful.stream.Calmed steady.stream := ⟨rfl, rfl, rfl, rfl⟩
  have hset : fitful.stream.SettingsSucceed := fun f hf => by cases hf
  have hset' : steady.stream.SettingsSucceed := fun f hf => by cases hf
  have hsame : (chat.map (·, (⟨seconds 2⟩ : Deadline))).map Prod.fst =
      (chat.map (·, (⟨seconds 1⟩ : Deadline))).map Prod.fst := rfl
  obtain ⟨hanswers, houtbound, hunread⟩ := converse_without_interruptions hcalmed hset hset' hsame
    (by decide +kernel) (by decide +kernel) (by decide +kernel) (by decide +kernel)
  exact ⟨hanswers, houtbound, hunread, by decide +kernel, by decide +kernel⟩

end StreamLink

end FramedLink
