import FramedLink.Proofs.Acceptance

set_option autoImplicit false
set_option relaxedAutoImplicit false

/-!
# The attempts of a wait

An attempt receives a header, and then the payload that it announces. It has five courses: the
header is not received, it leaves no room for itself, it announces too much, the payload is not
received, or the frame is judged. What an attempt does is proved along these courses. A wait is a
sequence of attempts, all but the last of them rejected.

## Main definitions

* `FramedLink.Link.Attempt` — the courses of an attempt, with the outcome and the link that each
  of them leaves.
* `FramedLink.Link.Starts` — where the attempts of a wait start.
* `FramedLink.Link.Receives` — the header and the payload of a frame are received.

## Main results

* `FramedLink.Link.attempt_iff` — an attempt takes exactly these courses.
* `FramedLink.Link.awaitReply_error` — how a wait may fail.
* `FramedLink.Link.starts_iff` — the attempts of a wait are its first one and those after it.
* `FramedLink.Link.attempt_accepted_iff` — an attempt accepts exactly a frame that passes all
  checks.
* `FramedLink.Link.awaitReply_matched` — the reply of a wait is what one of its attempts accepts.
-/

namespace FramedLink

/-- A failure to receive never accepts a frame. -/
lemma Verdict.ofFailure_ne_accepted (e : FrameError) (reply : Reply) :
    Verdict.ofFailure e ≠ .ok (.accepted reply) := by
  unfold ofFailure
  split
  · simp
  split <;> simp

namespace Link

variable {σ : Type} [Link σ] {expect : Expectation} {deadline : Deadline} {link link' : σ}
  {r : Except DeviceError Verdict}

/-- The courses of an attempt from `link`, with the outcome and the link afterwards. -/
inductive Attempt (expect : Expectation) (deadline : Deadline) (link : σ) :
    Except DeviceError Verdict → σ → Prop
  /-- The header is not received. -/
  | headerFailed {e : FrameError} {link₁ : σ}
      (header : receiveStuffed headerSize deadline link = (.error e, link₁)) :
      Attempt expect deadline link (Verdict.ofFailure e) link₁
  /-- The length of the header leaves no room for it. -/
  | undersized {raw : List UInt8} {link₁ : σ}
      (header : receiveStuffed headerSize deadline link = (.ok raw, link₁))
      (announced : (FrameHeader.ofBytes raw).payloadLength = none) :
      Attempt expect deadline link
        (.ok (.rejected (.undersized (FrameHeader.ofBytes raw).length))) link₁
  /-- The header announces too large a payload. -/
  | oversized {raw : List UInt8} {size : Nat} {link₁ : σ}
      (header : receiveStuffed headerSize deadline link = (.ok raw, link₁))
      (announced : (FrameHeader.ofBytes raw).payloadLength = some size)
      (exceeds : expect.maxPayloadSize < size) :
      Attempt expect deadline link (.ok (.rejected (.oversized size))) link₁
  /-- The payload is not received. -/
  | payloadFailed {raw : List UInt8} {size : Nat} {e : FrameError} {link₁ link₂ : σ}
      (header : receiveStuffed headerSize deadline link = (.ok raw, link₁))
      (announced : (FrameHeader.ofBytes raw).payloadLength = some size)
      (fits : size ≤ expect.maxPayloadSize)
      (payload : receiveStuffed size deadline link₁ = (.error e, link₂)) :
      Attempt expect deadline link (Verdict.ofFailure e) link₂
  /-- The frame is complete. -/
  | judged {raw payload : List UInt8} {size : Nat} {link₁ link₂ : σ}
      (header : receiveStuffed headerSize deadline link = (.ok raw, link₁))
      (announced : (FrameHeader.ofBytes raw).payloadLength = some size)
      (fits : size ≤ expect.maxPayloadSize)
      (received : receiveStuffed size deadline link₁ = (.ok payload, link₂)) :
      Attempt expect deadline link (.ok (expect.judge (FrameHeader.ofBytes raw) payload)) link₂

/-- **An attempt takes exactly these courses.**

**Proof sketch.** From left to right, follow the attempt through its receipts and comparisons. From
right to left, each course says how all of them turn out. -/
theorem attempt_iff : attempt expect deadline link = (r, link') ↔
    Attempt expect deadline link r link' := by
  constructor
  · intro h
    unfold attempt at h
    rcases hraw : receiveStuffed headerSize deadline link with ⟨e | raw, link₁⟩ <;> rw [hraw] at h
    · obtain ⟨rfl, rfl⟩ := Prod.mk.inj h
      exact .headerFailed hraw
    dsimp only at h
    rcases hsize : (FrameHeader.ofBytes raw).payloadLength with - | size <;> rw [hsize] at h
    · obtain ⟨rfl, rfl⟩ := Prod.mk.inj h
      exact .undersized hraw hsize
    dsimp only at h
    by_cases hover : size > expect.maxPayloadSize
    · rw [if_pos hover] at h
      obtain ⟨rfl, rfl⟩ := Prod.mk.inj h
      exact .oversized hraw hsize hover
    rw [if_neg hover] at h
    have hfits : size ≤ expect.maxPayloadSize := by omega
    rcases hpay : receiveStuffed size deadline link₁ with ⟨e | payload, link₂⟩ <;> rw [hpay] at h
    · obtain ⟨rfl, rfl⟩ := Prod.mk.inj h
      exact .payloadFailed hraw hsize hfits hpay
    · obtain ⟨rfl, rfl⟩ := Prod.mk.inj h
      exact .judged hraw hsize hfits hpay
  · intro h
    unfold attempt
    cases h with
    | headerFailed header => rw [header]
    | undersized header announced => simp only [header, announced]
    | oversized header announced exceeds => simp only [header, announced, gt_iff_lt, if_pos exceeds]
    | payloadFailed header announced fits payload =>
      simp only [header, announced, gt_iff_lt, if_neg (Nat.not_lt.mpr fits), payload]
    | judged header announced fits received =>
      simp only [header, announced, gt_iff_lt, if_neg (Nat.not_lt.mpr fits), received]

/-! ## Failures -/

/-- Decoding fails at a damaged pair, or as the link does. -/
lemma decodeRead_error {done raw : List UInt8} {e : FrameError}
    (h : decodeRead deadline done raw link = (.error e, link')) :
    (∃ code, e = .invalidEscape code) ∨ ∃ source, e = .link source := by
  fun_induction decodeRead deadline done raw link with
  | case1 done => cases h
  | case2 done e' q hq => cases h; exact .inr ⟨e', rfl⟩
  | case3 done code q hq =>
    cases hvalue : Stuffing.decodeCode code with
    | ok value => rw [hvalue] at h; cases h
    | error e' =>
      rw [hvalue] at h
      cases h
      exact .inl (Stuffing.decodeCode_eq_error hvalue)
  | case4 done code raw value hvalue ih => exact ih h
  | case5 done code raw e' he => cases h; exact .inl (Stuffing.decodeCode_eq_error he)
  | case6 done b raw hb ih => exact ih h

/-- Data is not received only if a pair is damaged or the link fails. -/
lemma receiveFrom_error {done : List UInt8} {n : Nat} {e : FrameError}
    (h : receiveFrom done n deadline link = (.error e, link')) :
    (∃ code, e = .invalidEscape code) ∨ ∃ source, e = .link source := by
  fun_induction receiveFrom done n deadline link with
  | case1 done n link hn e' q hq =>
    cases h
    unfold receiveSome at hq
    split at hq
    · next source _ _ => cases hq; exact .inr ⟨source, rfl⟩
    · exact decodeRead_error hq
  | case2 done n link hn bytes q hq ih => exact ih h
  | case3 done n link hn => cases h

/-- A failure to receive is passed on only if it is one of the link, and no lack of time. -/
lemma ofFailure_error {e : FrameError} {e' : DeviceError}
    (he : (∃ code, e = .invalidEscape code) ∨ ∃ source, e = .link source)
    (h : Verdict.ofFailure e = .error e') : ∃ source, e' = .link source ∧ source ≠ .timeout := by
  obtain ⟨code, rfl⟩ | ⟨source, rfl⟩ := he
  · cases h
  · cases source with
    | timeout => cases h
    | _ => cases h; exact ⟨_, rfl, by simp⟩

/-- An attempt fails only as its link does, and never for lack of time. -/
lemma attempt_error {e : DeviceError} (h : attempt expect deadline link = (.error e, link')) :
    ∃ source, e = .link source ∧ source ≠ .timeout := by
  generalize hr : (Except.error e : Except DeviceError Verdict) = r at h
  cases attempt_iff.mp h with
  | headerFailed header => exact ofFailure_error (receiveFrom_error header) hr.symm
  | payloadFailed header announced fits payload =>
    exact ofFailure_error (receiveFrom_error payload) hr.symm
  | _ => cases hr

/-- **A wait fails only as its link does,** and never for lack of time. -/
theorem awaitReply_error {e : DeviceError}
    (h : (awaitReply expect deadline link).result = .error e) :
    ∃ source, e = .link source ∧ source ≠ .timeout := by
  fun_induction awaitReply expect deadline link with
  | case3 link hexp e' q hfound htime =>
    cases h
    refine ⟨e', rfl, ?_⟩
    rintro rfl
    exact htime rfl
  | case4 link hexp q hfound e' q' htried => cases h; exact attempt_error htried
  | case6 link hexp q hfound why q' htried rest ih => exact ih h
  | _ => cases h

/-! ## The attempts of a wait -/

/-- `Starts expect deadline link start`: an attempt of the wait on `link` starts in the state
`start`, right behind a marker. -/
inductive Starts (expect : Expectation) (deadline : Deadline) : σ → σ → Prop
  /-- The first attempt. -/
  | first {link start : σ} (live : ¬ deadline.expired (now link) = true)
      (found : waitForByte Stuffing.marker deadline link = (.ok (), start)) :
      Starts expect deadline link start
  /-- An attempt after one that has been rejected. -/
  | later {link link₁ link₂ start : σ} {why : Rejection}
      (live : ¬ deadline.expired (now link) = true)
      (found : waitForByte Stuffing.marker deadline link = (.ok (), link₁))
      (tried : attempt expect deadline link₁ = (.ok (.rejected why), link₂))
      (starts : Starts expect deadline link₂ start) : Starts expect deadline link start

/-- **The attempts of a wait are its first one and, if that is rejected, those after it.** -/
theorem starts_iff {start link₁ : σ} (live : ¬ deadline.expired (now link) = true)
    (found : waitForByte Stuffing.marker deadline link = (.ok (), link₁)) :
    Starts expect deadline link start ↔ start = link₁ ∨
      ∃ why link₂, attempt expect deadline link₁ = (.ok (.rejected why), link₂) ∧
        Starts expect deadline link₂ start := by
  constructor
  · intro h
    cases h with
    | first live' found' =>
      rw [found] at found'
      exact .inl (Prod.mk.inj found').2.symm
    | later live' found' tried starts =>
      rw [found] at found'
      obtain ⟨-, rfl⟩ := Prod.mk.inj found'
      exact .inr ⟨_, _, tried, starts⟩
  · rintro (rfl | ⟨why, link₂, tried, starts⟩)
    · exact .first live found
    · exact .later live found tried starts

/-! ## Accepted frames -/

/-- What is decoded from a read is not longer than the bytes read. -/
lemma length_decodeRead {done raw bytes : List UInt8}
    (h : decodeRead deadline done raw link = (.ok bytes, link')) :
    bytes.length ≤ done.length + raw.length := by
  fun_induction decodeRead deadline done raw link with
  | case1 done => cases h; simp
  | case2 done e q hq => cases h
  | case3 done code q hq =>
    cases hvalue : Stuffing.decodeCode code with
    | ok value => rw [hvalue] at h; cases h; simp
    | error e => rw [hvalue] at h; cases h
  | case4 done code raw value hvalue ih =>
    have := ih h
    simp only [List.length_cons] at this ⊢
    omega
  | case5 done code raw e he => cases h
  | case6 done b raw hb ih =>
    have := ih h
    simp only [List.length_cons] at this ⊢
    omega

/-- A read yields no more data than it was asked for. -/
lemma length_receiveSome {n : Nat} {bytes : List UInt8}
    (h : receiveSome n deadline link = (.ok bytes, link')) : bytes.length ≤ n := by
  unfold receiveSome at h
  split at h
  · cases h
  · next raw q hq =>
    have := length_decodeRead h
    have := length_le_of_read hq
    simp only [List.length_nil] at *
    omega

/-- Exactly as much data is received as is asked for. -/
lemma length_receiveFrom {done bytes : List UInt8} {n : Nat}
    (h : receiveFrom done n deadline link = (.ok bytes, link')) :
    bytes.length = done.length + n := by
  fun_induction receiveFrom done n deadline link with
  | case1 done n link hn e q hq => cases h
  | case2 done n link hn some q hq ih =>
    have := ih h
    have := length_receiveSome hq
    simp only [List.length_append, List.length_reverse] at *
    omega
  | case3 done n link hn =>
    cases h
    rw [List.length_reverse]
    omega

/-- As many bytes are received as were asked for. -/
lemma length_receiveStuffed {bytes : List UInt8} {n : Nat}
    (h : receiveStuffed n deadline link = (.ok bytes, link')) : bytes.length = n := by
  rw [length_receiveFrom h, List.length_nil, Nat.zero_add]

/-- The eight bytes `raw` and then `payload` are received from `link`, and `link'` is left. -/
def Receives (deadline : Deadline) (link : σ) (raw payload : List UInt8) (link' : σ) : Prop :=
  ∃ link₁, receiveStuffed headerSize deadline link = (.ok raw, link₁) ∧
    receiveStuffed payload.length deadline link₁ = (.ok payload, link')

/-- **An attempt accepts exactly a frame that passes all checks,** and it hands out the payload and
the kind of this frame. -/
theorem attempt_accepted_iff {reply : Reply} :
    attempt expect deadline link = (.ok (.accepted reply), link') ↔
      ∃ raw, Receives deadline link raw reply.payload link' ∧ expect.Meets raw reply.payload ∧
        reply.messageType = (FrameHeader.ofBytes raw).messageType := by
  constructor
  · intro h
    generalize hr : (.ok (.accepted reply) : Except DeviceError Verdict) = r at h
    cases attempt_iff.mp h with
    | headerFailed header => exact absurd hr.symm (Verdict.ofFailure_ne_accepted _ reply)
    | undersized header announced => cases hr
    | oversized header announced exceeds => cases hr
    | payloadFailed header announced fits payload =>
      exact absurd hr.symm (Verdict.ofFailure_ne_accepted _ reply)
    | judged header announced fits received =>
      obtain ⟨hverify, hexpected, hanswers, rfl⟩ :=
        Expectation.judge_eq_accepted_iff.mp (Except.ok.inj hr.symm)
      obtain rfl := length_receiveStuffed received
      exact ⟨_, ⟨_, header, received⟩,
        ⟨length_receiveStuffed header, announced, fits, hverify, hexpected, hanswers⟩, rfl⟩
  · rintro ⟨raw, ⟨link₁, header, received⟩, hmeets, hkind⟩
    have hjudged := attempt_iff.mpr (.judged header hmeets.announced hmeets.fits received)
    rwa [hmeets.judge_eq, ← hkind] at hjudged

/-- **The reply of a wait is what one of its attempts accepts,** and this attempt is the last. -/
theorem awaitReply_matched {reply : Reply}
    (h : (awaitReply expect deadline link).result = .ok (.matched reply)) :
    ∃ start, Starts expect deadline link start ∧ attempt expect deadline start =
      (.ok (.accepted reply), (awaitReply expect deadline link).link) := by
  fun_induction awaitReply expect deadline link with
  | case5 link hexp q hfound reply' q' htried =>
    cases h
    exact ⟨q, .first hexp hfound, htried⟩
  | case6 link hexp q hfound why q' htried rest ih =>
    obtain ⟨start, hstart, haccepted⟩ := ih h
    exact ⟨start, .later hexp hfound htried hstart, haccepted⟩
  | _ => cases h

/-- A wait ends with what its first successful attempt accepts. -/
lemma awaitReply_of_accepted {start : σ} {reply : Reply}
    (hstart : Starts expect deadline link start)
    (haccepted : attempt expect deadline start = (.ok (.accepted reply), link')) :
    (awaitReply expect deadline link).result = .ok (.matched reply) := by
  induction hstart with
  | first live found => rw [awaitReply_marked _ live found, haccepted]
  | later live found tried starts ih => rw [awaitReply_marked _ live found, tried, ih haccepted]

end Link

end FramedLink
