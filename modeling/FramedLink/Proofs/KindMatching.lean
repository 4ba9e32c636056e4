import FramedLink.Device
import FramedLink.Link.Memory
import FramedLink.Proofs.Attempt
import FramedLink.Proofs.HeaderCodec
import Mathlib.Control.Monad.Basic

set_option autoImplicit false
set_option relaxedAutoImplicit false

/-!
# Kinds and their bytes

A wait is told which kinds of frame may answer it, and a frame brings its kind along as a byte. The
kind of a frame is the named one if its byte has a name. So a kind in the list that has been built
by hand, from a byte that has a name, is the kind of no frame. **Such a kind selects nothing, and it
is not mended either:** with the kinds that its list stands for by bytes, a wait may be answered
where it is not with the list itself. This is all that the two lists differ in.

## Main definitions

* `FramedLink.MessageType.received` — the kind as which a kind is received.
* `FramedLink.Expectation.byCode`, `FramedLink.Expectation.receivable` — an expectation with the
  kinds that its list stands for by bytes, and with those kinds of its list that can be received.
* `FramedLink.Verdict.Narrower` — how the outcomes of two attempts on one frame compare.

## Main results

* `FramedLink.Link.attempt_byCode`, `FramedLink.Link.awaitReply_byCode` — what the two lists make of
  an attempt and of a wait.
* `FramedLink.Device.waitFor_byCode` — when a wait goes as its bytes say.
* `FramedLink.Device.not_waitFor_byCode` — it does not always.
-/

namespace FramedLink

/-! ## Two lists -/

/-- The kind as which a frame of kind `t` is received. By `MessageType.ofCode_code_eq_iff` it is
another one exactly if `t` is built by hand from a byte that has a name. -/
def MessageType.received (t : MessageType) : MessageType := ofCode t.code

/-- What is made from a code can be received. -/
@[simp] lemma MessageType.received_ofCode (b : UInt8) : (ofCode b).received = ofCode b :=
  ofCode_code_ofCode b

/-- The same expectation, with the kinds for which the bytes of its list stand. -/
def Expectation.byCode (expect : Expectation) : Expectation :=
  { expect with types := expect.types.map MessageType.received }

/-- The same expectation, with those kinds of its list that frames can have. -/
def Expectation.receivable (expect : Expectation) : Expectation :=
  { expect with types := expect.types.filter fun t => t.received = t }

namespace Expectation

variable {expect : Expectation} {b : UInt8}

/-- A kind of the list that can be received stands for itself. -/
lemma mem_types_byCode (h : MessageType.ofCode b ∈ expect.types) :
    MessageType.ofCode b ∈ expect.byCode.types :=
  List.mem_map.mpr ⟨_, h, MessageType.received_ofCode b⟩

/-- No kind that can be received is dropped from the list. -/
lemma mem_types_receivable :
    MessageType.ofCode b ∈ expect.receivable.types ↔ MessageType.ofCode b ∈ expect.types := by
  simp [receivable]

end Expectation

/-! ## One attempt -/

/-- How the outcome of an attempt that expects the kinds `types` compares with that of an attempt on
the same frame that expects more kinds. -/
inductive Verdict.Narrower (types : List MessageType) :
    Except DeviceError Verdict → Except DeviceError Verdict → Prop
  /-- Both fail. -/
  | failed (e : DeviceError) : Narrower types (.error e) (.error e)
  /-- Both discard the frame, for whatever reason. -/
  | rejected (why why' : Rejection) : Narrower types (.ok (.rejected why)) (.ok (.rejected why'))
  /-- Both accept it. -/
  | accepted (reply : Reply) (listed : reply.messageType ∈ types) :
      Narrower types (.ok (.accepted reply)) (.ok (.accepted reply))
  /-- Only the second one accepts it. -/
  | missed (why : Rejection) (reply : Reply) (unlisted : reply.messageType ∉ types) :
      Narrower types (.ok (.rejected why)) (.ok (.accepted reply))

/-- A frame is judged alike, save that its kind may not be in the list itself. -/
lemma Expectation.judge_byCode (expect : Expectation) (raw payload : List UInt8) :
    Verdict.Narrower expect.types (.ok (expect.judge (FrameHeader.ofBytes raw) payload))
      (.ok (expect.byCode.judge (FrameHeader.ofBytes raw) payload)) := by
  cases hown : expect.judge (FrameHeader.ofBytes raw) payload with
  | accepted reply =>
    obtain ⟨hverify, hexpected, hanswers, rfl⟩ := judge_eq_accepted_iff.mp hown
    have hcode : expect.byCode.judge (FrameHeader.ofBytes raw) payload =
        .accepted ⟨(FrameHeader.ofBytes raw).messageType, payload⟩ :=
      judge_eq_accepted_iff.mpr ⟨hverify, mem_types_byCode hexpected, hanswers, rfl⟩
    rw [hcode]
    exact .accepted _ hexpected
  | rejected why =>
    cases hcode : expect.byCode.judge (FrameHeader.ofBytes raw) payload with
    | rejected why' => exact .rejected why why'
    | accepted reply =>
      obtain ⟨hverify, -, hanswers, rfl⟩ := judge_eq_accepted_iff.mp hcode
      refine .missed why _ fun hexpected => ?_
      rw [judge_eq_accepted_iff.mpr ⟨hverify, hexpected, hanswers, rfl⟩] at hown
      cases hown

/-- A failure to receive does not depend on the list. -/
lemma Verdict.narrower_ofFailure (types : List MessageType) (e : FrameError) :
    Narrower types (ofFailure e) (ofFailure e) := by
  unfold ofFailure
  split
  · exact .rejected _ _
  split
  · exact .rejected _ _
  · exact .failed _

namespace Link

variable {σ : Type} [Link σ] {expect : Expectation} {deadline : Deadline}

/-- **Two attempts on one frame** leave the same link, and only the kind of the frame can make a
difference. -/
theorem attempt_byCode (expect : Expectation) (deadline : Deadline) (link : σ) :
    ∃ own byCode link', attempt expect deadline link = (own, link') ∧
      attempt expect.byCode deadline link = (byCode, link') ∧
      Verdict.Narrower expect.types own byCode := by
  rcases hown : attempt expect deadline link with ⟨own, link'⟩
  cases attempt_iff.mp hown with
  | headerFailed header =>
    exact ⟨_, _, _, rfl, attempt_iff.mpr (.headerFailed header), Verdict.narrower_ofFailure _ _⟩
  | undersized header announced =>
    exact ⟨_, _, _, rfl, attempt_iff.mpr (.undersized header announced), .rejected _ _⟩
  | oversized header announced exceeds =>
    exact ⟨_, _, _, rfl, attempt_iff.mpr (.oversized header announced exceeds), .rejected _ _⟩
  | payloadFailed header announced fits payload =>
    exact ⟨_, _, _, rfl, attempt_iff.mpr (.payloadFailed header announced fits payload),
      Verdict.narrower_ofFailure _ _⟩
  | judged header announced fits received =>
    exact ⟨_, _, _, rfl, attempt_iff.mpr (.judged header announced fits received),
      expect.judge_byCode _ _⟩

/-- Kinds that frames cannot have make no difference to an attempt. -/
lemma attempt_receivable (expect : Expectation) (deadline : Deadline) (link : σ) :
    attempt expect.receivable deadline link = attempt expect deadline link := by
  have hjudge (raw payload : List UInt8) :
      expect.receivable.judge (FrameHeader.ofBytes raw) payload =
        expect.judge (FrameHeader.ofBytes raw) payload := by
    have hmem : (FrameHeader.ofBytes raw).messageType ∈ expect.receivable.types ↔
        (FrameHeader.ofBytes raw).messageType ∈ expect.types := Expectation.mem_types_receivable
    simp only [Expectation.judge, Expectation.matchReply, List.contains_eq_mem, hmem]
    rfl
  unfold attempt
  simp only [hjudge]
  rfl

/-! ## A whole wait -/

/-- A wait with the kinds of its bytes goes as the wait with the list itself, unless it ends with a
reply whose kind is not in the list.

**Proof sketch.** By induction on the wait with the kinds of the bytes. Every attempt that it
rejects is also rejected with the list itself, on the way to the same link, and the one that it
accepts is accepted too because the kind of the reply is in the list. -/
theorem awaitReply_byCode (expect : Expectation) (link : σ)
    (hlisted : ∀ reply, (awaitReply expect.byCode deadline link).result = .ok (.matched reply) →
      reply.messageType ∈ expect.types) :
    (awaitReply expect deadline link).result = (awaitReply expect.byCode deadline link).result ∧
      (awaitReply expect deadline link).link = (awaitReply expect.byCode deadline link).link := by
  fun_induction awaitReply expect.byCode deadline link with
  | case1 link hexp =>
    rw [awaitReply_expired _ hexp]
    exact ⟨rfl, rfl⟩
  | case2 link hexp e q hfound htime =>
    rw [awaitReply_unmarked _ hexp hfound, if_pos htime]
    exact ⟨rfl, rfl⟩
  | case3 link hexp e q hfound htime =>
    rw [awaitReply_unmarked _ hexp hfound, if_neg htime]
    exact ⟨rfl, rfl⟩
  | case4 link hexp q hfound e q' htried =>
    obtain ⟨own, byCode, q'', hown, hcode, hnarrower⟩ := attempt_byCode expect deadline q
    obtain ⟨rfl, rfl⟩ := Prod.mk.inj (htried.symm.trans hcode)
    cases hnarrower
    rw [awaitReply_marked _ hexp hfound, hown]
    exact ⟨rfl, rfl⟩
  | case5 link hexp q hfound reply q' htried =>
    obtain ⟨own, byCode, q'', hown, hcode, hnarrower⟩ := attempt_byCode expect deadline q
    obtain ⟨rfl, rfl⟩ := Prod.mk.inj (htried.symm.trans hcode)
    cases hnarrower with
    | accepted _ listed =>
      rw [awaitReply_marked _ hexp hfound, hown]
      exact ⟨rfl, rfl⟩
    | missed why _ unlisted => exact absurd (hlisted reply rfl) unlisted
  | case6 link hexp q hfound why q' htried rest ih =>
    obtain ⟨own, byCode, q'', hown, hcode, hnarrower⟩ := attempt_byCode expect deadline q
    obtain ⟨rfl, rfl⟩ := Prod.mk.inj (htried.symm.trans hcode)
    cases hnarrower
    rw [awaitReply_marked _ hexp hfound, hown]
    exact ih hlisted

/-- Kinds that frames cannot have make no difference to a wait. -/
lemma awaitReply_receivable (link : σ) :
    awaitReply expect.receivable deadline link = awaitReply expect deadline link := by
  fun_induction awaitReply expect deadline link with
  | case1 link hexp => rw [awaitReply_expired _ hexp]
  | case2 link hexp e q hfound htime => rw [awaitReply_unmarked _ hexp hfound, if_pos htime]
  | case3 link hexp e q hfound htime => rw [awaitReply_unmarked _ hexp hfound, if_neg htime]
  | case4 link hexp q hfound e q' htried =>
    rw [awaitReply_marked _ hexp hfound, attempt_receivable, htried]
  | case5 link hexp q hfound reply q' htried =>
    rw [awaitReply_marked _ hexp hfound, attempt_receivable, htried]
  | case6 link hexp q hfound why q' htried rest ih =>
    rw [awaitReply_marked _ hexp hfound, attempt_receivable, htried]
    simp only [rest, ih]

/-- The reply of a wait is of a kind in the list. -/
lemma awaitReply_listed {link : σ} {reply : Reply}
    (h : (awaitReply expect deadline link).result = .ok (.matched reply)) :
    reply.messageType ∈ expect.types := by
  obtain ⟨start, -, haccepted⟩ := awaitReply_matched h
  obtain ⟨raw, -, hmeets, hkind⟩ := attempt_accepted_iff.mp haccepted
  rw [hkind]
  exact hmeets.expected

end Link

/-! ## Devices -/

namespace Device

open MessageType (ofCode_code_eq_iff)

variable {σ : Type} [Link σ]

/-- A wait is the wait on the link, whatever its buffer holds. -/
lemma waitFor_eq (d : Device σ) (sequence : UInt16) (types : List MessageType) (timeout : Nat) :
    d.waitFor sequence types timeout =
      let report := Link.awaitReply ⟨sequence, types, d.config.maxPayloadSize⟩
        (d.deadlineAfter timeout) d.link
      ⟨report.result, { d with link := report.link }, report.events sequence⟩ := by
  rw [waitFor, waitUntil, Link.awaitInto_eq]

/-- **When a wait goes as its bytes say.** Put in place of every kind in the list of a wait the one
for which its byte stands. The wait has the same result and leaves the same device exactly if it is
not answered, with the new list, by a reply whose kind is not in the list itself. It always does so
if the list holds the named kind as well, wherever it holds one that is built from the byte of a
named kind. Such kinds could always be left out of the list.

**Proof sketch.** A reply always has a kind of the list with which it was awaited. So if the two
waits agree, the kind of the reply is in the list itself; and if it is, they agree by
`awaitReply_byCode`. A kind of the new list that is not in the old one is the named kind of some
byte, and the closure of the list puts it there. -/
theorem waitFor_byCode (d : Device σ) (sequence : UInt16) (types : List MessageType)
    (timeout : Nat) :
    let own := d.waitFor sequence types timeout
    let byCode := d.waitFor sequence (types.map MessageType.received) timeout
    (own.result = byCode.result ∧ own.device = byCode.device ↔
      ∀ reply, byCode.result = .ok (.matched reply) → reply.messageType ∈ types) ∧
    ((∀ b, MessageType.Named b → .other b ∈ types → MessageType.ofCode b ∈ types) →
      own.result = byCode.result ∧ own.device = byCode.device) ∧
    own = d.waitFor sequence (types.filter fun t => t.received = t) timeout := by
  intro own byCode
  let expect : Expectation := ⟨sequence, types, d.config.maxPayloadSize⟩
  have hown : own = _ := d.waitFor_eq sequence types timeout
  have hcode : byCode = _ := d.waitFor_eq sequence expect.byCode.types timeout
  have hwait (hlisted : ∀ reply, byCode.result = .ok (.matched reply) →
      reply.messageType ∈ types) : own.result = byCode.result ∧ own.device = byCode.device := by
    rw [hcode] at hlisted
    obtain ⟨hresult, hlink⟩ := Link.awaitReply_byCode expect d.link hlisted
    rw [hown, hcode]
    exact ⟨hresult, congrArg (fun link => { d with link }) hlink⟩
  refine ⟨⟨fun h reply hreply => ?_, hwait⟩, fun hclosed => hwait fun reply hreply => ?_, ?_⟩
  · rw [← h.1, hown] at hreply
    exact Link.awaitReply_listed hreply
  · rw [hcode] at hreply
    obtain ⟨t, ht, hkind⟩ := List.mem_map.mp (Link.awaitReply_listed hreply)
    rw [← hkind]
    by_cases hback : t.received = t
    · exact hback.symm ▸ ht
    · obtain ⟨b, rfl, hnamed⟩ := not_not.mp fun h => hback ((ofCode_code_eq_iff t).mpr h)
      exact hclosed b hnamed ht
  · rw [hown, d.waitFor_eq, ← Link.awaitReply_receivable]
    rfl

/-- A device whose peer has sent `replies`. -/
def hearing (replies : List UInt8) : Device MemoryLink :=
  .ofLink (MemoryLink.pushInbound {} replies) {}

/-- A positive acknowledgement of number 8, and a negative one. -/
def ackOfEight : List UInt8 := [115, 10, 0, 0, 2, 0, 160, 239, 87, 8, 0]

@[inherit_doc ackOfEight]
def nackOfEight : List UInt8 := [115, 10, 0, 0, 2, 0, 183, 97, 52, 8, 0]

/-- A kind that cannot be received does no harm as long as the reply is of another one. -/
theorem refused_waitFor :
    ((hearing nackOfEight).waitFor 8 [.other 160, .nack] 10).result =
        .ok (.matched ⟨.nack, [8, 0]⟩) ∧
      (hearing nackOfEight).waitFor 8 [.other 160, .nack] 10 =
        (hearing nackOfEight).waitFor 8 [.nack] 10 := by
  obtain ⟨hiff, -, hreceivable⟩ :=
    waitFor_byCode (hearing nackOfEight) 8 [.other 160, .nack] 10
  have hcode : ((hearing nackOfEight).waitFor 8
      ([.other 160, .nack].map MessageType.received) 10).result =
        .ok (.matched ⟨.nack, [8, 0]⟩) := by decide +kernel
  refine ⟨(hiff.mpr fun reply hreply => ?_).1.trans hcode, hreceivable⟩
  obtain rfl := WaitOutcome.matched.inj (Except.ok.inj (hcode.symm.trans hreply))
  decide

/-- **A wait does not always go as its bytes say:** if the positive acknowledgement stands in the
list as a byte, the one that arrives is discarded. -/
theorem not_waitFor_byCode :
    ¬ ∀ (d : Device MemoryLink) (sequence : UInt16) (types : List MessageType) (timeout : Nat),
        (d.waitFor sequence types timeout).result =
            (d.waitFor sequence (types.map MessageType.received) timeout).result ∧
          (d.waitFor sequence types timeout).device =
            (d.waitFor sequence (types.map MessageType.received) timeout).device := by
  intro h
  have hown : ((hearing ackOfEight).waitFor 8 [.other 160] 10).result = .ok .timedOut := by
    decide +kernel
  have hcode : ((hearing ackOfEight).waitFor 8 ([.other 160].map MessageType.received) 10).result =
      .ok (.matched ⟨.ack, [8, 0]⟩) := by decide +kernel
  have hsame := (h (hearing ackOfEight) 8 [.other 160] 10).1
  rw [hown, hcode] at hsame
  cases hsame

end Device

end FramedLink
