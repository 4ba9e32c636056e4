import FramedLink.Exchange
import Mathlib.Tactic.Lemma

set_option autoImplicit false
set_option relaxedAutoImplicit false

/-!
# What a wait accepts

An attempt puts a frame to five checks: its header announces the payload that follows, that
payload is not larger than what is read at all, the check fits, the kind is an expected one, and
the payload starts with the awaited number. **A frame is accepted exactly if it passes all of
them.**

## Main definitions

* `FramedLink.Expectation.Meets` — a header and a payload pass all checks.
* `FramedLink.wireBytes` — a frame on the wire, from the bytes of its header.

## Main results

* `FramedLink.Expectation.judge_eq_accepted_iff` — a complete frame is accepted exactly if it
  passes the checks that are left to its judgement.
-/

namespace FramedLink

/-! ## Frames that pass -/

/-- A header, given by its bytes, and a payload pass all checks of a wait. -/
structure Expectation.Meets (expect : Expectation) (raw payload : List UInt8) : Prop where
  /-- The header is complete. -/
  length_raw : raw.length = headerSize
  /-- It announces this payload. -/
  announced : (FrameHeader.ofBytes raw).payloadLength = some payload.length
  /-- The payload is not too large. -/
  fits : payload.length ≤ expect.maxPayloadSize
  /-- The check of the header is the one that belongs to the payload. -/
  verified : (FrameHeader.ofBytes raw).verify payload = true
  /-- The kind is an expected one. -/
  expected : (FrameHeader.ofBytes raw).messageType ∈ expect.types
  /-- The payload starts with the awaited number. -/
  answers : ∃ body, payload = leBytes expect.sequence ++ body

/-- A frame on the wire, from the bytes of its header: a bare marker, then header and payload in
stuffed form. -/
def wireBytes (raw payload : List UInt8) : List UInt8 :=
  Stuffing.marker :: Stuffing.encode (raw ++ payload)

namespace Expectation

variable {expect : Expectation} {header : FrameHeader} {payload : List UInt8} {reply : Reply}

/-- A payload with room for a sequence number starts with the awaited one or with another. -/
lemma matchReply_eq_accepted_iff {messageType : MessageType} :
    expect.matchReply messageType payload = .accepted reply ↔
      messageType ∈ expect.types ∧ (∃ body, payload = leBytes expect.sequence ++ body) ∧
        reply = ⟨messageType, payload⟩ := by
  unfold matchReply
  by_cases hmem : messageType ∈ expect.types
  · rw [if_pos (by simpa using hmem)]
    match payload with
    | [] => simp [leBytes]
    | [b] => simp [leBytes]
    | low :: high :: body =>
      by_cases hseq : leValue low high = expect.sequence
      · have hbytes := leBytes_leValue low high
        rw [hseq] at hbytes
        simp only [if_pos hseq, Verdict.accepted.injEq, hmem, hbytes, true_and]
        refine ⟨fun h => ⟨⟨body, rfl⟩, h.symm⟩, fun h => h.2.symm⟩
      · simp only [if_neg hseq, reduceCtorEq, false_iff]
        rintro ⟨-, ⟨body', hbody⟩, -⟩
        simp only [leBytes, List.cons_append, List.nil_append, List.cons.injEq] at hbody
        obtain ⟨rfl, rfl, -⟩ := hbody
        exact hseq (leValue_leBytes expect.sequence)
  · rw [if_neg (by simpa using hmem)]
    simp [hmem]

/-- **A complete frame is accepted exactly if its check fits, it is of an expected kind and it
answers the awaited number.** -/
theorem judge_eq_accepted_iff :
    expect.judge header payload = .accepted reply ↔
      header.verify payload = true ∧ header.messageType ∈ expect.types ∧
        (∃ body, payload = leBytes expect.sequence ++ body) ∧
        reply = ⟨header.messageType, payload⟩ := by
  unfold judge
  by_cases hv : header.verify payload = true
  · rw [if_pos hv, matchReply_eq_accepted_iff]
    simp [hv]
  · rw [if_neg hv]
    simp [hv]

/-- A frame that passes all checks is accepted. -/
lemma Meets.judge_eq {raw : List UInt8} (h : expect.Meets raw payload) :
    expect.judge (FrameHeader.ofBytes raw) payload =
      .accepted ⟨(FrameHeader.ofBytes raw).messageType, payload⟩ :=
  judge_eq_accepted_iff.mpr ⟨h.verified, h.expected, h.answers, rfl⟩

/-- A payload that passes all checks has room for a sequence number. -/
lemma Meets.two_le {raw : List UInt8} (h : expect.Meets raw payload) : 2 ≤ payload.length := by
  obtain ⟨body, rfl⟩ := h.answers
  simp [leBytes]

end Expectation

end FramedLink
