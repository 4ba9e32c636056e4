import FramedLink.Link.Scripted
import FramedLink.Proofs.Budget
import FramedLink.Proofs.Soundness
import FramedLink.Proofs.View
import Mathlib.Data.List.Chain

set_option autoImplicit false
set_option relaxedAutoImplicit false

/-!
# Bounds for waits

A wait goes on as long as there is time, and time may stand still as long as there is something to
read. What comes to an end is what there is to read. Two accounts are kept of it here.

* The frames of a wait on a memory link are paid for by the markers that are pending when it starts:
  every attempt starts behind a marker of its own.
* The reads of a wait on any link are paid for by the supply of the link: a read that succeeds uses
  up some of it, and a read that fails ends the search or the attempt to which it belongs. So there
  are **at most twice as many reads as can succeed, and one more,** whatever the clock does.

## Main definitions

* `FramedLink.WaitReport.frames` — the number of frames that a wait has judged.
* `FramedLink.MemoryLink.BehindMarker` — a marker has been read, and maybe more.

## Main results

* `FramedLink.MemoryLink.exists_starts` — the attempts of a wait, each behind a marker of its own.
* `FramedLink.Link.calls_awaitReply_le`, `FramedLink.Link.calls_receiveStuffed_le` — the number of
  reads of a wait and of a receipt.
* `FramedLink.Link.awaitInto_bounded` — waits and receipts come to an end.
-/

namespace FramedLink

open Stuffing (marker)

/-! ## Frames -/

/-- The number of frames that a wait has discarded or accepted. -/
def WaitReport.frames {σ : Type} (report : WaitReport σ) : Nat :=
  report.discarded.length + match report.result with
    | .ok (.matched _) => 1
    | _ => 0

/-- A frame that is discarded before the rest of a wait counts as well. -/
lemma WaitReport.frames_cons {σ : Type} (report : WaitReport σ) (first : Discard) :
    ({ report with discarded := first :: report.discarded } : WaitReport σ).frames =
      report.frames + 1 := by
  simp only [frames, List.length_cons]
  omega

namespace Link

variable {σ : Type} [Link σ] {expect : Expectation} {deadline : Deadline} {link link' start : σ}

/-- No attempt starts after the deadline. -/
lemma not_starts_of_expired (h : deadline.expired (now link) = true) :
    ¬ Starts expect deadline link start := by
  rintro (⟨live, -⟩ | ⟨live, -⟩) <;> exact live h

/-- No attempt starts without a marker. -/
lemma not_starts_of_unmarked {e : LinkError}
    (h : waitForByte marker deadline link = (.error e, link')) :
    ¬ Starts expect deadline link start := by
  rintro (⟨-, found⟩ | ⟨-, found⟩) <;> rw [h] at found <;> cases found

/-- The frames of a wait use up the supply of its link.

**Proof sketch.** By induction on the wait. No read adds to the supply, and the marker in front of a
frame that is judged uses up some of it. -/
lemma frames_add_supply_le (expect : Expectation) (deadline : Deadline) (link : σ) :
    (awaitReply expect deadline link).frames + supply (awaitReply expect deadline link).link ≤
      supply link := by
  fun_induction awaitReply expect deadline link with
  | case1 link hexp => exact Nat.le_of_eq (Nat.zero_add _)
  | case2 link hexp e q hfound htime =>
    exact Nat.le_trans (Nat.le_of_eq (Nat.zero_add _)) (supply_waitForByte hfound).1
  | case3 link hexp e q hfound htime =>
    exact Nat.le_trans (Nat.le_of_eq (Nat.zero_add _)) (supply_waitForByte hfound).1
  | case4 link hexp q hfound e q' htried =>
    have hsearch := (supply_waitForByte hfound).1
    have htry := supply_attempt htried
    exact Nat.le_trans (Nat.le_of_eq (Nat.zero_add _)) (htry.trans hsearch)
  | case5 link hexp q hfound reply q' htried =>
    have hsearch := (supply_waitForByte hfound).2 rfl
    have htry := supply_attempt htried
    show 0 + 1 + supply q' ≤ supply link
    omega
  | case6 link hexp q hfound why q' htried rest ih =>
    have hsearch := (supply_waitForByte hfound).2 rfl
    have htry := supply_attempt htried
    rw [WaitReport.frames_cons]
    show rest.frames + 1 + supply rest.link ≤ supply link
    change rest.frames + supply rest.link ≤ supply q' at ih
    omega

end Link

/-! ## Markers -/

namespace MemoryLink

open Link

variable {deadline : Deadline} {p q : MemoryLink}

/-- Between `p` and `q` a marker has been read, after whatever else, and nothing behind it. -/
def BehindMarker (p q : MemoryLink) : Prop :=
  ∃ before, p.pendingBytes = before ++ marker :: q.pendingBytes

/-- A search ends behind a marker. -/
lemma behindMarker_of_waitForByte (h : waitForByte marker deadline p = (.ok (), q)) :
    BehindMarker p q := by
  obtain ⟨skipped, -, hbytes⟩ := pendingBytes_waitForByte h
  exact ⟨skipped, hbytes⟩

/-- What is behind a marker is so whatever has been read before. -/
lemma BehindMarker.of_suffix {s : MemoryLink} (hsuffix : q.pendingBytes <:+ p.pendingBytes)
    (h : BehindMarker q s) : BehindMarker p s := by
  obtain ⟨earlier, hearlier⟩ := hsuffix
  obtain ⟨before, hbefore⟩ := h
  exact ⟨earlier ++ before, by rw [← hearlier, hbefore, List.append_assoc]⟩

/-- States each behind a marker of its own are no more than the markers. -/
lemma length_le_count_marker {starts : List MemoryLink}
    (h : List.IsChain BehindMarker (p :: starts)) :
    starts.length ≤ p.pendingBytes.count marker := by
  induction starts generalizing p with
  | nil => exact Nat.zero_le _
  | cons start starts ih =>
    obtain ⟨⟨before, hbytes⟩, hrest⟩ := List.isChain_cons_cons.mp h
    have hstarts := ih hrest
    rw [hbytes, List.count_append, List.count_cons_self, List.length_cons]
    omega

/-- **The attempts of a wait,** in order, start each behind a marker of its own. There are as many
as frames that are discarded or accepted, and one more if the link fails during an attempt.

**Proof sketch.** By induction on the wait. The first attempt starts behind the marker that the
search has found. If it is rejected, the next one starts behind a marker of what it has left, which
is the end of what was pending when it started. -/
theorem exists_starts (expect : Expectation) (deadline : Deadline) (p : MemoryLink) :
    ∃ starts : List MemoryLink, (∀ start, start ∈ starts ↔ Starts expect deadline p start) ∧
      List.IsChain BehindMarker (p :: starts) ∧
      (awaitReply expect deadline p).frames ≤ starts.length ∧
      ((awaitReply expect deadline p).result.isOk = true →
        starts.length = (awaitReply expect deadline p).frames) := by
  fun_induction awaitReply expect deadline p with
  | case1 p hexp =>
    refine ⟨[], fun start => ?_, .singleton p, Nat.le_refl 0, fun _ => rfl⟩
    exact iff_of_false List.not_mem_nil (not_starts_of_expired hexp)
  | case2 p hexp e q hfound htime =>
    refine ⟨[], fun start => ?_, .singleton p, Nat.le_refl 0, fun _ => rfl⟩
    exact iff_of_false List.not_mem_nil (not_starts_of_unmarked hfound)
  | case3 p hexp e q hfound htime =>
    refine ⟨[], fun start => ?_, .singleton p, Nat.le_refl 0, fun _ => rfl⟩
    exact iff_of_false List.not_mem_nil (not_starts_of_unmarked hfound)
  | case4 p hexp q hfound e q' htried =>
    refine ⟨[q], fun start => ?_, ?_, Nat.zero_le _, fun hok => by cases hok⟩
    · rw [starts_iff hexp hfound, htried]
      simp
    · exact List.isChain_cons_cons.mpr ⟨behindMarker_of_waitForByte hfound, .singleton q⟩
  | case5 p hexp q hfound reply q' htried =>
    refine ⟨[q], fun start => ?_, ?_, Nat.le_refl 1, fun _ => rfl⟩
    · rw [starts_iff hexp hfound, htried]
      simp
    · exact List.isChain_cons_cons.mpr ⟨behindMarker_of_waitForByte hfound, .singleton q⟩
  | case6 p hexp q hfound why q' htried rest ih =>
    obtain ⟨starts, hstarts, hchain, hle, heq⟩ := ih
    refine ⟨q :: starts, fun start => ?_, ?_, ?_, ?_⟩
    · rw [starts_iff hexp hfound, htried, List.mem_cons, hstarts]
      simp
    · have hsuffix := (chains_pendingBytes deadline).attempt htried
      exact List.isChain_cons_cons.mpr
        ⟨behindMarker_of_waitForByte hfound, hchain.imp_head (.of_suffix hsuffix)⟩
    · rw [WaitReport.frames_cons, List.length_cons]
      exact Nat.succ_le_succ hle
    · intro hok
      rw [WaitReport.frames_cons, List.length_cons, heq hok]

end MemoryLink

/-! ## Reads -/

namespace Link

variable {σ : Type} [Link σ] {deadline : Deadline}

/-- **Reads are paid for by the supply,** save the last of them if it fails. -/
lemma readChains_calls (deadline : Deadline) :
    ReadChains deadline fun (p q : Observed σ) failed =>
      q.calls.length + supply q ≤ p.calls.length + supply p + failed.toNat where
  refl p := Nat.le_refl _
  trans h h' := by
    simp only [Bool.toNat_false] at h
    omega
  weaken h := by
    simp only [Bool.toNat_false, Bool.toNat_true] at h ⊢
    omega
  read hn h := by
    have hsupply := supply_lt_of_read hn h
    rw [(Observed.of_readAvailable h).2, List.length_append, List.length_singleton]
    simp only [Bool.toNat_false]
    omega
  failed hn h := by
    have hsupply := supply_le_of_read h
    rw [(Observed.of_readAvailable h).2, List.length_append, List.length_singleton]
    simp only [Bool.toNat_true]
    omega

/-- A receipt makes one read more than can succeed, at most. -/
theorem calls_receiveStuffed_le {n : Nat} {p q : Observed σ} {r : Except FrameError (List UInt8)}
    (h : receiveStuffed n deadline p = (r, q)) :
    q.calls.length ≤ p.calls.length + supply p + 1 := by
  have hspent := (readChains_calls deadline).receiveFrom h
  have hlast := Bool.toNat_le (!r.isOk)
  omega

/-- **A wait makes at most one read that fails for each frame that it discards,** and one more. The
others are paid for by the supply.

**Proof sketch.** By induction on the wait. A search that finds a marker has no read that fails, and
an attempt has at most one, after which it is rejected or ends the wait. -/
theorem calls_awaitReply_le (expect : Expectation) (deadline : Deadline) (p : Observed σ) :
    (awaitReply expect deadline p).link.calls.length +
        supply (awaitReply expect deadline p).link ≤
      p.calls.length + supply p + (awaitReply expect deadline p).discarded.length + 1 := by
  have hreads := readChains_calls (σ := σ) deadline
  fun_induction awaitReply expect deadline p with
  | case1 p hexp => exact Nat.le_succ _
  | case2 p hexp e q hfound htime => exact hreads.waitForByte hfound
  | case3 p hexp e q hfound htime => exact hreads.waitForByte hfound
  | case4 p hexp q hfound e q' htried =>
    exact hreads.trans (hreads.waitForByte hfound) (hreads.attempt htried)
  | case5 p hexp q hfound reply q' htried =>
    exact hreads.trans (hreads.waitForByte hfound) (hreads.attempt htried)
  | case6 p hexp q hfound why q' htried rest ih =>
    have hround := hreads.trans (hreads.waitForByte hfound) (hreads.attempt htried)
    simp only [Bool.toNat_true] at hround
    rw [List.length_cons]
    show rest.link.calls.length + supply rest.link ≤
      p.calls.length + supply p + (rest.discarded.length + 1) + 1
    change rest.link.calls.length + supply rest.link ≤
      q'.calls.length + supply q' + rest.discarded.length + 1 at ih
    omega

/-! ## Waits and receipts -/

/-- **Waits and receipts come to an end.** On a memory link, a wait judges no more frames than
markers are pending when it starts; its attempts start each behind a marker of its own, and there
are as many of them as frames that are judged unless the link fails; and it ends for lack of time
only after the deadline. On any link, the reads of a wait, which can be watched without changing
them, are no more than twice the supply of the link and one more, and those of a receipt no more
than the supply and one more. On a link with a script for its reads, whose clock stands still, the
supply is the length of the script.

**Proof sketch.** On a memory link, the attempts start behind markers that stand one behind another
in the queue, so there are no more of them than markers. On any link, the calls of a wait are at
most the supply, the frames that are judged and one more, and the frames are no more than the
supply. The supply of a scripted link is the length of its script. -/
theorem awaitInto_bounded (expect : Expectation) (deadline : Deadline) (buffer : Array UInt8) :
    (∀ p : MemoryLink,
      let report := awaitInto expect deadline buffer p
      report.frames ≤ p.pendingBytes.count marker ∧
      (∃ starts : List MemoryLink, (∀ start, start ∈ starts ↔ Starts expect deadline p start) ∧
        List.IsChain MemoryLink.BehindMarker (p :: starts) ∧
        starts.length ≤ p.pendingBytes.count marker ∧
        (report.result.isOk = true → starts.length = report.frames)) ∧
      (report.result = .ok .timedOut → deadline.instant ≤ report.link.clock.now)) ∧
    (∀ {σ : Type} [Link σ] (link : σ),
      let watched := awaitInto expect deadline buffer (Observed.ofLink link)
      let receipt := receiveInto deadline (.ofBuffer buffer) (Observed.ofLink link)
      awaitInto expect deadline buffer link =
        ⟨watched.result, watched.discarded, watched.link.link⟩ ∧
      watched.link.calls.length ≤ 2 * supply link + 1 ∧
      receipt.2.2.calls.length ≤ supply link + 1) ∧
    ∀ p : ScriptedLink,
      (awaitInto expect deadline buffer (Observed.ofLink p)).link.calls.length ≤
        2 * p.reads.length + 1 ∧
      (receiveInto deadline (.ofBuffer buffer) (Observed.ofLink p)).2.2.calls.length ≤
        p.reads.length + 1 := by
  have hwait {σ : Type} [Link σ] (link : σ) :
      (awaitInto expect deadline buffer (Observed.ofLink link)).link.calls.length ≤
        2 * supply link + 1 := by
    rw [awaitInto_eq]
    have hcalls := calls_awaitReply_le expect deadline (Observed.ofLink link)
    have hframes := frames_add_supply_le expect deadline (Observed.ofLink link)
    have hlink : supply (Observed.ofLink link) = supply link := rfl
    simp only [Observed.ofLink, List.length_nil, WaitReport.frames] at hcalls hframes hlink ⊢
    omega
  have hreceipt {σ : Type} [Link σ] (link : σ) :
      (receiveInto deadline (.ofBuffer buffer) (Observed.ofLink link)).2.2.calls.length ≤
        supply link + 1 := by
    have hcalls := calls_receiveStuffed_le (receiveStuffed_size deadline buffer (.ofLink link))
    exact Nat.le_trans hcalls (Nat.le_of_eq (by simp [Observed.ofLink, supply]))
  refine ⟨fun p => ?_, fun link => ⟨?_, hwait link, hreceipt link⟩,
    fun p => ⟨hwait p, hreceipt p⟩⟩
  · rw [awaitInto_eq]
    obtain ⟨starts, hstarts, hchain, hle, heq⟩ := MemoryLink.exists_starts expect deadline p
    have hcount := MemoryLink.length_le_count_marker hchain
    exact ⟨hle.trans hcount, ⟨starts, hstarts, hchain, hcount, heq⟩, MemoryLink.awaitReply_late⟩
  · rw [awaitInto_eq, awaitInto_eq]
    exact Observed.view.awaitReply expect deadline (Observed.ofLink link)

/-- A link whose peer has acknowledged number 7 and then number 8. -/
def twiceAnswered : MemoryLink :=
  .pushInbound {}
    [115, 10, 0, 0, 2, 0, 160, 209, 71, 7, 0, 115, 10, 0, 0, 2, 0, 160, 239, 87, 8, 0]

/-- A link from which one byte, a marker, can be read. -/
def loneMarker : ScriptedLink := { reads := [.data [marker]] }

/-- The bounds are met: two attempts for two markers, and three reads where one can succeed. -/
theorem twiceAnswered_bounded :
    twiceAnswered.pendingBytes.count marker = 2 ∧
    (∃ starts : List MemoryLink, starts.length = 2 ∧
      List.IsChain MemoryLink.BehindMarker (twiceAnswered :: starts)) ∧
    (awaitInto ⟨8, [.ack], 100⟩ ⟨10⟩ #[] (Observed.ofLink loneMarker)).link.calls.length = 3 ∧
    (awaitInto ⟨8, [.ack], 100⟩ ⟨10⟩ #[] (Observed.ofLink loneMarker)).link.calls.length ≤
      2 * loneMarker.reads.length + 1 := by
  obtain ⟨hmemory, -, hscripted⟩ := awaitInto_bounded ⟨8, [.ack], 100⟩ ⟨10⟩ #[]
  obtain ⟨-, ⟨starts, -, hchain, -, heq⟩, -⟩ := hmemory twiceAnswered
  have hframes : (awaitInto ⟨8, [.ack], 100⟩ ⟨10⟩ #[] twiceAnswered).frames = 2 := by
    decide +kernel
  exact ⟨by decide +kernel, ⟨starts, (heq (by decide +kernel)).trans hframes, hchain⟩,
    by decide +kernel, (hscripted loneMarker).1⟩

end Link

end FramedLink
