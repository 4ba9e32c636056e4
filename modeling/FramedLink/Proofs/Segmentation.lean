import FramedLink.Proofs.Resynchronisation

set_option autoImplicit false
set_option relaxedAutoImplicit false

/-!
# The size of reads

How many bytes a link hands out at once should not matter to a wait. It matters in one place:
when a pair is damaged, the bytes that were read together with the pair are lost with it, and a
marker may be among them. **A wait that loses no marker in this way takes the course that it
takes on a link that hands out single bytes.**

## Main definitions

* `FramedLink.MemoryLink.Agree` — two waits end in the same way, at the same time and with the
  same frames discarded.
* `FramedLink.MemoryLink.Mirrors` — a relation between links under which waits agree.
* `FramedLink.MemoryLink.Loses` — the bytes that an attempt takes from the link in vain.
* `FramedLink.MemoryLink.KeepsMarkers` — no attempt of a wait loses a marker.
* `FramedLink.MemoryLink.Trails`, `FramedLink.MemoryLink.Abreast` — a wait next to the wait on
  single bytes, before and behind a marker.

## Main results

* `FramedLink.MemoryLink.Mirrors.agree` — waits on links that mirror each other agree.
* `FramedLink.MemoryLink.awaitReply_setReadChunk_one` — a wait that loses no marker against the
  wait on single bytes.
* `FramedLink.MemoryLink.agree_of_keepsMarkers` — two waits that lose no marker agree.
-/

namespace FramedLink.MemoryLink

open Link Stuffing

variable {expect : Expectation} {deadline : Deadline} {lost : List UInt8} {p q : MemoryLink}

/-! ## Agreement -/

/-- Two waits end in the same way, at the same time and with the same frames discarded. -/
structure Agree (r s : WaitReport MemoryLink) : Prop where
  /-- The results are the same. -/
  result : r.result = s.result
  /-- The discarded frames are the same. -/
  discarded : r.discarded = s.discarded
  /-- The clocks show the same instant. -/
  clock : r.link.clock = s.link.clock

namespace Agree

variable {r s t : WaitReport MemoryLink}

/-- It does not matter which of two runs is named first. -/
lemma symm (h : Agree r s) : Agree s r := ⟨h.result.symm, h.discarded.symm, h.clock.symm⟩

/-- Two runs that agree with a third one agree. -/
lemma trans (h : Agree r s) (h' : Agree s t) : Agree r t :=
  ⟨h.result.trans h'.result, h.discarded.trans h'.discarded, h.clock.trans h'.clock⟩

end Agree

/-- A relation between links under which waits agree: the search for a marker leads from links
related by `S` to links related by `T`, and a rejected attempt leads back. -/
structure Mirrors (expect : Expectation) (deadline : Deadline)
    (S T : MemoryLink → MemoryLink → Prop) : Prop where
  /-- The clocks show the same instant. -/
  clock {p q : MemoryLink} : S p q → q.clock = p.clock
  /-- The search for a marker comes to the same. -/
  found {p q p' : MemoryLink} {r : Except LinkError Unit} : S p q →
    ¬ deadline.expired (Link.now p) = true → waitForByte marker deadline p = (r, p') →
    ∃ q', waitForByte marker deadline q = (r, q') ∧ q'.clock = p'.clock ∧ (r = .ok () → T p' q')
  /-- The attempt comes to the same. -/
  tried {p q p' : MemoryLink} {r : Except DeviceError Verdict} : T p q →
    attempt expect deadline p = (r, p') →
    ∃ q', attempt expect deadline q = (r, q') ∧ q'.clock = p'.clock ∧
      (∀ why, r = .ok (.rejected why) → S p' q')

/-- **Waits on links that mirror each other agree.**

**Proof sketch.** Induction on the course of the one wait. The other one takes the same course:
its deadline passes at the same instant, its searches find a marker at the same time, and its
attempts come to the same verdicts. -/
theorem Mirrors.agree {S T : MemoryLink → MemoryLink → Prop} (h : Mirrors expect deadline S T)
    (hS : S p q) : Agree (awaitReply expect deadline q) (awaitReply expect deadline p) := by
  have hnow {p q : MemoryLink} (hclock : q.clock = p.clock) :
      deadline.expired (Link.now q) = deadline.expired (Link.now p) :=
    congrArg (fun clock => deadline.expired clock.now) hclock
  fun_induction awaitReply expect deadline p generalizing q with
  | case1 p hexp =>
    rw [awaitReply_expired q ((hnow (h.clock hS)).trans hexp)]
    exact ⟨rfl, rfl, h.clock hS⟩
  | case2 p hexp e p' hfound htime =>
    obtain ⟨q', hfound', hclock, -⟩ := h.found hS hexp hfound
    rw [awaitReply_unmarked q (hnow (h.clock hS) ▸ hexp) hfound', if_pos htime]
    exact ⟨rfl, rfl, hclock⟩
  | case3 p hexp e p' hfound htime =>
    obtain ⟨q', hfound', hclock, -⟩ := h.found hS hexp hfound
    rw [awaitReply_unmarked q (hnow (h.clock hS) ▸ hexp) hfound', if_neg htime]
    exact ⟨rfl, rfl, hclock⟩
  | case4 p hexp p' hfound e p'' htried =>
    obtain ⟨q', hfound', -, hT⟩ := h.found hS hexp hfound
    obtain ⟨q'', htried', hclock, -⟩ := h.tried (hT rfl) htried
    rw [awaitReply_marked q (hnow (h.clock hS) ▸ hexp) hfound', htried']
    exact ⟨rfl, rfl, hclock⟩
  | case5 p hexp p' hfound reply p'' htried =>
    obtain ⟨q', hfound', -, hT⟩ := h.found hS hexp hfound
    obtain ⟨q'', htried', hclock, -⟩ := h.tried (hT rfl) htried
    rw [awaitReply_marked q (hnow (h.clock hS) ▸ hexp) hfound', htried']
    exact ⟨rfl, rfl, hclock⟩
  | case6 p hexp p' hfound why p'' htried rest =>
    rename_i ih
    obtain ⟨q', hfound', -, hT⟩ := h.found hS hexp hfound
    obtain ⟨q'', htried', hclock, hback⟩ := h.tried (hT rfl) htried
    have hrest := ih (hback why rfl)
    have hdiscard : Discard.mk why (deadline.remaining (Link.now q'')) =
        Discard.mk why (deadline.remaining (Link.now p'')) :=
      congrArg (fun clock => Discard.mk why (deadline.remaining clock.now)) hclock
    rw [awaitReply_marked q (hnow (h.clock hS) ▸ hexp) hfound', htried']
    exact ⟨hrest.result, congrArg₂ List.cons hdiscard hrest.discarded, hrest.clock⟩

/-! ## Lost bytes -/

/-- `Loses expect deadline p lost`: an attempt on `p` takes the bytes `lost` from the link beyond
those that it takes if the link hands out single bytes. -/
def Loses (expect : Expectation) (deadline : Deadline) (p : MemoryLink) (lost : List UInt8) :
    Prop :=
  attempt expect deadline (p.setReadChunk 1) =
    ((attempt expect deadline p).1,
      ((attempt expect deadline p).2.unread lost).setReadChunk 1)

/-- No attempt of the wait on `p` loses a marker. -/
def KeepsMarkers (expect : Expectation) (deadline : Deadline) (p : MemoryLink) : Prop :=
  ∀ start lost, Starts expect deadline p start → Loses expect deadline start lost →
    marker ∉ lost

/-- Bytes are lost with a damaged pair only, and fewer than are read at once. -/
lemma exists_loses (expect : Expectation) (deadline : Deadline) (p : MemoryLink) :
    ∃ lost, Loses expect deadline p lost ∧ (lost = [] ∨ lost.length + 2 ≤ p.readChunk) := by
  have htried : attempt expect deadline p =
      ((attempt expect deadline p).1, (attempt expect deadline p).2) := rfl
  obtain ⟨lost, hlost, hcause⟩ := attempt_setReadChunk_one htried
  exact ⟨lost, hlost, hcause.imp_right And.right⟩

/-- There is only one answer to what an attempt loses. -/
lemma Loses.unique {lost' : List UInt8} (h : Loses expect deadline p lost)
    (h' : Loses expect deadline p lost') : lost = lost' := by
  have hlink := congrArg (fun run => run.2.pendingBytes) (h.symm.trans h')
  simpa using hlink

/-! ## Looking for a marker -/

/-- The read chunk does not matter to the search for a byte. -/
lemma waitForByte_setReadChunk (value : UInt8) (deadline : Deadline) (p : MemoryLink) (c : Nat) :
    waitForByte value deadline (p.setReadChunk c) =
      ((waitForByte value deadline p).1, (waitForByte value deadline p).2.setReadChunk c) := by
  fun_induction waitForByte value deadline p with
  | case1 p e q hq =>
    exact waitForByte_of_readByte_error (by rw [readByte_setReadChunk, hq])
  | case2 p q hq =>
    have hread : readByte deadline (p.setReadChunk c) = (.ok value, q.setReadChunk c) := by
      rw [readByte_setReadChunk, hq]
    rw [waitForByte_of_readByte hread, if_pos rfl]
  | case3 p b q hq hb ih =>
    have hread : readByte deadline (p.setReadChunk c) = (.ok b, q.setReadChunk c) := by
      rw [readByte_setReadChunk, hq]
    rw [waitForByte_of_readByte hread, if_neg hb, ih]

/-- Bytes that have been put back do not matter to the search for another byte. -/
lemma waitForByte_unread {value : UInt8} (hactive : p.cancelled = false) (hmem : value ∉ lost) :
    waitForByte value deadline (p.unread lost) = waitForByte value deadline p := by
  induction lost with
  | nil => rfl
  | cons b lost ih =>
    rw [List.mem_cons, not_or] at hmem
    rw [waitForByte_of_readByte (readByte_unread_cons hactive), if_neg (Ne.symm hmem.1),
      ih hmem.2]

/-- The size of reads does not matter to the search either. -/
lemma waitForByte_unread_setReadChunk {value : UInt8} {r : Except LinkError Unit}
    (hactive : lost = [] ∨ p.cancelled = false) (hmem : value ∉ lost)
    (h : waitForByte value deadline p = (r, q)) (c : Nat) :
    waitForByte value deadline ((p.unread lost).setReadChunk c) = (r, q.setReadChunk c) := by
  rw [waitForByte_setReadChunk]
  rcases hactive with rfl | hactive
  · rw [unread_nil, h]
  · rw [waitForByte_unread hactive hmem, h]

/-- A link from which something can be read has not been called off. -/
lemma cancelled_of_waitForByte {value : UInt8}
    (h : waitForByte value deadline p = (.ok (), q)) : p.cancelled = false := by
  rcases readByte_cases deadline p with ⟨-, hread⟩ | ⟨hc, -⟩ | ⟨hc, -⟩
  · rw [waitForByte_of_readByte_error hread] at h
    cases h
  · exact hc
  · exact hc

/-! ## Waits that lose no marker -/

/-- The wait that goes on behind an attempt keeps markers if the whole wait does. -/
lemma KeepsMarkers.later {q' : MemoryLink} {why : Rejection}
    (h : KeepsMarkers expect deadline p) (hlive : ¬ deadline.expired (Link.now p) = true)
    (hfound : waitForByte marker deadline p = (.ok (), q))
    (htried : attempt expect deadline q = (.ok (.rejected why), q')) :
    KeepsMarkers expect deadline q' :=
  fun start lost hstart => h start lost (.later hlive hfound htried hstart)

/-- `q` hands out single bytes, and those first that have been lost on the way to `p`. -/
structure Trails (expect : Expectation) (deadline : Deadline) (p q : MemoryLink) : Prop where
  /-- The wait on `p` loses no marker. -/
  keeps : KeepsMarkers expect deadline p
  /-- No marker has been lost. -/
  lost : ∃ lost, (lost = [] ∨ p.cancelled = false) ∧ marker ∉ lost ∧
    q = (p.unread lost).setReadChunk 1

/-- `q` hands out single bytes, and otherwise stands where `p` stands, behind a marker. -/
structure Abreast (expect : Expectation) (deadline : Deadline) (p q : MemoryLink) : Prop where
  /-- Nobody has called off the reading. -/
  active : p.cancelled = false
  /-- The attempt on `p` loses no marker. -/
  losses : ∀ lost, Loses expect deadline p lost → marker ∉ lost
  /-- The wait that goes on behind the attempt loses no marker either. -/
  keeps : ∀ why p', attempt expect deadline p = (.ok (.rejected why), p') →
    KeepsMarkers expect deadline p'
  /-- Both stand at the same place. -/
  level : q = p.setReadChunk 1

/-- A wait that loses no marker is mirrored on single bytes: the search for a marker passes the
lost bytes, and the attempt behind it comes to the same verdict. -/
lemma mirrors_trails (expect : Expectation) (deadline : Deadline) :
    Mirrors expect deadline (Trails expect deadline) (Abreast expect deadline) where
  clock := by
    rintro p q ⟨-, lost, -, -, rfl⟩
    rfl
  found := by
    rintro p q p' r ⟨hkeeps, lost, hactive, hmem, rfl⟩ hlive hfound
    refine ⟨_, waitForByte_unread_setReadChunk hactive hmem hfound 1, rfl, ?_⟩
    rintro rfl
    refine ⟨?_, fun lost hlost => hkeeps p' lost (.first hlive hfound) hlost,
      fun why p'' htried => hkeeps.later hlive hfound htried, rfl⟩
    rw [((chains_keepsSettings deadline).waitForByte hfound).cancelled]
    exact cancelled_of_waitForByte hfound
  tried := by
    rintro p q p' r ⟨hactive, hlosses, hkeeps, rfl⟩ htried
    obtain ⟨lost, hlost, -⟩ := exists_loses expect deadline p
    have hmem := hlosses lost hlost
    rw [Loses, htried] at hlost
    refine ⟨_, hlost, rfl, ?_⟩
    rintro why rfl
    refine ⟨hkeeps why p' htried, lost, .inr ?_, hmem, rfl⟩
    rw [((chains_keepsSettings deadline).attempt htried).cancelled]
    exact hactive

/-- **A wait that loses no marker agrees with the wait on single bytes.** -/
theorem awaitReply_setReadChunk_one (h : KeepsMarkers expect deadline p) :
    Agree (awaitReply expect deadline (p.setReadChunk 1)) (awaitReply expect deadline p) :=
  (mirrors_trails expect deadline).agree ⟨h, [], .inl rfl, List.not_mem_nil, rfl⟩

/-- **Two waits that lose no marker agree,** whatever the sizes of their reads. -/
theorem agree_of_keepsMarkers {c₁ c₂ : Nat}
    (h₁ : KeepsMarkers expect deadline (p.setReadChunk c₁))
    (h₂ : KeepsMarkers expect deadline (p.setReadChunk c₂)) :
    Agree (awaitReply expect deadline (p.setReadChunk c₁))
      (awaitReply expect deadline (p.setReadChunk c₂)) :=
  (awaitReply_setReadChunk_one h₁).symm.trans (awaitReply_setReadChunk_one h₂)

/-- Reads of at most two bytes lose nothing: a damaged pair is all that they can hold. -/
lemma keepsMarkers_of_le_two (hp : p.readChunk ≤ 2) : KeepsMarkers expect deadline p := by
  intro start lost hstart hlost
  have hchunk := ((chains_keepsSettings deadline).starts hstart).readChunk
  obtain ⟨lost', hlost', hcause⟩ := exists_loses expect deadline start
  have hnil : lost' = [] := by
    rcases hcause with hnil | hlen
    · exact hnil
    · exact List.eq_nil_of_length_eq_zero (by omega)
  rw [hlost.unique hlost', hnil]
  exact List.not_mem_nil

end FramedLink.MemoryLink
