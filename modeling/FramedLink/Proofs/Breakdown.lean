import FramedLink.Link.Scripted
import FramedLink.Proofs.Preservation
import FramedLink.Proofs.View
import Mathlib.Control.Monad.Basic
import Mathlib.Data.List.Basic

set_option autoImplicit false
set_option relaxedAutoImplicit false

/-!
# How operations fail

An operation is a sequence of reads and writes. **It fails exactly if the last of them has broken
the link,** that is, if this call has failed for another reason than lack of time or has moved
nothing although something was to be moved; and no call but the last may fail in this way. So no
failure of the link is passed over, nothing is done with a link that has failed, and neither damaged
bytes nor a lack of time ever look like a failure.

A read for several bytes may yield none without any harm, since it is repeated. Only a read for a
single byte must not, and that is why the last call is looked at: behind a read that is repeated
there is another one.

## Main definitions

* `FramedLink.Call.broken?` — how a call breaks the link, if it does.
* `FramedLink.Call.Ends` — how a sequence of calls ends.
* `FramedLink.Observed.Leads` — how the calls from one state to another end.
* `FramedLink.Device.Accounts` — an operation fails exactly as its last call.

## Main results

* `FramedLink.Observed.leads_receiveFrom`, `FramedLink.Observed.leads_awaitReply`,
  `FramedLink.Observed.chains_leads` — how the calls of the parts of an operation end.
* `FramedLink.Device.errors_accounted` — how waits, requests and pings fail.
-/

namespace FramedLink

/-! ## Serious errors -/

/-- The failure of a link, unless it is a mere lack of time. -/
def LinkError.serious? : LinkError → Option LinkError
  | timeout => none
  | e => some e

/-- The failure of the link behind a framing error. Damaged bytes are none. -/
def FrameError.serious? : FrameError → Option LinkError
  | link e => e.serious?
  | _ => none

/-- The failure of the link behind an error of a device. -/
def DeviceError.serious? : DeviceError → Option LinkError
  | link e => e.serious?
  | frame _ => none

/-- The failure of the link behind a result. -/
def failure? {ε α : Type} (serious? : ε → Option LinkError) : Except ε α → Option LinkError
  | .ok _ => none
  | .error e => serious? e

/-- The serious failures of a link are all but a timeout. -/
lemma LinkError.serious?_eq_some_iff {e e' : LinkError} :
    e.serious? = some e' ↔ e = e' ∧ e ≠ .timeout := by
  cases e <;> simp [serious?]

/-- What a failure to receive means for an attempt does not change the failure behind it. -/
lemma failure?_ofFailure (e : FrameError) :
    failure? DeviceError.serious? (Verdict.ofFailure e) = e.serious? := by
  cases e with
  | link source => cases source <;> rfl
  | _ => rfl

/-- Damaged data is no failure of the link. -/
lemma failure?_decodeCode {α : Type} (code : UInt8) (f : UInt8 → α) :
    failure? FrameError.serious? ((Stuffing.decodeCode code).map f) = none := by
  cases h : Stuffing.decodeCode code with
  | ok value => rfl
  | error e =>
    obtain ⟨code', rfl⟩ := Stuffing.decodeCode_eq_error h
    rfl

/-! ## Sequences of calls -/

namespace Call

/-- How a call breaks the link, if it does. -/
def broken? : Call → Option LinkError
  | read _ (.error e) | write _ (.error e) => e.serious?
  | read _ (.ok []) | write _ (.ok 0) => some .closed
  | _ => none

/-- This is how a call breaks the link. -/
theorem breaks_iff {c : Call} {e : LinkError} : c.Breaks e ↔ c.broken? = some e := by
  constructor
  · intro h
    cases h with
    | failed fails => cases fails <;> exact LinkError.serious?_eq_some_iff.mpr ⟨rfl, ‹_›⟩
    | readNothing => rfl
    | wroteNothing => rfl
  · intro h
    unfold broken? at h
    split at h
    · obtain ⟨rfl, hserious⟩ := LinkError.serious?_eq_some_iff.mp h
      exact .failed (.read hserious)
    · obtain ⟨rfl, hserious⟩ := LinkError.serious?_eq_some_iff.mp h
      exact .failed (.write hserious)
    · obtain rfl := Option.some.inj h
      exact .readNothing
    · obtain rfl := Option.some.inj h
      exact .wroteNothing
    · cases h

/-- No call of a sequence fails for another reason than lack of time. -/
def Spared (calls : List Call) : Prop := ∀ c ∈ calls, ∀ e, ¬ c.Fails e

/-- How a sequence of calls ends. -/
structure Ends (calls : List Call) (failure : Option LinkError) : Prop where
  /-- No call but the last one fails. -/
  spared : Spared calls.dropLast
  /-- The last one breaks the link in this way, or does not break it. -/
  last : calls.getLast?.bind broken? = failure

variable {calls calls' : List Call} {failure : Option LinkError}

/-- Without calls, nothing has failed. -/
lemma ends_nil : Ends [] none := ⟨fun _ h => absurd h List.not_mem_nil, rfl⟩

/-- Calls end with a failure exactly if the last one has failed so and those before it have not. -/
lemma ends_concat_iff {c : Call} :
    Ends (calls ++ [c]) failure ↔ Spared calls ∧ c.broken? = failure := by
  constructor
  · rintro ⟨hspared, hlast⟩
    rw [List.dropLast_concat] at hspared
    rw [List.getLast?_concat] at hlast
    exact ⟨hspared, hlast⟩
  · rintro ⟨hspared, hlast⟩
    refine ⟨?_, ?_⟩
    · rw [List.dropLast_concat]
      exact hspared
    · rw [List.getLast?_concat]
      exact hlast

/-- A single call ends as it breaks the link. -/
lemma ends_singleton (c : Call) : Ends [c] c.broken? :=
  ends_concat_iff.mpr ⟨fun _ h => absurd h List.not_mem_nil, rfl⟩

/-- A sequence that does not break the link holds no call that fails. -/
lemma Ends.spared_all (h : Ends calls none) : Spared calls := by
  obtain rfl | ⟨before, c, rfl⟩ := calls.eq_nil_or_concat'
  · exact fun _ h => absurd h List.not_mem_nil
  · obtain ⟨hspared, hlast⟩ := ends_concat_iff.mp h
    intro c' hmem e hfails
    obtain hmem | hmem := List.mem_append.mp hmem
    · exact hspared c' hmem e hfails
    · obtain rfl := List.mem_singleton.mp hmem
      rw [breaks_iff.mp (.failed hfails)] at hlast
      cases hlast

/-- Calls that do not fail do not matter to how the calls after them end. -/
lemma Ends.after_spared (hspared : Spared calls) (hne : calls' ≠ []) (h : Ends calls' failure) :
    Ends (calls ++ calls') failure := by
  obtain rfl | ⟨before, c, rfl⟩ := calls'.eq_nil_or_concat'
  · exact absurd rfl hne
  · obtain ⟨hspared', hlast⟩ := ends_concat_iff.mp h
    rw [← List.append_assoc, ends_concat_iff]
    refine ⟨fun c' hmem => ?_, hlast⟩
    obtain hmem | hmem := List.mem_append.mp hmem
    · exact hspared c' hmem
    · exact hspared' c' hmem

/-- After calls that do not break the link, what matters is how the calls after them end. -/
lemma Ends.append (h : Ends calls none) (h' : Ends calls' failure) :
    Ends (calls ++ calls') failure := by
  by_cases hne : calls' = []
  · subst hne
    obtain rfl : none = failure := h'.last
    rwa [List.append_nil]
  · exact .after_spared h.spared_all hne h'

/-- The last call tells how the link has been broken. -/
lemma Ends.eq_some_iff (h : Ends calls failure) (e : LinkError) :
    failure = some e ↔ ∃ before last, calls = before ++ [last] ∧ last.Breaks e := by
  constructor
  · rintro rfl
    obtain rfl | ⟨before, c, rfl⟩ := calls.eq_nil_or_concat'
    · cases h.last
    · exact ⟨before, c, rfl, breaks_iff.mpr (ends_concat_iff.mp h).2⟩
  · rintro ⟨before, c, rfl, hbreaks⟩
    rw [← (ends_concat_iff.mp h).2]
    exact breaks_iff.mp hbreaks

/-- A call that fails is the last one. -/
lemma Ends.nil_of_fails (h : Ends calls failure) {before after : List Call} {c : Call}
    {e : LinkError} (hcalls : calls = before ++ c :: after) (hfails : c.Fails e) : after = [] := by
  obtain rfl | ⟨middle, last, rfl⟩ := after.eq_nil_or_concat'
  · rfl
  · subst hcalls
    rw [← List.cons_append, ← List.append_assoc, ends_concat_iff] at h
    exact absurd hfails (h.1 c (by simp) e)

end Call

/-! ## Links -/

namespace Observed

variable {σ : Type} {deadline : Deadline} {p q s : Observed σ} {failure : Option LinkError}

/-- The calls that lead from `p` to `q` end in this way. -/
def Leads (p q : Observed σ) (failure : Option LinkError) : Prop :=
  ∃ calls, q.calls = p.calls ++ calls ∧ Call.Ends calls failure

/-- No calls. -/
lemma Leads.refl (p : Observed σ) : Leads p p none := ⟨[], (List.append_nil _).symm, Call.ends_nil⟩

/-- Calls that do not fail, followed by calls. -/
lemma Leads.trans (h : Leads p q none) (h' : Leads q s failure) : Leads p s failure := by
  obtain ⟨calls, hq, hends⟩ := h
  obtain ⟨calls', hs, hends'⟩ := h'
  exact ⟨calls ++ calls', by rw [hs, hq, List.append_assoc], hends.append hends'⟩

/-- A single call. -/
lemma leads_of_call {c : Call} (h : q.calls = p.calls ++ [c]) : Leads p q c.broken? :=
  ⟨[c], h, c.ends_singleton⟩

variable [Link σ]

/-- The reading of one byte fails as its call does. -/
lemma leads_readByte {r : Except LinkError UInt8} (h : Link.readByte deadline p = (r, q)) :
    Leads p q (failure? LinkError.serious? r) := by
  unfold Link.readByte at h
  split at h <;> next hread =>
    obtain ⟨rfl, rfl⟩ := Prod.mk.inj h
    exact leads_of_call (of_readAvailable hread).2

/-- The search for a byte fails as its last read does. -/
lemma leads_waitForByte {value : UInt8} {r : Except LinkError Unit}
    (h : Link.waitForByte value deadline p = (r, q)) :
    Leads p q (failure? LinkError.serious? r) := by
  fun_induction Link.waitForByte value deadline p with
  | case1 p e q' hread => cases h; exact leads_readByte hread
  | case2 p q' hread => cases h; exact leads_readByte hread
  | case3 p b q' hread hb ih => exact (leads_readByte hread).trans (ih h)

/-- Decoding fails as the read of the second half of a pair does. -/
lemma leads_decodeRead {done raw : List UInt8} {r : Except FrameError (List UInt8)}
    (h : Link.decodeRead deadline done raw p = (r, q)) :
    Leads p q (failure? FrameError.serious? r) := by
  fun_induction Link.decodeRead deadline done raw p with
  | case1 done => cases h; exact .refl p
  | case2 done e q' hread => cases h; exact leads_readByte hread
  | case3 done code q' hread =>
    obtain ⟨rfl, rfl⟩ := Prod.mk.inj h
    rw [failure?_decodeCode]
    exact leads_readByte hread
  | case4 done code raw value hvalue ih => exact ih h
  | case5 done code raw e he =>
    obtain ⟨code', rfl⟩ := Stuffing.decodeCode_eq_error he
    cases h
    exact .refl p
  | case6 done b raw hb ih => exact ih h

/-- One read for several bytes. It may yield nothing, and then it does not count as the last
call. -/
lemma leads_receiveSome {n : Nat} {r : Except FrameError (List UInt8)}
    (h : Link.receiveSome n deadline p = (r, q)) :
    ∃ calls, q.calls = p.calls ++ calls ∧ calls ≠ [] ∧
      (Call.Ends calls (failure? FrameError.serious? r) ∨ r = .ok [] ∧ Call.Spared calls) := by
  unfold Link.receiveSome at h
  rcases hread : Link.readAvailable n deadline p with ⟨e | raw, q'⟩ <;> rw [hread] at h
  · cases h
    exact ⟨_, (of_readAvailable hread).2, List.cons_ne_nil _ _, .inl (Call.ends_singleton _)⟩
  · have hcall := (of_readAvailable hread).2
    cases raw with
    | nil =>
      cases h
      refine ⟨_, hcall, List.cons_ne_nil _ _, .inr ⟨rfl, fun c hmem e hfails => ?_⟩⟩
      obtain rfl := List.mem_singleton.mp hmem
      cases hfails
    | cons b raw =>
      obtain ⟨calls, hq, hends⟩ := leads_decodeRead h
      refine ⟨[.read n (.ok (b :: raw))] ++ calls, ?_, List.cons_ne_nil _ _,
        .inl ((Call.ends_singleton _).append hends)⟩
      rw [hq, hcall, List.append_assoc]

/-- **Receiving data ends as its last call,** and there is a call if data is to be received.

**Proof sketch.** Induction on the reads. Behind a read that yields something, the end is that of
the rest. A read that yields nothing is repeated, because as much is missing as before, so there is
a call behind it. -/
theorem leads_receiveFrom {done : List UInt8} {n : Nat} {r : Except FrameError (List UInt8)}
    (h : Link.receiveFrom done n deadline p = (r, q)) :
    ∃ calls, q.calls = p.calls ++ calls ∧ (0 < n → calls ≠ []) ∧
      Call.Ends calls (failure? FrameError.serious? r) := by
  fun_induction Link.receiveFrom done n deadline p with
  | case1 done n p hn e q' hsome =>
    cases h
    obtain ⟨calls, hq, hne, hends | ⟨hnothing, -⟩⟩ := leads_receiveSome hsome
    · exact ⟨calls, hq, fun _ => hne, hends⟩
    · cases hnothing
  | case2 done n p hn bytes q' hsome ih =>
    obtain ⟨calls, hq', hne, hfirst⟩ := leads_receiveSome hsome
    obtain ⟨calls', hq, hne', hends⟩ := ih h
    refine ⟨calls ++ calls', by rw [hq, hq', List.append_assoc], fun _ => by simp [hne], ?_⟩
    obtain hends' | ⟨hnothing, hspared⟩ := hfirst
    · exact hends'.append hends
    · -- Nothing was read, so as much is missing as before, and the read is repeated.
      obtain rfl := Except.ok.inj hnothing
      exact hends.after_spared hspared (hne' hn)
  | case3 done n p hn => cases h; exact ⟨[], by simp, fun h => absurd h hn, Call.ends_nil⟩

/-- Receiving stuffed bytes fails as the last read does. -/
lemma leads_receiveStuffed {n : Nat} {r : Except FrameError (List UInt8)}
    (h : Link.receiveStuffed n deadline p = (r, q)) :
    Leads p q (failure? FrameError.serious? r) := by
  obtain ⟨calls, hq, -, hends⟩ := leads_receiveFrom h
  exact ⟨calls, hq, hends⟩

/-- An attempt fails as its last read does. -/
lemma leads_attempt {expect : Expectation} {r : Except DeviceError Verdict}
    (h : Link.attempt expect deadline p = (r, q)) :
    Leads p q (failure? DeviceError.serious? r) := by
  cases Link.attempt_iff.mp h with
  | headerFailed header =>
    rw [failure?_ofFailure]
    exact leads_receiveStuffed header
  | undersized header announced => exact leads_receiveStuffed header
  | oversized header announced exceeds => exact leads_receiveStuffed header
  | payloadFailed header announced fits payload =>
    rw [failure?_ofFailure]
    exact (leads_receiveStuffed header).trans (leads_receiveStuffed payload)
  | judged header announced fits received =>
    exact (leads_receiveStuffed header).trans (leads_receiveStuffed received)

/-- **A wait ends as its last call.**

**Proof sketch.** Induction on the wait. Each of its searches and attempts leads to its own end, and
the last one is the end of the wait. -/
theorem leads_awaitReply (expect : Expectation) (deadline : Deadline) (p : Observed σ) :
    Leads p (Link.awaitReply expect deadline p).link
      (failure? DeviceError.serious? (Link.awaitReply expect deadline p).result) := by
  fun_induction Link.awaitReply expect deadline p with
  | case1 p hexp => exact .refl p
  | case2 p hexp e q hfound htime =>
    obtain rfl := (LinkError.isTimeout_iff e).mp htime
    exact leads_waitForByte hfound
  | case3 p hexp e q hfound htime => exact leads_waitForByte hfound
  | case4 p hexp q hfound e q' htried =>
    exact (leads_waitForByte hfound).trans (leads_attempt htried)
  | case5 p hexp q hfound reply q' htried =>
    exact (leads_waitForByte hfound).trans (leads_attempt htried)
  | case6 p hexp q hfound why q' htried rest ih =>
    exact (leads_waitForByte hfound).trans ((leads_attempt htried).trans ih)

/-- **Writes end as their last call.** -/
theorem chains_leads (deadline : Deadline) : Link.WriteChains deadline
    fun (p q : Observed σ) r => Leads p q (failure? LinkError.serious? r) where
  refl := .refl
  trans := .trans
  wrote h := leads_of_call (of_write h).2
  wroteNothing h := leads_of_call (of_write h).2
  failed h := leads_of_call (of_write h).2

/-- A wait only reads. -/
lemma chains_isRead (deadline : Deadline) : Link.Chains deadline fun p q : Observed σ =>
    ∃ calls, q.calls = p.calls ++ calls ∧ ∀ c ∈ calls, c.isRead = true where
  refl p := ⟨[], by simp⟩
  trans := by
    rintro p q s ⟨calls, hq, hreads⟩ ⟨calls', hs, hreads'⟩
    refine ⟨calls ++ calls', by rw [hs, hq, List.append_assoc], fun c hmem => ?_⟩
    obtain hmem | hmem := List.mem_append.mp hmem
    · exact hreads c hmem
    · exact hreads' c hmem
  read h := by
    refine ⟨_, (of_readAvailable h).2, fun c hmem => ?_⟩
    obtain rfl := List.mem_singleton.mp hmem
    rfl

end Observed

/-! ## Devices -/

namespace Device

section Errors

variable {σ : Type} [Link σ]

/-- A wait fails only as its link does, and never for lack of time. -/
lemma waitUntil_error {d : Device σ} {sequence : UInt16} {types : List MessageType}
    {deadline : Deadline} {e : DeviceError}
    (h : (d.waitUntil sequence types deadline).result = .error e) :
    ∃ source, e = .link source ∧ source ≠ .timeout := by
  unfold waitUntil at h
  rw [Link.awaitInto_eq] at h
  exact Link.awaitReply_error h

/-- A frame that is small enough is not sent only if the link fails. -/
lemma sendUntil_error {d : Device σ} {messageType : MessageType} {payload : List UInt8}
    {deadline : Deadline} {e : DeviceError} (hsize : payload.length ≤ maxPayload)
    (h : (d.sendUntil messageType payload deadline).result = .error e) :
    ∃ source, e = .link source := by
  obtain ⟨hlarge, -⟩ | ⟨-, header, -, hrun⟩ := d.sendUntil_cases messageType payload deadline
  · omega
  · rw [hrun, Run.result_finish, map_eq_error_iff] at h
    unfold sendFrameUntil at h
    split at h
    · next source _ _ => exact ⟨source, (Except.error.inj h).symm⟩
    · cases h

/-- A request whose payload is small enough fails only as its link does, and never for lack of
time. -/
lemma request_error {d : Device σ} {messageType : MessageType} {payload : List UInt8}
    {timeout : Nat} {e : DeviceError} (hsize : payload.length ≤ maxPayload)
    (h : (d.request messageType payload timeout).result = .error e) :
    ∃ source, e = .link source ∧ source ≠ .timeout := by
  obtain ⟨-, hrun⟩ | ⟨e', hserious, hsent, hrun⟩ | ⟨sequence, -, hrun⟩ :=
    d.request_cases messageType payload timeout <;> rw [hrun] at h
  · cases h
  · obtain rfl := Except.error.inj h
    obtain ⟨source, rfl⟩ := sendUntil_error hsize hsent
    exact ⟨source, rfl, fun htime => hserious (congrArg _ htime)⟩
  · exact waitUntil_error h

/-- **A request with too large a payload does nothing at all.** Not even a number is used up. -/
theorem request_of_too_large {d : Device σ} {messageType : MessageType} {payload : List UInt8}
    (timeout : Nat) (hsize : maxPayload < payload.length) :
    d.request messageType payload timeout =
      ⟨.error (.frame (.payloadTooLarge payload.length maxPayload)), d, []⟩ := by
  unfold request
  obtain ⟨-, hrun⟩ | ⟨hsmall, -⟩ :=
    d.sendUntil_cases messageType payload (d.deadlineAfter timeout)
  · dsimp only
    rw [hrun]
    rfl
  · omega

end Errors

section Leads

variable {σ α β : Type}

/-- Another form of the value does not change the failure behind a result. -/
lemma failure?_map {r : Except DeviceError α} {f : α → β} :
    failure? DeviceError.serious? (r.map f) = failure? DeviceError.serious? r := by
  cases r <;> rfl

/-- The serious failures of a device are those of its link, but for a timeout. -/
lemma failure?_eq_some_iff {r : Except DeviceError α} {e : LinkError} :
    failure? DeviceError.serious? r = some e ↔ r = .error (.link e) ∧ e ≠ .timeout := by
  rcases r with (source | source) | a
  · show source.serious? = some e ↔ _
    rw [LinkError.serious?_eq_some_iff]
    constructor
    · rintro ⟨rfl, hserious⟩
      exact ⟨rfl, hserious⟩
    · rintro ⟨h, hserious⟩
      cases h
      exact ⟨rfl, hserious⟩
  · simp [failure?, DeviceError.serious?]
  · simp [failure?]

/-- The calls of a run from `d` end as its result says. -/
def Run.Led (d : Device (Observed σ)) (run : Run (Observed σ) α) : Prop :=
  Observed.Leads d.link run.device.link (failure? DeviceError.serious? run.result)

/-- What is made of the result does not matter to its failure. -/
lemma Run.Led.map {d : Device (Observed σ)} {run : Run (Observed σ) α} (h : run.Led d)
    (value : α → β) : (run.map value).Led d := by
  rw [Led, Run.result_map, failure?_map]
  exact h

/-- Neither does what is reported behind it. -/
lemma Run.Led.finish {d : Device (Observed σ)} {run : Run (Observed σ) α} (h : run.Led d)
    (value : α → β) (event : α → List Event) : (run.finish value event).Led d := by
  rw [Led, Run.result_finish, Run.device_finish, failure?_map]
  exact h

variable [Link σ] (d : Device (Observed σ))

/-- A wait fails as its last read does. -/
lemma led_waitUntil (sequence : UInt16) (types : List MessageType) (deadline : Deadline) :
    (d.waitUntil sequence types deadline).Led d := by
  unfold waitUntil
  rw [Link.awaitInto_eq]
  exact Observed.leads_awaitReply _ deadline d.link

/-- The sending of a given frame fails as its last write does. -/
lemma led_sendFrameUntil (header : FrameHeader) (payload : List UInt8) (deadline : Deadline) :
    (d.sendFrameUntil header payload deadline).Led d := by
  rcases hsent : Link.sendFrame header payload deadline d.link with ⟨e | _, q⟩ <;>
    rw [sendFrameUntil, hsent] <;>
      exact (Observed.chains_leads deadline).sendFrame Observed.writesByParts hsent

/-- The numbering and sending of a frame fails as its last write does. -/
lemma led_sendUntil (messageType : MessageType) (payload : List UInt8) (deadline : Deadline) :
    (d.sendUntil messageType payload deadline).Led d := by
  obtain ⟨-, hrun⟩ | ⟨-, header, -, hrun⟩ := d.sendUntil_cases messageType payload deadline <;>
    rw [hrun]
  · exact .refl d.link
  · exact (led_sendFrameUntil { d with sequence := d.sequence + 1 } header payload
      deadline).finish _ _

/-- **A request ends as its last call,** whether that is a write or a read. -/
theorem led_request (messageType : MessageType) (payload : List UInt8) (timeout : Nat) :
    (d.request messageType payload timeout).Led d := by
  have hsent := led_sendUntil d messageType payload (d.deadlineAfter timeout)
  obtain ⟨hlate, hrun⟩ | ⟨e, -, hresult, hrun⟩ | ⟨sequence, hresult, hrun⟩ :=
    d.request_cases messageType payload timeout <;> rw [hrun]
  · rw [Run.Led, hlate] at hsent
    exact hsent
  · rw [Run.Led, hresult] at hsent
    exact hsent
  · rw [Run.Led, hresult] at hsent
    exact hsent.trans (led_waitUntil _ sequence replyTypes _)

end Leads

/-! ## Operations -/

/-- Does an operation only wait? -/
def Operation.isWait : Operation → Bool
  | waitFor .. | waitForReply .. | waitForAck .. => true
  | _ => false

variable {σ : Type} [Link σ]

/-- An operation fails exactly if its last call has broken the link, and as this call has. The
calls are those that it makes on the observed link, which does not change the operation. -/
structure Accounts (d : Device σ) (op : Operation) : Prop where
  /-- Observing the link does not change the operation. -/
  observed : (d.observed.perform op).onView Observed.link = d.perform op
  /-- It fails exactly if the last call has broken the link. -/
  error_iff (e : LinkError) : (d.perform op).result = .error (.link e) ↔
    ∃ before last, (d.observed.perform op).device.link.calls = before ++ [last] ∧ last.Breaks e
  /-- It fails in no other way, and never for lack of time. -/
  error_link {e : DeviceError} : (d.perform op).result = .error e →
    ∃ source, e = .link source ∧ source ≠ .timeout
  /-- A call that fails is the last one, and the operation reports it. -/
  of_fails {before after : List Call} {c : Call} {e : LinkError} :
    (d.observed.perform op).device.link.calls = before ++ c :: after → c.Fails e →
      after = [] ∧ (d.perform op).result = .error (.link e)

/-- What holds of the operation on the observed device accounts for the one on the device itself. -/
lemma accounts_of_led {d : Device σ} {op : Operation}
    (hview : (d.observed.perform op).onView Observed.link = d.perform op)
    (hled : (d.observed.perform op).Led d.observed)
    (herror : ∀ e, (d.perform op).result = .error e →
      ∃ source, e = .link source ∧ source ≠ .timeout) : d.Accounts op := by
  have hresult : (d.observed.perform op).result = (d.perform op).result :=
    congrArg Run.result hview
  obtain ⟨calls, hcalls, hends⟩ := hled
  rw [hresult] at hends
  change (d.observed.perform op).device.link.calls = [] ++ calls at hcalls
  rw [List.nil_append] at hcalls
  have hiff (e : LinkError) : (d.perform op).result = .error (.link e) ↔
      ∃ before last, (d.observed.perform op).device.link.calls = before ++ [last] ∧
        last.Breaks e := by
    rw [hcalls, ← hends.eq_some_iff, failure?_eq_some_iff]
    refine ⟨fun h => ⟨h, ?_⟩, fun h => h.1⟩
    obtain ⟨source, hsource, hserious⟩ := herror _ h
    cases hsource
    exact hserious
  refine ⟨hview, hiff, fun h => herror _ h, fun h hfails => ?_⟩
  obtain rfl := hends.nil_of_fails (hcalls.symm.trans h) hfails
  exact ⟨rfl, (hiff _).mpr ⟨_, _, h, .failed hfails⟩⟩

/-- A wait goes the same way in a view that only reads have to respect. -/
lemma perform_onView_of_isWait {τ : Type} [Link τ] {view : τ → σ} (hv : Link.View view)
    (d : Device τ) {op : Operation} (hop : op.isWait = true) :
    (d.onView view).perform op = (d.perform op).onView view := by
  cases op with
  | waitFor sequence types timeout => rw [perform, waitFor_onView hv]; rfl
  | waitForReply sequence timeout => rw [perform, waitForReply_onView hv]; rfl
  | waitForAck sequence timeout => rw [perform, waitForAck_onView hv]; rfl
  | _ => cases hop

/-- A wait accounts for its calls. -/
lemma accounts_of_isWait (d : Device σ) {op : Operation} (hop : op.isWait = true) :
    d.Accounts op := by
  refine accounts_of_led (perform_onView_of_isWait Observed.view d.observed hop).symm ?_ ?_
  · cases op with
    | waitFor sequence types timeout => exact (led_waitUntil d.observed sequence types _).map _
    | waitForReply sequence timeout => exact (led_waitUntil d.observed sequence _ _).map _
    | waitForAck sequence timeout =>
      exact ((led_waitUntil d.observed sequence _ _).finish _ _).map _
    | _ => cases hop
  · intro e herror
    cases op with
    | waitFor sequence types timeout => exact waitUntil_error (map_eq_error_iff.mp herror)
    | waitForReply sequence timeout => exact waitUntil_error (map_eq_error_iff.mp herror)
    | waitForAck sequence timeout =>
      have hfinish := map_eq_error_iff.mp herror
      rw [waitForAck, Run.result_finish] at hfinish
      exact waitUntil_error (map_eq_error_iff.mp hfinish)
    | _ => cases hop

/-- A wait makes no call but reads. -/
lemma isRead_of_isWait (d : Device σ) {op : Operation} (hop : op.isWait = true) :
    ∀ c ∈ (d.observed.perform op).device.link.calls, c.isRead = true := by
  have hwait (sequence : UInt16) (types : List MessageType) (deadline : Deadline) :
      ∀ c ∈ (d.observed.waitUntil sequence types deadline).device.link.calls,
        c.isRead = true := by
    unfold waitUntil
    rw [Link.awaitInto_eq]
    obtain ⟨calls, hcalls, hreads⟩ := (Observed.chains_isRead deadline).awaitReply
      ⟨sequence, types, d.observed.config.maxPayloadSize⟩ d.observed.link
    change _ = [] ++ calls at hcalls
    rw [hcalls]
    exact hreads
  cases op with
  | waitFor sequence types timeout => exact hwait sequence types _
  | waitForReply sequence timeout => exact hwait sequence _ _
  | waitForAck sequence timeout =>
    show ∀ c ∈ (d.observed.waitForAck sequence timeout).device.link.calls, c.isRead = true
    rw [waitForAck, Run.device_finish]
    exact hwait sequence _ _
  | _ => cases hop

/-- A request whose payload is small enough accounts for its calls. -/
lemma accounts_request (hparts : Link.WritesByParts σ) (d : Device σ) (messageType : MessageType)
    {payload : List UInt8} (timeout : Nat) (hsize : payload.length ≤ maxPayload) :
    d.Accounts (.request messageType payload timeout) := by
  refine accounts_of_led (perform_onView (Observed.fullView hparts) d.observed _).symm
    ((led_request d.observed messageType payload timeout).map _) fun e herror => ?_
  exact request_error hsize (map_eq_error_iff.mp herror)

/-- A ping accounts for its calls. -/
lemma accounts_ping (hparts : Link.WritesByParts σ) (d : Device σ) (timeout : Nat) :
    d.Accounts (.ping timeout) := by
  refine accounts_of_led (perform_onView (Observed.fullView hparts) d.observed _).symm
    (((led_request d.observed .ping [] timeout).finish _ _).map _) fun e herror => ?_
  have hfinish := map_eq_error_iff.mp herror
  rw [ping, Run.result_finish] at hfinish
  exact request_error (Nat.zero_le _) (map_eq_error_iff.mp hfinish)

/-- **How waits, requests and pings fail.** On any link, whatever it does and whatever bytes come
in, a wait makes no call but reads, and it fails exactly if the last read has broken the link. So
do a request and a ping, on a link that writes by parts, with writes among their calls. None of
them fails for lack of time or because of damaged bytes, and no failure of the link is passed
over. A request also fails if its payload is too large, and then no call is made and no number is
used up. -/
theorem errors_accounted (d : Device σ) :
    (∀ op : Operation, op.isWait = true → d.Accounts op ∧
      ∀ c ∈ (d.observed.perform op).device.link.calls, c.isRead = true) ∧
    (Link.WritesByParts σ → ∀ (messageType : MessageType) (payload : List UInt8) (timeout : Nat),
      payload.length ≤ maxPayload → d.Accounts (.request messageType payload timeout)) ∧
    (∀ (messageType : MessageType) (payload : List UInt8) (timeout : Nat),
      maxPayload < payload.length →
        d.perform (.request messageType payload timeout) =
          ⟨.error (.frame (.payloadTooLarge payload.length maxPayload)), d, []⟩ ∧
        (d.observed.perform (.request messageType payload timeout)).device.link.calls = []) ∧
    (Link.WritesByParts σ → ∀ timeout : Nat, d.Accounts (.ping timeout)) := by
  refine ⟨fun op hop => ⟨accounts_of_isWait d hop, isRead_of_isWait d hop⟩,
    fun hparts messageType payload timeout => accounts_request hparts d messageType timeout,
    fun messageType payload timeout hsize => ⟨?_, ?_⟩, fun hparts => accounts_ping hparts d⟩
  · rw [perform, request_of_too_large timeout hsize]
    rfl
  · rw [perform, request_of_too_large timeout hsize]
    rfl

/-- A device on a link that yields a damaged frame, a marker, twice nothing, some bytes of a
header, and then fails. Of what is written it takes three bytes, and then nothing any more. -/
def faltering : Device ScriptedLink :=
  .ofLink
    { reads := [.data [115], .data [10, 120, 1], .data [115], .data [], .data [], .data [10, 0],
        .failure .cancelled]
      writes := [.accept 1, .accept 2, .accept 0] }
    {}

/-- The wait reports the failure of its last read, the ping that its last write took nothing, and
the request that its payload is too large. -/
theorem faltering_errors :
    (faltering.perform (.waitForReply 8 10)).result = .error (.link .cancelled) ∧
      (∃ before last, (faltering.observed.perform (.waitForReply 8 10)).device.link.calls =
        before ++ [last] ∧ last.Breaks .cancelled) ∧
      (faltering.perform (.ping 10)).result = .error (.link .closed) ∧
      (∃ before last, (faltering.observed.perform (.ping 10)).device.link.calls =
        before ++ [last] ∧ last.Breaks .closed) ∧
      (faltering.observed.perform (.request .ack (List.replicate 65528 0) 10)).device.link.calls =
        [] := by
  obtain ⟨hwait, -, hlarge, hping⟩ := errors_accounted faltering
  have hcancelled : (faltering.perform (.waitForReply 8 10)).result =
      .error (.link .cancelled) := by
    decide +kernel
  have hclosed : (faltering.perform (.ping 10)).result = .error (.link .closed) := by
    decide +kernel
  refine ⟨hcancelled, ?_, hclosed, ?_, ?_⟩
  · exact ((hwait (.waitForReply 8 10) rfl).1.error_iff _).mp hcancelled
  · exact ((hping (fun _ _ _ => rfl) 10).error_iff _).mp hclosed
  · exact (hlarge .ack (List.replicate 65528 0) 10 (by rw [List.length_replicate]; decide)).2

end Device

end FramedLink
