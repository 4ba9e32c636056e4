import FramedLink.Link.History
import FramedLink.Proofs.Reading

set_option autoImplicit false
set_option relaxedAutoImplicit false

/-!
# Nothing queued is lost

What is queued at a memory link comes out again: each byte is delivered once and each failure is
reported once, in the order in which they were queued, **by whatever operations and in whatever
portions they are read.** Only pauses vanish on the way, and these separate: a read delivers bytes
from ahead of a pause or from behind it.

## Main definitions

* `FramedLink.MemoryLink.content` — the bytes and failures of a queue.
* `FramedLink.MemoryLink.Step.arrived`, `FramedLink.MemoryLink.Answer.reported` — what an operation
  adds to the queue, and what it lets its caller see of it.

## Main results

* `FramedLink.MemoryLink.Step.content_conserved`,
  `FramedLink.MemoryLink.content_conserved_after` — content is conserved by one operation, and by a
  sequence of them.
* `FramedLink.MemoryLink.Step.delivered_isPrefix` — a read does not reach over a pause or a failure.
* `FramedLink.MemoryLink.inbound_conserved` — what becomes of the inbound traffic.
-/

namespace FramedLink

/-- Is an entry a pause? -/
def Inbound.isPause : Inbound → Bool
  | delay _ => true
  | _ => false

/-- The queued failure that an error reports. -/
def LinkError.asInbound : LinkError → List Inbound
  | io e => [.failure e.kind]
  | _ => []

/-- No error stands for a byte. -/
lemma LinkError.filterMap_asInbound (e : LinkError) : e.asInbound.filterMap Inbound.byte? = [] := by
  cases e <;> rfl

/-- The queued failure that a call reports. -/
def failureOf {α : Type} : Except LinkError α → List Inbound
  | .error e => e.asInbound
  | .ok _ => []

namespace MemoryLink

variable {deadline : Deadline} {clock clock' : ManualClock} {queue queue' : List Inbound}

/-! ## Content -/

/-- The bytes and failures of a queue. -/
def content (queue : List Inbound) : List Inbound := queue.filter fun entry => !entry.isPause

/-- The content of two queues, one behind the other. -/
@[simp] lemma content_append (queue queue' : List Inbound) :
    content (queue ++ queue') = content queue ++ content queue' :=
  List.filter_append ..

/-- Bytes are content. -/
@[simp] lemma content_map_byte (bytes : List UInt8) :
    content (bytes.map .byte) = bytes.map .byte := by
  rw [content, List.filter_eq_self]
  intro entry hentry
  obtain ⟨b, -, rfl⟩ := List.mem_map.mp hentry
  rfl

/-- The bytes of a queue are those of its content. -/
lemma filterMap_content (queue : List Inbound) :
    (content queue).filterMap Inbound.byte? = queue.filterMap Inbound.byte? := by
  induction queue with
  | nil => rfl
  | cons entry queue ih => cases entry <;> simp [content, Inbound.isPause] at ih ⊢ <;> exact ih

/-- The passing of time takes away the failure that it meets, and pauses. -/
lemma content_settle {r : Except LinkError Unit}
    (h : settle deadline clock queue = (r, clock', queue')) :
    content queue = failureOf r ++ content queue' := by
  fun_induction settle deadline clock queue with
  | case5 clock span rest remaining hspan ih => exact ih h
  | _ =>
    obtain ⟨rfl, -, rfl⟩ : _ ∧ _ ∧ _ := by simpa only [Prod.mk.injEq] using h
    rfl

/-- Before the byte for which a wait has ended, there were only pauses. -/
lemma pauses_of_settle_ok (h : settle deadline clock queue = (.ok (), clock', queue')) :
    ∃ pauses, (∀ entry ∈ pauses, entry.isPause = true) ∧ queue = pauses ++ queue' := by
  fun_induction settle deadline clock queue with
  | case2 clock b rest =>
    obtain ⟨-, rfl⟩ := Prod.mk.inj (Prod.mk.inj h).2
    exact ⟨[], by simp, rfl⟩
  | case5 clock span rest remaining hspan ih =>
    obtain ⟨pauses, hpauses, rfl⟩ := ih h
    exact ⟨.delay span :: pauses, by simpa [Inbound.isPause] using hpauses, rfl⟩
  | _ => cases h

/-! ## Operations -/

/-- The bytes that an operation delivers. -/
def Answer.delivered : Answer → List UInt8
  | .bytes (.ok data) => data
  | .byte (.ok b) => [b]
  | _ => []

/-- What an operation lets its caller see of the inbound queue: the bytes that it delivers, or the
failure of a read. -/
def Answer.reported : Answer → List Inbound
  | .bytes (.ok data) => data.map .byte
  | .byte (.ok b) => [.byte b]
  | .bytes (.error e) | .byte (.error e) => e.asInbound
  | _ => []

/-- A read has failed. -/
def Answer.isFailedRead : Answer → Bool
  | .bytes (.error _) | .byte (.error _) => true
  | _ => false

/-- The bytes among what is reported are those that are delivered. -/
lemma Answer.filterMap_reported (a : Answer) :
    a.reported.filterMap Inbound.byte? = a.delivered := by
  rcases a with - | bytes | r | (e | bytes) | (e | b)
  · rfl
  · rfl
  · rfl
  · exact e.filterMap_asInbound
  · exact filterMap_map_byte bytes
  · exact e.filterMap_asInbound
  · rfl

/-- A read that fails delivers nothing. -/
lemma Answer.delivered_of_isFailedRead {a : Answer} (h : a.isFailedRead = true) :
    a.delivered = [] := by
  rcases a with - | bytes | r | (e | bytes) | (e | b) <;> first | rfl | cases h

namespace Step

/-- What an operation adds to the inbound queue. -/
def arrived (s : Step) : List Inbound :=
  match s.operation with
  | .pushInbound data => data.map .byte
  | .pushDelay span => [.delay span]
  | .pushReadError kind => [.failure kind]
  | .loopBack => s.before.outbound.toList.map .byte
  | _ => []

/-- The bytes that an operation adds to the inbound queue. -/
def pushed (s : Step) : List UInt8 := s.arrived.filterMap Inbound.byte?

end Step

/-- A write does not touch the inbound queue. -/
lemma inbound_write (data : List UInt8) (deadline : Deadline) (p : MemoryLink) :
    (Link.write data deadline p).2.inbound = p.inbound := by
  show (MemoryLink.write data deadline p).2.inbound = _
  obtain ⟨-, h⟩ | ⟨kind, -, h⟩ | ⟨-, ⟨-, h⟩ | ⟨-, h⟩ | ⟨-, h⟩⟩ :=
    write_cases data deadline p <;> rw [h]

/-- **What a read reports, it has taken from the front of the content.** -/
lemma content_readAvailable (n : Nat) (deadline : Deadline) (p : MemoryLink) :
    content p.inbound = (Answer.bytes (Link.readAvailable n deadline p).1).reported ++
      content (Link.readAvailable n deadline p).2.inbound := by
  obtain ⟨-, h⟩ | ⟨-, h⟩ | ⟨e, clock, inbound, hs, h⟩ | ⟨clock, inbound, hs, h⟩ :=
    readAvailable_cases n deadline p <;> rw [h]
  · rfl
  · rfl
  · exact content_settle hs
  · have hfront := map_frontBytes_append (min n p.readChunk) inbound
    rw [content_settle hs, ← hfront, content_append, content_map_byte, hfront]
    rfl

/-- The same of the read of one byte. -/
lemma content_readByte (deadline : Deadline) (p : MemoryLink) :
    content p.inbound = (Answer.byte (Link.readByte deadline p).1).reported ++
      content (Link.readByte deadline p).2.inbound := by
  obtain ⟨-, h⟩ | ⟨-, e, clock, inbound, hs, h⟩ | ⟨-, b, clock, rest, hs, h⟩ :=
    readByte_cases deadline p <;> rw [h]
  · rfl
  · exact content_settle hs
  · exact content_settle hs

/-- **Each operation conserves content:** what was queued and what it adds is what it reports and
what is queued afterwards. -/
theorem Step.content_conserved (s : Step) :
    content s.before.inbound ++ content s.arrived =
      s.answer.reported ++ content s.after.inbound := by
  obtain ⟨p, op⟩ := s
  cases op with
  | pushInbound data => exact (content_append ..).symm
  | pushDelay span => exact (content_append ..).symm
  | pushReadError kind => exact (content_append ..).symm
  | loopBack => exact (content_append ..).symm
  | write data deadline =>
    show content p.inbound ++ [] = content (Link.write data deadline p).2.inbound
    rw [inbound_write, List.append_nil]
  | readAvailable n deadline => exact (List.append_nil _).trans (content_readAvailable n deadline p)
  | readByte deadline => exact (List.append_nil _).trans (content_readByte deadline p)
  | _ => exact List.append_nil _

/-- The bytes alone: those pending and those added are those delivered and those still pending. -/
lemma Step.bytes_conserved (s : Step) :
    s.before.pendingBytes ++ s.pushed = s.answer.delivered ++ s.after.pendingBytes := by
  have h := congrArg (List.filterMap Inbound.byte?) s.content_conserved
  simp only [List.filterMap_append, filterMap_content, Answer.filterMap_reported] at h
  exact h

/-- A read adds nothing to the queue. -/
lemma Step.pushed_of_isFailedRead {s : Step} (h : s.answer.isFailedRead = true) :
    s.pushed = [] := by
  obtain ⟨p, op⟩ := s
  cases op <;> first | rfl | cases h

/-- **A read that fails removes no byte.** -/
theorem Step.pendingBytes_of_isFailedRead {s : Step} (h : s.answer.isFailedRead = true) :
    s.after.pendingBytes = s.before.pendingBytes := by
  have hbytes := s.bytes_conserved
  rw [s.pushed_of_isFailedRead h, Answer.delivered_of_isFailedRead h, List.append_nil,
    List.nil_append] at hbytes
  exact hbytes.symm

/-! ## Portions -/

/-- If bytes follow pauses, then an entry that is no byte has all of these bytes ahead of it, or
none at all.

**Proof sketch.** Compare the two ways to split the queue. The mark stands among the pauses, and no
byte is ahead of it; or it stands behind all of the bytes. It does not stand among them, since it is
no byte. -/
lemma isPrefix_of_mark {pauses rest front back : List Inbound} {mark : Inbound}
    (bytes : List UInt8) (hpauses : ∀ entry ∈ pauses, entry.isPause = true)
    (hmark : mark.byte? = none)
    (h : pauses ++ (bytes.map .byte ++ rest) = front ++ mark :: back) :
    front.filterMap Inbound.byte? = [] ∨ bytes <+: front.filterMap Inbound.byte? := by
  have hnone : ∀ entry ∈ pauses, entry.byte? = none := by
    intro entry hentry
    have := hpauses entry hentry
    cases entry <;> simp_all [Inbound.isPause]
  obtain ⟨front', rfl, hfront⟩ | ⟨more, rfl, -⟩ := List.append_eq_append_iff.mp h
  · right
    obtain ⟨more, rfl, -⟩ | ⟨more, hbytes, hmore⟩ := List.append_eq_append_iff.mp hfront
    · rw [List.filterMap_append, List.filterMap_eq_nil_iff.mpr hnone, List.filterMap_append,
        filterMap_map_byte]
      exact List.prefix_append bytes _
    · cases more with
      | nil =>
        rw [List.append_nil] at hbytes
        rw [List.filterMap_append, List.filterMap_eq_nil_iff.mpr hnone, ← hbytes,
          filterMap_map_byte]
        exact List.prefix_refl bytes
      | cons entry more =>
        -- the mark would be one of the bytes
        obtain ⟨rfl, -⟩ := List.cons.inj hmore
        have hmem : mark ∈ bytes.map Inbound.byte := by rw [hbytes]; simp
        obtain ⟨b, -, rfl⟩ := List.mem_map.mp hmem
        cases hmark
  · left
    exact List.filterMap_eq_nil_iff.mpr fun entry hentry => hnone entry (by simp [hentry])

/-- **A read does not reach over a pause or a failure:** if there are bytes ahead of it, all that a
read delivers is ahead of it.

**Proof sketch.** An operation that delivers bytes takes pauses and then these bytes from the front
of the queue; all others deliver nothing. -/
theorem Step.delivered_isPrefix (s : Step) {front back : List Inbound} {mark : Inbound}
    (hqueue : s.before.inbound = front ++ mark :: back) (hmark : mark.byte? = none) :
    front.filterMap Inbound.byte? = [] ∨
      s.answer.delivered <+: front.filterMap Inbound.byte? := by
  obtain ⟨p, op⟩ := s
  cases op with
  | readAvailable n deadline =>
    obtain ⟨-, h⟩ | ⟨-, h⟩ | ⟨e, clock, inbound, hs, h⟩ | ⟨clock, inbound, hs, h⟩ :=
      readAvailable_cases n deadline p
    case inr.inr.inr =>
      obtain ⟨pauses, hpauses, hsplit⟩ := pauses_of_settle_ok hs
      rw [answer, perform, h]
      rw [← map_frontBytes_append (min n p.readChunk) inbound] at hsplit
      exact isPrefix_of_mark _ hpauses hmark (hsplit.symm.trans hqueue)
    all_goals
      rw [answer, perform, h]
      exact .inr List.nil_prefix
  | readByte deadline =>
    obtain ⟨-, h⟩ | ⟨-, e, clock, inbound, hs, h⟩ | ⟨-, b, clock, rest, hs, h⟩ :=
      readByte_cases deadline p
    case inr.inr =>
      obtain ⟨pauses, hpauses, hsplit⟩ := pauses_of_settle_ok hs
      rw [answer, perform, h]
      exact isPrefix_of_mark [b] hpauses hmark (hsplit.symm.trans hqueue)
    all_goals
      rw [answer, perform, h]
      exact .inr List.nil_prefix
  | _ => exact .inr List.nil_prefix

/-! ## Histories -/

/-- **Content is conserved over any sequence of operations.** -/
theorem content_conserved_after (p : MemoryLink) (ops : List Operation) :
    content p.inbound ++ (p.history ops).flatMap (fun s => content s.arrived) =
      (p.history ops).flatMap (fun s => s.answer.reported) ++ content (p.after ops).inbound := by
  induction ops generalizing p with
  | nil => exact List.append_nil _
  | cons op ops ih =>
    have hstep := Step.content_conserved ⟨p, op⟩
    simp only [history, after, List.flatMap_cons, List.append_assoc, ← ih]
    rw [← List.append_assoc, hstep, List.append_assoc]
    rfl

/-- **What becomes of the inbound traffic.** Whatever is done to a memory link, and in whatever
order:

* the bytes that are delivered and then those still queued are the bytes that were queued at first
  and then those that were added, in this order;
* a read that fails delivers no byte and removes none;
* bytes and failures keep their order: those delivered and reported and then those still queued are
  those queued at first and then those added, so each failure is reported once, after all bytes
  ahead of it;
* no read delivers bytes from both sides of a pause or a failure. -/
theorem inbound_conserved (p : MemoryLink) (ops : List Operation) :
    ((p.history ops).flatMap fun s => s.answer.delivered) ++ (p.after ops).pendingBytes =
      p.pendingBytes ++ (p.history ops).flatMap Step.pushed ∧
    (∀ s ∈ p.history ops, s.answer.isFailedRead = true →
      s.answer.delivered = [] ∧ s.after.pendingBytes = s.before.pendingBytes) ∧
    ((p.history ops).flatMap fun s => s.answer.reported) ++ content (p.after ops).inbound =
      content (p.inbound ++ (p.history ops).flatMap Step.arrived) ∧
    (∀ s ∈ p.history ops, ∀ front mark back, s.before.inbound = front ++ mark :: back →
      mark.byte? = none → front.filterMap Inbound.byte? = [] ∨
        s.answer.delivered <+: front.filterMap Inbound.byte?) := by
  have hcontent := p.content_conserved_after ops
  have hbytes := congrArg (List.filterMap Inbound.byte?) hcontent
  refine ⟨?_, fun s _ hfailed => ⟨Answer.delivered_of_isFailedRead hfailed,
    s.pendingBytes_of_isFailedRead hfailed⟩, ?_,
    fun s _ front mark back hqueue hmark => s.delivered_isPrefix hqueue hmark⟩
  · simp only [List.filterMap_append, List.filterMap_flatMap, filterMap_content,
      Answer.filterMap_reported] at hbytes
    exact hbytes.symm
  · rw [← hcontent, content_append]
    simp only [content, List.filter_flatMap]

/-- A read stops at a pause, and the next one goes on behind it. -/
example : (({} : MemoryLink).history [.pushInbound [1, 2], .pushDelay 5, .pushInbound [3],
    .readAvailable 8 ⟨10⟩, .readAvailable 8 ⟨10⟩]).map (fun s => s.answer.delivered) =
      [[], [], [], [1, 2], [3]] := by decide +kernel

end MemoryLink

end FramedLink
