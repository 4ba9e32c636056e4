import FramedLink.Link.Window
import FramedLink.Proofs.Reading
import Mathlib.Control.Monad.Basic
import Mathlib.Data.List.Induction

set_option autoImplicit false
set_option relaxedAutoImplicit false

/-!
# Decoding while reading

There are two decoders. One is given a byte string and decodes it from its front. The other reads
into a buffer, decodes in place what it has read, and fetches one more byte where the read ends
inside a pair. **They agree on the bytes that the second one takes from its link:** it has put into
its buffer what the first one makes of these bytes, or it fails as the first one fails. If the link
fails it, these bytes are none at all, or they are cut off inside a pair.

## Main definitions

* `FramedLink.Stuffing.Course` — how far a byte string can be decoded.
* `FramedLink.Stuffing.Explains` — the bytes taken by a read explain its result.

## Main results

* `FramedLink.Stuffing.course` — every byte string takes one of three courses.
* `FramedLink.Link.decodeRead_eq_decode` — the bytes of a read are decoded as a byte string, or as
  one with one byte more.
* `FramedLink.MemoryLink.receiveSome_explained` — the bytes that one read takes from a memory link
  explain its result.
* `FramedLink.MemoryLink.receiveSomeInto_explained` — the same for a read into a buffer.
-/

namespace FramedLink

/-! ## The courses of decoding -/

namespace Stuffing

variable {wire front data rest : List UInt8} {code : UInt8}

/-- **How far a byte string can be decoded.** -/
inductive Course : List UInt8 → Prop
  /-- All of it is decoded. -/
  | complete {wire data : List UInt8} (decoded : decode wire = .ok data) : Course wire
  /-- It ends inside a pair. -/
  | cut {front data : List UInt8} (decoded : decode front = .ok data) : Course (front ++ [escape])
  /-- A pair in it is completed by a wrong byte. What comes behind this does not matter. -/
  | wrong {front data : List UInt8} {code : UInt8} (rest : List UInt8)
      (decoded : decode front = .ok data)
      (refused : decodeCode code = .error (.invalidEscape code)) :
      Course (front ++ escape :: code :: rest)

/-- Bytes that are decoded do not change the course of those behind them. -/
lemma Course.append (hfront : decode front = .ok data) (h : Course wire) :
    Course (front ++ wire) := by
  cases h with
  | complete decoded => exact .complete (by rw [decode_append hfront, decoded]; rfl)
  | cut decoded =>
    rw [← List.append_assoc]
    exact .cut (by rw [decode_append hfront, decoded]; rfl)
  | wrong rest decoded refused =>
    rw [← List.append_assoc]
    exact .wrong rest (by rw [decode_append hfront, decoded]; rfl) refused

/-- A byte that completes no pair is refused under its own value. -/
lemma decodeCode_cases (code : UInt8) :
    (∃ value, decodeCode code = .ok value) ∨ decodeCode code = .error (.invalidEscape code) := by
  unfold decodeCode
  split
  · exact .inl ⟨_, rfl⟩
  split
  · exact .inl ⟨_, rfl⟩
  · exact .inr rfl

/-- **Every byte string takes one of the courses.** A plain byte or a pair at its front leaves the
course to the bytes behind.

**Proof sketch.** Induction on the byte string by two bytes at a time. A pair at the front that is
right is decoded, and a wrong one ends the course; behind a plain byte, the course is that of the
rest. -/
theorem course (wire : List UInt8) : Course wire := by
  induction wire using List.twoStepInduction with
  | nil => exact .complete rfl
  | singleton b =>
    by_cases hb : b = escape
    · subst hb
      exact .cut decode_nil
    · exact .complete (decode_plain hb [])
  | cons_cons b code rest ihrest ihcode =>
    by_cases hb : b = escape
    · subst hb
      obtain ⟨value, hvalue⟩ | hrefused := decodeCode_cases code
      · have hpair : decode [escape, code] = .ok [value] := by
          rw [decode_escape, hvalue]
          rfl
        exact ihrest.append hpair
      · exact .wrong rest decode_nil hrefused
    · exact (ihcode code).append (decode_plain hb [])

/-- Bytes that end inside a pair are cut off. -/
lemma decode_cut (hfront : decode front = .ok data) :
    decode (front ++ [escape]) = .error .truncatedEscape := by
  rw [decode_append hfront, decode_dangling]
  rfl

/-- A wrong byte is refused, whatever comes behind it. -/
lemma decode_wrong (hfront : decode front = .ok data)
    (hrefused : decodeCode code = .error (.invalidEscape code)) (rest : List UInt8) :
    decode (front ++ escape :: code :: rest) = .error (.invalidEscape code) := by
  rw [decode_append hfront, decode_escape, hrefused]
  rfl

/-- **The bytes that a read took explain its result** if it is what they are decoded to. A failure
of the link is explained by no bytes at all, or by bytes that are cut off inside a pair. No other
failure is explained. -/
def Explains (taken : List UInt8) : Except FrameError (List UInt8) → Prop
  | .ok data => decode taken = .ok data
  | .error (.invalidEscape code) => decode taken = .error (.invalidEscape code)
  | .error (.link _) =>
    taken = [] ∨ (∃ front, taken = front ++ [escape]) ∧ decode taken = .error .truncatedEscape
  | .error _ => False

/-- Bytes that end inside a pair, together with the byte that completes the pair, rightly or
wrongly, explain what they are decoded to. -/
lemma explains_completed (hfront : decode front = .ok data) (code : UInt8) :
    Explains (front ++ [escape] ++ [code]) (decode (front ++ [escape] ++ [code])) := by
  rw [List.append_assoc, List.singleton_append]
  obtain ⟨value, hvalue⟩ | hrefused := decodeCode_cases code
  · have hpair : decode (front ++ [escape, code]) = .ok (data ++ [value]) := by
      rw [decode_append hfront, decode_escape, hvalue]
      rfl
    rw [hpair]
    exact hpair
  · have hwrong := decode_wrong hfront hrefused []
    rw [hwrong]
    exact hwrong

end Stuffing

/-! ## The bytes of a read -/

namespace Link

open Stuffing

variable {σ : Type} [Link σ] {front data raw : List UInt8}

/-- Bytes of a read that are decoded are put behind those decoded before.

**Proof sketch.** Induction on the course of the decoding of the front, which reads nothing from the
link because no pair is cut off in it. -/
lemma decodeRead_append (deadline : Deadline) (hfront : decode front = .ok data)
    (done rest : List UInt8) (link : σ) :
    decodeRead deadline done (front ++ rest) link =
      decodeRead deadline (data.reverse ++ done) rest link := by
  suffices h : ∀ all, decodeFrom done front = .ok all →
      decodeRead deadline done (front ++ rest) link = decodeRead deadline all.reverse rest link by
    have hall : decodeFrom done front = .ok (done.reverse ++ data) := by
      rw [decodeFrom_eq, hfront]
      rfl
    rw [h _ hall, List.reverse_append, List.reverse_reverse]
  clear hfront
  intro all hall
  fun_induction decodeFrom done front with
  | case1 done => cases hall; rw [List.nil_append, List.reverse_reverse]
  | case2 done => cases hall
  | case3 done code front value hvalue ih =>
    rw [List.cons_append, List.cons_append, decodeRead, if_pos rfl, hvalue]
    exact ih hall
  | case4 done code front e he => cases hall
  | case5 done b front hb ih =>
    rw [List.cons_append, decodeRead.eq_def]
    simpa only [if_neg hb] using ih hall

/-- **The bytes of a read are decoded as a byte string is.** If they are cut off inside a pair, one
more byte is read, and they are decoded together with it.

**Proof sketch.** The raw bytes take one of the three courses: they are decoded in full, are cut off
inside a pair, or hold a wrong pair. In each, both decoders come to the end of the front and then
take one more step. -/
theorem decodeRead_eq_decode (deadline : Deadline) (raw : List UInt8) (link : σ) :
    decodeRead deadline [] raw link =
      match decode raw with
      | .error .truncatedEscape =>
        match readByte deadline link with
        | (.error e, link') => (.error (.link e), link')
        | (.ok code, link') => (decode (raw ++ [code]), link')
      | r => (r, link) := by
  cases course raw with
  | complete decoded =>
    have hread := decodeRead_append deadline decoded [] [] link
    rw [List.append_nil, List.append_nil, decodeRead, List.reverse_reverse] at hread
    rw [hread, decoded]
  | @cut front data decoded =>
    rw [decodeRead_append deadline decoded, decode_cut decoded, List.append_nil, decodeRead,
      if_pos rfl]
    rcases readByte deadline link with ⟨e | code, link'⟩
    · rfl
    · dsimp only
      rw [List.append_assoc, decode_append decoded, List.singleton_append, decode_escape]
      cases decodeCode code <;> simp [Except.map, Except.bind]
  | wrong rest decoded refused =>
    rw [decodeRead_append deadline decoded, decode_wrong decoded refused, decodeRead, if_pos rfl,
      refused]

end Link

/-! ## The memory link -/

namespace MemoryLink

open Link Stuffing

variable {deadline : Deadline} {p q : MemoryLink}

/-- **The bytes that one read takes from a memory link explain its result.** A read that succeeds
takes none exactly if none was asked for.

**Proof sketch.** The raw bytes of the read take one of the three courses. Only in the second one
more is read: a byte with which the pair is complete, right or wrong, or nothing. -/
theorem receiveSome_explained {n : Nat} {r : Except FrameError (List UInt8)}
    (h : receiveSome n deadline p = (r, q)) :
    ∃ taken, p.pendingBytes = taken ++ q.pendingBytes ∧ Explains taken r ∧
      ∀ data, r = .ok data → (taken = [] ↔ n = 0) := by
  unfold receiveSome at h
  rcases hread : Link.readAvailable n deadline p with ⟨e | raw, p'⟩ <;> rw [hread] at h
  · cases h
    exact ⟨[], pendingBytes_readAvailable_error hread, .inl rfl, nofun⟩
  have hraw := pendingBytes_readAvailable hread
  have hnone := readAvailable_eq_nil_iff hread
  dsimp only at h
  rw [decodeRead_eq_decode] at h
  cases course raw with
  | complete decoded =>
    rw [decoded] at h
    cases h
    exact ⟨_, hraw, decoded, fun _ _ => hnone⟩
  | @cut front data decoded =>
    rw [decode_cut decoded] at h
    rcases hbyte : readByte deadline p' with ⟨e | code, p''⟩ <;> rw [hbyte] at h
    · cases h
      refine ⟨_, ?_, .inr ⟨⟨front, rfl⟩, decode_cut decoded⟩, nofun⟩
      rw [hraw, pendingBytes_readByte_error hbyte]
    · cases h
      refine ⟨front ++ [escape] ++ [code], ?_, explains_completed decoded code, fun _ _ => ?_⟩
      · rw [hraw, pendingBytes_readByte hbyte, List.append_assoc _ [code], List.singleton_append]
      · rw [← hnone]
        simp
  | wrong rest decoded refused =>
    rw [decode_wrong decoded refused] at h
    cases h
    exact ⟨_, hraw, decode_wrong decoded refused rest, nofun⟩

/-- **The decoder that reads into a buffer agrees with the decoder of byte strings.** Whatever the
queue, the clock, the read chunk and the buffer are, and whether the link has been called off or
not: if the read succeeds, the bytes that it took are decoded to the bytes that now stand at the
start of the buffer, and it took some unless the buffer is empty; if it meets a wrong byte behind
`escape`, they are refused for the same byte; and if the link fails, it took nothing, or bytes that
end in a dangling `escape` and are decoded up to there. It does not fail in any other way.

**Proof sketch.** What stands at the start of the buffer is what the read of a list yields
(`receiveSome_decoded`), and that is explained by the bytes that it took (`receiveSome_explained`).
-/
theorem receiveSomeInto_explained (deadline : Deadline) (buffer : Array UInt8) (p : MemoryLink) :
    let (r, w, q) := receiveSomeInto deadline (.ofBuffer buffer) p
    ∃ taken, p.pendingBytes = taken ++ q.pendingBytes ∧
      match r with
      | .ok () =>
        decode taken = .ok (w.buffer.toList.take w.written) ∧ (taken = [] ↔ buffer = #[])
      | .error (.invalidEscape code) => decode taken = .error (.invalidEscape code)
      | .error (.link _) => taken = [] ∨
        (∃ front, taken = front ++ [escape]) ∧ decode taken = .error .truncatedEscape
      | .error _ => False := by
  have hsome := receiveSome_decoded deadline (.ofBuffer buffer) p
  rcases hinto : receiveSomeInto deadline (.ofBuffer buffer) p with ⟨r, w, q⟩
  rw [hinto] at hsome
  rcases hreceive : receiveSome (Window.ofBuffer buffer).missing deadline p with ⟨r', q'⟩
  rw [hreceive] at hsome
  obtain ⟨hr, rfl⟩ := Prod.mk.inj hsome
  obtain ⟨taken, htaken, hexplains, hnone⟩ := receiveSome_explained hreceive
  refine ⟨taken, htaken, ?_⟩
  rcases r with e | _
  · obtain rfl := map_eq_error_iff.mp hr
    cases e <;> exact hexplains
  · obtain ⟨data, rfl, hdata⟩ := map_eq_ok_iff.mp hr
    rw [Window.decoded_ofBuffer, List.nil_append] at hdata
    subst hdata
    rw [Window.missing_ofBuffer, Array.size_eq_zero_iff] at hnone
    exact ⟨hexplains, hnone _ rfl⟩

/-- Where a read ends inside a pair and a pause follows, the pair is completed after the pause. -/
example :
    let link : MemoryLink :=
      { inbound := [.byte 7, .byte escape, .delay 3, .byte markerCode, .byte 8] }
    let (r, w, link') := receiveSomeInto ⟨5⟩ (.ofBuffer #[9, 9, 9]) link
    r = .ok () ∧ w.buffer = #[7, marker, 9] ∧ w.written = 2 ∧ link'.pendingBytes = [8] := by
  decide +kernel

end MemoryLink

end FramedLink
