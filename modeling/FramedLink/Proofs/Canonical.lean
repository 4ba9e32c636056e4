import FramedLink.Stuffing
import Mathlib.Data.List.Basic

set_option autoImplicit false
set_option relaxedAutoImplicit false

/-!
# One stuffed form for each byte string

Decoding inverts stuffing, but it is more lenient than a strict inverse: a bare `marker` is let
through. **That is its only leniency.** A byte string is decoded to some data exactly if it
becomes the stuffed form of that data once the pair is put in place of each bare `marker`. A byte
string without a bare `marker` is therefore decoded to some data exactly if it is the stuffed form
of that data.

## Main definitions

* `FramedLink.Stuffing.restuff` — a byte string with its bare markers stuffed.

## Main results

* `FramedLink.Stuffing.decode_eq_ok_cons_iff` — what stands before the rest of the wire.
* `FramedLink.Stuffing.decode_eq_ok_iff` — which byte strings are decoded to given data.
* `FramedLink.Stuffing.stuffed_form_unique` — the stuffed form is the only one without a bare
  marker.
-/

namespace FramedLink.Stuffing

variable {b code : UInt8} {wire data : List UInt8}

/-! ## What is decoded to what -/

/-- A byte completes the pair of `b` exactly if `b` is reserved and the byte is its code. -/
lemma decodeCode_eq_ok_iff : decodeCode code = .ok b ↔ isReserved b = true ∧ code = codeOf b := by
  constructor
  · intro h
    unfold decodeCode at h
    split at h
    · next hcode => cases h; exact ⟨rfl, hcode⟩
    · split at h
      · next hcode => cases h; exact ⟨rfl, hcode⟩
      · cases h
  · rintro ⟨hb, rfl⟩
    exact decodeCode_codeOf hb

/-- Only the empty string is decoded to nothing. -/
lemma decode_eq_ok_nil_iff : decode wire = .ok [] ↔ wire = [] := by
  constructor
  · intro h
    rcases wire with _ | ⟨c, rest⟩
    · rfl
    by_cases hc : c = escape
    · subst hc
      rcases rest with _ | ⟨code, rest⟩
      · cases h
      rw [decode_escape] at h
      cases hcode : decodeCode code with
      | error e => rw [hcode] at h; cases h
      | ok value =>
        rw [hcode] at h
        obtain ⟨data, -, hdata⟩ := map_eq_ok_iff.mp h
        cases hdata
    · rw [decode_plain hc] at h
      obtain ⟨data, -, hdata⟩ := map_eq_ok_iff.mp h
      cases hdata
  · rintro rfl
    rfl

/-- A byte string is decoded to `b` and more data exactly if it consists of the stuffed form of `b`
and a byte string that is decoded to the data. In the place of the pair of `marker`, a bare `marker`
may stand as well.

**Proof sketch.** Look at the first byte. An `escape` and the byte behind it are the pair of a
reserved byte. Any other byte stands for itself; it is its own stuffed form unless it is a bare
`marker`. -/
theorem decode_eq_ok_cons_iff :
    decode wire = .ok (b :: data) ↔ ∃ rest, decode rest = .ok data ∧
      (wire = encodeByte b ++ rest ∨ b = marker ∧ wire = marker :: rest) := by
  constructor
  · intro h
    rcases wire with _ | ⟨c, rest⟩
    · cases h
    by_cases hc : c = escape
    · subst hc
      rcases rest with _ | ⟨code, rest⟩
      · cases h
      rw [decode_escape] at h
      cases hcode : decodeCode code with
      | error e => rw [hcode] at h; cases h
      | ok value =>
        rw [hcode] at h
        obtain ⟨data', hrest, hdata⟩ := map_eq_ok_iff.mp h
        cases hdata
        obtain ⟨hreserved, rfl⟩ := decodeCode_eq_ok_iff.mp hcode
        refine ⟨rest, hrest, Or.inl ?_⟩
        rw [encodeByte, if_pos hreserved]
        rfl
    · rw [decode_plain hc] at h
      obtain ⟨data', hrest, hdata⟩ := map_eq_ok_iff.mp h
      obtain ⟨rfl, rfl⟩ := List.cons.inj hdata
      refine ⟨rest, hrest, ?_⟩
      by_cases hmarker : c = marker
      · exact Or.inr ⟨hmarker, by rw [hmarker]⟩
      · exact Or.inl (by simp [encodeByte, isReserved, hmarker, hc])
  · rintro ⟨rest, hrest, rfl | ⟨rfl, rfl⟩⟩
    · rw [decode_append (decode_encodeByte b), hrest]
      rfl
    · rw [decode_plain (by decide), hrest]
      rfl

/-! ## Bare markers -/

/-- A byte string with its bare markers stuffed. -/
def restuff (wire : List UInt8) : List UInt8 :=
  wire.flatMap fun b => if b = marker then encodeByte b else [b]

/-- The wire is stuffed anew byte by byte, where a marker stands in it. -/
@[simp] lemma restuff_cons (b : UInt8) (wire : List UInt8) :
    restuff (b :: wire) = (if b = marker then encodeByte b else [b]) ++ restuff wire := by
  simp [restuff]

/-- A plain byte in front is left as it is, a marker is stuffed. Only the byte `escape` would have
to be stuffed and is not. -/
lemma restuff_cons_of_ne (hb : b ≠ escape) (wire : List UInt8) :
    restuff (b :: wire) = encodeByte b ++ restuff wire := by
  rw [restuff_cons]
  split
  · rfl
  · next hmarker => simp [encodeByte, isReserved, hmarker, hb]

/-- Where no bare marker stands, there is nothing to stuff. -/
lemma restuff_of_not_mem (h : marker ∉ wire) : restuff wire = wire := by
  induction wire with
  | nil => rfl
  | cons b wire ih =>
    have hb : b ≠ marker := fun hb => h (hb ▸ List.mem_cons_self)
    rw [restuff_cons, if_neg hb, ih fun hwire => h (List.mem_cons_of_mem _ hwire)]
    rfl

/-- A stuffed form in front is left as it is. -/
lemma restuff_encodeByte_append (b : UInt8) (wire : List UInt8) :
    restuff (encodeByte b ++ wire) = encodeByte b ++ restuff wire := by
  have hb : restuff (encodeByte b) = encodeByte b := by
    apply restuff_of_not_mem
    simpa using marker_not_mem_encode [b]
  calc restuff (encodeByte b ++ wire) = restuff (encodeByte b) ++ restuff wire :=
        List.flatMap_append
    _ = encodeByte b ++ restuff wire := by rw [hb]

/-- No byte is stuffed to nothing. -/
lemma encodeByte_ne_nil (b : UInt8) : encodeByte b ≠ [] := by
  unfold encodeByte
  split <;> exact List.cons_ne_nil _ _

/-- No stuffed form of a byte is the beginning of that of another. -/
lemma encodeByte_append_inj {c : UInt8} {xs ys : List UInt8}
    (h : encodeByte b ++ xs = encodeByte c ++ ys) : b = c ∧ xs = ys := by
  unfold encodeByte at h
  split at h <;> split at h <;> injection h with hhead htail
  · next hb hc =>
    injection htail with hcode htail
    have hok := decodeCode_codeOf hb
    rw [hcode, decodeCode_codeOf hc] at hok
    exact ⟨(Except.ok.inj hok).symm, htail⟩
  · next hb hc => exact absurd (hhead ▸ rfl) hc
  · next hb hc => exact absurd (hhead ▸ rfl) hb
  · exact ⟨hhead, htail⟩

/-- The second half of a pair is a plain byte. -/
lemma isReserved_codeOf (b : UInt8) : isReserved (codeOf b) = false := by
  unfold codeOf
  split <;> rfl

/-- A byte `escape` is left as it is. -/
lemma restuff_escape (wire : List UInt8) : restuff (escape :: wire) = escape :: restuff wire :=
  restuff_cons escape wire

/-- Stuffing bare markers leaves the byte at the front, or puts `escape` there. -/
lemma eq_cons_of_restuff_eq_cons {rest : List UInt8} (h : restuff wire = b :: rest)
    (hb : isReserved b = false) : ∃ tail, wire = b :: tail ∧ restuff tail = rest := by
  rcases wire with _ | ⟨c, tail⟩
  · cases h
  by_cases hc : c = escape
  · rw [hc, restuff_escape] at h
    obtain ⟨rfl, -⟩ := List.cons.inj h
    cases hb
  · have hplain : b :: rest = encodeByte b ++ rest := by simp [encodeByte, hb]
    rw [restuff_cons_of_ne hc, hplain] at h
    obtain ⟨rfl, htail⟩ := encodeByte_append_inj h
    exact ⟨tail, rfl, htail⟩

/-- Which byte strings start with the stuffed form of `b` once their bare markers are stuffed.

**Proof sketch.** Look at the first byte. An `escape` is kept, and then the pair of `b` is all
there, because the byte behind it is a plain one. Any other byte becomes its stuffed form, and this
is that of `b` only for `b` itself. -/
lemma restuff_eq_append_iff {rest : List UInt8} :
    restuff wire = encodeByte b ++ rest ↔ ∃ tail, restuff tail = rest ∧
      (wire = encodeByte b ++ tail ∨ b = marker ∧ wire = marker :: tail) := by
  constructor
  · intro h
    rcases wire with _ | ⟨c, tail⟩
    · exact absurd (List.append_eq_nil_iff.mp h.symm).1 (encodeByte_ne_nil b)
    by_cases hc : c = escape
    · subst hc
      by_cases hb : isReserved b = true
      · -- The byte behind is the second half of the pair of `b`: a plain byte, which stays.
        have hpair : encodeByte b = [escape, codeOf b] := if_pos hb
        rw [restuff_escape, hpair] at h
        obtain ⟨tail, rfl, htail⟩ :=
          eq_cons_of_restuff_eq_cons (List.cons.inj h).2 (isReserved_codeOf b)
        exact ⟨tail, htail, Or.inl (by rw [hpair]; rfl)⟩
      · have hplain : encodeByte b = [b] := if_neg hb
        rw [restuff_escape, hplain] at h
        obtain ⟨rfl, -⟩ := List.cons.inj h
        exact absurd rfl hb
    · rw [restuff_cons_of_ne hc] at h
      obtain ⟨rfl, htail⟩ := encodeByte_append_inj h
      refine ⟨tail, htail, ?_⟩
      by_cases hmarker : c = marker
      · exact Or.inr ⟨hmarker, by rw [hmarker]⟩
      · exact Or.inl (by simp [encodeByte, isReserved, hmarker, hc])
  · rintro ⟨tail, rfl, rfl | ⟨rfl, rfl⟩⟩
    · exact restuff_encodeByte_append b tail
    · exact restuff_cons_of_ne (by decide) tail

/-- **A byte string is decoded to some data exactly if it is the stuffed form of the data once its
bare markers are stuffed.**

**Proof sketch.** Induction on the data. Both sides hold of `b :: data` exactly if the byte string
starts with the stuffed form of `b`, or with a bare `marker` in its place, and the rest is right for
`data`. -/
theorem decode_eq_ok_iff : decode wire = .ok data ↔ restuff wire = encode data := by
  induction data generalizing wire with
  | nil =>
    rw [decode_eq_ok_nil_iff]
    rcases wire with _ | ⟨c, wire⟩
    · exact Iff.rfl
    · refine iff_of_false (List.cons_ne_nil c wire) ?_
      rw [restuff_cons, encode_nil, List.append_eq_nil_iff]
      rintro ⟨h, -⟩
      split at h
      · exact encodeByte_ne_nil c h
      · cases h
  | cons b data ih => simp only [decode_eq_ok_cons_iff, encode_cons, restuff_eq_append_iff, ih]

/-- A byte string without a bare marker is decoded to some data exactly if it is the stuffed form
of the data. -/
lemma not_mem_and_decode_eq_ok_iff :
    marker ∉ wire ∧ decode wire = .ok data ↔ wire = encode data := by
  constructor
  · rintro ⟨hmarker, h⟩
    rw [← restuff_of_not_mem hmarker]
    exact decode_eq_ok_iff.mp h
  · rintro rfl
    exact ⟨marker_not_mem_encode data, decode_encode data⟩

/-- **Data has one stuffed form without a bare marker, and no other data has the same.** What is
appended to a buffer for `data` holds no bare marker and is decoded to `data`. What is appended to
an empty buffer is the only byte string of this kind. Different data never ends as the same buffer.
The byte strings that are decoded to `data` but are not its stuffed form are those with a bare
marker.

**Proof sketch.** What is appended is `encode data`, which is decoded to the data and holds no bare
marker. Conversely, a byte string that is decoded to the data and holds none is `encode data` by
`not_mem_and_decode_eq_ok_iff`. -/
theorem stuffed_form_unique (buffer : Array UInt8) (data : List UInt8) :
    ((encodeInto buffer data).toList = buffer.toList ++ encode data ∧
      marker ∉ encode data ∧ decode (encode data) = .ok data) ∧
    (∀ wire, marker ∉ wire ∧ decode wire = .ok data ↔ wire = (encodeInto #[] data).toList) ∧
    (∀ other, encodeInto buffer other = encodeInto buffer data ↔ other = data) ∧
    (∀ wire, decode wire = .ok data ∧ wire ≠ (encodeInto #[] data).toList ↔
      decode wire = .ok data ∧ marker ∈ wire) := by
  have hempty : (encodeInto #[] data).toList = encode data := toList_encodeInto #[] data
  refine ⟨⟨toList_encodeInto buffer data, marker_not_mem_encode data, decode_encode data⟩, ?_, ?_,
    ?_⟩
  · intro wire
    rw [hempty]
    exact not_mem_and_decode_eq_ok_iff
  · intro other
    refine ⟨fun h => ?_, fun h => h ▸ rfl⟩
    have hencode : encode other = encode data := by
      have hlist := congrArg Array.toList h
      rwa [toList_encodeInto, toList_encodeInto, List.append_cancel_left_eq] at hlist
    exact Except.ok.inj ((decode_encode other).symm.trans (hencode ▸ decode_encode data))
  · intro wire
    rw [hempty]
    refine and_congr_right fun h => ?_
    rw [← not_iff_not, not_not, ← not_mem_and_decode_eq_ok_iff]
    exact and_iff_left h

/-- A bare marker is decoded to the same data as its pair. -/
example : decode [marker] = .ok [marker] ∧ decode [escape, markerCode] = .ok [marker] := ⟨rfl, rfl⟩

end FramedLink.Stuffing
