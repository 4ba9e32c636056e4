import FramedLink.Error

set_option autoImplicit false
set_option relaxedAutoImplicit false

/-!
# Byte stuffing

The byte `marker` opens every frame and must not occur inside one. Inside a frame it is
therefore replaced by a pair, and so is the byte `escape` that opens such pairs. Every other
byte is sent as it is.

| data byte | on the wire              |
|-----------|--------------------------|
| `marker`  | `escape`, `markerCode`   |
| `escape`  | `escape`, `escapeCode`   |

## Main definitions

* `FramedLink.Stuffing.encode` — the stuffed form of a byte string.
* `FramedLink.Stuffing.encodeInto` — a buffer with the stuffed form of a byte string behind it.
* `FramedLink.Stuffing.decode` — the byte string behind a stuffed form.
* `FramedLink.Stuffing.pieces` — the stuffed form cut into maximal runs of plain bytes and
  single pairs, which is how it is handed to a link.

## Main results

* `FramedLink.Stuffing.toList_encodeInto` — what is appended to a buffer is the stuffed form.
* `FramedLink.Stuffing.flatten_pieces` — the pieces of a byte string add up to its stuffed form.
* `FramedLink.Stuffing.decode_plain`, `decode_escape` — the two rules of decoding.
* `FramedLink.Stuffing.decode_encode` — a stuffed form is decoded to the bytes behind it.
* `FramedLink.Stuffing.marker_not_mem_encode` — no stuffed form holds a bare `marker`.
-/

namespace FramedLink.Stuffing

/-- The first byte of every frame. It is sent bare only there. -/
def marker : UInt8 := 0x73

/-- Opens the pair that stands for a reserved byte. -/
def escape : UInt8 := 0x78

/-- Completes the pair that stands for `marker`. -/
def markerCode : UInt8 := 0x31

/-- Completes the pair that stands for `escape`. -/
def escapeCode : UInt8 := 0x55

/-- The bytes that are never sent as they are. -/
def isReserved (b : UInt8) : Bool := b == marker || b == escape

/-- The position of the first reserved byte. -/
def firstReserved (data : List UInt8) : Option Nat := data.findIdx? isReserved

/-- The first reserved byte is one of the bytes. -/
theorem firstReserved_lt {data : List UInt8} {n : Nat} (h : firstReserved data = some n) :
    n < data.length :=
  (List.findIdx?_eq_some_iff_getElem.mp h).1

/-! ## Encoding -/

/-- The byte that completes the pair of a reserved byte. -/
def codeOf (b : UInt8) : UInt8 := if b = marker then markerCode else escapeCode

/-- One byte on the wire: itself, or the pair that stands for it. -/
def encodeByte (b : UInt8) : List UInt8 := if isReserved b then [escape, codeOf b] else [b]

/-- The stuffed form of a byte string. -/
def encode (data : List UInt8) : List UInt8 := data.flatMap encodeByte

/-- Append the stuffed form of `data` to a buffer. The bytes before the first reserved byte are
copied as one run, its pair follows, and so on with the bytes behind it. -/
def encodeInto (buffer : Array UInt8) (data : List UInt8) : Array UInt8 :=
  match h : firstReserved data with
  | none => buffer ++ data
  | some n =>
    have hn : n < data.length := firstReserved_lt h
    encodeInto (buffer ++ data.take n ++ [escape, codeOf data[n]]) (data.drop (n + 1))
termination_by data.length
decreasing_by
  rw [List.length_drop]
  omega

/-- Put one byte in front of the pieces of the bytes after it: a plain byte joins a run that
follows it, a reserved byte becomes a piece of its own. -/
def addPiece (b : UInt8) : List (List UInt8) → List (List UInt8)
  | (c :: run) :: rest =>
    if isReserved b || c == escape then encodeByte b :: (c :: run) :: rest
    else (b :: c :: run) :: rest
  | rest => encodeByte b :: rest

/-- The stuffed form of a byte string, cut into maximal runs of plain bytes and single pairs. -/
def pieces (data : List UInt8) : List (List UInt8) := data.foldr addPiece []

/-! ## Decoding -/

/-- The byte behind the second half of a pair. -/
def decodeCode (code : UInt8) : Except FrameError UInt8 :=
  if code = markerCode then .ok marker
  else if code = escapeCode then .ok escape
  else .error (.invalidEscape code)

/-- Decode the rest of a buffer, where `done` holds the bytes decoded so far, the last first. -/
def decodeFrom (done : List UInt8) : List UInt8 → Except FrameError (List UInt8)
  | [] => .ok done.reverse
  | b :: rest =>
    if b = escape then
      match rest with
      | [] => .error .truncatedEscape
      | code :: rest =>
        match decodeCode code with
        | .ok value => decodeFrom (value :: done) rest
        | .error e => .error e
    else decodeFrom (b :: done) rest

/-- The byte string behind a complete stuffed form. A bare `marker` is let through. -/
def decode (wire : List UInt8) : Except FrameError (List UInt8) := decodeFrom [] wire

/-! ## Rules -/

/-- Only a byte that completes no pair is refused as the second half of one. -/
theorem decodeCode_eq_error {code : UInt8} {e : FrameError} (h : decodeCode code = .error e) :
    ∃ code, e = .invalidEscape code := by
  unfold decodeCode at h
  split at h
  · cases h
  · split at h
    · cases h
    · exact ⟨code, (Except.error.inj h).symm⟩

/-- The second half of the pair of a reserved byte is decoded to that byte. -/
theorem decodeCode_codeOf {b : UInt8} (h : isReserved b = true) :
    decodeCode (codeOf b) = .ok b := by
  by_cases hm : b = marker
  · subst hm
    rfl
  · have he : b = escape := by simpa [isReserved, hm] using h
    subst he
    rfl

/-- No bytes are stuffed to no bytes. -/
@[simp] theorem encode_nil : encode [] = [] := rfl

/-- Stuffing goes byte by byte. -/
@[simp] theorem encode_cons (b : UInt8) (data : List UInt8) :
    encode (b :: data) = encodeByte b ++ encode data := by
  simp [encode]

/-- Two byte strings are stuffed one behind the other. -/
theorem encode_append (xs ys : List UInt8) : encode (xs ++ ys) = encode xs ++ encode ys := by
  simp [encode]

/-- Plain bytes are sent as they are. -/
theorem encode_plain {data : List UInt8} (h : ∀ b ∈ data, isReserved b = false) :
    encode data = data := by
  induction data with
  | nil => rfl
  | cons b data ih =>
    have hb : encodeByte b = [b] := by simp [encodeByte, h b List.mem_cons_self]
    rw [encode_cons, hb, ih fun c hc => h c (List.mem_cons_of_mem _ hc)]
    rfl

/-- **What is appended to a buffer is the stuffed form,** although it is written run by run.

**Proof sketch.** Induction on the reserved bytes in the data. The run of plain bytes before the
first of them is its own stuffed form, and the reserved byte is written as a pair. -/
theorem toList_encodeInto (buffer : Array UInt8) (data : List UInt8) :
    (encodeInto buffer data).toList = buffer.toList ++ encode data := by
  fun_induction encodeInto buffer data with
  | case1 buffer data h =>
    have hplain : ∀ b ∈ data, isReserved b = false := by
      simpa [firstReserved, List.findIdx?_eq_none_iff] using h
    rw [encode_plain hplain]
    simp
  | case2 buffer data n h hn ih =>
    obtain ⟨_, hreserved, hbefore⟩ := List.findIdx?_eq_some_iff_getElem.mp h
    have hplain : ∀ b ∈ data.take n, isReserved b = false := by
      intro b hb
      obtain ⟨i, hi, rfl⟩ := List.mem_take_iff_getElem.mp hb
      simpa using hbefore i (by omega)
    have hpair : encodeByte data[n] = [escape, codeOf data[n]] := if_pos hreserved
    have hsplit : data = data.take n ++ data[n] :: data.drop (n + 1) := by
      rw [List.getElem_cons_drop, List.take_append_drop]
    calc (encodeInto (buffer ++ data.take n ++ [escape, codeOf data[n]])
            (data.drop (n + 1))).toList
        = (buffer.toList ++ data.take n ++ [escape, codeOf data[n]]) ++
            encode (data.drop (n + 1)) := by rw [ih]; simp
      _ = buffer.toList ++ encode (data.take n ++ data[n] :: data.drop (n + 1)) := by
          rw [encode_append, encode_cons, encode_plain hplain, hpair]
          simp
      _ = buffer.toList ++ encode data := by rw [← hsplit]

/-- Adding a byte in front adds its stuffed form in front. -/
theorem flatten_addPiece (b : UInt8) (rest : List (List UInt8)) :
    (addPiece b rest).flatten = encodeByte b ++ rest.flatten := by
  unfold addPiece
  split
  · split
    · simp
    · next h => simp_all [encodeByte]
  · simp

/-- **The pieces of a byte string add up to its stuffed form.** -/
theorem flatten_pieces (data : List UInt8) : (pieces data).flatten = encode data := by
  induction data with
  | nil => rfl
  | cons b data ih =>
    show (addPiece b (pieces data)).flatten = _
    rw [flatten_addPiece, ih, encode_cons]

/-- The bytes decoded so far stand in front of the rest. -/
theorem decodeFrom_eq (done wire : List UInt8) :
    decodeFrom done wire = (decode wire).map (done.reverse ++ ·) := by
  suffices h : ∀ (xs ys : List UInt8),
      decodeFrom (ys ++ xs) wire = (decodeFrom ys wire).map (xs.reverse ++ ·) by
    simpa [decode] using h done []
  intro xs ys
  fun_induction decodeFrom ys wire generalizing xs with
  | case1 ys => simp [decodeFrom, Except.map]
  | case2 ys => simp [decodeFrom, Except.map]
  | case3 ys code rest v hv ih => rw [decodeFrom.eq_def]; simpa [hv] using ih xs
  | case4 ys code rest e he => rw [decodeFrom.eq_def]; simp [he, Except.map]
  | case5 ys b rest hb ih => rw [decodeFrom.eq_def]; simpa [hb] using ih xs

/-- No bytes hold no data. -/
@[simp] theorem decode_nil : decode [] = .ok [] := rfl

/-- A byte other than `escape` stands for itself. -/
theorem decode_plain {b : UInt8} (h : b ≠ escape) (wire : List UInt8) :
    decode (b :: wire) = (decode wire).map (b :: ·) := by
  rw [decode, decodeFrom.eq_def]
  simp only [if_neg h]
  rw [decodeFrom_eq]
  rfl

/-- A pair stands for the byte behind its second half, if there is one. -/
theorem decode_escape (code : UInt8) (wire : List UInt8) :
    decode (escape :: code :: wire) =
      (decodeCode code).bind fun value => (decode wire).map (value :: ·) := by
  rw [decode, decodeFrom.eq_def]
  simp only [if_pos]
  cases h : decodeCode code with
  | error e => rfl
  | ok value =>
    show decodeFrom [value] wire = _
    rw [decodeFrom_eq]
    rfl

/-- A pair cut short is no stuffed form. -/
theorem decode_dangling : decode [escape] = .error .truncatedEscape := rfl

/-- A complete stuffed form in front of other bytes is decoded on its own.

**Proof sketch.** Induction on the course of the decoding of the front, with the bytes decoded
before as the accumulator. -/
theorem decode_append {xs data : List UInt8} (h : decode xs = .ok data) (ys : List UInt8) :
    decode (xs ++ ys) = (decode ys).map (data ++ ·) := by
  suffices h' : ∀ done data, decodeFrom done xs = .ok data →
      decodeFrom done (xs ++ ys) = (decode ys).map (data ++ ·) from h' [] data h
  clear h data
  intro done data h
  fun_induction decodeFrom done xs with
  | case1 done => cases h; rw [List.nil_append, decodeFrom_eq]
  | case2 done => cases h
  | case3 done code rest value hv ih => simp [decodeFrom, hv, ih h]
  | case4 done code rest e he => cases h
  | case5 done b rest hb ih =>
    rw [List.cons_append, decodeFrom.eq_def]
    simp only [if_neg hb, ih h]

/-- The stuffed form of a byte is decoded to it. -/
theorem decode_encodeByte (b : UInt8) : decode (encodeByte b) = .ok [b] := by
  unfold encodeByte
  split
  · next h =>
    rw [decode_escape, decodeCode_codeOf h]
    rfl
  · next h =>
    refine decode_plain ?_ []
    rintro rfl
    exact h rfl

/-- **A stuffed form is decoded to the bytes behind it.** -/
theorem decode_encode (data : List UInt8) : decode (encode data) = .ok data := by
  induction data with
  | nil => rfl
  | cons b data ih =>
    rw [encode_cons, decode_append (decode_encodeByte b), ih]
    rfl

/-- **No stuffed form holds a bare `marker`.** -/
theorem marker_not_mem_encode (data : List UInt8) : marker ∉ encode data := by
  simp only [encode, List.mem_flatMap, not_exists, not_and]
  rintro b -
  unfold encodeByte isReserved codeOf
  split
  · split <;> decide
  · next h =>
    simp only [List.mem_singleton]
    rintro rfl
    exact h rfl

end FramedLink.Stuffing
