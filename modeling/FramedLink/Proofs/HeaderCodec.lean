import FramedLink.Header
import Mathlib.Logic.Basic
import Mathlib.Tactic.ByContra

set_option autoImplicit false
set_option relaxedAutoImplicit false

/-!
# Headers on the wire and back

A header that is written and read again keeps all its fields but one: the kind is read from its
byte, so **a header comes back as it was exactly if its kind is the one that its byte stands for.**
Only a value `other b` that was built by hand for a byte with a name is read as another kind. The
check does not depend on this, because it is computed over bytes and not over fields. In the other
direction nothing is lost at all: eight bytes that are read and written again are the same bytes.

## Main definitions

* `FramedLink.MessageType.Named` — the bytes that have a name.

## Main results

* `FramedLink.MessageType.ofCode_code_eq_iff` — which kinds come back from their bytes.
* `FramedLink.FrameHeader.ofBytes_toBytes`, `FramedLink.FrameHeader.toBytes_ofBytes` — the two ways
  through the wire format.
* `FramedLink.FrameHeader.verify_ofBytes_toBytes` — the check survives the way.
* `FramedLink.FrameHeader.prepare_roundTrip` — what becomes of a header that was prepared.
-/

namespace FramedLink

/-! ## Kinds -/

namespace MessageType

/-- **A byte has a name** if a kind other than those without a name is sent as this byte. -/
def Named (b : UInt8) : Prop := ∃ kind : MessageType, (∀ c, kind ≠ .other c) ∧ kind.code = b

/-- A named kind is read from its byte. -/
lemma ofCode_code_of_named {kind : MessageType} (h : ∀ c, kind ≠ .other c) :
    ofCode kind.code = kind := by
  cases kind with
  | other c => exact absurd rfl (h c)
  | _ => rfl

/-- A byte is read as a kind without a name exactly if it has none. -/
lemma ofCode_eq_other_iff {b : UInt8} : ofCode b = .other b ↔ ¬ Named b := by
  constructor
  · rintro hother ⟨kind, hkind, rfl⟩
    exact hkind _ ((ofCode_code_of_named hkind).symm.trans hother)
  · intro hunnamed
    obtain ⟨c, hc⟩ : ∃ c, ofCode b = .other c := by
      by_contra hnone
      exact hunnamed ⟨ofCode b, not_exists.mp hnone, code_ofCode b⟩
    have hcode : c = b := by rw [← code_ofCode b, hc, code]
    rw [hc, hcode]

/-- **A kind comes back from its byte unless it hides a name:** the byte has one, but the kind was
built without it. -/
theorem ofCode_code_eq_iff (t : MessageType) :
    ofCode t.code = t ↔ ¬ ∃ b, t = .other b ∧ Named b := by
  constructor
  · rintro hback ⟨b, rfl, hnamed⟩
    exact ofCode_eq_other_iff.mp hback hnamed
  · intro hhidden
    cases t with
    | other b => exact ofCode_eq_other_iff.mpr fun hnamed => hhidden ⟨b, rfl, hnamed⟩
    | _ => rfl

end MessageType

namespace FrameHeader

/-! ## Fields -/

/-- **A header that is written and read again** keeps all its fields but the kind, which is read
from its byte. -/
theorem ofBytes_toBytes (h : FrameHeader) :
    ofBytes h.toBytes = { h with messageType := .ofCode h.messageType.code } := by
  simp [ofBytes, toBytes, leBytes, leValue_leBytes]

/-- A header comes back as it was exactly if its kind does. -/
lemma ofBytes_toBytes_eq_iff (h : FrameHeader) :
    ofBytes h.toBytes = h ↔ .ofCode h.messageType.code = h.messageType := by
  rw [ofBytes_toBytes]
  exact ⟨congrArg messageType, fun hkind => by rw [hkind]⟩

/-- **Eight bytes that are read and written again are the same bytes.** -/
theorem toBytes_ofBytes {bytes : List UInt8} (hsize : bytes.length = headerSize) :
    (ofBytes bytes).toBytes = bytes := by
  match bytes, hsize with
  | [l₀, l₁, v, s₀, s₁, t, low, high], _ =>
    show leBytes (leValue l₀ l₁) ++ [v] ++ leBytes (leValue s₀ s₁) ++
      [(MessageType.ofCode t).code] ++ leBytes (leValue low high) = _
    rw [leBytes_leValue, leBytes_leValue, leBytes_leValue, MessageType.code_ofCode]
    rfl

/-- A header announces a payload of `n` bytes exactly if its length field counts these and the
header. -/
lemma payloadLength_eq_some_iff {h : FrameHeader} {n : Nat} :
    h.payloadLength = some n ↔ h.length.toNat = headerSize + n := by
  unfold payloadLength
  split
  · rw [Option.some.injEq]
    omega
  · simp only [reduceCtorEq, false_iff]
    omega

/-! ## The check -/

/-- The check that belongs to a payload is accepted with it. -/
lemma verify_computeCrc (h : FrameHeader) (payload : List UInt8) :
    { h with crc := h.computeCrc payload }.verify payload = true := by
  simp only [verify, computeCrc, beq_self_eq_true]

/-- **The check survives the way through the wire format,** whatever becomes of the kind: it is
computed over the byte of the kind. -/
theorem verify_ofBytes_toBytes (h : FrameHeader) (payload : List UInt8) :
    (ofBytes h.toBytes).verify payload = h.verify payload := by
  have hblank : { ofBytes h.toBytes with crc := 0 }.toBytes = { h with crc := 0 }.toBytes := by
    rw [ofBytes_toBytes]
    simp only [toBytes, MessageType.code_ofCode]
  rw [verify, verify, computeCrc, computeCrc, hblank, ofBytes_toBytes]

/-! ## Prepared headers -/

/-- What the header of an outbound frame says of its frame. -/
structure Describes (header : FrameHeader) (sequence : UInt16) (messageType : MessageType)
    (payload : List UInt8) : Prop where
  /-- The version is the one that is spoken. -/
  version : header.version = protocolVersion
  /-- The number is that of the frame. -/
  sequence : header.sequence = sequence
  /-- The kind is that of the frame. -/
  messageType : header.messageType = messageType
  /-- The length is counted in full. -/
  length : header.length.toNat = headerSize + payload.length
  /-- The check fits. -/
  verified : header.verify payload = true

/-- **A payload of at most `maxPayload` bytes gets a header that describes its frame,** and uses up
one number. Its length fits into sixteen bits. -/
theorem prepare_of_fits (sequence : UInt16) (messageType : MessageType) {payload : List UInt8}
    (hfits : payload.length ≤ maxPayload) :
    ∃ header, prepare sequence messageType payload = (.ok header, sequence + 1) ∧
      header.Describes sequence messageType payload := by
  have hlength : (UInt16.ofNat (headerSize + payload.length)).toNat =
      headerSize + payload.length := by
    rw [UInt16.toNat_ofNat']
    unfold maxPayload at hfits
    unfold headerSize at hfits ⊢
    omega
  unfold prepare
  rw [if_neg (Nat.not_lt.mpr hfits)]
  exact ⟨_, rfl, rfl, rfl, rfl, hlength, verify_computeCrc _ payload⟩

/-- A larger payload gets none, and uses up no number. -/
lemma prepare_of_not_fits (sequence : UInt16) (messageType : MessageType) {payload : List UInt8}
    (hlarge : maxPayload < payload.length) :
    prepare sequence messageType payload =
      (.error (.payloadTooLarge payload.length maxPayload), sequence) := by
  rw [prepare, if_pos hlarge]

/-- A header is prepared exactly for the payloads that fit. -/
lemma prepare_isOk_iff (sequence : UInt16) (messageType : MessageType) (payload : List UInt8) :
    (∃ header, (prepare sequence messageType payload).1 = .ok header) ↔
      payload.length ≤ maxPayload := by
  constructor
  · rintro ⟨header, hprepare⟩
    by_contra hlarge
    rw [prepare_of_not_fits sequence messageType (Nat.lt_of_not_le hlarge)] at hprepare
    cases hprepare
  · intro hfits
    obtain ⟨header, hprepare, -⟩ := prepare_of_fits sequence messageType hfits
    exact ⟨header, congrArg Prod.fst hprepare⟩

/-- **A prepared header comes through the wire format with everything that matters.** A header is
prepared exactly if the payload has at most 65527 bytes; otherwise no number is used up. The header
that the peer reads has the version, the number, the byte of the kind and the full length of the
frame, and it accepts the payload. It is the very header that was prepared unless the kind was built
without the name of its byte. What is read is always written as the same bytes.

**Proof sketch.** A header that is prepared has the fields that are asked for, and the peer reads
all of them again but the kind, for which it reads the kind of the byte. -/
theorem prepare_roundTrip (sequence : UInt16) (messageType : MessageType) (payload : List UInt8) :
    ((∃ header, (prepare sequence messageType payload).1 = .ok header) ↔
      payload.length ≤ 65527) ∧
    (65527 < payload.length → prepare sequence messageType payload =
      (.error (.payloadTooLarge payload.length 65527), sequence)) ∧
    (∀ header next, prepare sequence messageType payload = (.ok header, next) →
      let decoded := ofBytes header.toBytes
      next.toNat = (sequence.toNat + 1) % 65536 ∧
        decoded.version = 0 ∧ decoded.sequence = sequence ∧
        decoded.messageType.code = messageType.code ∧
        decoded.length.toNat = 8 + payload.length ∧
        decoded.payloadLength = some payload.length ∧ decoded.verify payload = true ∧
        (decoded = header ↔ ¬ ∃ b, messageType = .other b ∧ MessageType.Named b)) ∧
    ∀ bytes : List UInt8, bytes.length = 8 → (ofBytes bytes).toBytes = bytes := by
  refine ⟨prepare_isOk_iff sequence messageType payload, prepare_of_not_fits sequence messageType,
    fun header next hprepare => ?_, fun bytes hsize => toBytes_ofBytes hsize⟩
  have hfits := (prepare_isOk_iff sequence messageType payload).mp
    ⟨header, congrArg Prod.fst hprepare⟩
  obtain ⟨header', hprepare', hdescribes⟩ := prepare_of_fits sequence messageType hfits
  rw [hprepare'] at hprepare
  cases hprepare
  -- The fields of the decoded header are those of the prepared one, up to the kind.
  have hdecoded := ofBytes_toBytes header
  refine ⟨UInt16.toNat_add sequence 1, ?_, ?_, ?_, ?_, ?_, ?_, ?_⟩
  · rw [hdecoded]; exact hdescribes.version
  · rw [hdecoded]; exact hdescribes.sequence
  · rw [hdecoded, ← hdescribes.messageType]; exact MessageType.code_ofCode _
  · rw [hdecoded]; exact hdescribes.length
  · rw [payloadLength_eq_some_iff, hdecoded]; exact hdescribes.length
  · rw [verify_ofBytes_toBytes]; exact hdescribes.verified
  · rw [ofBytes_toBytes_eq_iff, hdescribes.messageType, MessageType.ofCode_code_eq_iff]

/-- The largest frame, with the last number and a kind that hides its name: the length field is
full, the number wraps around, and the header that is read differs from the prepared one. One byte
more, and no header is prepared. -/
theorem largest_roundTrip :
    ∃ header, prepare 0xFFFF (.other 0xA0) (List.replicate 65527 0x73) = (.ok header, 0) ∧
      (ofBytes header.toBytes).length = 0xFFFF ∧ ofBytes header.toBytes ≠ header ∧
      (ofBytes header.toBytes).verify (List.replicate 65527 0x73) = true ∧
      prepare 0xFFFF (.other 0xA0) (List.replicate 65528 0x73) =
        (.error (.payloadTooLarge 65528 65527), 0xFFFF) ∧
      (ofBytes [0xFF, 0xFF, 0, 0xFF, 0xFF, 0xA0, 7, 8]).toBytes =
        [0xFF, 0xFF, 0, 0xFF, 0xFF, 0xA0, 7, 8] := by
  obtain ⟨hiff, -, hok, hbytes⟩ :=
    prepare_roundTrip 0xFFFF (.other 0xA0) (List.replicate 65527 0x73)
  obtain ⟨-, hlarge, -, -⟩ := prepare_roundTrip 0xFFFF (.other 0xA0) (List.replicate 65528 0x73)
  rw [List.length_replicate] at hiff hok hlarge
  rcases hprepare : prepare 0xFFFF (.other 0xA0) (List.replicate 65527 0x73) with ⟨r, next⟩
  rw [hprepare] at hiff
  obtain ⟨header, rfl⟩ : ∃ header, r = .ok header := hiff.mpr (Nat.le_refl _)
  obtain ⟨hnext, -, -, -, hlength, -, hverified, hsame⟩ := hok header next hprepare
  obtain rfl : next = 0 := UInt16.toNat_inj.mp hnext
  refine ⟨header, rfl, UInt16.toNat_inj.mp hlength, ?_, hverified, hlarge (by decide), ?_⟩
  · rw [ne_eq, hsame, not_not]
    exact ⟨0xA0, rfl, .ack, by simp, rfl⟩
  · exact hbytes _ rfl

end FrameHeader

end FramedLink
