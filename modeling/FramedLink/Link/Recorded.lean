import FramedLink.Link

set_option autoImplicit false
set_option relaxedAutoImplicit false

/-!
# The recorded link

A link whose other end is a record: what arrived, and when. Reads meet the entries of the record
at their instants, and a read that finds none before its deadline times out. Writes cost no time.
A record may also say after how many bytes the link stopped taking any. There are no slices, and
nothing calls the link off.

The record of a live link grows, and a run of a program over what has been recorded so far is
**settled once the clock of the live link has reached the instant at which the run ends**: what
arrives later cannot change it.

## Main definitions

* `FramedLink.Arrival` — an entry of the record.
* `FramedLink.RecordedLink` — the state of the link, and its `Link` instance.
* `FramedLink.RecordedLink.settledAt` — no later arrival can change the run.

## Main results

* `FramedLink.RecordedLink.readAvailable_extend` — an arrival after a read has no part in it.
-/

namespace FramedLink

/-- An entry of a record. -/
inductive Arrival where
  /-- At least one byte. -/
  | data (first : UInt8) (more : List UInt8)
  /-- The link failed. -/
  | failure (e : IoError)
  /-- The other end hung up. -/
  | hangUp
  deriving DecidableEq, Repr

/-- The number of bytes of an entry. -/
def Arrival.size : Arrival → Nat
  | data _ more => more.length + 1
  | failure _ | hangUp => 0

/-- The entry of bytes. No bytes mean that the other end hung up. -/
def Arrival.ofBytes : List UInt8 → Arrival
  | [] => hangUp
  | b :: rest => data b rest

/-- The state of a link over a record. -/
structure RecordedLink where
  /-- The instant that the clock shows. -/
  now : Nat := 0
  /-- What arrives, with the instants. -/
  arrivals : List (Nat × Arrival) := []
  /-- After how many bytes the link takes no more, and why. -/
  limit : Option (Nat × IoError) := none
  /-- The bytes written. -/
  outbound : Array UInt8 := #[]
  deriving Repr

namespace RecordedLink

/-- A run that leaves the link in this state cannot be changed by what arrives after `t`. -/
def settledAt (p : RecordedLink) (t : Nat) : Bool := decide (p.now ≤ t)

/-! ## Writing -/

/-- Write, as far as the link takes the bytes. -/
def write (data : List UInt8) (_ : Deadline) (p : RecordedLink) :
    Except LinkError Nat × RecordedLink :=
  let taken (n : Nat) : Except LinkError Nat × RecordedLink :=
    (.ok (min n data.length), { p with outbound := p.outbound ++ data.take n })
  match p.limit with
  | none => taken data.length
  | some (room, e) =>
    if p.outbound.size < room then taken (room - p.outbound.size) else (.error (.io e), p)

/-! ## Reading -/

/-- Read from the entry that is met next, if it is met before `deadline`. A failure is met once,
and after the end of the link there is nothing more. -/
def readAvailable (n : Nat) (deadline : Deadline) (p : RecordedLink) :
    Except LinkError (List UInt8) × RecordedLink :=
  if n = 0 then (.ok [], p)
  else
    match p.arrivals with
    | [] => (.error .timeout, { p with now := max p.now deadline.instant })
    | (instant, arrival) :: rest =>
      let met := max p.now instant
      if deadline.expired met then
        (.error .timeout, { p with now := max p.now deadline.instant })
      else
        match arrival with
        | .failure e => (.error (.io e), { p with now := met, arrivals := rest })
        | .hangUp => (.error .closed, { p with now := met })
        | .data first more =>
          let arrivals :=
            match (first :: more).drop n with
            | [] => rest
            | b :: left => (instant, .data b left) :: rest
          (.ok ((first :: more).take n), { p with now := met, arrivals })

/-- The link with more entries at the end of its record. -/
def extend (p : RecordedLink) (later : List (Nat × Arrival)) : RecordedLink :=
  { p with arrivals := p.arrivals ++ later }

/-- **What arrives once the clock of a live link has passed a read cannot change that read.**

**Proof sketch.** A read that has met an arrival has taken it, and looks at none behind it. A read
that has met none has waited for its deadline, and what is added does not arrive before that. -/
theorem readAvailable_extend {n t : Nat} {deadline : Deadline} {p : RecordedLink}
    {later : List (Nat × Arrival)} (hlater : ∀ entry ∈ later, t ≤ entry.1)
    (h : (p.readAvailable n deadline).2.settledAt t = true) :
    (p.extend later).readAvailable n deadline =
      ((p.readAvailable n deadline).1, (p.readAvailable n deadline).2.extend later) := by
  unfold readAvailable at h ⊢
  by_cases hn : n = 0
  · simp [hn]
  simp only [hn, if_false] at h ⊢
  cases harr : p.arrivals with
  | nil =>
    simp only [harr, settledAt, decide_eq_true_eq] at h
    cases later with
    | nil => simp [extend, harr]
    | cons entry rest =>
      have hle : t ≤ entry.1 := hlater entry List.mem_cons_self
      have hexp : deadline.expired (max p.now entry.1) = true := by
        simp only [Deadline.expired, decide_eq_true_eq]
        omega
      simp [extend, harr, hexp]
  | cons entry rest =>
    simp only [extend, harr, List.cons_append]
    split
    · simp
    · cases entry.2 with
      | failure e => rfl
      | hangUp => simp
      | data first more =>
        dsimp only
        split <;> simp

/-- The number of bytes that reads can still yield. -/
def unread (arrivals : List (Nat × Arrival)) : Nat :=
  arrivals.foldr (fun entry size => entry.2.size + size) 0

/-- The bytes that a read takes from an entry and those that it leaves are the bytes of the entry.
-/
theorem unread_drop (n instant : Nat) (first : UInt8) (more : List UInt8)
    (rest : List (Nat × Arrival)) :
    unread (match (first :: more).drop n with
        | [] => rest
        | b :: left => (instant, Arrival.data b left) :: rest) + min n (more.length + 1) =
      unread ((instant, .data first more) :: rest) := by
  have hlen : ((first :: more).drop n).length = more.length + 1 - n := by simp
  split
  · next hd =>
    rw [hd] at hlen
    simp [unread, Arrival.size] at hlen ⊢
    omega
  · next b left hd =>
    rw [hd] at hlen
    simp [unread, Arrival.size] at hlen ⊢
    omega

/-- A read does not add to the unread bytes, and uses up those that it yields. -/
theorem unread_readAvailable {n : Nat} {deadline : Deadline} {p p' : RecordedLink}
    {r : Except LinkError (List UInt8)} (h : p.readAvailable n deadline = (r, p')) :
    unread p'.arrivals ≤ unread p.arrivals ∧
      ∀ bytes, r = .ok bytes →
        bytes.length ≤ n ∧ (0 < n → unread p'.arrivals < unread p.arrivals) := by
  unfold readAvailable at h
  split at h
  · next hn =>
    obtain ⟨rfl, rfl⟩ := Prod.mk.inj h
    refine ⟨Nat.le_refl _, fun bytes hb => ?_⟩
    obtain rfl := Except.ok.inj hb
    exact ⟨Nat.zero_le _, by omega⟩
  split at h
  · obtain ⟨rfl, rfl⟩ := Prod.mk.inj h
    simp
  · next instant arrival rest harr =>
    dsimp only at h
    split at h
    · obtain ⟨rfl, rfl⟩ := Prod.mk.inj h
      simp
    split at h
    · obtain ⟨rfl, rfl⟩ := Prod.mk.inj h
      simp [harr, unread]
    · obtain ⟨rfl, rfl⟩ := Prod.mk.inj h
      simp
    · next first more =>
      obtain ⟨rfl, rfl⟩ := Prod.mk.inj h
      have hrest := unread_drop n instant first more rest
      rw [← harr] at hrest
      refine ⟨by dsimp only; omega, fun bytes hb => ?_⟩
      obtain rfl := Except.ok.inj hb
      refine ⟨List.length_take_le .., fun hn => ?_⟩
      dsimp only
      omega

instance : Link RecordedLink where
  now p := p.now
  write := write
  readAvailable := readAvailable
  supply p := unread p.arrivals
  length_le_of_read h := ((unread_readAvailable h).2 _ rfl).1
  supply_le_of_read h := (unread_readAvailable h).1
  supply_lt_of_read hn h := ((unread_readAvailable h).2 _ rfl).2 hn

end RecordedLink

end FramedLink
