import FramedLink.Link

set_option autoImplicit false
set_option relaxedAutoImplicit false

/-!
# The scripted link

A link that does what two scripts say, one for its reads and one for its writes, and that pays
no attention to deadlines: its clock stands still. When the script of the reads is used up,
every further read times out; when that of the writes is used up, every further write is taken
as a whole. It shows that the operations on links come to an end without the help of time.

## Main definitions

* `FramedLink.ScriptedLink` — the state of the link, and its `Link` instance.
* `FramedLink.ScriptedLink.Read`, `FramedLink.ScriptedLink.Write` — the entries of the scripts.
-/

namespace FramedLink

/-- What a read of a scripted link does. -/
inductive ScriptedLink.Read where
  /-- Yield these bytes, as far as they are asked for. The others are lost. -/
  | data (bytes : List UInt8)
  /-- Fail. -/
  | failure (e : LinkError)
  deriving DecidableEq, Repr

/-- What a write of a scripted link does. -/
inductive ScriptedLink.Write where
  /-- Take at most `n` bytes. -/
  | accept (n : Nat)
  /-- Fail. -/
  | failure (e : LinkError)
  deriving DecidableEq, Repr

/-- The state of a scripted link. -/
structure ScriptedLink where
  /-- What the next reads do. -/
  reads : List ScriptedLink.Read := []
  /-- What the next writes do. -/
  writes : List ScriptedLink.Write := []
  /-- The bytes taken so far. -/
  outbound : Array UInt8 := #[]

namespace ScriptedLink

/-- Write as the script says. -/
def write (data : List UInt8) (_ : Deadline) (p : ScriptedLink) :
    Except LinkError Nat × ScriptedLink :=
  match p.writes with
  | [] => (.ok data.length, { p with outbound := p.outbound ++ data })
  | .accept n :: writes =>
    (.ok (min n data.length), { p with writes, outbound := p.outbound ++ data.take n })
  | .failure e :: writes => (.error e, { p with writes })

/-- Read as the script says. -/
def readAvailable (n : Nat) (_ : Deadline) (p : ScriptedLink) :
    Except LinkError (List UInt8) × ScriptedLink :=
  match p.reads with
  | [] => (.error .timeout, p)
  | .data bytes :: reads => (.ok (bytes.take n), { p with reads })
  | .failure e :: reads => (.error e, { p with reads })

instance : Link ScriptedLink where
  now _ := 0
  write := write
  readAvailable := readAvailable
  supply p := p.reads.length
  length_le_of_read {n deadline p p' bytes} h := by
    unfold readAvailable at h
    split at h
    · simp at h
    · obtain ⟨rfl, -⟩ : _ ∧ _ := by simpa using h
      exact List.length_take_le ..
    · simp at h
  supply_le_of_read {n deadline p p' r} h := by
    unfold readAvailable at h
    split at h <;> obtain ⟨-, rfl⟩ := Prod.mk.inj h <;> simp_all
  supply_lt_of_read {n deadline p p' bytes} _ h := by
    unfold readAvailable at h
    split at h
    · simp at h
    · obtain ⟨-, rfl⟩ := Prod.mk.inj h
      simp_all
    · simp at h

end ScriptedLink

end FramedLink
