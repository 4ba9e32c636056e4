import FramedLink.Link.ByteStream
import Mathlib.Tactic.Lemma

set_option autoImplicit false
set_option relaxedAutoImplicit false

/-!
# What the calls of a stream have in common

Whatever a call to a stream does, the log of calls grows, the clock does not run backwards and what
has been called off stays so. A reading of the clock ends the log with the instant that is shown;
**every other call ends it with something else.** How the log ends therefore tells what kind of call
was the last one.

## Main definitions

* `FramedLink.ByteStream.Precedes` — a stream before and after some calls.
* `FramedLink.ByteStream.Acts` — a stream before and after some calls, the last of which was not a
  reading of the clock.
* `FramedLink.ByteStream.SettingsSucceed` — the time limits of a stream can be set.

## Main results

* `FramedLink.ByteStream.acts_setTimeout`, `FramedLink.ByteStream.acts_read`,
  `FramedLink.ByteStream.acts_write`, `FramedLink.ByteStream.acts_flush` — the calls that are no
  readings of the clock.
* `FramedLink.ByteStream.readClock_spec` — a reading of the clock.
-/

namespace FramedLink

namespace ByteStream

/-- The time limits of a stream can be set. -/
def SettingsSucceed (s : ByteStream) : Prop := ∀ f ∈ s.settings, f = none

/-- A stream before and after some calls. -/
structure Precedes (s s' : ByteStream) : Prop where
  /-- The log only grows. -/
  calls : s.calls.toList <+: s'.calls.toList
  /-- What has been called off stays so. -/
  active : s'.cancelled = false → s.cancelled = false
  /-- The clock does not run backwards. -/
  now : s.now ≤ s'.now
  /-- If time limits could be set, they still can. -/
  settings : s.SettingsSucceed → s'.SettingsSucceed

/-- A stream before and after some calls, of which the last one was not a reading of the clock. -/
structure Acts (s s' : ByteStream) : Prop extends Precedes s s' where
  /-- The last call. -/
  last : ∃ before call, s'.calls.toList = s.calls.toList ++ before ++ [call] ∧
    ∀ now, call ≠ .clock now

variable {s s' s'' : ByteStream}

/-- No call changes nothing. -/
lemma Precedes.refl (s : ByteStream) : s.Precedes s :=
  ⟨List.prefix_refl _, id, Nat.le_refl _, id⟩

/-- Calls followed by calls. -/
lemma Precedes.trans (h : s.Precedes s') (h' : s'.Precedes s'') : s.Precedes s'' :=
  ⟨h.calls.trans h'.calls, h.active ∘ h'.active, Nat.le_trans h.now h'.now,
    h'.settings ∘ h.settings⟩

/-- Any calls, followed by calls of which the last one was not a reading of the clock. -/
lemma Precedes.acts (h : s.Precedes s') (h' : s'.Acts s'') : s.Acts s'' := by
  obtain ⟨before, call, hcalls, hcall⟩ := h'.last
  obtain ⟨between, hbetween⟩ := h.calls
  refine ⟨h.trans h'.toPrecedes, between ++ before, call, ?_, hcall⟩
  rw [hcalls, ← hbetween]
  simp only [List.append_assoc]

/-- Two such sequences of calls, one after the other. -/
lemma Acts.acts (h : s.Acts s') (h' : s'.Acts s'') : s.Acts s'' := h.toPrecedes.acts h'

/-- What a call leaves of the scripts of reads, writes and flushes does not matter here. -/
lemma Acts.congr (h : s.Acts s') (hcalls : s''.calls = s'.calls)
    (hcancelled : s''.cancelled = s'.cancelled) (hnow : s''.now = s'.now)
    (hsettings : s'.SettingsSucceed → s''.SettingsSucceed) : s.Acts s'' := by
  obtain ⟨⟨hgrown, hactive, hle, hset⟩, hlast⟩ := h
  rw [← hcalls] at hgrown hlast
  rw [← hcancelled] at hactive
  rw [← hnow] at hle
  exact ⟨⟨hgrown, hactive, hle, hsettings ∘ hset⟩, hlast⟩

/-- What the last call waits for is part of it. -/
lemma Acts.pause (h : s.Acts s') : s.Acts s'.pause :=
  ⟨⟨h.calls, h.active, Nat.le_trans h.now (Nat.le_add_right _ _), h.settings⟩, h.last⟩

/-- A call that is entered into the log. -/
lemma acts_note (s : ByteStream) (call : Call) (hcall : ∀ now, call ≠ .clock now) :
    s.Acts (s.note call) :=
  ⟨⟨by simp [note], id, Nat.le_refl _, id⟩, [], call, by simp [note], hcall⟩

/-- A call that fails. -/
lemma acts_fail (s : ByteStream) (f : Fault) : s.Acts (s.fail f).2 := by
  have h := s.acts_note (.failed f) (by simp)
  cases f with
  | error kind => exact h
  | cancel => exact ⟨⟨h.calls, by simp [fail], h.now, h.settings⟩, h.last⟩
  | block => exact ⟨⟨h.calls, h.active, Nat.le_add_right _ _, h.settings⟩, h.last⟩

/-- The last call may fail. -/
lemma Acts.fail (h : s.Acts s') (f : Fault) : s.Acts (s'.fail f).2 := h.acts (s'.acts_fail f)

/-- The setting of a time limit. -/
lemma acts_setTimeout (s : ByteStream) {call : Call} (span : Nat)
    (hcall : ∀ now, call ≠ .clock now) : s.Acts (s.setTimeout call span).2 := by
  have h := s.acts_note call hcall
  have htail (f : Option Fault) (settings : List (Option Fault))
      (hs : s.settings = f :: settings) (hset : s.SettingsSucceed) : ∀ f ∈ settings, f = none :=
    fun f hf => hset f (by rw [hs]; exact List.mem_cons_of_mem _ hf)
  unfold setTimeout
  dsimp only
  split
  · exact h.congr rfl rfl rfl id
  · next settings hs => exact h.congr rfl rfl rfl (htail none settings hs)
  · next f settings hs =>
    refine Acts.fail ?_ f
    exact h.congr rfl rfl rfl (htail (some f) settings hs)

/-- A read. -/
lemma acts_read (s : ByteStream) (n : Nat) : s.Acts (s.read n).2 := by
  have h := s.acts_note (.read n) (by simp)
  unfold read
  dsimp only
  split
  · exact h.pause
  · refine Acts.pause ?_
    exact h.congr rfl rfl rfl id
  · next f reads hs =>
    refine Acts.fail ?_ f
    exact h.congr rfl rfl rfl id

/-- A write. -/
lemma acts_write (s : ByteStream) (data : List UInt8) : s.Acts (s.write data).2 := by
  have h := s.acts_note (.write data) (by simp)
  unfold write
  dsimp only
  split
  · refine Acts.pause ?_
    exact h.congr rfl rfl rfl id
  · refine Acts.pause ?_
    exact h.congr rfl rfl rfl id
  · next f writes hs =>
    refine Acts.fail ?_ f
    exact h.congr rfl rfl rfl id

/-- A flush. -/
lemma acts_flush (s : ByteStream) : s.Acts s.flush.2 := by
  have h := s.acts_note .flush (by simp)
  unfold flush
  dsimp only
  split
  · exact h
  · exact h.congr rfl rfl rfl id
  · next f flushes hs =>
    refine Acts.fail ?_ f
    exact h.congr rfl rfl rfl id

/-- The clock shows what it has been read to show, and the reading is the last call. -/
lemma readClock_spec (s : ByteStream) :
    s.Precedes s.readClock.2 ∧ s.readClock.2.now = s.readClock.1 ∧
      s.readClock.2.cancelled = s.cancelled ∧
      s.readClock.2.calls.toList = s.calls.toList ++ [.clock s.readClock.1] := by
  have hle : s.now ≤ s.readClock.1 := Nat.le_trans (Nat.le_add_right _ _) (Nat.le_add_right _ _)
  have hcalls : s.readClock.2.calls.toList = s.calls.toList ++ [.clock s.readClock.1] := by
    simp [readClock, note]
  exact ⟨⟨hcalls ▸ List.prefix_append _ _, id, hle, id⟩, rfl, rfl, hcalls⟩

/-- A time limit that can be set is set. -/
lemma fst_setTimeout (h : s.SettingsSucceed) (call : Call) (span : Nat) :
    (s.setTimeout call span).1 = .ok () := by
  unfold setTimeout
  dsimp only
  split
  · rfl
  · rfl
  · next f settings hs =>
    have hf : some f = none := h (some f) (by
      rw [show s.settings = some f :: settings from hs]
      exact List.mem_cons_self)
    cases hf

/-! ## The script of flushes -/

/-- A reading of the clock is no flush. -/
@[simp] lemma flushes_readClock (s : ByteStream) : s.readClock.2.flushes = s.flushes := rfl

/-- A wait is no flush. -/
@[simp] lemma flushes_pause (s : ByteStream) : s.pause.flushes = s.flushes := rfl

/-- The setting of a time limit is no flush. -/
@[simp] lemma flushes_setTimeout (s : ByteStream) (call : Call) (span : Nat) :
    (s.setTimeout call span).2.flushes = s.flushes := by
  unfold setTimeout note
  dsimp only
  split <;> simp

/-- A write is no flush. -/
@[simp] lemma flushes_write (s : ByteStream) (data : List UInt8) :
    (s.write data).2.flushes = s.flushes := by
  unfold write note
  dsimp only
  split <;> simp

/-- The kind of the failure that a fault causes. -/
def Fault.kind : Fault → IoErrorKind
  | error kind => kind
  | cancel | block => .wouldBlock

/-- The failure that a fault causes. -/
lemma fst_fail (s : ByteStream) (f : Fault) : (s.fail f).1 = ⟨f.kind, none⟩ := by
  cases f <;> rfl

/-- The failure of the first flush that is not repeated. -/
def decisiveFlush (flushes : List (Option Fault)) : Option Fault :=
  (flushes.find? fun entry => decide (entry ≠ some (.error .interrupted))).join

/-- A flush that is interrupted by a signal is repeated. -/
lemma decisiveFlush_of_kind_eq {f : Fault} (h : f.kind = .interrupted)
    (flushes : List (Option Fault)) :
    decisiveFlush (some f :: flushes) = decisiveFlush flushes := by
  cases f with
  | error kind =>
    obtain rfl : kind = .interrupted := h
    rfl
  | _ => cases h

/-- A flush that fails in another way is not repeated. -/
lemma decisiveFlush_of_kind_ne {f : Fault} (h : f.kind ≠ .interrupted)
    (flushes : List (Option Fault)) : decisiveFlush (some f :: flushes) = some f := by
  have hf : some f ≠ some (.error .interrupted) := by
    rintro ⟨⟩
    exact h rfl
  rw [decisiveFlush, List.find?_cons_of_pos (by simpa using hf)]
  rfl

/-- **All that a flush can do.** -/
lemma flush_cases (s : ByteStream) :
    (s.flush.1 = .ok () ∧ decisiveFlush s.flushes = none) ∨
    ∃ f flushes, s.flushes = some f :: flushes ∧ s.flush.1 = .error ⟨f.kind, none⟩ ∧
      s.flush.2.flushes = flushes := by
  unfold flush note
  dsimp only
  rcases s.flushes with - | ⟨- | f, flushes⟩
  · exact .inl ⟨rfl, rfl⟩
  · exact .inl ⟨rfl, rfl⟩
  · exact .inr ⟨f, flushes, rfl, congrArg Except.error (fst_fail _ f), flushes_fail _ f⟩

end ByteStream

end FramedLink
