import FramedLink.Program
import FramedLink.Proofs.HeaderCodec
import FramedLink.Proofs.Ledger
import FramedLink.Proofs.Timeouts
import Mathlib.Control.Monad.Basic

set_option autoImplicit false
set_option relaxedAutoImplicit false

/-!
# The checked reset

A checked reset pings the device first, and goes on only if the ping has been answered. What it
leaves in the outbound stream is a part of two frames, whatever the other end does: first a
beginning of the frame of the ping, then a beginning of the frame of the reset. **The second part is
empty unless the first is the whole frame and has been acknowledged,** by a frame whose check fits
and that echoes the number of the ping, and no such frame before it has been received as a refusal.

The acknowledgement need not be there before the deadline. What is certain is that its last bytes
come with a read that begins before the deadline. That read may last until the shortest slice is
over, and the device is reset all the same.

## Main definitions

* `FramedLink.Device.commandFrame` — the frame of a command.
* `FramedLink.Device.Acknowledged` — a ping has been acknowledged.
* `FramedLink.Device.GuardedReset` — what a checked reset does with a device.
* `FramedLink.Target.ResetGuarded` — what it leaves behind.

## Main results

* `FramedLink.Device.ping_spec`, `FramedLink.Device.reset_spec` — the two operations.
* `FramedLink.Command.checkedReset_guarded` — the command, from its arguments to its exit code.
* `FramedLink.Program.run_guarded` — the program, from its command line to its exit code.
* `FramedLink.Command.checkedReset_late` — a device that is reset although it answers too late.
-/

namespace FramedLink

open Link (Ledger Writes)
open Link.Ledger (taken)

namespace Device

variable {σ : Type} [Link σ]

/-! ## Commands without a payload -/

/-- The header of a command that has the number `sequence`. -/
def commandHeader (messageType : MessageType) (sequence : UInt16) : FrameHeader :=
  let blank : FrameHeader :=
    { length := UInt16.ofNat headerSize
      version := protocolVersion
      sequence
      messageType
      crc := 0 }
  { blank with crc := blank.computeCrc [] }

/-- The frame of a command that has the number `sequence`. -/
def commandFrame (messageType : MessageType) (sequence : UInt16) : List UInt8 :=
  frameBytes (commandHeader messageType sequence) []

/-- The sending of a command is the sending of its frame. -/
lemma sendUntil_command (d : Device σ) (messageType : MessageType) (deadline : Deadline) :
    d.sendUntil messageType [] deadline =
      (({ d with sequence := d.sequence + 1 } : Device σ).sendFrameUntil
        (commandHeader messageType d.sequence) [] deadline).finish
        (fun _ => d.sequence) fun _ => [] :=
  rfl

/-! ## The ping -/

/-- What a ping waits for. -/
def pingExpectation (d : Device σ) : Expectation :=
  ⟨d.sequence, replyTypes, d.config.maxPayloadSize⟩

/-- The link behind the frame of a ping, where the wait for its reply starts. -/
def pingSent (d : Device σ) (timeout : Nat) : σ :=
  (d.sendUntil .ping [] (d.deadlineAfter timeout)).device.link

section Ledger

variable [Ledger σ]

/-- The ping of `d` with this timeout has been acknowledged. -/
structure Acknowledged (d : Device σ) (timeout : Nat) : Prop where
  /-- The wait for its reply has received a frame that passes all checks, the fitting check and the
  number of the ping among them, and that is an acknowledgement. -/
  acked : ∃ start raw payload,
    Link.Starts d.pingExpectation (d.deadlineAfter timeout) (d.pingSent timeout) start ∧
      Link.Receives (d.deadlineAfter timeout) start raw payload (d.ping timeout).device.link ∧
      d.pingExpectation.Meets raw payload ∧ (FrameHeader.ofBytes raw).messageType = .ack
  /-- It has received none that passes all checks and is a refusal. -/
  not_refused : ∀ start raw payload link',
    Link.Starts d.pingExpectation (d.deadlineAfter timeout) (d.pingSent timeout) start →
      Link.Receives (d.deadlineAfter timeout) start raw payload link' →
      d.pingExpectation.Meets raw payload → (FrameHeader.ofBytes raw).messageType ≠ .nack
  /-- The read that has completed the acknowledgement began before the deadline. When it ended, the
  deadline may have passed, but not by more than a read may outlast it. -/
  inTime : Link.InTime (d.deadlineAfter timeout) (d.ping timeout).device.link

/-- **What the sending of a command does:** the link takes bytes from the front of its frame, and
the next frame gets the next number. -/
lemma writes_sendUntil (d : Device σ) (messageType : MessageType) (deadline : Deadline) :
    let sent := d.sendUntil messageType [] deadline
    Writes d.link sent.device.link (commandFrame messageType d.sequence)
        (sent.result.isOk = true) ∧
      sent.device.sequence = d.sequence + 1 ∧ sent.device.config = d.config ∧
      ∀ sequence, sent.result = .ok sequence → sequence = d.sequence := by
  intro sent
  simp only [sent, sendUntil_command, Run.device_finish, Run.result_finish]
  unfold sendFrameUntil
  rcases hlink : Link.sendFrame (commandHeader messageType d.sequence) [] deadline d.link with
    ⟨e | _, link⟩
  all_goals obtain ⟨piece, hpiece, hfront, hall⟩ := Link.writes_sendFrame hlink
  · exact ⟨⟨piece, hpiece, hfront, nofun⟩, rfl, rfl, nofun⟩
  · refine ⟨⟨piece, hpiece, hfront, fun _ => hall rfl⟩, rfl, rfl, fun sequence hsequence => ?_⟩
    exact (Except.ok.inj hsequence).symm

/-- An answered ping has been acknowledged. -/
lemma acknowledged_of_matched {d : Device σ} {timeout : Nat} {reply : Reply}
    (hresult : (Link.awaitReply d.pingExpectation (d.deadlineAfter timeout)
      (d.pingSent timeout)).result = .ok (.matched reply))
    (hlink : (Link.awaitReply d.pingExpectation (d.deadlineAfter timeout)
      (d.pingSent timeout)).link = (d.ping timeout).device.link)
    (hack : reply.messageType = .ack) : d.Acknowledged timeout := by
  obtain ⟨start, hstart, haccepted⟩ := Link.awaitReply_matched hresult
  rw [hlink] at haccepted
  obtain ⟨raw, hreceives, hmeets, hkind⟩ := Link.attempt_accepted_iff.mp haccepted
  refine ⟨⟨start, raw, reply.payload, hstart, hreceives, hmeets, hkind ▸ hack⟩, ?_,
    Link.inTime_of_attempt_accepted hstart haccepted⟩
  intro start' raw' payload' link' hstart' hreceives' hmeets' hnack
  -- any frame that passes all checks would be the reply of the wait
  have haccepted' := Link.attempt_accepted_iff.mpr
    ⟨raw', hreceives', hmeets', (rfl : (⟨_, payload'⟩ : Reply).messageType = _)⟩
  have hresult' := Link.awaitReply_of_accepted hstart' haccepted'
  rw [hresult] at hresult'
  obtain rfl := WaitOutcome.matched.inj (Except.ok.inj hresult')
  rw [show (FrameHeader.ofBytes raw').messageType = .ack from hack] at hnack
  cases hnack

/-- **What a ping does:** the link takes bytes from the front of its frame, all of them if the
device answers; and then it has acknowledged the ping.

**Proof sketch.** A ping is a request, and a request ends in one of three ways. If its frame is not
sent in time, or the link fails, the ping does not succeed. Otherwise the frame is sent in full, the
wait behind it writes nothing, and the ping succeeds only if this wait ends with an acknowledgement.
-/
theorem ping_spec (d : Device σ) (timeout : Nat) :
    Writes d.link (d.ping timeout).device.link (commandFrame .ping d.sequence)
        ((d.ping timeout).result = .ok true) ∧
      (d.ping timeout).device.sequence = d.sequence + 1 ∧
      ((d.ping timeout).result = .ok true → d.Acknowledged timeout) := by
  obtain ⟨⟨piece, hpiece, hfront, hall⟩, hnumber, hconfig, hsequence⟩ :=
    d.writes_sendUntil .ping (d.deadlineAfter timeout)
  have hresult : (d.ping timeout).result =
      (d.request .ping [] timeout).result.map (·.messageType? == some .ack) :=
    Run.result_finish ..
  have hdevice : (d.ping timeout).device = (d.request .ping [] timeout).device :=
    Run.device_finish ..
  obtain ⟨-, hrun⟩ | ⟨e, -, -, hrun⟩ | ⟨sequence, hsent, hrun⟩ :=
    d.request_cases .ping [] timeout <;> rw [hrun] at hresult hdevice
  · -- the frame is not sent in time
    rw [hresult, hdevice]
    exact ⟨⟨piece, hpiece, hfront, nofun⟩, hnumber, nofun⟩
  · -- the link fails
    rw [hresult, hdevice]
    exact ⟨⟨piece, hpiece, hfront, nofun⟩, hnumber, nofun⟩
  · obtain rfl := hsequence sequence hsent
    rw [hsent] at hall
    rw [waitUntil, hconfig, Link.awaitInto_eq] at hresult hdevice
    have hlink : (Link.awaitReply d.pingExpectation (d.deadlineAfter timeout)
        (d.pingSent timeout)).link = (d.ping timeout).device.link := by
      rw [hdevice]
      rfl
    have htaken := (Link.chains_taken (d.deadlineAfter timeout)).awaitReply d.pingExpectation
      (d.pingSent timeout)
    rw [hlink] at htaken
    refine ⟨⟨piece, htaken.trans hpiece, hfront, fun _ => hall rfl⟩, ?_, fun halive => ?_⟩
    · rw [hdevice]
      exact hnumber
    · rw [hresult] at halive
      obtain ⟨outcome, houtcome, hack⟩ := map_eq_ok_iff.mp halive
      cases outcome with
      | timedOut => cases hack
      | matched reply =>
        exact acknowledged_of_matched houtcome hlink (Option.some.inj (eq_of_beq hack))

/-! ## The reset -/

/-- **What a reset does:** the link takes bytes from the front of its frame, all of them if the
reset succeeds. -/
theorem reset_spec (d : Device σ) (timeout : Nat) :
    Writes d.link (d.reset timeout).device.link (commandFrame .exit d.sequence)
      ((d.reset timeout).result = .ok ()) := by
  obtain ⟨⟨piece, hpiece, hfront, hall⟩, -⟩ := d.writes_sendUntil .exit (d.deadlineAfter timeout)
  rw [reset, Run.device_finish, Run.result_finish]
  refine ⟨piece, hpiece, hfront, fun hok => hall ?_⟩
  obtain ⟨sequence, hsent, -⟩ := map_eq_ok_iff.mp hok
  change (d.sendUntil .exit [] (d.deadlineAfter timeout)).result = .ok sequence at hsent
  rw [hsent]
  rfl

end Ledger

end Device

/-! ## Exit codes -/

/-- Only a success is reported as zero. -/
lemma ExitStatus.code_eq_zero_iff {status : ExitStatus} : status.code = 0 ↔ status = .success := by
  cases status <;> decide

namespace Failure

variable (context : String)

/-- No failure is reported as a success. -/
lemma status_ofIo (e : IoError) : (ofIo context e).status ≠ .success := by
  unfold ofIo
  dsimp only
  split <;> decide

/-- Nor is a failure of the link. -/
lemma status_ofLink (e : LinkError) : (ofLink context e).status ≠ .success := by
  cases e with
  | connect _ source => exact status_ofIo context source
  | io source => exact status_ofIo context source
  | _ => exact nofun

/-- Nor is a failure of the device. -/
lemma status_ofDevice (e : DeviceError) : (ofDevice context e).status ≠ .success := by
  cases e with
  | link source => exact status_ofLink context source
  | frame source =>
    cases source with
    | link source => exact status_ofLink context source
    | _ => exact nofun

end Failure

/-- No connection that fails is reported as a success. -/
lemma Target.status_of_connect_eq_error {σ : Type} [Link σ] {network : Network σ} {t : Target}
    {failure : Failure} (h : (t.connect network).1 = .error failure) :
    failure.status ≠ .success := by
  have hopened {r : Except LinkError σ}
      (h : (r.mapError (Failure.ofLink "connect failed")).map (Device.ofLink · {}) =
        .error failure) : failure.status ≠ .success := by
    cases r with
    | ok link => cases h
    | error e => cases h; exact Failure.status_ofLink _ e
  unfold connect at h
  dsimp only at h
  split at h
  · split at h
    · cases h
      exact nofun
    · exact hopened h
  · exact hopened h

/-! ## The command -/

section Commands

variable {σ : Type} [Link σ] [Ledger σ]

/-- What a checked reset of `d` does, if it ends with `exitCode`, `final` is the link afterwards,
and the bytes `pinged` and then `reset` have been taken on the way. -/
structure Device.GuardedReset (d : Device σ) (timeout exitCode : Nat) (final : σ)
    (pinged reset : List UInt8) : Prop where
  /-- The bytes `pinged` have been taken by the end of the ping. -/
  taken_ping : taken (d.ping timeout).device.link = taken d.link ++ pinged
  /-- The bytes `reset` have been taken after the ping, and no others. -/
  taken_final : taken final = taken d.link ++ pinged ++ reset
  /-- The first part is a beginning of the frame of the ping. -/
  ping_front : pinged <+: commandFrame .ping d.sequence
  /-- The second part is a beginning of the frame of the reset, with the next number. -/
  reset_front : reset <+: commandFrame .exit (d.sequence + 1)
  /-- There is a second part only behind all of the first, which has been acknowledged. -/
  guarded : reset ≠ [] → pinged = commandFrame .ping d.sequence ∧
    (d.ping timeout).result = .ok true ∧ d.Acknowledged timeout
  /-- If the device does not answer, the command ends with the code of a timeout, and without a
  second part. -/
  silent : (d.ping timeout).result = .ok false → exitCode = 124 ∧ reset = []
  /-- If the command succeeds, both frames have been taken. -/
  complete : exitCode = 0 →
    pinged = commandFrame .ping d.sequence ∧ reset = commandFrame .exit (d.sequence + 1)
  /-- It succeeds exactly if the device answers and the reset can be sent. -/
  succeeds_iff : exitCode = 0 ↔
    (d.ping timeout).result = .ok true ∧ ((d.ping timeout).device.reset timeout).result = .ok ()

/-- If the ping is not answered, it is enough to leave it at that and to report a failure. -/
lemma Device.guardedReset_of_unanswered {d : Device σ} {timeout exitCode : Nat}
    (hping : (d.ping timeout).result ≠ .ok true) (hfails : exitCode ≠ 0)
    (hsilent : (d.ping timeout).result = .ok false → exitCode = 124) :
    ∃ pinged, d.GuardedReset timeout exitCode (d.ping timeout).device.link pinged [] := by
  obtain ⟨⟨pinged, hpinged, hfront, -⟩, -⟩ := d.ping_spec timeout
  exact ⟨pinged, {
    taken_ping := hpinged
    taken_final := hpinged.trans (List.append_nil _).symm
    ping_front := hfront
    reset_front := List.nil_prefix
    guarded := fun h => absurd rfl h
    silent := fun h => ⟨hsilent h, rfl⟩
    complete := fun hzero => absurd hzero hfails
    succeeds_iff := iff_of_false hfails fun h => hping h.1 }⟩

/-- If the ping is answered, it is enough to reset the device and to report whether that fails. -/
lemma Device.guardedReset_of_answered {d : Device σ} {timeout exitCode : Nat}
    (hping : (d.ping timeout).result = .ok true)
    (hcode : exitCode = 0 ↔ ((d.ping timeout).device.reset timeout).result = .ok ()) :
    ∃ pinged reset, d.GuardedReset timeout exitCode
      ((d.ping timeout).device.reset timeout).device.link pinged reset := by
  obtain ⟨⟨pinged, hpinged, hpingFront, hpingAll⟩, hnumber, hacknowledged⟩ := d.ping_spec timeout
  obtain ⟨reset, hreset, hresetFront, hresetAll⟩ := (d.ping timeout).device.reset_spec timeout
  rw [hnumber] at hresetFront hresetAll
  exact ⟨pinged, reset, {
    taken_ping := hpinged
    taken_final := hpinged ▸ hreset
    ping_front := hpingFront
    reset_front := hresetFront
    guarded := fun _ => ⟨hpingAll hping, hping, hacknowledged hping⟩
    silent := fun hsilent => by
      rw [hping] at hsilent
      cases hsilent
    complete := fun hzero => ⟨hpingAll hping, hresetAll (hcode.mp hzero)⟩
    succeeds_iff := hcode.trans (and_iff_right hping).symm }⟩

/-- A checked reset of a device is guarded by the ping.

**Proof sketch.** The result of the ping decides. If it fails or is not answered, nothing more is
sent, and the exit code is not zero. If it is answered, a reset follows, whose result decides on the
exit code. -/
theorem executeCheckedReset_guarded (format : Format) (t : Target) (timeout : Nat)
    (d : Device σ) :
    let run := executeCheckedReset format t timeout d
    ∃ final pinged reset, run.link = some final ∧
      d.GuardedReset timeout run.exitCode final pinged reset := by
  intro run
  unfold run executeCheckedReset Device.Run.report
  rcases hping : (d.ping timeout).result with e | alive
  · -- the ping fails
    have hfails := mt ExitStatus.code_eq_zero_iff.mp (Failure.status_ofDevice "ping failed" e)
    have hsilent : (d.ping timeout).result ≠ .ok true := by simp [hping]
    obtain ⟨pinged, h⟩ := Device.guardedReset_of_unanswered hsilent hfails (by simp [hping])
    exact ⟨_, pinged, [], rfl, h⟩
  cases alive with
  | false =>
    have hfails : ExitStatus.timeout.code ≠ 0 := by decide
    have hsilent : (d.ping timeout).result ≠ .ok true := by simp [hping]
    obtain ⟨pinged, h⟩ := Device.guardedReset_of_unanswered hsilent hfails fun _ => rfl
    exact ⟨_, pinged, [], rfl, h⟩
  | true =>
    simp only [if_true]
    unfold executeReset Device.Run.report
    rcases hreset : ((d.ping timeout).device.reset timeout).result with e | _
    · -- the reset fails
      have hfails := mt ExitStatus.code_eq_zero_iff.mp (Failure.status_ofDevice "reset failed" e)
      obtain ⟨pinged, reset, h⟩ :=
        Device.guardedReset_of_answered hping (iff_of_false hfails (by simp [hreset]))
      exact ⟨_, pinged, reset, rfl, h⟩
    · obtain ⟨pinged, reset, h⟩ := Device.guardedReset_of_answered hping (iff_of_true rfl hreset)
      exact ⟨_, pinged, reset, rfl, h⟩

/-- What a checked reset leaves behind that ends with `exitCode` and with this link. -/
inductive Target.ResetGuarded (network : Network σ) (t : Target) (exitCode : Nat)
    (link : Option σ) : Prop
  /-- There is no connection, and the command fails. -/
  | unconnected {failure : Failure} (reason : Argument.timeout t.timeout = .error failure ∨
      (t.connect network).1 = .error failure) (unlinked : link = none) (fails : exitCode ≠ 0)
  /-- There is a connection to the device `d`, which is reset only if it answers. -/
  | connected {timeout : Nat} {d : Device σ} {final : σ} {pinged reset : List UInt8}
      (accepted : Argument.timeout t.timeout = .ok timeout)
      (found : (t.connect network).1 = .ok d) (linked : link = some final)
      (guarded : d.GuardedReset timeout exitCode final pinged reset)

omit [Ledger σ] in
/-- **All that a checked reset can do:** there is no connection, or it works with the device at the
other end.

**Proof sketch.** The timeout is read first, and then the connection is made. If one of the two
fails, there is no link and no success. -/
lemma Command.checkedReset_cases (network : Network σ) (build : Build) (format : Format)
    (t : Target) :
    let run := (Command.reset t true).execute network build format
    (∃ failure, (Argument.timeout t.timeout = .error failure ∨
        (t.connect network).1 = .error failure) ∧ run.link = none ∧ run.exitCode ≠ 0) ∨
      ∃ timeout d, Argument.timeout t.timeout = .ok timeout ∧ (t.connect network).1 = .ok d ∧
        run.link = (executeCheckedReset format t timeout d).link ∧
        run.exitCode = (executeCheckedReset format t timeout d).exitCode := by
  intro run
  rcases htimeout : Argument.timeout t.timeout with failure | timeout
  · -- the timeout is not accepted
    have hrun : run = { result := .error failure } := by
      simp only [run, execute, job, htimeout]
      rfl
    refine .inl ⟨failure, .inl rfl, by rw [hrun], fun hzero => ?_⟩
    rw [hrun] at hzero
    exact absurd (ExitStatus.code_eq_zero_iff.mp hzero)
      (Argument.status_of_timeout_eq_error htimeout ▸ nofun)
  · have hrun : run = t.withDevice network (executeCheckedReset format t timeout) := by
      simp only [run, execute, job, htimeout]
      rfl
    unfold Target.withDevice at hrun
    rcases hconnect : t.connect network with ⟨failure | d, events⟩ <;> rw [hconnect] at hrun
    · -- there is no connection
      refine .inl ⟨failure, .inr rfl, by rw [hrun], fun hzero => ?_⟩
      rw [hrun] at hzero
      exact absurd (ExitStatus.code_eq_zero_iff.mp hzero)
        (Target.status_of_connect_eq_error (congrArg Prod.fst hconnect))
    · -- what happened while connecting changes neither the link nor the exit code
      exact .inr ⟨timeout, d, rfl, rfl, by rw [hrun], by rw [hrun]; rfl⟩

/-- **A checked reset never resets a device that is silent or refuses.** Either there is no
connection, and the command fails; or it works with the device `d` that is at the other end, and is
guarded by the ping, whatever that device and the link to it do. -/
theorem Command.checkedReset_guarded (network : Network σ) (build : Build) (format : Format)
    (t : Target) :
    let run := (Command.reset t true).execute network build format
    t.ResetGuarded network run.exitCode run.link := by
  intro run
  obtain ⟨failure, hreason, hlink, hfails⟩ | ⟨timeout, d, haccepted, hfound, hlink, hcode⟩ :=
    checkedReset_cases network build format t
  · exact .unconnected hreason hlink hfails
  · obtain ⟨final, pinged, reset, hfinal, h⟩ := executeCheckedReset_guarded format t timeout d
    exact .connected haccepted hfound (hlink.trans hfinal) (hcode ▸ h)

/-- **The program never resets a device that is silent or refuses,** if its command line asks for a
checked reset. This holds over links of every kind, also over the record of a live link. -/
theorem Program.run_guarded (network : Network σ) (build : Build) {args : List String}
    {envAddr : Option String} {i : Invocation} {t : Target}
    (hparse : Invocation.parse args envAddr = .ok i) (hcommand : i.command = .reset t true) :
    let run := Program.run network build args envAddr
    t.ResetGuarded network run.exitCode run.link := by
  intro run
  have hrun :
      run.link = ((Command.reset t true).execute network build (i.format.getD .default)).link ∧
      run.exitCode =
        ((Command.reset t true).execute network build (i.format.getD .default)).exitCode := by
    simp only [run, Program.run, hparse, hcommand, and_self]
  rw [hrun.1, hrun.2]
  obtain ⟨failure, hreason, hlink, hfails⟩ | ⟨timeout, d, haccepted, hfound, hlink, hcode⟩ :=
    Command.checkedReset_cases network build (i.format.getD .default) t
  · exact .unconnected hreason hlink hfails
  · obtain ⟨final, pinged, reset, hfinal, h⟩ :=
      executeCheckedReset_guarded (i.format.getD .default) t timeout d
    exact .connected haccepted hfound (hlink.trans hfinal) (hcode ▸ h)

end Commands

/-! ## Some devices -/

/-- A device that answers whatever it is asked with these bytes, at once. -/
def Device.answering (replies : List UInt8) : Device StreamLink :=
  .ofLink ⟨{ reads := [.data replies] }, {}⟩ {}

/-- A network with this device at all local sockets, and with nothing else. -/
def Device.network (d : Device StreamLink) : Network StreamLink where
  dialSocket := some fun _ => .ok d.link
  resolve _ _ := .ok []
  dial _ := .error ⟨.notFound, none⟩

/-- A local socket. -/
def Target.socket : Target := ⟨"s", true, "1s"⟩

/-- A build for an unknown machine. -/
def Build.anywhere : Build := { target := "", targetSystem := "", targetMachine := "" }

/-- A checked reset of this device. -/
def Device.checkedReset (d : Device StreamLink) : Execution StreamLink :=
  (Command.reset .socket true).execute d.network .anywhere .json

/-- The frame that acknowledges a ping with the number zero. -/
def acknowledgement : List UInt8 := [115, 10, 0, 0, 2, 0, 160, 70, 222, 0, 0]

/-- The frame that refuses a ping with the number zero. -/
def refusal : List UInt8 := [115, 10, 0, 0, 2, 0, 183, 200, 189, 0, 0]

/-- A device that first refuses another frame and then acknowledges the ping. -/
def acknowledgingDevice : Device StreamLink :=
  .answering ([115, 10, 0, 0, 2, 0, 183, 95, 36, 7, 0] ++ acknowledgement)

/-- A device that refuses the ping. -/
def refusingDevice : Device StreamLink := .answering refusal

/-- The first of the two is reset, the second is not. -/
theorem Command.checkedReset_answering :
    (acknowledgingDevice.checkedReset.exitCode = 0 ∧
      acknowledgingDevice.checkedReset.link.map (·.stream.outbound) =
        some #[115, 8, 0, 0, 0, 0, 1, 234, 41, 115, 8, 0, 0, 1, 0, 18, 136, 153] ∧
      acknowledgingDevice.Acknowledged (seconds 1)) ∧
    refusingDevice.checkedReset.exitCode = 124 ∧
      refusingDevice.checkedReset.link.map (·.stream.outbound) =
        some #[115, 8, 0, 0, 0, 0, 1, 234, 41] := by
  have hcode : acknowledgingDevice.checkedReset.exitCode = 0 := by decide +kernel
  refine ⟨⟨hcode, by decide +kernel, ?_⟩, by decide +kernel, by decide +kernel⟩
  cases checkedReset_guarded acknowledgingDevice.network .anywhere .json .socket with
  | unconnected _ _ hfails => exact absurd hcode hfails
  | connected haccepted hfound _ h =>
    have hsecond : Argument.timeout "1s" = .ok (seconds 1) := by decide +kernel
    obtain rfl := Except.ok.inj (hsecond.symm.trans haccepted)
    have hsocket : (Target.socket.connect acknowledgingDevice.network).1 =
        .ok acknowledgingDevice := rfl
    obtain rfl := Except.ok.inj (hsocket.symm.trans hfound)
    refine (h.guarded ?_).2.2
    rw [(h.complete hcode).2]
    exact List.cons_ne_nil _ _

/-- A device whose acknowledgement ends half a millisecond after it was waited for, by a read that
begins fifty microseconds before the end of the first second. -/
def lateDevice : Device StreamLink :=
  .ofLink ⟨{
    reads := [.data acknowledgement]
    pauses := [0, 0, 0, 0, 500000]
    ticks := [0, 0, 0, 0, 0, 0, 0, 0, 999950000] }, {}⟩ {}

/-- A device that first begins a frame and spoils it by a damaged pair, then refuses the ping, and
acknowledges it all the same. -/
def garbledDevice : Device StreamLink :=
  .answering ([115, 10, 120, 66] ++ refusal ++ acknowledgement)

/-- **Two devices are reset that should not be:** one whose acknowledgement comes after the timeout
of one second, and one whose refusal is lost behind a damaged pair. -/
theorem Command.checkedReset_late :
    ((lateDevice.deadlineAfter (seconds 1)).instant = 1000000000 ∧
      Ledger.began (lateDevice.ping (seconds 1)).device.link = 999950000 ∧
      Ledger.ended (lateDevice.ping (seconds 1)).device.link = 1000450000 ∧
      lateDevice.checkedReset.exitCode = 0 ∧
      lateDevice.checkedReset.link.map (·.stream.outbound) =
        some #[115, 8, 0, 0, 0, 0, 1, 234, 41, 115, 8, 0, 0, 1, 0, 18, 136, 153]) ∧
    garbledDevice.checkedReset.exitCode = 0 ∧
      garbledDevice.checkedReset.link.map (·.stream.outbound) =
        some #[115, 8, 0, 0, 0, 0, 1, 234, 41, 115, 8, 0, 0, 1, 0, 18, 136, 153] := by
  decide +kernel

end FramedLink
