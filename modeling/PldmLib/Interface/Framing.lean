/-
# The length of a request of the device

A message of the device goes behind the transport byte, and the caller sends as many bytes of
the buffer as it is told. The responder counts the transport byte; the length of a request of
the device is that of the message alone, so the last byte of every one is left behind.
-/

import PldmLib.FirmwareDevice.Pacing
import PldmLib.Interface.Dispatch
import PldmLib.Interface.Session

namespace PldmLib.Interface

open PldmLib.Machine PldmLib.Protocol PldmLib.Message PldmLib.FirmwareDevice

/-- What the agent gets of a poll: a message that it is sent is there as a whole, behind the
byte that marks it, and no request is recorded that it is not sent. -/
structure Framed (event : InterfaceEvent) (poll : FdEvent) : Prop where
  message : ∀ n, event.output.outcome = .ok (.request (some n)) →
    event.output.msgBuf[0]? = some mctpPldmMsgType ∧
    ∃ count request, poll.output.outcome = .ok (.length count) ∧ poll.sent = some request ∧
      n = 1 + count ∧
      (event.output.msgBuf.take n).drop pldmMsgOffset = poll.output.payload.take count
  silence : event.output.outcome = .ok (.request none) →
    event.output.interface.fdCtx.req = event.before.fdCtx.req

section Calls

variable {profile : Profile} {caps : List ProtocolCapability} {events : List InterfaceEvent}
  {interface : CmdInterface}

/-- A call makes its poll on the bytes behind the first one, which it overwrites. -/
theorem interfaceStep_poll {msgBuf : List UInt8} (room : 1 + pldmMsgHeaderLen ≤ msgBuf.length)
    (ops : FdOps) :
    let polled := FdContext.fdProgress profile ops ⟨interface.fdCtx, msgBuf.drop pldmMsgOffset, []⟩
    interfaceStep profile interface ⟨.generateInitiatorRequest msgBuf, ops⟩ =
      ⟨polled.1.map fun count => .request (if 0 < count then some count else none),
        { interface with fdCtx := polled.2.internal }, mctpPldmMsgType :: polled.2.payload,
        polled.2.log⟩ := by
  intro polled
  have hmarked : constructMctpPldmMsg msgBuf =
      .ok (mctpPldmMsgType :: msgBuf.drop pldmMsgOffset) :=
    if_neg (Nat.not_lt.mpr room)
  have hrule : (InterfaceOperation.run profile ops (.generateInitiatorRequest msgBuf)).wp
      (fun outcome final => outcome = polled.1.map (fun count =>
          .request (if 0 < count then some count else none)) ∧
        final = ⟨{ interface with fdCtx := polled.2.internal },
          mctpPldmMsgType :: polled.2.payload, polled.2.log⟩) ⟨interface, msgBuf, []⟩ := by
    simp only [InterfaceOperation.run]
    rw [Call.wp_map]
    apply generateInitiatorRequest_rule
    · intro error unmarked
      cases hmarked.symm.trans unmarked
    · intro marked same
      obtain rfl := Except.ok.inj (hmarked.symm.trans same)
      rw [InterfaceCall.onFdCtx, Call.wp_on, Call.wp_iff]
      refine ⟨?_, rfl⟩
      show Outcome.map _ (Outcome.map _ polled.1) = _
      cases polled.1 <;> rfl
  simp only [interfaceStep, InterfaceOperation.msgBuf]
  rw [hrule.1, hrule.2]

/-- A buffer without room for a header is refused. -/
theorem interfaceStep_short {msgBuf : List UInt8} (short : ¬ 1 + pldmMsgHeaderLen ≤ msgBuf.length)
    (ops : FdOps) :
    (interfaceStep profile interface ⟨.generateInitiatorRequest msgBuf, ops⟩).outcome =
      .err (.util .invalidMctpPayloadLength) := by
  have hunmarked : constructMctpPldmMsg msgBuf = .error .invalidMctpPayloadLength :=
    if_pos (Nat.lt_of_not_le short)
  have hrule : (InterfaceOperation.run profile ops (.generateInitiatorRequest msgBuf)).wp
      (fun outcome _ => outcome = .err (.util .invalidMctpPayloadLength))
      ⟨interface, msgBuf, []⟩ := by
    simp only [InterfaceOperation.run]
    rw [Call.wp_map]
    apply generateInitiatorRequest_rule
    · intro error unmarked
      obtain rfl := Except.error.inj (hunmarked.symm.trans unmarked)
      rfl
    · intro marked same
      cases hunmarked.symm.trans same
  exact hrule

/-- In every reachable state, whatever the buffer and the platform, a request of the device is
framed exactly when there is none to send. -/
theorem framed_iff_nothing (trace : InterfaceTrace profile caps events interface)
    (msgBuf : List UInt8) (ops : FdOps) :
    Framed (interfaceEvent profile interface ⟨.generateInitiatorRequest msgBuf, ops⟩)
        (fdEvent profile interface.fdCtx ⟨.fdProgress (msgBuf.drop pldmMsgOffset), ops⟩) ↔
      ¬ Sends profile ops (msgBuf.drop pldmMsgOffset) interface.fdCtx := by
  by_cases room : 1 + pldmMsgHeaderLen ≤ msgBuf.length
  · have hcoherent := FdTrace.coherent (InterfaceTrace.device trace)
    have hpoll : (fdEvent profile interface.fdCtx
        ⟨.fdProgress (msgBuf.drop pldmMsgOffset), ops⟩).output = _ :=
      FdStep.fdStep_eq (FdContext.fdProgress profile ops) .length rfl
    have hcall : (interfaceEvent profile interface
        ⟨.generateInitiatorRequest msgBuf, ops⟩).output = _ := interfaceStep_poll room ops
    have hstep : (FdContext.fdProgress profile ops).wp
        (PollStep.After profile ops (msgBuf.drop pldmMsgOffset) interface.fdCtx)
        ⟨interface.fdCtx, msgBuf.drop pldmMsgOffset, []⟩ := PollStep.run hcoherent
    rw [Call.wp_iff] at hstep
    simp only [FdOperation.payload] at hpoll
    generalize FdContext.fdProgress profile ops
      ⟨interface.fdCtx, msgBuf.drop pldmMsgOffset, []⟩ = polled at hpoll hcall hstep
    obtain ⟨outcome, final⟩ := polled
    dsimp only at hpoll hcall hstep
    constructor
    · intro framed sends
      obtain ⟨count, rfl, positive⟩ := hstep.sends_iff.mpr sends
      have hreturned : (interfaceEvent profile interface
          ⟨.generateInitiatorRequest msgBuf, ops⟩).output.outcome = .ok (.request (some count)) := by
        rw [hcall]
        simp [Outcome.map, positive]
      obtain ⟨_, whole, _, hwhole, _, hlength, _⟩ := framed.message count hreturned
      rw [hpoll] at hwhole
      have hsame : count = whole := by
        injection hwhole with hwhole
        injection hwhole
      omega
    · intro nothing
      refine ⟨?_, ?_⟩
      · intro n hreturned
        rw [hcall] at hreturned
        obtain ⟨count, rfl, hcount⟩ := Outcome.map_eq_ok.mp hreturned
        refine absurd (hstep.sends_iff.mp ⟨count, rfl, ?_⟩) nothing
        by_contra none
        rw [if_neg none] at hcount
        cases hcount
      · intro hreturned
        rw [hcall] at hreturned ⊢
        obtain ⟨count, rfl, hcount⟩ := Outcome.map_eq_ok.mp hreturned
        obtain rfl : count = 0 := by
          by_contra some
          rw [if_pos (Nat.pos_of_ne_zero some)] at hcount
          cases hcount
        exact hstep.req_of_nothing
  · have hcall : (interfaceEvent profile interface
        ⟨.generateInitiatorRequest msgBuf, ops⟩).output.outcome =
        .err (.util .invalidMctpPayloadLength) :=
      interfaceStep_short room ops
    constructor
    · intro _ sends
      have hroom := sends.room
      simp only [List.length_drop, pldmMsgOffset, pldmMsgHeaderLen] at hroom room
      omega
    · intro _
      refine ⟨?_, ?_⟩
      · intro n hreturned
        rw [hcall] at hreturned
        cases hreturned
      · intro hreturned
        rw [hcall] at hreturned
        cases hreturned

end Calls

/-- From a fresh interface to the download of a component. -/
def untilDownload : List InterfaceInput := untilTransferComplete.take 3

/-- The first request for data has 11 bytes, of which the caller is told to send 10. -/
theorem request_cut_short : ∃ events interface,
    InterfaceTrace .release updateTable events interface ∧
    (interfaceEvent .release interface (pollMctp (platform 1))).output.outcome =
      .ok (.request (some 11)) ∧
    ((interfaceEvent .release interface (pollMctp (platform 1))).output.msgBuf.take
      11).drop pldmMsgOffset = (PldmMsgHeader.new 1 .request .fwUpdate
        FwUpdateCmd.requestFirmwareData.toU8).toBytes ++ [0, 0, 0, 0, 32, 0, 0] ∧
    ¬ Framed (interfaceEvent .release interface (pollMctp (platform 1)))
      (fdEvent .release interface.fdCtx
        ⟨.fdProgress ((List.replicate 17 0).drop pldmMsgOffset), platform 1⟩) := by
  obtain ⟨events, interface, trace, _, hcheck⟩ := System.exists_of_replay
    (interfaceSystem .release updateTable) (.new updateTable) untilDownload
    (fun _ interface =>
      (interfaceEvent .release interface (pollMctp (platform 1))).output.outcome =
        .ok (.request (some 11)) &&
      ((interfaceEvent .release interface (pollMctp (platform 1))).output.msgBuf.take
        11).drop pldmMsgOffset = (PldmMsgHeader.new 1 .request .fwUpdate
          FwUpdateCmd.requestFirmwareData.toU8).toBytes ++ [0, 0, 0, 0, 32, 0, 0] &&
      (fdEvent .release interface.fdCtx ⟨.fdProgress ((List.replicate 17 0).drop pldmMsgOffset),
        platform 1⟩).output.outcome = .ok (.length 11)) (by decide +kernel)
  simp only [Bool.and_eq_true, decide_eq_true_eq] at hcheck
  obtain ⟨⟨hreturned, hbytes⟩, hpolled⟩ := hcheck
  refine ⟨events, interface, trace, hreturned, hbytes, fun framed => ?_⟩
  obtain ⟨_, count, _, hcount, _, hlength, _⟩ := framed.message 11 hreturned
  rw [hpolled] at hcount
  injection hcount with hcount
  injection hcount with hcount
  omega

theorem framed_iff_nothing_untilDownload : ∃ events interface,
    InterfaceTrace .release updateTable events interface ∧
    (Framed (interfaceEvent .release interface (pollMctp (platform 1)))
        (fdEvent .release interface.fdCtx
          ⟨.fdProgress ((List.replicate 17 0).drop pldmMsgOffset), platform 1⟩) ↔
      ¬ Sends .release (platform 1) ((List.replicate 17 0).drop pldmMsgOffset) interface.fdCtx) := by
  obtain ⟨events, interface, trace, _⟩ := System.exists_of_replay
    (interfaceSystem .release updateTable) (.new updateTable) untilDownload
    (fun _ _ => true) (by decide +kernel)
  exact ⟨events, interface, trace, framed_iff_nothing trace (List.replicate 17 0) (platform 1)⟩

end PldmLib.Interface
