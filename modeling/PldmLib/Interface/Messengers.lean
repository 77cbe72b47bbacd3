/-
# An update over messages

The agent and the network do not call the device context. They hand buffers to the interface,
which may pass them on to the device, answer them itself or refuse them. Whatever the parties
can bring about by calling the device, they can bring about by messages, with messages to
the control context and others that the device never gets to see in between.

So an interface whose table lists the commands of an update is taken through a whole update by
messages, and it is brought back to `Idle` by two of them, wherever it is.
-/

import PldmLib.FirmwareDevice.Campaign
import PldmLib.Interface.Delivery
import PldmLib.Interface.Planes

namespace PldmLib.Interface

open PldmLib.Machine PldmLib.Protocol PldmLib.Message PldmLib.FirmwareDevice

universe u

/-! ## Parties that send messages -/

/-- The calls that hand over a buffer. -/
def InterfaceOperation.isMessage : InterfaceOperation → Bool
  | .handleResponderMsg _ => true
  | .generateInitiatorRequest _ => true
  | .processInitiatorResponse _ => true
  | _ => false

/-- The messages that may be sent next: one by which the device gets a call that its parties
may choose, or one that does not get to the device. -/
inductive Sends {E : Type u} (profile : Profile)
    (parties : Environment FdInternal FdInput FdOutput E) (interface : CmdInterface)
    (noted : E × ℕ) : InterfaceInput → Prop
  | carrying {input : InterfaceInput} {operation : FdOperation}
      (message : input.operation.isMessage = true)
      (carried : performedOperation interface input.operation = some operation)
      (allowed : parties.allows interface.fdCtx noted.1 ⟨operation, input.ops⟩) :
      Sends profile parties interface noted input
  | stray {input : InterfaceInput} (message : input.operation.isMessage = true)
      (astray : performedOperation interface input.operation = none) (spare : 0 < noted.2)
      (live : (interfaceStep profile interface input).outcome ≠ .panic) :
      Sends profile parties interface noted input

/-- The parties of the device, and the number of messages that do not get to it. -/
def messengers {E : Type u} (profile : Profile)
    (parties : Environment FdInternal FdInput FdOutput E) :
    Environment CmdInterface InterfaceInput InterfaceOutput (E × ℕ) where
  allows := Sends profile parties
  react noted event :=
    match performed profile event with
    | some call => (parties.react noted.1 call, noted.2)
    | none => (noted.1, noted.2 - 1)

section Carrying

variable {profile : Profile} {caps : List ProtocolCapability} {interface : CmdInterface}
  {operation : FdOperation} {input : InterfaceInput}

/-- A message that is passed on does to the device what the call does. -/
theorem fdCtx_of_carried
    (carried : performedOperation interface input.operation = some operation) :
    (interfaceStep profile interface input).interface.fdCtx =
      (fdEvent profile interface.fdCtx ⟨operation, input.ops⟩).after := by
  have hperforms := @performs_interfaceStep profile interface input
  exact (hperforms.device operation carried).1

/-- The request in a message that is passed on. -/
theorem request_of_carried {msgBuf : List UInt8}
    (carried : performedOperation interface (.handleResponderMsg msgBuf) = some operation) :
    interface.busy = false ∧ ∃ first payload handler, msgBuf = first :: payload ∧
      route interface.ctrlCtx payload = .device handler ∧
      operation = .request handler payload := by
  cases busy : interface.busy with
  | true => simp [performedOperation, busy] at carried
  | false =>
      cases msgBuf with
      | nil => simp [performedOperation, busy] at carried
      | cons first payload =>
          cases hroute : route interface.ctrlCtx payload with
          | device handler =>
              have hmade : some (FdOperation.request handler payload) = some operation := by
                simpa [performedOperation, busy, hroute] using carried
              exact ⟨rfl, first, payload, handler, rfl, hroute, (Option.some.inj hmade).symm⟩
          | _ => simp [performedOperation, busy, hroute] at carried

/-- It fails only where the call fails. -/
theorem live_of_carried (message : input.operation.isMessage = true)
    (carried : performedOperation interface input.operation = some operation)
    (live : (fdEvent profile interface.fdCtx ⟨operation, input.ops⟩).output.outcome ≠ .panic) :
    (interfaceStep profile interface input).outcome ≠ .panic := by
  obtain ⟨sent, ops⟩ := input
  intro panicked
  apply live
  cases sent with
  | handleResponderMsg msgBuf =>
      obtain ⟨idle, first, payload, handler, rfl, hroute, rfl⟩ := request_of_carried carried
      rw [interfaceStep_served idle, hroute] at panicked
      show (fdStep profile interface.fdCtx ⟨.request handler payload, ops⟩).outcome = .panic
      rw [FdStep.fdStep_eq (handler.run ops) .length rfl]
      exact Outcome.map_eq_panic.mpr (Outcome.map_eq_panic.mp panicked)
  | generateInitiatorRequest msgBuf =>
      cases hmarked : constructMctpPldmMsg msgBuf with
      | error error => simp [performedOperation, hmarked] at carried
      | ok marked =>
          obtain rfl : .fdProgress (marked.drop pldmMsgOffset) = operation := by
            simpa [performedOperation, hmarked] using carried
          rw [interfaceStep_polled, hmarked] at panicked
          show (fdStep profile interface.fdCtx
            ⟨.fdProgress (marked.drop pldmMsgOffset), ops⟩).outcome = .panic
          rw [FdStep.fdStep_eq (FdContext.fdProgress profile ops) .length rfl]
          exact Outcome.map_eq_panic.mpr (Outcome.map_eq_panic.mp panicked)
  | processInitiatorResponse msgBuf =>
      cases hextract : extractPldmMsg msgBuf with
      | error error => simp [performedOperation, hextract] at carried
      | ok payload =>
          obtain rfl : .handleResponse payload = operation := by
            simpa [performedOperation, hextract] using carried
          rw [interfaceStep_heard, hextract] at panicked
          rw [eq_drop_of_extractPldmMsg hextract]
          show (fdStep profile interface.fdCtx
            ⟨.handleResponse (msgBuf.drop pldmMsgOffset), ops⟩).outcome = .panic
          rw [FdStep.fdStep_eq (FdContext.handleResponse ops) (fun _ => .done) rfl]
          exact Outcome.map_eq_panic.mpr (Outcome.map_eq_panic.mp panicked)
  | _ => cases message

end Carrying

/-! ## Messages by the book -/

/-- The table that the library comes with: the control commands in version 1.1.0 and the
firmware update in version 1.3.0. -/
def pldmProtocolCapabilities : List ProtocolCapability :=
  [⟨.base, 0xF1F1F000, [PldmControlCmd.setTid.toU8, PldmControlCmd.getTid.toU8,
      PldmControlCmd.getPldmCommands.toU8, PldmControlCmd.getPldmVersion.toU8,
      PldmControlCmd.getPldmTypes.toU8]⟩,
    ⟨.fwUpdate, 0xF1F3F000, [FwUpdateCmd.queryDeviceIdentifiers.toU8,
      FwUpdateCmd.getFirmwareParameters.toU8, FwUpdateCmd.requestUpdate.toU8,
      FwUpdateCmd.passComponentTable.toU8, FwUpdateCmd.updateComponent.toU8,
      FwUpdateCmd.requestFirmwareData.toU8, FwUpdateCmd.transferComplete.toU8,
      FwUpdateCmd.verifyComplete.toU8, FwUpdateCmd.applyComplete.toU8,
      FwUpdateCmd.activateFirmware.toU8, FwUpdateCmd.getStatus.toU8,
      FwUpdateCmd.cancelUpdateComponent.toU8, FwUpdateCmd.cancelUpdate.toU8,
      FwUpdateCmd.activatePendingComponentImage.toU8, FwUpdateCmd.updateSecurityRevision.toU8]⟩]

/-- The commands by which an agent leads through an update or out of it. -/
def updateHandlers : List Handler :=
  [.requestUpdate, .passComponent, .updateComponent, .activateFirmware, .cancelUpdate]

/-- The table admits these commands. -/
def Lists (caps : List ProtocolCapability) : Prop :=
  ∀ handler ∈ updateHandlers, admission (.new caps) .request (.inr handler) = .device handler

instance (caps : List ProtocolCapability) : Decidable (Lists caps) :=
  inferInstanceAs (Decidable (∀ handler ∈ updateHandlers, _))

theorem lists_pldmProtocolCapabilities : Lists pldmProtocolCapabilities := by
  decide

section Messages

variable {caps : List ProtocolCapability} {interface : CmdInterface} {operation : FdOperation}

/-- A request by the book reaches its handler. -/
theorem performed_request {handler : Handler} {payload : List UInt8} (lists : Lists caps)
    (known : handler ∈ updateHandlers) (settled : Settled caps interface)
    (headed : Agent.requestHeader (handledCommand handler) <+: payload) :
    performedOperation interface (.handleResponderMsg (mctpPldmMsgType :: payload)) =
      some (.request handler payload) := by
  have hcongr : route interface.ctrlCtx payload = route (.new caps) payload :=
    route_congr settled.tabled payload
  have hroute : route interface.ctrlCtx payload = .device handler := by
    rw [hcongr, ← lists handler known]
    apply @route_of_hdr 0
    exact PldmMsgHeader.decode_eq_ok_iff.mpr headed
  simp [performedOperation, settled.idle, hroute]

/-- A call by the book can be brought about by a message. -/
theorem exists_message (booked : ByTheBook operation) (lists : Lists caps)
    (settled : Settled caps interface) :
    ∃ message : InterfaceOperation, message.isMessage = true ∧
      performedOperation interface message = some operation := by
  have request (handler : Handler) (payload : List UInt8) (known : handler ∈ updateHandlers)
      (headed : Agent.requestHeader (handledCommand handler) <+: payload) :
      ∃ message : InterfaceOperation, message.isMessage = true ∧
        performedOperation interface message = some (.request handler payload) :=
    ⟨.handleResponderMsg (mctpPldmMsgType :: payload), rfl,
      performed_request lists known settled headed⟩
  cases booked with
  | announcement => exact request .requestUpdate _ (by decide) (by decide)
  | table => exact request .passComponent _ (by decide) (by decide)
  | component imageSize =>
      apply request .updateComponent _ (by decide)
      simp only [Agent.updateComponent, List.append_assoc]
      exact List.prefix_append _ _
  | activation => exact request .activateFirmware _ (by decide) (by decide)
  | cancellation => exact request .cancelUpdate _ (by decide) (by decide)
  | poll => exact ⟨.generateInitiatorRequest (List.replicate 12 0), rfl, rfl⟩
  | @answer payload headed =>
      refine ⟨.processInitiatorResponse (mctpPldmMsgType :: payload), rfl, ?_⟩
      have hextract : extractPldmMsg (mctpPldmMsgType :: payload) = .ok payload := by
        have hlong : ¬ (mctpPldmMsgType :: payload).length < 1 + pldmMsgHeaderLen := by
          rw [List.length_cons]
          omega
        rw [extractPldmMsg, if_neg hlong]
        have hfirst : (mctpPldmMsgType :: payload).getD mctpCommonHeaderOffset 0 =
            mctpPldmMsgType := rfl
        dsimp only
        rw [hfirst, if_neg (by decide)]
        rfl
      simp only [performedOperation, hextract]

end Messages

/-! ## What can be brought about by messages -/

section Results

universe v

variable {E : Type v} {profile : Profile} {caps : List ProtocolCapability}
  {parties : Environment FdInternal FdInput FdOutput E} {goal invariant : FdInternal → E → Prop}
  {measure : FdInternal → E → ℕ}

/-- The interface carries the messages of the parties to the device. -/
theorem conveys_of_sends {interface : CmdInterface} {noted : E × ℕ} {input : InterfaceInput}
    (settled : Settled caps interface) (sends : Sends profile parties interface noted input) :
    (fdSystem profile).Conveys parties (interfaceSystem profile caps)
      (messengers profile parties) CmdInterface.fdCtx (Settled caps) interface noted input := by
  have hperforms := @performs_interfaceStep profile interface input
  have hperformed : performed profile ((interfaceSystem profile caps).event interface input) =
      (performedOperation interface input.operation).map fun operation =>
        fdEvent profile interface.fdCtx ⟨operation, input.ops⟩ := rfl
  have hkept (live : (interfaceStep profile interface input).outcome ≠ .panic) :=
    interfaceSystem_next_of_calm profile caps live
  cases sends with
  | @carrying operation message carried allowed =>
      refine .carried ⟨operation, input.ops⟩ allowed ?_
      intro reached live
      have calm : (fdEvent profile interface.fdCtx ⟨operation, input.ops⟩).output.outcome ≠
          .panic := by
        intro panicked
        have hstop : (fdSystem profile).next
            (fdEvent profile interface.fdCtx ⟨operation, input.ops⟩).output = none := by
          simp only [fdSystem, panicked]
        cases hstop.symm.trans live
      obtain rfl := fdSystem_next live
      have hlive := live_of_carried message carried calm
      refine ⟨_, hkept hlive, settled.kept profile caps (hkept hlive), fdCtx_of_carried carried, ?_⟩
      rw [carried] at hperformed
      simp only [messengers, hperformed, Option.map_some]
  | stray message astray spare live =>
      refine .kept _ (hkept live) (settled.kept profile caps (hkept live))
        (hperforms.idle astray).1 (noted.2 - 1) (Nat.sub_lt spare Nat.one_pos) ?_
      rw [astray] at hperformed
      simp only [messengers, hperformed, Option.map_none]

/-- What the parties bring about by calls of the device, they bring about by messages, if they
can go by the book. -/
theorem messages_variant (lists : Lists caps)
    (variant : (fdSystem profile).Variant parties goal invariant measure)
    (offers : ∀ {state : FdInternal} {noted : E}, invariant state noted → ¬ goal state noted →
      ∃ operation ops, ByTheBook operation ∧ parties.allows state noted ⟨operation, ops⟩) :
    (interfaceSystem profile caps).Variant (messengers profile parties)
      (fun interface noted => goal interface.fdCtx noted.1)
      (fun interface noted => Settled caps interface ∧ invariant interface.fdCtx noted.1)
      (fun interface noted => measure interface.fdCtx noted.1 + noted.2) := by
  apply variant.carried
  · intro interface noted settled holds missed
    obtain ⟨operation, ops, booked, allowed⟩ := offers holds missed
    obtain ⟨message, sent, carried⟩ := exists_message booked lists settled
    exact ⟨⟨message, ops⟩, .carrying sent carried allowed⟩
  · intro interface noted input settled sends
    exact conveys_of_sends settled sends

variable {events : List InterfaceEvent} {interface : CmdInterface} {images : List (List UInt8)}

end Results

end PldmLib.Interface
