/-
# Two planes behind one interface

The messages to an interface are served by two contexts: the control context, which knows
the terminus ID and the capability table, and the device context, which knows everything
about the update. They share the buffer and the busy flag and nothing else, and the table
is never written. So what is said to one of them makes no difference to the other, in
whatever order the messages arrive.

What is left of the control plane is a register. It holds the terminus ID that was assigned
last, and tells it when it is asked.
-/

import PldmLib.Machine.Viewpoint
import PldmLib.Interface.Session
import PldmLib.Interface.Unanswered

namespace PldmLib.Interface

open PldmLib.Machine PldmLib.Protocol PldmLib.Message PldmLib.FirmwareDevice

/-! ## The step of a call -/

section Steps

variable {profile : Profile} {interface : CmdInterface} {ops : FdOps} {first : UInt8}
  {payload : List UInt8}

/-- The way of a message depends on the table alone. -/
theorem route_congr {context other : ControlContext}
    (same : other.capabilities = context.capabilities) (payload : List UInt8) :
    route other payload = route context payload := by
  have htype (pldmType : PldmSupportedType) :
      other.isSupportedType pldmType = context.isSupportedType pldmType := by
    rw [ControlContext.isSupportedType, same]
    rfl
  have hcommand (pldmType : PldmSupportedType) (cmd : UInt8) :
      other.isSupportedCommand pldmType cmd = context.isSupportedCommand pldmType cmd := by
    rw [ControlContext.isSupportedCommand, same]
    rfl
  simp only [route, CmdInterface.preprocessRequest, htype, hcommand]

/-- What an output keeps of a call that ended. -/
def outputOf (outcome : Outcome MsgHandlerError InterfaceReturned) (final : InterfaceState) :
    InterfaceOutput :=
  ⟨outcome, final.interface, final.msgBuf, final.log⟩

/-- The output of an interface that serves a message. -/
theorem interfaceStep_served (idle : interface.busy = false) :
    interfaceStep profile interface ⟨.handleResponderMsg (first :: payload), ops⟩ =
      let ended := (route interface.ctrlCtx payload).call ops
        ⟨{ interface with busy := true }, first :: payload, []⟩
      outputOf (ended.1.map fun bytes => .length (pldmMsgOffset + bytes))
        { ended.2 with interface := { ended.2.interface with busy := stuck ended.1 } } := by
  show (CmdInterface.handleResponderMsg ops >>= fun count => pure (.length count)).wp
    (fun outcome final => outputOf outcome final = _) ⟨interface, first :: payload, []⟩
  rw [Call.wp_map]
  apply handleResponderMsg_rule idle
  rw [Call.wp_iff]
  dsimp only
  cases ((route interface.ctrlCtx payload).call ops
    ⟨{ interface with busy := true }, first :: payload, []⟩).1 <;> rfl

/-- The output of a poll. -/
theorem interfaceStep_polled (msgBuf : List UInt8) :
    interfaceStep profile interface ⟨.generateInitiatorRequest msgBuf, ops⟩ =
      match constructMctpPldmMsg msgBuf with
      | .error error => outputOf (.err (.util error)) ⟨interface, msgBuf, []⟩
      | .ok marked =>
          let ended := InterfaceCall.onFdCtx (FdContext.fdProgress profile ops)
            ⟨interface, marked, []⟩
          outputOf (ended.1.map fun count => .request (if 0 < count then some count else none))
            ended.2 := by
  show (CmdInterface.generateInitiatorRequest profile ops >>= fun count =>
    pure (.request count)).wp (fun outcome final => outputOf outcome final = _)
    ⟨interface, msgBuf, []⟩
  rw [Call.wp_map]
  apply generateInitiatorRequest_rule
  · intro error unmarked
    rw [unmarked]
    rfl
  · intro marked hmarked
    rw [hmarked, Call.wp_iff]
    dsimp only
    cases (InterfaceCall.onFdCtx (FdContext.fdProgress profile ops) ⟨interface, marked, []⟩).1 <;>
      rfl

/-- The output of a response of the agent. -/
theorem interfaceStep_heard (msgBuf : List UInt8) :
    interfaceStep profile interface ⟨.processInitiatorResponse msgBuf, ops⟩ =
      match extractPldmMsg msgBuf with
      | .error error => outputOf (.err (.util error)) ⟨interface, msgBuf, []⟩
      | .ok _ =>
          let ended := InterfaceCall.onFdCtx (FdContext.handleResponse ops) ⟨interface, msgBuf, []⟩
          outputOf (ended.1.map fun _ => .done) ended.2 := by
  show (CmdInterface.processInitiatorResponse ops >>= fun _ => pure .done).wp
    (fun outcome final => outputOf outcome final = _) ⟨interface, msgBuf, []⟩
  rw [Call.wp_map]
  apply processInitiatorResponse_rule
  · intro error refused
    rw [refused]
    rfl
  · intro payload extracted
    rw [extracted, Call.wp_iff]

/-- The output of a call of the device context. -/
theorem interfaceStep_fdCtx (operation : FdOperation) :
    interfaceStep profile interface ⟨.fdCtx operation, ops⟩ =
      let ended := InterfaceCall.onFdCtx (operation.run profile ops)
        ⟨interface, 0 :: operation.payload, []⟩
      outputOf (ended.1.map .fdCtx) ended.2 := by
  show (InterfaceCall.onFdCtx (operation.run profile ops) >>= fun value =>
    pure (.fdCtx value)).wp (fun outcome final => outputOf outcome final = _) _
  rw [Call.wp_map, Call.wp_iff]
  rfl

end Steps

/-! ## The planes -/

inductive Plane
  | control
  | update
  deriving DecidableEq, Repr

theorem Plane.eq_control_of_ne {plane : Plane} (other : plane ≠ .update) : plane = .control := by
  cases plane with
  | control => rfl
  | update => exact absurd rfl other

theorem Plane.eq_update_of_ne {plane : Plane} (other : plane ≠ .control) : plane = .update := by
  cases plane with
  | control => exact absurd rfl other
  | update => rfl

/-- The plane a call belongs to. A message belongs to the context whose handler serves it, and
one that the gate refuses to the control context. -/
def InterfaceOperation.plane (caps : List ProtocolCapability) : InterfaceOperation → Plane
  | .handleResponderMsg msgBuf =>
      match route (.new caps) (msgBuf.drop pldmMsgOffset) with
      | .device _ => .update
      | _ => .control
  | .setTid _ => .control
  | _ => .update

/-- The interface with another control context. -/
def CmdInterface.withCtrlCtx (interface : CmdInterface) (context : ControlContext) :
    CmdInterface :=
  { interface with ctrlCtx := context }

/-- The interface with another device context. -/
def CmdInterface.withFdCtx (interface : CmdInterface) (internal : FdInternal) : CmdInterface :=
  { interface with fdCtx := internal }

section Frames

variable {profile : Profile} {caps : List ProtocolCapability} {interface : CmdInterface}
  {input : InterfaceInput}

/-- A route that ends at the device, and the message behind its transport byte. -/
theorem route_of_plane_update {msgBuf : List UInt8}
    (plane : (InterfaceOperation.handleResponderMsg msgBuf).plane caps = .update) :
    ∃ first payload handler, msgBuf = first :: payload ∧
      route (.new caps) payload = .device handler := by
  simp only [InterfaceOperation.plane] at plane
  split at plane
  · next handler hroute =>
      cases msgBuf with
      | nil => cases hroute
      | cons first payload => exact ⟨first, payload, handler, rfl, hroute⟩
  · cases plane

/-- A call of the update plane does not look at the control context. -/
theorem interfaceStep_withCtrlCtx (plane : input.operation.plane caps = .update)
    (tabled : interface.ctrlCtx.capabilities = caps) (idle : interface.busy = false)
    (context : ControlContext) (tabled' : context.capabilities = caps) :
    interfaceStep profile (interface.withCtrlCtx context) input =
      { interfaceStep profile interface input with
        interface := (interfaceStep profile interface input).interface.withCtrlCtx context } := by
  obtain ⟨operation, ops⟩ := input
  cases operation with
  | handleResponderMsg msgBuf =>
      obtain ⟨first, payload, handler, rfl, hroute⟩ := route_of_plane_update plane
      have hdevice {known : ControlContext} (tabled : known.capabilities = caps) :
          route known payload = .device handler := by
        rw [← hroute]
        exact route_congr tabled payload
      rw [interfaceStep_served idle, @interfaceStep_served _ (interface.withCtrlCtx context) _ _ _
        idle, CmdInterface.withCtrlCtx, hdevice tabled, hdevice tabled']
      rfl
  | generateInitiatorRequest msgBuf =>
      rw [interfaceStep_polled, interfaceStep_polled]
      cases constructMctpPldmMsg msgBuf <;> rfl
  | processInitiatorResponse msgBuf =>
      rw [interfaceStep_heard, interfaceStep_heard]
      cases extractPldmMsg msgBuf <;> rfl
  | isUpdateMode => rfl
  | fdCtx operation =>
      rw [interfaceStep_fdCtx, interfaceStep_fdCtx]
      rfl
  | setTid tid => cases plane

/-- A call of the control plane does not look at the device context. -/
theorem interfaceStep_withFdCtx (plane : input.operation.plane caps = .control)
    (tabled : interface.ctrlCtx.capabilities = caps) (idle : interface.busy = false)
    (internal : FdInternal) :
    interfaceStep profile (interface.withFdCtx internal) input =
      { interfaceStep profile interface input with
        interface := (interfaceStep profile interface input).interface.withFdCtx internal } := by
  obtain ⟨operation, ops⟩ := input
  cases operation with
  | handleResponderMsg msgBuf =>
      cases msgBuf with
      | nil =>
          obtain ⟨context, device, busy⟩ := interface
          cases idle
          rfl
      | cons first payload =>
          rw [interfaceStep_served idle,
            @interfaceStep_served _ (interface.withFdCtx internal) _ _ _ idle]
          have hroute : route (.new caps) payload = route interface.ctrlCtx payload :=
            route_congr tabled.symm payload
          simp only [InterfaceOperation.plane, pldmMsgOffset, List.drop_succ_cons, List.drop_zero,
            hroute] at plane
          rw [CmdInterface.withFdCtx]
          cases htaken : route interface.ctrlCtx payload with
          | device handler => simp [htaken] at plane
          | _ => rfl
  | setTid tid => rfl
  | _ => cases plane

/-- A call of one plane leaves the context of the other as it is. -/
theorem interfaceStep_ctrlCtx (plane : input.operation.plane caps = .update)
    (tabled : interface.ctrlCtx.capabilities = caps) (idle : interface.busy = false) :
    (interfaceStep profile interface input).interface.ctrlCtx = interface.ctrlCtx :=
  congrArg (fun output => output.interface.ctrlCtx)
    (@interfaceStep_withCtrlCtx profile _ _ _ plane tabled idle interface.ctrlCtx tabled)

theorem interfaceStep_fdCtx_eq (plane : input.operation.plane caps = .control)
    (tabled : interface.ctrlCtx.capabilities = caps) (idle : interface.busy = false) :
    (interfaceStep profile interface input).interface.fdCtx = interface.fdCtx :=
  congrArg (fun output => output.interface.fdCtx)
    (@interfaceStep_withFdCtx profile _ _ _ plane tabled idle interface.fdCtx)

end Frames

/-! ## What each plane sees -/

/-- An idle interface with the given table. -/
structure Settled (caps : List ProtocolCapability) (interface : CmdInterface) : Prop where
  tabled : interface.ctrlCtx.capabilities = caps
  idle : interface.busy = false

/-- What a caller gets back: the value, the buffer, and what the platform was asked. -/
structure Answer where
  outcome : Outcome MsgHandlerError InterfaceReturned
  msgBuf : List UInt8
  log : List Invocation

def answerOf (output : InterfaceOutput) : Answer :=
  ⟨output.outcome, output.msgBuf, output.log⟩

variable (profile : Profile) (caps : List ProtocolCapability)

theorem Settled.kept {interface reached : CmdInterface} {input : InterfaceInput}
    (settled : Settled caps interface)
    (live : (interfaceSystem profile caps).next (interfaceStep profile interface input) =
      some reached) : Settled caps reached := by
  obtain ⟨calm, rfl⟩ := interfaceSystem_next live
  constructor
  · exact (interfaceStep_capabilities interface input).trans settled.tabled
  · exact (interfaceStep_busy input calm).trans settled.idle

theorem interfaceSystem_next_of_calm {output : InterfaceOutput} (calm : output.outcome ≠ .panic) :
    (interfaceSystem profile caps).next output = some output.interface := by
  obtain ⟨outcome, interface, msgBuf, log⟩ := output
  cases outcome with
  | panic => exact absurd rfl calm
  | _ => rfl

/-- The device context, and the calls that it serves. -/
def updatePlane : Viewpoint (interfaceSystem profile caps) FdInternal Answer where
  sound := Settled caps
  view := CmdInterface.fdCtx
  shows _ input := input.operation.plane caps == .update
  reading := answerOf
  kept := Settled.kept profile caps
  hidden := by
    intro interface reached input settled hides live
    obtain ⟨_, rfl⟩ := interfaceSystem_next live
    have hplane : input.operation.plane caps = .control :=
      Plane.eq_control_of_ne (beq_eq_false_iff_ne.mp hides)
    exact interfaceStep_fdCtx_eq hplane settled.tabled settled.idle
  shown := by
    intro interface other reached input settled settled' shows same live
    obtain ⟨calm, rfl⟩ := interfaceSystem_next live
    have hother : interface.withCtrlCtx other.ctrlCtx = other := by
      rw [CmdInterface.withCtrlCtx, ← same, settled.idle, ← settled'.idle]
    have hstep := @interfaceStep_withCtrlCtx profile _ _ _ (eq_of_beq shows) settled.tabled
      settled.idle other.ctrlCtx settled'.tabled
    rw [hother] at hstep
    have hcalm : (interfaceStep profile other input).outcome ≠ .panic := by
      rw [hstep]
      exact calm
    refine ⟨_, interfaceSystem_next_of_calm profile caps hcalm, ?_, ?_⟩
    · exact congrArg (fun output => output.interface.fdCtx) hstep
    · exact (congrArg answerOf hstep :)

/-- The control context, and the calls that it serves. -/
def controlPlane : Viewpoint (interfaceSystem profile caps) ControlContext Answer where
  sound := Settled caps
  view := CmdInterface.ctrlCtx
  shows _ input := input.operation.plane caps == .control
  reading := answerOf
  kept := Settled.kept profile caps
  hidden := by
    intro interface reached input settled hides live
    obtain ⟨_, rfl⟩ := interfaceSystem_next live
    have hplane : input.operation.plane caps = .update :=
      Plane.eq_update_of_ne (beq_eq_false_iff_ne.mp hides)
    exact interfaceStep_ctrlCtx hplane settled.tabled settled.idle
  shown := by
    intro interface other reached input settled settled' shows same live
    obtain ⟨calm, rfl⟩ := interfaceSystem_next live
    have hother : interface.withFdCtx other.fdCtx = other := by
      rw [CmdInterface.withFdCtx, ← same, settled.idle, ← settled'.idle]
    have hstep := @interfaceStep_withFdCtx profile _ _ _ (eq_of_beq shows) settled.tabled
      settled.idle other.fdCtx
    rw [hother] at hstep
    have hcalm : (interfaceStep profile other input).outcome ≠ .panic := by
      rw [hstep]
      exact calm
    refine ⟨_, interfaceSystem_next_of_calm profile caps hcalm, ?_, ?_⟩
    · exact congrArg (fun output => output.interface.ctrlCtx) hstep
    · exact (congrArg answerOf hstep :)

variable {profile caps}

/-- The calls of a plane, and how they were answered. -/
def addressed (caps : List ProtocolCapability) (plane : Plane) (inputs : List InterfaceInput) :
    List InterfaceInput :=
  inputs.filter fun input => input.operation.plane caps == plane

def answersOf (caps : List ProtocolCapability) (plane : Plane) (events : List InterfaceEvent) :
    List Answer :=
  (events.filter fun event => event.input.operation.plane caps == plane).map
    fun event => answerOf event.output

/-- In a run the interface is idle between the calls, with its table as it was. -/
theorem settled_of_trace {events : List InterfaceEvent} {interface : CmdInterface}
    (trace : InterfaceTrace profile caps events interface) : Settled caps interface :=
  trace.state_invariant _ ⟨rfl, rfl⟩ fun _ _ _ settled live => settled.kept profile caps live

theorem updatePlane_sound : (updatePlane profile caps).sound (.new caps) := ⟨rfl, rfl⟩

theorem controlPlane_sound : (controlPlane profile caps).sound (.new caps) := ⟨rfl, rfl⟩

theorem updatePlane_sorts :
    (updatePlane profile caps).Sorts fun input => input.operation.plane caps == .update :=
  fun _ _ => rfl

theorem controlPlane_sorts :
    (controlPlane profile caps).Sorts fun input => input.operation.plane caps == .control :=
  fun _ _ => rfl

/-- Whatever is said to the one plane, in whatever order between the calls of the other, the
other ends in the same state and has given the same answers. -/
theorem planes_independent {events events' : List InterfaceEvent}
    {interface interface' : CmdInterface} (trace : InterfaceTrace profile caps events interface)
    (trace' : InterfaceTrace profile caps events' interface') :
    (addressed caps .update (events.map Event.input) =
        addressed caps .update (events'.map Event.input) →
      interface.fdCtx = interface'.fdCtx ∧
        answersOf caps .update events = answersOf caps .update events') ∧
    (addressed caps .control (events.map Event.input) =
        addressed caps .control (events'.map Event.input) →
      interface.ctrlCtx = interface'.ctrlCtx ∧
        answersOf caps .control events = answersOf caps .control events') := by
  constructor
  · intro same
    rw [addressed, addressed, ← updatePlane_sorts.inputs, ← updatePlane_sorts.inputs] at same
    exact Viewpoint.indistinguishable trace trace' updatePlane_sound updatePlane_sound rfl same
  · intro same
    rw [addressed, addressed, ← controlPlane_sorts.inputs, ← controlPlane_sorts.inputs] at same
    exact Viewpoint.indistinguishable trace trace' controlPlane_sound controlPlane_sound rfl same

/-- A table with the terminus ID commands and the first two of an update. -/
def bothTable : List ProtocolCapability :=
  [⟨.base, 0xF1F1F000, [PldmControlCmd.setTid.toU8, PldmControlCmd.getTid.toU8]⟩,
    ⟨.fwUpdate, 0xF1F3F000, [FwUpdateCmd.requestUpdate.toU8, FwUpdateCmd.passComponentTable.toU8]⟩]

/-- The messages of the agent about the terminus ID, in a buffer with room for the answers. -/
def assignTid (tid : UInt8) : InterfaceInput :=
  receiveMctp ((PldmMsgHeader.new 3 .request .base PldmControlCmd.setTid.toU8).toBytes ++ [tid, 0])
    (platform 0)

def askForTid : InterfaceInput :=
  receiveMctp ((PldmMsgHeader.new 4 .request .base PldmControlCmd.getTid.toU8).toBytes ++ [0, 0])
    (platform 0)

def beginsUpdate : List InterfaceInput :=
  [receiveMctp (Agent.requestUpdate 512) (platform 0),
    receiveMctp Agent.passComponentTable (platform 0)]

/-- The beginning of an update, with the terminus ID assigned and read out between its two
messages. -/
def beginsUpdateAmong : List InterfaceInput :=
  [receiveMctp (Agent.requestUpdate 512) (platform 0), assignTid 9, askForTid,
    receiveMctp Agent.passComponentTable (platform 0)]

theorem planes_independent_beginsUpdate : ∃ events interface events' interface',
    InterfaceTrace .release bothTable events interface ∧
    InterfaceTrace .release bothTable events' interface' ∧
    events.map Event.input = beginsUpdate ∧ events'.map Event.input = beginsUpdateAmong ∧
    interface.fdCtx.state = .readyXfer ∧ interface.fdCtx = interface'.fdCtx ∧
    interface.ctrlCtx.tid = 0 ∧ interface'.ctrlCtx.tid = 9 := by
  obtain ⟨events, interface, trace, hinputs, hcheck⟩ := System.exists_of_replay
    (interfaceSystem .release bothTable) (.new bothTable) beginsUpdate
    (fun _ interface => interface.fdCtx.state = .readyXfer && interface.ctrlCtx.tid = 0)
    (by decide +kernel)
  obtain ⟨events', interface', trace', hinputs', hcheck'⟩ := System.exists_of_replay
    (interfaceSystem .release bothTable) (.new bothTable) beginsUpdateAmong
    (fun _ interface => interface.ctrlCtx.tid = 9) (by decide +kernel)
  simp only [Bool.and_eq_true, decide_eq_true_eq] at hcheck hcheck'
  have hsame : addressed bothTable .update (events.map Event.input) =
      addressed bothTable .update (events'.map Event.input) := by
    rw [hinputs, hinputs']
    rfl
  have hindependent := (planes_independent trace trace').1 hsame
  exact ⟨events, interface, events', interface', trace, trace', hinputs, hinputs', hcheck.1,
    hindependent.1, hcheck.2, hcheck'⟩

/-- A sequence of calls can be made of a fresh interface exactly when those of each plane can
be made without those of the other, so two conversations can be mixed in any order. -/
theorem conversations_interleave (profile : Profile) (caps : List ProtocolCapability)
    (inputs : List InterfaceInput) :
    (interfaceSystem profile caps).Admits (.new caps) inputs ↔
      ∀ plane, (interfaceSystem profile caps).Admits (.new caps) (addressed caps plane inputs) := by
  have hother : (fun input : InterfaceInput => input.operation.plane caps == .control) =
      fun input => !(input.operation.plane caps == .update) := by
    funext input
    cases input.operation.plane caps <;> rfl
  have hhalves := Viewpoint.admits_iff (@updatePlane_sorts profile caps)
    (hother ▸ @controlPlane_sorts profile caps) updatePlane_sound controlPlane_sound inputs
  rw [← hother] at hhalves
  constructor
  · intro run plane
    cases plane with
    | control => exact (hhalves.mp run).2
    | update => exact (hhalves.mp run).1
  · intro halves
    exact hhalves.mpr ⟨halves .update, halves .control⟩

end PldmLib.Interface
