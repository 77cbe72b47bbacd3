/-
# What the responder does not survive

The busy flag is set before the first look at a message and cleared behind the call of a
handler, so a panic in between leaves the interface locked for good. There are three ways
into one: a message without a transport byte, a request that the gate lets through without
an arm to serve it, and an answer of the platform that its response cannot be built from.
On every other message, in every state of a run, the responder returns and is idle again.
-/

import PldmLib.FirmwareDevice.Progress
import PldmLib.Interface.Correlation

namespace PldmLib.Interface

open PldmLib.Machine PldmLib.Protocol PldmLib.Message PldmLib.FirmwareDevice

/-! ## The gate -/

theorem PldmSupportedType.tryFrom_toU8 (pldmType : PldmSupportedType) :
    PldmSupportedType.tryFrom pldmType.toU8 = .ok pldmType := by
  cases pldmType <;> rfl

/-- A well-formed request for a command that the table lists. -/
structure Passes (context : ControlContext) (payload : List UInt8)
    (pldmType : PldmSupportedType) (cmdOpcode : UInt8) : Prop where
  addressed : ∃ request, PldmMsgHeader.decode payload = .ok request ∧
    request.isRequest = true ∧ request.isHdrVerValid = true ∧
    request.pldmType = pldmType.toU8 ∧ request.cmdCode = cmdOpcode
  listed : context.isSupportedCommand pldmType cmdOpcode = true

section Gate

variable {context : ControlContext} {payload : List UInt8} {pldmType : PldmSupportedType}
  {cmdOpcode : UInt8}

/-- A type with a command has an entry. -/
theorem ControlContext.isSupportedType_of_command
    (listed : context.isSupportedCommand pldmType cmdOpcode = true) :
    context.isSupportedType pldmType = true := by
  unfold ControlContext.isSupportedCommand at listed
  split at listed
  · next cap found =>
      have hnamed := List.find?_some found
      exact List.any_eq_true.mpr ⟨cap, List.mem_of_find?_eq_some found, hnamed⟩
  · cases listed

theorem preprocessRequest_eq_ok_iff :
    CmdInterface.preprocessRequest context payload = .ok (pldmType, cmdOpcode) ↔
      Passes context payload pldmType cmdOpcode := by
  constructor
  · intro passed
    obtain ⟨request, hheader, hrequest, hversion, htype, hcommand, _, hlisted⟩ :=
      of_preprocessRequest passed
    exact ⟨⟨request, hheader, hrequest, hversion, htype, hcommand⟩, hlisted⟩
  · rintro ⟨⟨request, hheader, hrequest, hversion, htype, rfl⟩, hlisted⟩
    have htyped := ControlContext.isSupportedType_of_command hlisted
    simp [CmdInterface.preprocessRequest, hheader, hrequest, hversion, htype,
      PldmSupportedType.tryFrom_toU8, htyped, hlisted]

theorem route_of_passes (passes : Passes context payload pldmType cmdOpcode) :
    route context payload = routeOf pldmType cmdOpcode := by
  rw [route, preprocessRequest_eq_ok_iff.mpr passes]

/-- A request without an arm is one that passes under another type. -/
theorem route_eq_unserved_iff : route context payload = .unserved ↔
    ∃ pldmType cmdOpcode, Passes context payload pldmType cmdOpcode ∧
      pldmType ≠ .base ∧ pldmType ≠ .fwUpdate := by
  constructor
  · intro unserved
    unfold route at unserved
    split at unserved
    · cases unserved
    · next pldmType cmdOpcode passed =>
        refine ⟨pldmType, cmdOpcode, preprocessRequest_eq_ok_iff.mp passed, ?_, ?_⟩
        · rintro rfl
          unfold routeOf at unserved
          dsimp only at unserved
          split at unserved <;> cases unserved
        · rintro rfl
          unfold routeOf at unserved
          dsimp only at unserved
          repeat' split at unserved
          all_goals cases unserved
  · rintro ⟨pldmType, cmdOpcode, passes, hbase, hfwUpdate⟩
    rw [route_of_passes passes]
    cases pldmType with
    | base => exact absurd rfl hbase
    | fwUpdate => exact absurd rfl hfwUpdate
    | _ => rfl

theorem fwUpdateHandler_handledCommand (handler : Handler) :
    CmdInterface.fwUpdateHandler (handledCommand handler) = some handler := by
  cases handler <;> rfl

/-- A handler of the device serves the requests that pass with its command. -/
theorem route_eq_device_iff {handler : Handler} : route context payload = .device handler ↔
    Passes context payload .fwUpdate (handledCommand handler).toU8 := by
  constructor
  · intro device
    unfold route at device
    split at device
    · cases device
    · next pldmType cmdOpcode passed =>
        unfold routeOf at device
        repeat' split at device
        all_goals try cases device
        next known _ served =>
          rw [← handledCommand_of_fwUpdateHandler served] at known
          rw [FwUpdateCmd.toU8_of_tryFrom known]
          exact preprocessRequest_eq_ok_iff.mp passed
  · intro passes
    rw [route_of_passes passes, routeOf, FwUpdateCmd.tryFrom_toU8]
    dsimp only
    rw [fwUpdateHandler_handledCommand]

/-- The same of a control handler. -/
theorem route_eq_control_iff {cmd : PldmControlCmd} : route context payload = .control cmd ↔
    Passes context payload .base cmd.toU8 := by
  constructor
  · intro controls
    unfold route at controls
    split at controls
    · cases controls
    · next pldmType cmdOpcode passed =>
        unfold routeOf at controls
        repeat' split at controls
        all_goals try cases controls
        next known =>
          rw [PldmControlCmd.toU8_of_tryFrom known]
          exact preprocessRequest_eq_ok_iff.mp passed
  · intro passes
    rw [route_of_passes passes, routeOf]
    cases cmd <;> rfl

end Gate

/-! ## The messages and answers at fault -/

/-- An answer of the platform from which the response to a command cannot be built. -/
inductive Unanswerable (ops : FdOps) (payload : List UInt8) (state : FirmwareDeviceState) :
    FwUpdateCmd → Prop
  | descriptors {identifiers : List.Vector Descriptor maxDescriptorsCount} {count : ℕ}
      (answered : ops.getDeviceIdentifiers = .ok (identifiers, count))
      (few : count ≤ maxDescriptorsCount)
      (overrun : DescriptorsOverrun (identifiers.toList.take count) payload) :
      Unanswerable ops payload state .queryDeviceIdentifiers
  | parameters {params : FirmwareParameters} (answered : ops.getFirmwareParms = .ok params)
      (overrun : ParametersOverrun params payload) :
      Unanswerable ops payload state .getFirmwareParameters
  | vendorDefined {request : UpdateComponentRequest} {params : FirmwareParameters}
      (ready : state = .readyXfer) (decoded : UpdateComponentRequest.decode payload = .ok request)
      (parameters : ops.getFirmwareParms = .ok params)
      (answered : ops.handleComponent (FdContext.describedComponent request) params
        .updateComponent = .ok .vendorDefined) :
      Unanswerable ops payload state .updateComponent

/-- A message that the responder does not survive. -/
inductive Fatal (ops : FdOps) (interface : CmdInterface) : List UInt8 → Prop
  | empty : Fatal ops interface []
  | unserved {first : UInt8} {payload : List UInt8} {pldmType : PldmSupportedType}
      {cmdOpcode : UInt8} (passes : Passes interface.ctrlCtx payload pldmType cmdOpcode)
      (base : pldmType ≠ .base) (fwUpdate : pldmType ≠ .fwUpdate) :
      Fatal ops interface (first :: payload)
  | unanswerable {first : UInt8} {payload : List UInt8} {cmd : FwUpdateCmd}
      (passes : Passes interface.ctrlCtx payload .fwUpdate cmd.toU8)
      (platform : Unanswerable ops payload interface.fdCtx.state cmd) :
      Fatal ops interface (first :: payload)

/-- In the states of a run these are all the crashes of a handler. -/
theorem handlerCrashes_iff {ops : FdOps} {payload : List UInt8} {pre : FdInternal}
    (measured : Measured pre) {handler : Handler} : HandlerCrashes ops payload pre handler ↔
      Unanswerable ops payload pre.state (handledCommand handler) := by
  cases handler with
  | queryDevid =>
      constructor
      · rintro ⟨descriptors, count, answered, few, overrun⟩
        exact .descriptors answered few overrun
      · intro unanswerable
        cases unanswerable with
        | descriptors answered few overrun => exact ⟨_, _, answered, few, overrun⟩
  | getFirmwareParameters =>
      constructor
      · rintro ⟨params, answered, overrun⟩
        exact .parameters answered overrun
      · intro unanswerable
        cases unanswerable with
        | parameters answered overrun => exact ⟨_, answered, overrun⟩
  | updateComponent =>
      constructor
      · rintro ⟨ready, request, params, decoded, parameters, answered⟩
        exact .vendorDefined ready decoded parameters answered
      · intro unanswerable
        cases unanswerable with
        | vendorDefined ready decoded parameters answered =>
            exact ⟨ready, _, _, decoded, parameters, answered⟩
  | getStatus =>
      refine iff_of_false ?_ (by rintro ⟨⟩)
      obtain ⟨progress, recorded⟩ := measured.recordedProgress
      intro overrun
      obtain ⟨error, unclear⟩ := progressOverrun_iff.mp overrun
      cases recorded.symm.trans unclear
  | _ => exact iff_of_false id (by rintro ⟨⟩)

/-- On a request of an idle interface, the crashes of its route are the fatal messages. -/
theorem routeCrashes_iff {ops : FdOps} {interface : CmdInterface} {first : UInt8}
    {payload : List UInt8} (measured : Measured interface.fdCtx) :
    RouteCrashes ops payload interface.fdCtx (route interface.ctrlCtx payload) ↔
      Fatal ops interface (first :: payload) := by
  constructor
  · intro crashes
    cases hroute : route interface.ctrlCtx payload with
    | refused completionCode => exact (hroute ▸ crashes :).elim
    | control cmd => exact (hroute ▸ crashes :).elim
    | device handler =>
        rw [hroute] at crashes
        exact .unanswerable (route_eq_device_iff.mp hroute)
          ((handlerCrashes_iff measured).mp crashes)
    | unserved =>
        obtain ⟨pldmType, cmdOpcode, passes, base, fwUpdate⟩ := route_eq_unserved_iff.mp hroute
        exact .unserved passes base fwUpdate
  · intro fatal
    cases fatal with
    | unserved passes base fwUpdate =>
        rw [route_eq_unserved_iff.mpr ⟨_, _, passes, base, fwUpdate⟩]
        exact trivial
    | @unanswerable _ _ cmd passes platform =>
        obtain ⟨handler, rfl⟩ : ∃ handler, handledCommand handler = cmd := by
          cases platform with
          | descriptors => exact ⟨.queryDevid, rfl⟩
          | parameters => exact ⟨.getFirmwareParameters, rfl⟩
          | vendorDefined => exact ⟨.updateComponent, rfl⟩
        rw [route_eq_device_iff.mpr passes]
        exact (handlerCrashes_iff measured).mpr platform

/-! ## Runs -/

/-- A message handed to the responder gets its call back, finds the interface idle and
leaves it idle. -/
def Serves (event : InterfaceEvent) : Prop :=
  ∀ msgBuf, event.input.operation = .handleResponderMsg msgBuf →
    event.output.outcome ≠ .panic ∧ event.output.outcome ≠ .err .notReady ∧
      event.output.interface.busy = false

/-- A call that hands the responder nothing fatal. -/
def Survivable (event : InterfaceEvent) : Prop :=
  ∀ msgBuf, event.input.operation = .handleResponderMsg msgBuf →
    ¬ Fatal event.input.ops event.before msgBuf

section Runs

variable {profile : Profile} {interface : CmdInterface}

/-- From an idle interface the responder serves exactly the messages that are not fatal. -/
theorem serves_iff_survivable (idle : interface.busy = false)
    (measured : Measured interface.fdCtx) (input : InterfaceInput) :
    Serves (interfaceEvent profile interface input) ↔
      Survivable (interfaceEvent profile interface input) := by
  obtain ⟨operation, ops⟩ := input
  refine forall_congr' fun msgBuf => forall_congr' fun called => ?_
  obtain rfl : operation = .handleResponderMsg msgBuf := called
  show (CmdInterface.handleResponderMsg ops >>= fun count =>
      pure (InterfaceReturned.length count)).wp (fun outcome final =>
    (outcome ≠ .panic ∧ outcome ≠ .err .notReady ∧ final.interface.busy = false) ↔
      ¬ Fatal ops interface msgBuf) ⟨interface, msgBuf, []⟩
  rw [Call.wp_map]
  apply handleResponderMsg_cases
  · intro busy
    rw [idle] at busy
    cases busy
  · rintro - rfl
    exact iff_of_false (fun served => served.1 rfl) fun calm => calm .empty
  · rintro - first payload rfl
    apply Call.wp_mono (@route_served ops { interface with busy := true } first payload)
    rintro outcome final ⟨hpanic, hready, -⟩
    have hfatal := hpanic.trans (@routeCrashes_iff ops interface first payload measured)
    rw [← not_congr hfatal]
    cases outcome with
    | ok count => exact iff_of_true ⟨nofun, nofun, rfl⟩ nofun
    | panic => exact iff_of_false (fun served => served.1 rfl) fun calm => calm rfl
    | err error =>
        refine iff_of_true ⟨nofun, ?_, rfl⟩ nofun
        intro busy
        exact hready (congrArg Outcome.err (Outcome.err.inj busy))

variable {caps : List ProtocolCapability} {events : List InterfaceEvent}

/-- In every run of an interface with any table, the responder returns from every message,
is idle afterwards and turns none away, exactly when no message of the run is fatal. -/
theorem serves_all_iff (trace : InterfaceTrace profile caps events interface)
    (input : InterfaceInput) :
    (∀ event ∈ events ++ [interfaceEvent profile interface input], Serves event) ↔
      ∀ event ∈ events ++ [interfaceEvent profile interface input], Survivable event := by
  refine forall_congr' fun event => forall_congr' fun member => ?_
  obtain ⟨before, after, split⟩ := List.append_of_mem member
  obtain ⟨prior, hevent⟩ := System.Trace.cut_next trace split
  have hserves := @serves_iff_survivable profile event.before (InterfaceTrace.idle prior)
    (FdTrace.measured (InterfaceTrace.device prior)) event.input
  have hsame : event = interfaceEvent profile event.before event.input := hevent
  rw [← hsame] at hserves
  exact hserves

end Runs

/-- A table with one command of the platform type, of version 1.0.0. -/
def platformTable : List ProtocolCapability := [⟨.platform, 0xF1F0F000, [1]⟩]

/-- The request for that command. -/
def platformRequest : InterfaceInput :=
  ⟨.handleResponderMsg (mctpPldmMsgType :: (PldmMsgHeader.new 0 .request .platform 1).toBytes),
    platform 0⟩

theorem platformRequest_locks_out :
    (interfaceEvent .release (.new platformTable) platformRequest).output.outcome = .panic ∧
    (interfaceStep .release
      (interfaceEvent .release (.new platformTable) platformRequest).output.interface
      platformRequest).outcome = .err .notReady ∧
    ¬ Serves (interfaceEvent .release (.new platformTable) platformRequest) ∧
    ¬ Serves (interfaceEvent .release (.new []) ⟨.handleResponderMsg [], platform 0⟩) := by
  have hpanic : (interfaceEvent .release (.new platformTable) platformRequest).output.outcome =
      .panic := by decide +kernel
  refine ⟨hpanic, by decide +kernel, fun served => (served _ rfl).1 hpanic, ?_⟩
  intro served
  exact (served [] rfl).1 rfl

theorem serves_all_iff_platformRequest :
    (∀ event ∈ [] ++ [interfaceEvent .release (.new platformTable) platformRequest],
      Serves event) ↔
      ∀ event ∈ [] ++ [interfaceEvent .release (.new platformTable) platformRequest],
        Survivable event :=
  serves_all_iff (.start : InterfaceTrace .release platformTable [] _) platformRequest

end PldmLib.Interface
