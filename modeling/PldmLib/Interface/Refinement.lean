/-
# The interface refines the documented state machine

Whatever is called on the interface, with whatever bytes and whatever answers of the
platform, the update state stays as it is or takes one edge of the documented machine, and
the call of the device that did it is an occasion of that edge. The update states of a
run of the interface are therefore a path of the machine.
-/

import PldmLib.FirmwareDevice.StateMachine
import PldmLib.Interface.Dispatch
import PldmLib.Interface.Session

namespace PldmLib.Interface

open PldmLib.Machine PldmLib.Protocol PldmLib.Message PldmLib.FirmwareDevice

/-- The update state of the device behind an interface. -/
def CmdInterface.updateState (interface : CmdInterface) : FirmwareDeviceState :=
  interface.fdCtx.state

section Runs

variable {profile : Profile} {caps : List ProtocolCapability} {interface : CmdInterface}
  {events : List InterfaceEvent}

/-- The call takes the update along an edge of which it is an occasion. -/
def Takes (profile : Profile) (event : InterfaceEvent) (transition : Transition) : Prop :=
  transition.Leads event.before.updateState event.output.interface.updateState ∧
    ∃ call, performed profile event = some call ∧ Occurs call transition

/-- In every reachable state, every call keeps the update state or takes it along exactly one
edge of the documented machine, and none leaves it in `Activate`. -/
theorem refines_documented (trace : InterfaceTrace profile caps events interface)
    (input : InterfaceInput) :
    ((interfaceEvent profile interface input).output.interface.updateState =
        interface.updateState ∨
      ∃! transition, Takes profile (interfaceEvent profile interface input) transition) ∧
    (interfaceEvent profile interface input).output.interface.updateState ≠ .activate := by
  have hperforms := @performs_interfaceStep profile interface input
  have hdevice := InterfaceTrace.device trace
  have hresting := hdevice.ne_activate
  have hperformed : performed profile (interfaceEvent profile interface input) =
      (performedOperation interface input.operation).map fun operation =>
        fdEvent profile interface.fdCtx ⟨operation, input.ops⟩ := rfl
  cases hoperation : performedOperation interface input.operation with
  | none =>
      rw [hoperation] at hperforms
      have hsame : (interfaceEvent profile interface input).output.interface.updateState =
          interface.updateState := congrArg FdInternal.state (hperforms.idle rfl).1
      exact ⟨.inl hsame, hsame ▸ hresting⟩
  | some operation =>
      rw [hoperation] at hperforms hperformed
      obtain ⟨hfdCtx, _, _⟩ := hperforms.device operation rfl
      have hafter : (interfaceEvent profile interface input).output.interface.updateState =
          (fdEvent profile interface.fdCtx ⟨operation, input.ops⟩).after.state :=
        congrArg FdInternal.state hfdCtx
      rcases hdevice.documented ⟨operation, input.ops⟩ with same | ⟨transition, leads, occurs⟩
      · have hsame := hafter.trans same
        exact ⟨.inl hsame, fun activating => hresting (hsame.symm.trans activating)⟩
      · refine ⟨.inr ⟨transition, ⟨?_, _, hperformed, occurs⟩, ?_⟩, ?_⟩
        · rw [hafter]
          exact leads
        · rintro other ⟨leads', call, hcall, occurs'⟩
          obtain rfl := Option.some.inj (hperformed.symm.trans hcall)
          exact occurs'.unique occurs leads' leads
        · rw [hafter]
          exact leads.ne_activate

/-- The update states of a run are a path of the documented machine. -/
theorem InterfaceTrace.path (trace : InterfaceTrace profile caps events interface) :
    ∃ transitions, Path Transition.Leads .idle transitions interface.updateState := by
  apply System.Trace.path CmdInterface.updateState _ trace
  intro events state input reached prior live
  obtain ⟨_, rfl⟩ := interfaceSystem_next live
  rcases (refines_documented prior input).1 with same | ⟨transition, ⟨leads, _⟩, _⟩
  · exact .inl same
  · exact .inr ⟨transition, leads⟩

end Runs

/-- The request that begins an update is the occasion of one edge. -/
theorem refines_documented_requestUpdate :
    ∃! transition, Takes .release (interfaceEvent .release (.new updateTable)
      (receiveMctp (Agent.requestUpdate 512) (platform 0))) transition :=
  (refines_documented (.start : InterfaceTrace .release updateTable [] _)
    (receiveMctp (Agent.requestUpdate 512) (platform 0))).1.resolve_left (by decide +kernel)

end PldmLib.Interface
