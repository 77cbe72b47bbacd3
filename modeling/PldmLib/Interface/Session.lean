/-
# An update session at the interface

The messages of the agent behind their transport byte, and the calls that take a fresh
interface through an update by the book.
-/

import PldmLib.FirmwareDevice.Session
import PldmLib.Interface.CmdInterface

namespace PldmLib.Interface

open PldmLib.Machine PldmLib.Protocol PldmLib.Message PldmLib.FirmwareDevice

/-- A table with the commands of an update, of version 1.3.0. -/
def updateTable : List ProtocolCapability :=
  [⟨.fwUpdate, 0xF1F3F000, [FwUpdateCmd.requestUpdate.toU8, FwUpdateCmd.passComponentTable.toU8,
    FwUpdateCmd.updateComponent.toU8]⟩]

/-- A message of the agent, behind its transport byte. -/
def receiveMctp (payload : List UInt8) (ops : FdOps) : InterfaceInput :=
  ⟨.handleResponderMsg (mctpPldmMsgType :: payload), ops⟩

def respondMctp (payload : List UInt8) (ops : FdOps) : InterfaceInput :=
  ⟨.processInitiatorResponse (mctpPldmMsgType :: payload), ops⟩

/-- A poll with room for any request. -/
def pollMctp (ops : FdOps) : InterfaceInput :=
  ⟨.generateInitiatorRequest (List.replicate 17 0), ops⟩

/-- From a fresh interface to the report of a completed download. -/
def untilTransferComplete : List InterfaceInput :=
  [receiveMctp (Agent.requestUpdate 512) (platform 0),
    receiveMctp Agent.passComponentTable (platform 0),
    receiveMctp (Agent.updateComponent 100) (platform 0), pollMctp (platform 1),
    respondMctp (Agent.response 1 .requestFirmwareData PldmBaseCompletionCode.success.toU8
      (List.replicate 32 0)) (platform 2),
    pollMctp (platform 3)]

end PldmLib.Interface
