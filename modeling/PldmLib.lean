import PldmLib.Machine.Outcome
import PldmLib.Machine.Bytes
import PldmLib.Machine.Bitmap
import PldmLib.Machine.Text
import PldmLib.Machine.Run
import PldmLib.Machine.Scan
import PldmLib.Machine.Layout
import PldmLib.Machine.Iterator
import PldmLib.Machine.Refinement
import PldmLib.Machine.ClosedLoop
import PldmLib.Machine.Viewpoint
import PldmLib.Machine.Lockstep
import PldmLib.Protocol.Base
import PldmLib.Protocol.FirmwareUpdate
import PldmLib.Protocol.Codec
import PldmLib.Protocol.Records
import PldmLib.Protocol.Version
import PldmLib.Protocol.Identifier
import PldmLib.Message.Transfer
import PldmLib.Message.Update
import PldmLib.Message.Inventory
import PldmLib.Message.UpdateCodec
import PldmLib.Message.InventoryCodec
import PldmLib.Message.Control
import PldmLib.Message.Overrun
import PldmLib.Message.Eligibility
import PldmLib.Message.AnnouncedCount
import PldmLib.Message.PackageData
import PldmLib.Message.PackageDataCodec
import PldmLib.Message.Downstream
import PldmLib.Message.DownstreamIterator
import PldmLib.Message.DownstreamPortion
import PldmLib.Message.HandWritten
import PldmLib.Message.Response
import PldmLib.Message.OptionalField
import PldmLib.Message.Packed
import PldmLib.Message.Requests
import PldmLib.FirmwareDevice.FdOps
import PldmLib.FirmwareDevice.FdInternal
import PldmLib.FirmwareDevice.Context
import PldmLib.FirmwareDevice.Responder
import PldmLib.FirmwareDevice.Initiator
import PldmLib.FirmwareDevice.System
import PldmLib.FirmwareDevice.RequestStep
import PldmLib.FirmwareDevice.PollStep
import PldmLib.FirmwareDevice.ResponseStep
import PldmLib.FirmwareDevice.Step
import PldmLib.FirmwareDevice.Progress
import PldmLib.FirmwareDevice.StateMachine
import PldmLib.FirmwareDevice.Session
import PldmLib.FirmwareDevice.CallbackStates
import PldmLib.FirmwareDevice.Cancellation
import PldmLib.FirmwareDevice.Timeout
import PldmLib.FirmwareDevice.UpdateOrder
import PldmLib.FirmwareDevice.DownloadRange
import PldmLib.FirmwareDevice.InstanceId
import PldmLib.FirmwareDevice.Network
import PldmLib.FirmwareDevice.Superseded
import PldmLib.FirmwareDevice.Report
import PldmLib.FirmwareDevice.LocalWork
import PldmLib.FirmwareDevice.Application
import PldmLib.FirmwareDevice.Conclusion
import PldmLib.FirmwareDevice.PlatformAnswer
import PldmLib.FirmwareDevice.Retransmission
import PldmLib.FirmwareDevice.Acknowledgement
import PldmLib.FirmwareDevice.FailedPoll
import PldmLib.FirmwareDevice.Verdict
import PldmLib.FirmwareDevice.Inquiry
import PldmLib.FirmwareDevice.Installation
import PldmLib.FirmwareDevice.Recovery
import PldmLib.FirmwareDevice.Campaign
import PldmLib.FirmwareDevice.Refusal
import PldmLib.FirmwareDevice.LastExit
import PldmLib.FirmwareDevice.Pacing
import PldmLib.FirmwareDevice.ActivationMethod
import PldmLib.FirmwareDevice.Status
import PldmLib.FirmwareDevice.Representation
import PldmLib.FirmwareDevice.Classification
import PldmLib.FirmwareDevice.Understanding
import PldmLib.FirmwareDevice.Identity
import PldmLib.FirmwareDevice.Room
import PldmLib.FirmwareDevice.Leftover
import PldmLib.Interface.ControlContext
import PldmLib.Interface.VersionTable
import PldmLib.Interface.CmdInterface
import PldmLib.Interface.Session
import PldmLib.Interface.Dispatch
import PldmLib.Interface.Reply
import PldmLib.Interface.Correlation
import PldmLib.Interface.Availability
import PldmLib.Interface.Advertisement
import PldmLib.Interface.Genuine
import PldmLib.Interface.Refinement
import PldmLib.Interface.Framing
import PldmLib.Interface.Unanswered
import PldmLib.Interface.Planes
import PldmLib.Interface.Delivery
import PldmLib.Interface.Discovery
import PldmLib.Interface.Leftover
import PldmLib.Interface.Messengers
