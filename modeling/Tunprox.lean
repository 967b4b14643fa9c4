import Tunprox.LabelledRun
import Tunprox.InputLoop
import Tunprox.CString
import Tunprox.Roster
import Tunprox.SkBuff
import Tunprox.Receive
import Tunprox.Queue
import Tunprox.QueueHistory
import Tunprox.TunAddr
import Tunprox.Mpdccptun
import Tunprox.Transmit
import Tunprox.TransmitOwnership
import Tunprox.TransmitOrder
import Tunprox.TransmitProgress
import Tunprox.Connection
import Tunprox.ConnectionClose
import Tunprox.ConnectionBind
import Tunprox.ConnectionOutcome
import Tunprox.ConnectionStep
import Tunprox.ConnectionOwned
import Tunprox.ConnectionSocket
import Tunprox.ConnectionConserved
import Tunprox.ConnectionFlags
import Tunprox.ConnectionRoles
import Tunprox.ConnectionRestart
import Tunprox.ConnectionPeer
import Tunprox.SubflowCount
import Tunprox.GracePeriod
import Tunprox.BindRequest
import Tunprox.AcceptBacklog
import Tunprox.WorkLifetime
import Tunprox.Event
import Tunprox.Device
import Tunprox.DeviceStep
import Tunprox.DevicePointer
import Tunprox.Netlink
import Tunprox.WaitEvent
import Tunprox.SetPeer
import Tunprox.SubscriberHistory
import Tunprox.NetlinkRelease
import Tunprox.DeviceLock
import Tunprox.DeviceReference
import Tunprox.ReferenceBalance
import Tunprox.ConnectionManager
import Tunprox.ByteBuffer
import Tunprox.NetlinkAttribute
import Tunprox.NetlinkMessage
import Tunprox.NetlinkReply
import Tunprox.CommandResult
import Tunprox.DeviceList
import Tunprox.NetlinkRequest
import Tunprox.CommandRequest
import Tunprox.ElementText
import Tunprox.EventMessage
import Tunprox.EventRoundTrip
import Tunprox.LinkedList
import Tunprox.TunAddrCalls
import Tunprox.TunRegistry
import Tunprox.TunnelLifecycle
import Tunprox.TunnelType
import Tunprox.ToolConnection
import Tunprox.PdevNotice
import Tunprox.QueueSetting
import Tunprox.RequestEffect
import Tunprox.DevInfoText
import Tunprox.DevInfoBuffer
import Tunprox.StatusParse
import Tunprox.DevInfoTree
import Tunprox.StatusReport
import Tunprox.ReceiveHeader
import Tunprox.AcceptDrain
import Tunprox.SetqueueFailure
import Tunprox.Rebind
import Tunprox.IpHeader
import Tunprox.IpHeaderBounds
import Tunprox.ExtensionChain
import Tunprox.AttributeLoops
import Tunprox.FilteredStatus
import Tunprox.TransmitAccount
import Tunprox.SubflowTable
import Tunprox.PacketLine
import Tunprox.TunnelTransport
import Tunprox.Utf8Text
import Tunprox.XmlDocument
import Tunprox.XmlTree
import Tunprox.XmlParser
import Tunprox.XmlNormalize
import Tunprox.XmlContent
import Tunprox.ExceptRule
import Tunprox.XmlAccepted
import Tunprox.ElementXml
import Tunprox.DevInfoXml
import Tunprox.NameInXml
import Tunprox.XmlReading
import Tunprox.ToolReading
import Tunprox.DeviceIdentity
import Tunprox.CommandSession
import Tunprox.DeviceRoster
import Tunprox.NetlinkReceive
import Tunprox.AddrText
import Tunprox.CommandLine
