import AndroidTether.ByteWords
import AndroidTether.Delimited
import AndroidTether.Checked
import AndroidTether.MapWrites
import AndroidTether.Transition
import AndroidTether.StateSimulation
import AndroidTether.LastWins
import AndroidTether.PlainText
import AndroidTether.PropertyList
import AndroidTether.NetTypes
import AndroidTether.RndisFraming
import AndroidTether.RndisReference
import AndroidTether.RndisRoundTrip
import AndroidTether.RndisControl
import AndroidTether.RndisDriver
import AndroidTether.RndisReplies
import AndroidTether.DhcpOptions
import AndroidTether.DhcpWire
import AndroidTether.DhcpDiscover
import AndroidTether.DhcpSafety
import AndroidTether.DhcpCoherence
import AndroidTether.DnsProxy
import AndroidTether.Frame
import AndroidTether.TxLoop
import AndroidTether.DnsLeak
import AndroidTether.DotConnection
import AndroidTether.DotPool
import AndroidTether.ControlLoop
import AndroidTether.IpcControl
import AndroidTether.NetworkState
import AndroidTether.SessionStop
import AndroidTether.Arp
import AndroidTether.RxPath
import AndroidTether.UsbIo
import AndroidTether.UsbTransmit
import AndroidTether.TxSequence
import AndroidTether.DotBatch
import AndroidTether.Teardown
import AndroidTether.IpcServer
import AndroidTether.IpcClients
import AndroidTether.IpcOutput
import AndroidTether.IpcDelivery
import AndroidTether.DhcpScanners
import AndroidTether.FrameInverse
import AndroidTether.DohResolver
import AndroidTether.RndisAnswers
import AndroidTether.TransferSize
import AndroidTether.UsbDevice
import AndroidTether.UsbEndpoints
import AndroidTether.Ipv4Text
import AndroidTether.Config
import AndroidTether.IniMerge
import AndroidTether.ConfigPrecedence
import AndroidTether.Daemon
import AndroidTether.InstallRoundTrip
import AndroidTether.DhcpEncoding
import AndroidTether.IniMergeLaws
import AndroidTether.Checksums
import AndroidTether.RndisCompletions
import AndroidTether.RndisBuilders
import AndroidTether.DhcpMessages
import AndroidTether.GatewayMac
import AndroidTether.UsbFunctions
import AndroidTether.Utun
import AndroidTether.ArpAnnouncements
import AndroidTether.Bridge
import AndroidTether.Composition
import AndroidTether.IoStream
import AndroidTether.OwnFrames
import AndroidTether.DhcpLease
import AndroidTether.DhcpServer
import AndroidTether.RndisHandshake
import AndroidTether.EncryptedDns
import AndroidTether.NetworkHistory
import AndroidTether.SessionSetup
import AndroidTether.ProgramRun
import AndroidTether.RelaxedCounter
import AndroidTether.StatsReport
import AndroidTether.DotSystem
import AndroidTether.IpcExchange
import AndroidTether.ServiceRun
