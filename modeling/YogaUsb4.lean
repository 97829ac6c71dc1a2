import YogaUsb4.Prog
import YogaUsb4.Triple
import YogaUsb4.Keeps
import YogaUsb4.Vc
import YogaUsb4.Steps
import YogaUsb4.Threads
import YogaUsb4.Dialog
import YogaUsb4.Watch
import YogaUsb4.PyText
import YogaUsb4.HostState
import YogaUsb4.Typec
import YogaUsb4.Driver
import YogaUsb4.Cm
import YogaUsb4.Pcie
import YogaUsb4.PcieRetire
import YogaUsb4.Activate
import YogaUsb4.Batch
import YogaUsb4.Quiesce
import YogaUsb4.Renew
import YogaUsb4.Run
import YogaUsb4.Rules
import YogaUsb4.Frames
import YogaUsb4.Footprint
import YogaUsb4.Ledger.Basic
import YogaUsb4.Ledger.Activate
import YogaUsb4.Ledger.Batch
import YogaUsb4.Ledger.Stop
import YogaUsb4.Ledger.Retire
import YogaUsb4.Ledger.Run
import YogaUsb4.IdleRetire
import YogaUsb4.ConfigPhase
import YogaUsb4.Events.Basic
import YogaUsb4.Events.Hold
import YogaUsb4.Ctl.Basic
import YogaUsb4.Ctl.Moves
import YogaUsb4.Ctl.Retire
import YogaUsb4.RootIdentity
import YogaUsb4.Registers
import YogaUsb4.ConfigGate
import YogaUsb4.MemWindow
import YogaUsb4.Startup
import YogaUsb4.Imsi.Policy
import YogaUsb4.Imsi.Receiver
import YogaUsb4.Imsi.LifeCycle
import YogaUsb4.GccLease
import YogaUsb4.NvmeSession
import YogaUsb4.Wire
import YogaUsb4.LittleEndian
import YogaUsb4.Mcu.Firmware
import YogaUsb4.Mcu.Drom
import YogaUsb4.Mcu.Control
import YogaUsb4.Mcu.Boot
import YogaUsb4.Mcu.Machine
import YogaUsb4.LinkPacket
import YogaUsb4.Topology
import YogaUsb4.Link.Packets
import YogaUsb4.Link.Transport
import YogaUsb4.Link.Run
import YogaUsb4.Link.Protocol
import YogaUsb4.Link.Control
import YogaUsb4.Native.Bridge
import YogaUsb4.Native.Basic
import YogaUsb4.Native.Owner
import YogaUsb4.Native.Chain
import YogaUsb4.UcsiQuery
import YogaUsb4.Pci0Init
import YogaUsb4.PowerOff
import YogaUsb4.PanPlan
import YogaUsb4.PanObserver
import YogaUsb4.EjectGuard
import YogaUsb4.Daemon.Basic
import YogaUsb4.Daemon.Router
import YogaUsb4.Daemon.Service
import YogaUsb4.Daemon.Serve
import YogaUsb4.Daemon.Rules
import YogaUsb4.Daemon.Careful
import YogaUsb4.Daemon.Stores
import YogaUsb4.Daemon.Fake
import YogaUsb4.Daemon.FakeRules
import YogaUsb4.Daemon.Dormant
import YogaUsb4.Daemon.Transit
import YogaUsb4.Daemon.Agreement
import YogaUsb4.Daemon.Powered
import YogaUsb4.Daemon.CableRace
import YogaUsb4.Daemon.RequestFiles
import YogaUsb4.Daemon.MountInfo
import YogaUsb4.Daemon.Questions
import YogaUsb4.Daemon.Logind
import YogaUsb4.Daemon.BusySleep
import YogaUsb4.Daemon.Releasing
