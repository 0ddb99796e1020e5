import LddLearn.Library.Run
import LddLearn.Library.Numbering
import LddLearn.Library.CString
import LddLearn.Library.Copy
import LddLearn.Library.RunningSum
import LddLearn.Library.Memory
import LddLearn.Library.Tally
import LddLearn.Linux.Kernel
import LddLearn.Linux.Chars
import LddLearn.Ssxa.Context
import LddLearn.Ssxa.Resources
import LddLearn.Ssxa.Holding
import LddLearn.Ssxa.Layout
import LddLearn.Ssxa.Frame
import LddLearn.Ssxa.Checksum
import LddLearn.Ssxa.Sealing
import LddLearn.Ssxa.Integrity
import LddLearn.Pcidev02.Driver
import LddLearn.Pcidev02.Effects
import LddLearn.Pcidev02.Runs
import LddLearn.Pcidev02.Slots
import LddLearn.Pcidev02.Bound
import LddLearn.Pcidev02.Mounting
import LddLearn.Pcidev02.GiveBack
import LddLearn.Pcidev02.Nodes
import LddLearn.Pcidev02.Unload
import LddLearn.Pcidev02.Order
import LddLearn.Pcidev02.Workers
import LddLearn.Pcidev02.Nesting
import LddLearn.Pcidev02.Lifetime
import LddLearn.Pcidev02.Interrupt
import LddLearn.Pcidev02.Drain
import LddLearn.Pcidev01.Table
import LddLearn.Pcidev01.TableMap
import LddLearn.Pcidev01.Driver
import LddLearn.Pcidev01.Runs
import LddLearn.Pcidev01.Cdevs
import LddLearn.Pcidev01.Undo
import LddLearn.Pcidev01.Reservations
import LddLearn.Pcidev01.Leftovers
import LddLearn.Pcidev01.Files
import LddLearn.Pcidev01.Ports
import LddLearn.Pcidev01.Scan
import LddLearn.Pcidev01.Faults
import LddLearn.Pcidev01.Sharing
import LddLearn.Chardev.Device
import LddLearn.Chardev.MsgBuff
import LddLearn.Chardev.Session
import LddLearn.Chardev.Faults
import LddLearn.Chardev.References
import LddLearn.Chardev.Insertion
import LddLearn.Chardev.Interleaved
import LddLearn.Chardev.Serial
import LddLearn.Chardev.Removal
import LddLearn.Chardev.Report
import LddLearn.Chardev.Stale
import LddLearn.PciFake.Handshake
import LddLearn.PciFake.Driver
import LddLearn.PciFake.Ownership
import LddLearn.PciFake.Lifetime
import LddLearn.PciFake.Reset
import LddLearn.PciFake.Returns
import LddLearn.PciFake.Exchange
import LddLearn.PciFake.Probe
