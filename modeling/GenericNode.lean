import GenericNode.Library.Program
import GenericNode.Library.Hex
import GenericNode.Library.OneShot
import GenericNode.Library.Machine
import GenericNode.Library.SplitCounter
import GenericNode.Library.Bytes
import GenericNode.Library.NorFlash
import GenericNode.Library.LinkedList
import GenericNode.Library.Crc
import GenericNode.Rtc.Ticks
import GenericNode.Rtc.Time
import GenericNode.Rtc.Elapsed
import GenericNode.SecureElement.Keys
import GenericNode.SecureElement.Device
import GenericNode.SecureElement.Calls
import GenericNode.SecureElement.Buffers
import GenericNode.SecureElement.Mic
import GenericNode.SecureElement.JoinAccept
import GenericNode.SecureElement.Isolation
import GenericNode.SecureElement.Encrypt
import GenericNode.SecureElement.Receive
import GenericNode.SecureElement.DevEui
import GenericNode.SecureElement.Context
import GenericNode.Flash.Chip
import GenericNode.Flash.Driver
import GenericNode.Flash.RoundTrip
import GenericNode.Flash.Spiffs
import GenericNode.McuFlash.Hal
import GenericNode.McuFlash.Erase
import GenericNode.McuFlash.Write
import GenericNode.Timer.Server
import GenericNode.Timer.Lists
import GenericNode.Timer.Periods
import GenericNode.Timer.Alarm
import GenericNode.Timer.Interrupt
import GenericNode.Timer.Sections
import GenericNode.Timer.Settings
import GenericNode.Timer.Expiry
import GenericNode.Timer.Punctual
import GenericNode.Timer.Macros
import GenericNode.Timer.Downlink
import GenericNode.Timer.DownlinkRuns
import GenericNode.Timer.Interval
import GenericNode.Sensors.Uplink
import GenericNode.Sensors.Sampling
import GenericNode.Sensors.Button
import GenericNode.FreeRtos.Ticks
import GenericNode.FreeRtos.SoftTimers
import GenericNode.FreeRtos.Timers
import GenericNode.FreeRtos.Tracks
import GenericNode.FreeRtos.Callbacks
import GenericNode.FreeRtos.TimerPorts
import GenericNode.FreeRtos.Requests
import GenericNode.FreeRtos.Pairing
import GenericNode.FreeRtos.Delivery
import GenericNode.Buzzer.Driver
import GenericNode.Buzzer.Interrupts
import GenericNode.Lpm.StopMode
import GenericNode.Freefall.TimerView
import GenericNode.Freefall.Notification
import GenericNode.Freefall.Silence
import GenericNode.Tracer.Votes
import GenericNode.Fuota.Storage
import GenericNode.Fuota.Crc
import GenericNode.Fuota.Decoder
import GenericNode.Fuota.Package
import GenericNode.Fuota.Sessions
import GenericNode.Library.Elimination
import GenericNode.Fuota.BitArrays
import GenericNode.Fuota.Parity
import GenericNode.Fuota.Missing
import GenericNode.Fuota.Rows
import GenericNode.Fuota.Equations
import GenericNode.Fuota.Recovery
import GenericNode.Fuota.Fragments
import GenericNode.Fuota.Buffers
import GenericNode.Fuota.Transfer
import GenericNode.Library.Wire
import GenericNode.Library.Blocks
import GenericNode.Library.Cmac
import GenericNode.Library.CounterMode
import GenericNode.SoftSe.Cmac
import GenericNode.SecureElement.Interface
import GenericNode.SoftSe.Element
import GenericNode.LoRaMac.Frames
import GenericNode.LoRaMac.RoundTrip
import GenericNode.LoRaMac.Crypto
import GenericNode.LoRaMac.Security
import GenericNode.LoRaMac.Counters
import GenericNode.LoRaMac.Join
import GenericNode.LoRaMac.Context
import GenericNode.LoRaMac.Receive
import GenericNode.LoRaMac.AnyFrame
import GenericNode.LoRaMac.Reception
import GenericNode.Library.FreshLog
import GenericNode.LoRaMac.Uplink
import GenericNode.LoRaMac.Process
import GenericNode.LoRaMac.Transmission
import GenericNode.LoRaMac.Downlinks
import GenericNode.LoRaMac.Delivery
import GenericNode.LoRaMac.Uplinks
import GenericNode.LoRaMac.UplinkRuns
