import TurboMac.Linux.Config
import TurboMac.Linux.Governor
import TurboMac.Lib.Timing
import TurboMac.Linux.Step
import TurboMac.Linux.Path
import TurboMac.Linux.Run
import TurboMac.Linux.Limits
import TurboMac.Linux.Emergency
import TurboMac.Linux.Recovery
import TurboMac.Lib.SavedRegister
import TurboMac.Kext.Codec
import TurboMac.Kext.Driver
import TurboMac.Kext.Frames
import TurboMac.Kext.Rendezvous
import TurboMac.Kext.Calls
import TurboMac.Kext.Restore
import TurboMac.Kext.Run
import TurboMac.Kext.Guard
import TurboMac.Kext.Limit
import TurboMac.Kext.Firmware
import TurboMac.Kext.ArmTrace
import TurboMac.Kext.ArmOrder
import TurboMac.Daemon.Policy
import TurboMac.Kext.Arm
import TurboMac.Daemon.Daemon
import TurboMac.Daemon.Readiness
import TurboMac.Daemon.Disarm
import TurboMac.Lib.Repair
import TurboMac.Linux.Settings
import TurboMac.Linux.Validate
import TurboMac.Linux.Gpu
import TurboMac.Linux.Persist
import TurboMac.Linux.Store
import TurboMac.Linux.Reload
import TurboMac.Linux.GpuSet
import TurboMac.Linux.FanFloor
import TurboMac.Daemon.Band
import TurboMac.Daemon.Hysteresis
import TurboMac.Daemon.Profile
import TurboMac.Daemon.ProfileRoundTrip
import TurboMac.Daemon.Gate
import TurboMac.Daemon.TenSeconds
import TurboMac.Daemon.Validation
import TurboMac.Daemon.ValidationGate
import TurboMac.Linux.Capture
import TurboMac.Lib.Double
import TurboMac.Daemon.Milliwatts
import TurboMac.Daemon.Rounded
import TurboMac.Daemon.TopRequest
import TurboMac.Daemon.Agreement
import TurboMac.Linux.Fallback
import TurboMac.Linux.EmergencyState
import TurboMac.Linux.Reassert
import TurboMac.Linux.Thermal
import TurboMac.Linux.Label
import TurboMac.Kext.Requests
import TurboMac.Kext.Atomic
import TurboMac.Kext.Override
import TurboMac.Linux.Reset
import TurboMac.Lib.Table
import TurboMac.Linux.SampleLog
import TurboMac.Lib.Tail
import TurboMac.Linux.LastSamples
import TurboMac.Linux.LogHistory
import TurboMac.Daemon.Accepted
import TurboMac.Daemon.Limits
import TurboMac.Daemon.EmergencyFloor
import TurboMac.Daemon.Polling
import TurboMac.Linux.FanLadder
import TurboMac.Linux.FanRelease
import TurboMac.Linux.FanTarget
import TurboMac.Lib.Retry
import TurboMac.Linux.FanRetry
import TurboMac.Linux.FanCapture
import TurboMac.Linux.Totality
import TurboMac.Linux.Partition
import TurboMac.Lib.Counter
import TurboMac.Linux.Power
import TurboMac.Linux.Readback
import TurboMac.Daemon.EnergyRun
import TurboMac.Lib.Evict
import TurboMac.Linux.Prune
import TurboMac.Lib.Crash
import TurboMac.Linux.Compress
import TurboMac.Linux.SampleQueue
import TurboMac.Lib.Trace
import TurboMac.Linux.GpuControl
import TurboMac.Linux.GpuTrace
import TurboMac.Linux.GpuOff
import TurboMac.Linux.GpuTracking
import TurboMac.Linux.Reply
import TurboMac.Lib.Rounding
import TurboMac.Kext.HeldLimit
import TurboMac.Kext.RoundTrip
import TurboMac.Daemon.SMCReader
import TurboMac.Linux.SmcDecode
import TurboMac.Lib.Python
import TurboMac.Linux.SettingsEditor
import TurboMac.Lib.Scanner
import TurboMac.Top.ControlInput
import TurboMac.Linux.SmcRun
import TurboMac.Daemon.Load
import TurboMac.Daemon.Supervision
import TurboMac.Daemon.Calibration
import TurboMac.Daemon.CalibrationTiers
import TurboMac.Daemon.CalibrationBounds
import TurboMac.Daemon.Status
import TurboMac.Lib.Strtod
import TurboMac.Top.Status
import TurboMac.Top.StatusRead
import TurboMac.Kext.Copies
import TurboMac.Kext.Settled
import TurboMac.Kext.DriverClient
import TurboMac.Kext.HWPLaw
import TurboMac.Kext.Heartbeat
import TurboMac.Lib.Median
import TurboMac.Linux.BootCheck
import TurboMac.Linux.GpuRetry
import TurboMac.Linux.Loop
import TurboMac.Linux.LoopSamples
import TurboMac.Linux.LoopWrites
import TurboMac.Linux.Watchdog
import TurboMac.Daemon.CalibrationResult
import TurboMac.Lib.JsonText
import TurboMac.Lib.Lines
import TurboMac.Linux.JsonDumps
import TurboMac.Linux.Protocol
import TurboMac.Linux.Server
import TurboMac.Linux.Cap
