import Spectrometer.Driver.Script
import Spectrometer.Driver.Transcript
import Spectrometer.Main
import Spectrometer.Proofs.Bench.FlashImage
import Spectrometer.Proofs.Bench.Frames
import Spectrometer.Proofs.Bench.LeftBehind
import Spectrometer.Proofs.Catalog
import Spectrometer.Proofs.Command.Capture
import Spectrometer.Proofs.Command.CaptureSettings
import Spectrometer.Proofs.Command.ChunkedRead
import Spectrometer.Proofs.Command.HexDump
import Spectrometer.Proofs.Command.Simultaneous
import Spectrometer.Proofs.Command.VerifiedWrite
import Spectrometer.Proofs.CommandLine.Offset
import Spectrometer.Proofs.Emulator.Apart
import Spectrometer.Proofs.Emulator.Checked
import Spectrometer.Proofs.Emulator.Contexts
import Spectrometer.Proofs.Emulator.Effect
import Spectrometer.Proofs.Emulator.Enumeration
import Spectrometer.Proofs.Emulator.Filling
import Spectrometer.Proofs.Emulator.FlashFaults
import Spectrometer.Proofs.Emulator.Frames
import Spectrometer.Proofs.Handle.Standing
import Spectrometer.Proofs.Memory
import Spectrometer.Proofs.Reading.Arrivals
import Spectrometer.Proofs.Reading.Averaging
import Spectrometer.Proofs.Reading.Group
import Spectrometer.Proofs.Reading.Storing
import Spectrometer.Proofs.Reading.Telling
import Spectrometer.Proofs.Session.Changes
import Spectrometer.Proofs.Session.Connecting
import Spectrometer.Proofs.Session.Exposure
import Spectrometer.Proofs.Session.OwnValues
import Spectrometer.Proofs.Session.Settings
import Spectrometer.Proofs.Session.TriggerInput
import Spectrometer.Proofs.Session.TriggerSetup
