import TripComputer.Word.Longhand
import TripComputer.Settings
import TripComputer.Trips
import TripComputer.Instruction
import TripComputer.Instruction.Packed
import TripComputer.Text.Column
import TripComputer.Machine
import TripComputer.Catalog
import TripComputer.Display
import TripComputer.Interrupt
import TripComputer.Image
import TripComputer.Computer.Setup
import TripComputer.Rig
import TripComputer.Drive.Recorder
import TripComputer.Thousandths
import TripComputer.Toml.Document
import TripComputer.Config.Reading
import TripComputer.Json
import TripComputer.Place
import TripComputer.CommandLine.Arguments
import TripComputer.CommandLine.Failure
import TripComputer.CommandLine
import TripComputer.Main
import TripComputer.Proofs.Catalog.Backends
import TripComputer.Proofs.Computer.SelfCheck
import TripComputer.Proofs.Computer.Conservation
import TripComputer.Proofs.Capture.Meter
import TripComputer.Proofs.Packed.RoundTrip
import TripComputer.Proofs.Catalog.Formulas
import TripComputer.Proofs.Computer.Coherence
import TripComputer.Proofs.Image.Record
import TripComputer.Proofs.Config.Boot
import TripComputer.Proofs.Catalog.Sentinel
import TripComputer.Proofs.Machine.Validation
import TripComputer.Proofs.Display.Precision
import TripComputer.Proofs.Computer.UnitSwitch
import TripComputer.Proofs.Computer.Hardware
import TripComputer.Proofs.Computer.PowerCycle
import TripComputer.Proofs.Display.Lossless
import TripComputer.Proofs.Capture.Sides
import TripComputer.Proofs.Capture.InjectorEdges
import TripComputer.Proofs.Capture.InjectorFilter
import TripComputer.Proofs.Capture.Lapse
import TripComputer.Proofs.Capture.RoadSpeed
import TripComputer.Proofs.Trip.Window
import TripComputer.Proofs.Capture.Debounce
import TripComputer.Proofs.Capture.Schedule
import TripComputer.Proofs.Computer.Waking
import TripComputer.Proofs.Computer.ExactParameters
import TripComputer.Proofs.Catalog.FuelFactor
import TripComputer.Proofs.Catalog.Accuracy
import TripComputer.Proofs.Computer.SpeedGraph
import TripComputer.Proofs.Capture.ExtendedTime
import TripComputer.Proofs.Computer.EconomyHistory
import TripComputer.Proofs.Image.Accepted
import TripComputer.Proofs.Config.WrittenDecimal
import TripComputer.Proofs.Machine.Callers
import TripComputer.Proofs.Drive.Slices
import TripComputer.Proofs.Catalog.Contracts
import TripComputer.Proofs.Word.Loops
