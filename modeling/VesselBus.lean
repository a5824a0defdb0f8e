import VesselBus.Bus.Dispatch
import VesselBus.Bus.FileTree.Standard
import VesselBus.Config.Table
import VesselBus.Message.Header
import VesselBus.Node.Startup
import VesselBus.Time.Stopwatch
import VesselBus.Vessel.Assembly
import VesselBus.Vessel.Console
import VesselBus.Vessel.WindSensor
import VesselBus.Proofs.Bus.Order
import VesselBus.Proofs.Bus.Routing
import VesselBus.Proofs.Bus.Sequential
import VesselBus.Proofs.Recorder.Conservation
import VesselBus.Proofs.Recorder.Sequential
import VesselBus.Proofs.Worker.Single
import VesselBus.Proofs.Bus.Draining
import VesselBus.Proofs.Recorder.Turns
import VesselBus.Proofs.Worker.Barrier
import VesselBus.Proofs.Bus.Faults
import VesselBus.Proofs.Worker.Lifecycle
import VesselBus.Proofs.Bus.Returning
import VesselBus.Proofs.Bus.Generations
import VesselBus.Proofs.Bus.Chronicle
import VesselBus.Proofs.Startup.Stations
import VesselBus.Proofs.Startup.AllOrNone
import VesselBus.Proofs.Packing.RoundTrip
import VesselBus.Proofs.Bus.Closing
import VesselBus.Proofs.Bus.Waking
import VesselBus.Proofs.Bus.Answering
import VesselBus.Proofs.Vessel.Mooring
import VesselBus.Proofs.Vessel.Quiescence
import VesselBus.Proofs.Bus.Mentions
import VesselBus.Proofs.Worker.Passing
import VesselBus.Proofs.Recorder.Batching
import VesselBus.Proofs.Sensor.Publishing
import VesselBus.Proofs.Worker.Calls
import VesselBus.Proofs.Worker.Paced
import VesselBus.Proofs.Message.Headers
import VesselBus.Proofs.Settings.Changes
import VesselBus.Proofs.Settings.Refreshing
import VesselBus.Proofs.Time.Seconds
import VesselBus.Proofs.Settings.Tabulating
import VesselBus.Proofs.Packing.InPlace
import VesselBus.Proofs.Time.SharedPeriods
import VesselBus.Proofs.Time.Timekeeping
import VesselBus.Proofs.Vessel.Blending
