import Zenbedded.Transport.Serialization
import Zenbedded.Transport.Layout
import Zenbedded.Transport.Template
import Zenbedded.Transport.LayoutOutcome
import Zenbedded.Transport.Messages
import Zenbedded.Transport.ReadBack
import Zenbedded.Transport.Conformance
import Zenbedded.Rcl.Codecs
import Zenbedded.Transport.ZenohTransport
import Zenbedded.Rcl.DoubleBuffer
import Zenbedded.Rcl.Client
import Zenbedded.Rcl.InitStores
import Zenbedded.Rcl.InitOutcome
import Zenbedded.Rcl.Delivery
import Zenbedded.Rcl.InitResult
import Zenbedded.Rcl.StateHistory
import Zenbedded.Rcl.CommandValues
import Zenbedded.Foundation.Trace
import Zenbedded.Rcl.Interleaving
import Zenbedded.Rcl.Linearization
import Zenbedded.Rcl.Undisturbed
import Zenbedded.Foundation.CStruct
import Zenbedded.Schema.InterfaceSchema
import Zenbedded.Schema.PayloadHeader
import Zenbedded.Foundation.CHeader
import Zenbedded.Schema.Declarations
import Zenbedded.Schema.HeaderText
import Zenbedded.Schema.Agreement
import Zenbedded.Schema.Acceptance
import Zenbedded.Hardware.FieldAccess
import Zenbedded.Hardware.ZenbeddedHardware
import Zenbedded.Hardware.Cycle
import Zenbedded.Hardware.Exchange
import Zenbedded.Hardware.Payloads
import Zenbedded.Hardware.Activation
import Zenbedded.Transport.PoolInvariants
import Zenbedded.Rcl.Clients
import Zenbedded.Rcl.Teardown
import Zenbedded.Foundation.Spans
import Zenbedded.Transport.AccessBounds
import Zenbedded.Transport.LayoutSafety
import Zenbedded.Rcl.Lifecycle
import Zenbedded.Rcl.LifecyclePhases
import Zenbedded.Rcl.LifecycleRuns
import Zenbedded.Transport.Publications
import Zenbedded.Rcl.Retries
import Zenbedded.Rcl.CommandCounter
import Zenbedded.Demos.Pendulum
import Zenbedded.Demos.Watchdog
import Zenbedded.Hardware.CommandCells
import Zenbedded.Hardware.IntegerCommands
import Zenbedded.Transport.LivelinessKeys
import Zenbedded.Foundation.Samples
import Zenbedded.Rcl.SuccessiveReads
import Zenbedded.Rcl.WholePayloads
import Zenbedded.Rcl.StatePublications
import Zenbedded.Rcl.PeerCommands
import Zenbedded.Tier2.Link
import Zenbedded.Tier2.CommandPath
import Zenbedded.Tier2.StatePath
import Zenbedded.Tier2.Settled
import Zenbedded.Foundation.DoubleOrder
import Zenbedded.Demos.Stepper
import Zenbedded.Rcl.Pacing
import Zenbedded.Rcl.PublicationRate
import Zenbedded.Transport.Routing
import Zenbedded.Rcl.Attempts
import Zenbedded.Tier2.NewestState
import Zenbedded.Tier2.FirmwareLoop
import Zenbedded.Demos.PingPong
