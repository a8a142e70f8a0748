import Iso15118.ChargingProfileAgreement
import Iso15118.Conversation.Din
import Iso15118.DiagnosticParameters
import Iso15118.DiagnosticServices
import Iso15118.Evcc.AcceptanceCheck
import Iso15118.Evcc.Controller.CurrentDemandValues
import Iso15118.Evcc.Controller.DischargePhase
import Iso15118.Evcc.Controller.DynamicProfile
import Iso15118.Evcc.Controller.SessionIndependence
import Iso15118.Evcc.OfferedProtocols
import Iso15118.Evcc.SdpBudget
import Iso15118.Evcc.SdpDatagrams
import Iso15118.Evcc.V2.OngoingPhases
import Iso15118.Evcc.V20.ChargeLoopEntry
import Iso15118.Evcc.V20.ChargeLoopLimits
import Iso15118.Evcc.V20.OngoingPhases
import Iso15118.Evcc.V20.PreCharge
import Iso15118.Library.Effect
import Iso15118.Library.Run
import Iso15118.Library.StepFunction
import Iso15118.MatchedServices
import Iso15118.PhaseAgreement
import Iso15118.PreChargeAgreement
import Iso15118.ProtocolNegotiation
import Iso15118.Secc.ChargingCommands
import Iso15118.Secc.ContractOverTls
import Iso15118.Secc.Controller.AcChargeLoop
import Iso15118.Secc.Controller.EvseDataSharing
import Iso15118.Secc.Controller.LimitPropagation
import Iso15118.Secc.CurrentPeer
import Iso15118.Secc.DcSafety
import Iso15118.Secc.EvDataIsolation
import Iso15118.Secc.FailureAgreement
import Iso15118.Secc.HighLevelCharging
import Iso15118.Secc.Responding
import Iso15118.Secc.ScheduleSelection
import Iso15118.Secc.SchedulesNotReady
import Iso15118.Secc.SessionEnd
import Iso15118.Secc.SessionIdIsolation
import Iso15118.Secc.SessionIsolation
import Iso15118.Secc.SessionResumption
import Iso15118.Secc.StopActions
import Iso15118.Secc.V2.Authorization
import Iso15118.Secc.V2.ChargingProfile
import Iso15118.Secc.V2.EnergyModes
import Iso15118.Secc.V2.ScheduleDuration
import Iso15118.Secc.V20.AuthorizationGate
import Iso15118.Secc.V20.DcSafety
import Iso15118.Secc.V20.DiagnosticRating
import Iso15118.Secc.V20.ServiceSelection
import Iso15118.Shared.BatteryDiagnostics.BatteryPhysics
import Iso15118.Shared.BatteryDiagnostics.HealthTestLog
import Iso15118.Shared.BatteryDiagnostics.Sessions
import Iso15118.Shared.ExiCodec
import Iso15118.Shared.Framing
import Iso15118.Shared.Messages.ExponentLimits
import Iso15118.Shared.Messages.ExponentRepr
import Iso15118.Shared.Messages.V2gtpFormat
import Iso15118.Shared.Security.XmlSignature
import Iso15118.Conversation.TakingTurns
import Iso15118.Evcc.RequestsOnce
import Iso15118.CertificateInstallation
import Iso15118.Evcc.Din.OngoingPhases
import Iso15118.Conversation.SessionIds
