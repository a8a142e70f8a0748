import Iso15118.Evcc.V2.States

/-!
# What the ISO 15118-2 states of the EVCC do

A table of what a state does with the response that it expects: which variables it changes, where
it goes and what it sends. It says nothing of the exceptions that a controller or a model raises.
-/

namespace Iso15118.Evcc.V2

open Effect
open Iso15118.Shared
open Iso15118.Shared.V2

/-- What a state has done with a response. Without a request, none has been prepared. -/
structure Turn where
  session : Session
  nextState : Option (NextState StateName)
  request : Option Request

/-- The state machine has been stopped. -/
def Turn.stop (session : Session) : Turn where
  session := session.stopped
  nextState := some .terminate
  request := none

/-- A request, and the state for its response. -/
def Turn.to (session : Session) (name : StateName) (request : Request) : Turn where
  session := session
  nextState := some (.state name)
  request := some request

/-- What `ServiceDiscovery` leaves. The mode of a paused session does not tell whether it is
alternating current. -/
structure Discovered (session discovered : Session) (mode : EnergyTransferMode) : Prop where
  assigns : ∃ authOption services details isAc, discovered =
    { session with
      selectedAuthOption := authOption
      resumeSelectedAuthOption := none
      selectedServices := services
      serviceDetailsToRequest := details
      selectedEnergyMode := some mode
      resumeRequestedEnergyMode := none
      selectedChargingTypeIsAc := isAc }
  selects :
    session.resumeRequestedEnergyMode = some mode ∧
        discovered.selectedChargingTypeIsAc = session.selectedChargingTypeIsAc ∨
      session.resumeRequestedEnergyMode = none ∧
        discovered.selectedChargingTypeIsAc = mode.isAc

/-- The details of a service are asked for, or the services are selected. -/
inductive ServicesRequested (session : Session) : Turn → Prop
  | select (req : PaymentServiceSelectionReq) (empty : session.serviceDetailsToRequest = []) :
      ServicesRequested session
        (.to session .paymentServiceSelection (.paymentServiceSelectionReq req))
  | detail (serviceId : Int) (rest : List Int)
      (last : session.serviceDetailsToRequest = rest ++ [serviceId]) :
      ServicesRequested session
        (.to { session with serviceDetailsToRequest := rest } .serviceDetail
          (.serviceDetailReq ⟨serviceId⟩))

/-- The timer of a phase that goes on. -/
inductive Elapses (answers : Answers) (timeout : ℚ) (session : Session) : Session → Prop
  | running (runs : session.ongoingTimer ≥ 0)
      (within : answers.now - session.ongoingTimer ≤ timeout) :
      Elapses answers timeout session session
  | started (stands : session.ongoingTimer < 0) :
      Elapses answers timeout session { session with ongoingTimer := answers.now }

/-- The timer of a phase that has taken too long. -/
def TimedOut (answers : Answers) (timeout : ℚ) (session : Session) : Prop :=
  session.ongoingTimer ≥ 0 ∧ answers.now - session.ongoingTimer > timeout

/-- The charge loop of the energy mode. -/
inductive Charges (session : Session) : Turn → Prop
  | ac (chargesAc : session.chargesAc) :
      Charges session (.to session .chargingStatus .chargingStatusReq)
  | dc (req : CurrentDemandReq) (chargesDc : ¬session.chargesAc) :
      Charges session (.to session .currentDemand (.currentDemandReq req))

/-- The schedules have been looked at with an outcome. -/
abbrev Schedules := List SAScheduleTuple → ChargeProgress → Prop

section

variable (answers : Answers) (schedules : Schedules)

/-- The table. -/
inductive Row : StateName → Response → Session → Turn → Prop
  | sessionSetup (evseId sessionId : String) (session : Session) :
      Row .sessionSetup (.sessionSetupRes evseId) session
        (.to { session with sessionId := sessionId } .serviceDiscovery
          (.serviceDiscoveryReq ⟨none⟩))
  | noEnergyMode (res : ServiceDiscoveryRes) (session discovered : Session)
      (mode : EnergyTransferMode) (discovers : Discovered session discovered mode)
      (missing : mode ∉ res.chargeService.supportedEnergyTransferMode) :
      Row .serviceDiscovery (.serviceDiscoveryRes res) session (.stop discovered)
  | serviceDiscovery (res : ServiceDiscoveryRes) (session discovered : Session)
      (mode : EnergyTransferMode) (turn : Turn) (discovers : Discovered session discovered mode)
      (offered : mode ∈ res.chargeService.supportedEnergyTransferMode)
      (requests : ServicesRequested discovered turn) :
      Row .serviceDiscovery (.serviceDiscoveryRes res) session turn
  | serviceDetail (serviceId : Int) (parameters : Option (List ParameterSet)) (session : Session)
      (turn : Turn) (requests : ServicesRequested session turn) :
      Row .serviceDetail (.serviceDetailRes serviceId parameters) session turn
  | installCertificate (session : Session) (req : CertificateInstallationReq) :
      Row .paymentServiceSelection .paymentServiceSelectionRes session
        (.to session .certificateInstallation (.certificateInstallationReq req))
  | payByContract (session : Session) (req : PaymentDetailsReq) :
      Row .paymentServiceSelection .paymentServiceSelectionRes session
        (.to session .paymentDetails (.paymentDetailsReq req))
  | payExternally (session : Session) :
      Row .paymentServiceSelection .paymentServiceSelectionRes session
        (.to session .authorization (.authorizationReq ⟨none, none⟩))
  | noContract (session : Session) :
      Row .paymentServiceSelection .paymentServiceSelectionRes session (.stop session)
  | certificateInstalled (session : Session) (req : PaymentDetailsReq) :
      Row .certificateInstallation .certificateInstallationRes session
        (.to session .paymentDetails (.paymentDetailsReq req))
  | notInstalled (session : Session) :
      Row .certificateInstallation .certificateInstallationRes session (.stop session)
  | paymentDetails (genChallenge : List UInt8) (session : Session) :
      Row .paymentDetails (.paymentDetailsRes genChallenge) session
        (.to session .authorization (.authorizationReq ⟨some "id1", some genChallenge⟩))
  | notSigned (genChallenge : List UInt8) (session : Session) :
      Row .paymentDetails (.paymentDetailsRes genChallenge) session (.stop session)
  | authorized (session : Session) (req : ChargeParameterDiscoveryReq) :
      Row .authorization (.authorizationRes .finished) session
        (.to { session with ongoingTimer := -1 } .chargeParameterDiscovery
          (.chargeParameterDiscoveryReq req))
  | repeatAuthorization (evseProcessing : EVSEProcessing) (session elapsed : Session)
      (ongoing : evseProcessing ≠ .finished)
      (elapses : Elapses answers Timeouts.v2gEvccOngoingTimeout session elapsed) :
      Row .authorization (.authorizationRes evseProcessing) session
        (.to elapsed .authorization (.authorizationReq ⟨none, none⟩))
  | authorizationTimeout (evseProcessing : EVSEProcessing) (session : Session)
      (ongoing : evseProcessing ≠ .finished)
      (late : TimedOut answers Timeouts.v2gEvccOngoingTimeout session) :
      Row .authorization (.authorizationRes evseProcessing) session (.stop session)
  | acSchedule (res : ChargeParameterDiscoveryRes) (session : Session)
      (tuples : List SAScheduleTuple) (req : PowerDeliveryReq) (scheduleId : Nat)
      (finished : res.evseProcessing = .finished) (offered : res.saScheduleList = some tuples)
      (answered : schedules tuples req.chargeProgress)
      (ac : session.selectedChargingTypeIsAc = true) :
      Row .chargeParameterDiscovery (.chargeParameterDiscoveryRes res) session
        (.to { session with ongoingTimer := -1, selectedSchedule := some scheduleId }
          .powerDelivery (.powerDeliveryReq req))
  | dcSchedule (res : ChargeParameterDiscoveryRes) (session : Session) (req : CableCheckReq)
      (scheduleId : Nat) (finished : res.evseProcessing = .finished)
      (dc : session.selectedChargingTypeIsAc = false) :
      Row .chargeParameterDiscovery (.chargeParameterDiscoveryRes res) session
        (.to { session with ongoingTimer := -1, selectedSchedule := some scheduleId }
          .cableCheck (.cableCheckReq req))
  | repeatChargeParameters (res : ChargeParameterDiscoveryRes) (session elapsed : Session)
      (req : ChargeParameterDiscoveryReq) (ongoing : res.evseProcessing ≠ .finished)
      (elapses : Elapses answers Timeouts.v2gEvccOngoingTimeout session elapsed) :
      Row .chargeParameterDiscovery (.chargeParameterDiscoveryRes res) session
        (.to elapsed .chargeParameterDiscovery (.chargeParameterDiscoveryReq req))
  | chargeParametersTimeout (res : ChargeParameterDiscoveryRes) (session : Session)
      (ongoing : res.evseProcessing ≠ .finished)
      (late : TimedOut answers Timeouts.v2gEvccOngoingTimeout session) :
      Row .chargeParameterDiscovery (.chargeParameterDiscoveryRes res) session (.stop session)
  | stopSession (acEvseStatus : Option ACEVSEStatus) (dcEvseStatus : Option DCEVSEStatus)
      (session : Session) (chargingSession : ChargingSession)
      (stops : session.chargingSessionStopV2 = some chargingSession)
      (ac : session.selectedChargingTypeIsAc = true) :
      Row .powerDelivery (.powerDeliveryRes acEvseStatus dcEvseStatus) session
        (.to session .sessionStop (.sessionStopReq ⟨chargingSession⟩))
  | detectWelding (acEvseStatus : Option ACEVSEStatus) (dcEvseStatus : Option DCEVSEStatus)
      (session : Session) (stops : session.chargingSessionStopV2.isSome = true)
      (dc : session.selectedChargingTypeIsAc = false) :
      Row .powerDelivery (.powerDeliveryRes acEvseStatus dcEvseStatus) session
        (.to session .weldingDetection .weldingDetectionReq)
  | rediscover (acEvseStatus : Option ACEVSEStatus) (dcEvseStatus : Option DCEVSEStatus)
      (session : Session) (req : ChargeParameterDiscoveryReq)
      (goesOn : session.chargingSessionStopV2 = none)
      (requested : session.renegotiationRequested = true) :
      Row .powerDelivery (.powerDeliveryRes acEvseStatus dcEvseStatus) session
        (.to { session with renegotiationRequested := false } .chargeParameterDiscovery
          (.chargeParameterDiscoveryReq req))
  | charge (acEvseStatus : Option ACEVSEStatus) (dcEvseStatus : Option DCEVSEStatus)
      (session : Session) (turn : Turn) (goesOn : session.chargingSessionStopV2 = none)
      (charges : Charges session turn) :
      Row .powerDelivery (.powerDeliveryRes acEvseStatus dcEvseStatus) session turn
  | receiptStop (acEvseStatus : Option ACEVSEStatus) (dcEvseStatus : Option DCEVSEStatus)
      (session : Session) (req : PowerDeliveryReq)
      (notified : (acEvseStatus.map ACEVSEStatus.evseNotification).or
        (dcEvseStatus.map DCEVSEStatus.evseNotification) = some .stopCharging)
      (stops : req.chargeProgress = .stop) :
      Row .meteringReceipt (.meteringReceiptRes acEvseStatus dcEvseStatus) session
        (.to session .powerDelivery (.powerDeliveryReq req))
  | receiptRenegotiate (acEvseStatus : Option ACEVSEStatus) (dcEvseStatus : Option DCEVSEStatus)
      (session : Session) (req : PowerDeliveryReq)
      (renegotiates : req.chargeProgress = .renegotiate) :
      Row .meteringReceipt (.meteringReceiptRes acEvseStatus dcEvseStatus) session
        (.to { session with renegotiationRequested := true } .powerDelivery
          (.powerDeliveryReq req))
  | receiptCharge (acEvseStatus : Option ACEVSEStatus) (dcEvseStatus : Option DCEVSEStatus)
      (session : Session) (turn : Turn) (charges : Charges session turn) :
      Row .meteringReceipt (.meteringReceiptRes acEvseStatus dcEvseStatus) session turn
  | terminate (session : Session) (stops : session.chargingSessionStopV2.isSome = true) :
      Row .sessionStop .sessionStopRes session
        { session := { session with stopReason := some { successful := true } }
          nextState := some .terminate
          request := none }
  | receipt (evseId : String) (tupleId : Nat) (acEvseStatus : ACEVSEStatus)
      (maxCurrent : Option PhysicalValue) (meterInfo : Option MeterInfo)
      (receiptRequired : Option Bool) (session : Session) (req : MeteringReceiptReq) :
      Row .chargingStatus (.chargingStatusRes evseId tupleId acEvseStatus maxCurrent meterInfo
          receiptRequired) session
        (.to session .meteringReceipt (.meteringReceiptReq req))
  | noReceipt (evseId : String) (tupleId : Nat) (acEvseStatus : ACEVSEStatus)
      (maxCurrent : Option PhysicalValue) (meterInfo : Option MeterInfo)
      (receiptRequired : Option Bool) (session : Session) :
      Row .chargingStatus (.chargingStatusRes evseId tupleId acEvseStatus maxCurrent meterInfo
          receiptRequired) session (.stop session)
  | acRenegotiate (evseId : String) (tupleId : Nat) (acEvseStatus : ACEVSEStatus)
      (maxCurrent : Option PhysicalValue) (meterInfo : Option MeterInfo)
      (receiptRequired : Option Bool) (session : Session) (req : PowerDeliveryReq)
      (renegotiates : req.chargeProgress = .renegotiate) :
      Row .chargingStatus (.chargingStatusRes evseId tupleId acEvseStatus maxCurrent meterInfo
          receiptRequired) session
        (.to { session with renegotiationRequested := true } .powerDelivery
          (.powerDeliveryReq req))
  | acStop (evseId : String) (tupleId : Nat) (acEvseStatus : ACEVSEStatus)
      (maxCurrent : Option PhysicalValue) (meterInfo : Option MeterInfo)
      (receiptRequired : Option Bool) (session : Session) (req : PowerDeliveryReq)
      (stops : req.chargeProgress = .stop) :
      Row .chargingStatus (.chargingStatusRes evseId tupleId acEvseStatus maxCurrent meterInfo
          receiptRequired) session
        (.to { session with chargingSessionStopV2 := some .terminate } .powerDelivery
          (.powerDeliveryReq req))
  | acCharge (evseId : String) (tupleId : Nat) (acEvseStatus : ACEVSEStatus)
      (maxCurrent : Option PhysicalValue) (meterInfo : Option MeterInfo)
      (receiptRequired : Option Bool) (session : Session) :
      Row .chargingStatus (.chargingStatusRes evseId tupleId acEvseStatus maxCurrent meterInfo
          receiptRequired) session (.to session .chargingStatus .chargingStatusReq)
  | cableChecked (dcEvseStatus : DCEVSEStatus) (session : Session) (req : PreChargeReq) :
      Row .cableCheck (.cableCheckRes dcEvseStatus .finished) session
        (.to { session with ongoingTimer := -1 } .preCharge (.preChargeReq req))
  | cableUnsafe (dcEvseStatus : DCEVSEStatus) (session : Session) :
      Row .cableCheck (.cableCheckRes dcEvseStatus .finished) session
        (.stop { session with ongoingTimer := -1 })
  | repeatCableCheck (dcEvseStatus : DCEVSEStatus) (evseProcessing : EVSEProcessing)
      (session elapsed : Session) (req : CableCheckReq) (ongoing : evseProcessing ≠ .finished)
      (elapses : Elapses answers Timeouts.v2gEvccCableCheckTimeout session elapsed) :
      Row .cableCheck (.cableCheckRes dcEvseStatus evseProcessing) session
        (.to elapsed .cableCheck (.cableCheckReq req))
  | cableCheckTimeout (dcEvseStatus : DCEVSEStatus) (evseProcessing : EVSEProcessing)
      (session : Session) (ongoing : evseProcessing ≠ .finished)
      (late : TimedOut answers Timeouts.v2gEvccCableCheckTimeout session) :
      Row .cableCheck (.cableCheckRes dcEvseStatus evseProcessing) session (.stop session)
  | preCharged (dcEvseStatus : DCEVSEStatus) (evsePresentVoltage : PhysicalValue)
      (session : Session) (req : PowerDeliveryReq) (starts : req.chargeProgress = .start) :
      Row .preCharge (.preChargeRes dcEvseStatus evsePresentVoltage) session
        (.to { session with ongoingTimer := -1 } .powerDelivery (.powerDeliveryReq req))
  | repeatPreCharge (dcEvseStatus : DCEVSEStatus) (evsePresentVoltage : PhysicalValue)
      (session elapsed : Session) (req : PreChargeReq)
      (elapses : Elapses answers Timeouts.v2gEvccPreChargeTimeout session elapsed) :
      Row .preCharge (.preChargeRes dcEvseStatus evsePresentVoltage) session
        (.to elapsed .preCharge (.preChargeReq req))
  | preChargeTimeout (dcEvseStatus : DCEVSEStatus) (evsePresentVoltage : PhysicalValue)
      (session : Session) (late : TimedOut answers Timeouts.v2gEvccPreChargeTimeout session) :
      Row .preCharge (.preChargeRes dcEvseStatus evsePresentVoltage) session (.stop session)
  | dcStop (res : CurrentDemandRes) (session : Session) (req : PowerDeliveryReq)
      (stops : req.chargeProgress = .stop) :
      Row .currentDemand (.currentDemandRes res) session
        (.to { session with chargingSessionStopV2 := some .terminate } .powerDelivery
          (.powerDeliveryReq req))
  | dcCharge (res : CurrentDemandRes) (session : Session) (req : CurrentDemandReq) :
      Row .currentDemand (.currentDemandRes res) session
        (.to session .currentDemand (.currentDemandReq req))
  | weldingTimeout (dcEvseStatus : DCEVSEStatus) (evsePresentVoltage : PhysicalValue)
      (session : Session) (runs : session.ongoingTimer > 0)
      (late : answers.now - session.ongoingTimer > Timeouts.v2gEvccOngoingTimeout) :
      Row .weldingDetection (.weldingDetectionRes dcEvseStatus evsePresentVoltage) session
        (.stop session)
  | weldingDetected (dcEvseStatus : DCEVSEStatus) (evsePresentVoltage : PhysicalValue)
      (session : Session) (timer : ℚ) (chargingSession : ChargingSession)
      (stops : session.chargingSessionStopV2 = some chargingSession) :
      Row .weldingDetection (.weldingDetectionRes dcEvseStatus evsePresentVoltage) session
        (.to { session with ongoingTimer := timer } .sessionStop
          (.sessionStopReq ⟨chargingSession⟩))
  | detectOn (dcEvseStatus : DCEVSEStatus) (evsePresentVoltage : PhysicalValue)
      (session : Session) (timer : ℚ) :
      Row .weldingDetection (.weldingDetectionRes dcEvseStatus evsePresentVoltage) session
        { session := { session with ongoingTimer := timer }
          nextState := none
          request := some .weldingDetectionReq }

end

/-- The responses that a state is there for. -/
def Expects : StateName → Response → Prop
  | .sessionSetup, .sessionSetupRes _ => True
  | .serviceDiscovery, .serviceDiscoveryRes _ => True
  | .serviceDetail, .serviceDetailRes _ _ => True
  | .paymentServiceSelection, .paymentServiceSelectionRes => True
  | .certificateInstallation, .certificateInstallationRes => True
  | .paymentDetails, .paymentDetailsRes _ => True
  | .authorization, .authorizationRes _ => True
  | .chargeParameterDiscovery, .chargeParameterDiscoveryRes _ => True
  | .powerDelivery, .powerDeliveryRes _ _ => True
  | .meteringReceipt, .meteringReceiptRes _ _ => True
  | .sessionStop, .sessionStopRes => True
  | .chargingStatus, .chargingStatusRes _ _ _ _ _ _ => True
  | .cableCheck, .cableCheckRes _ _ => True
  | .preCharge, .preChargeRes _ _ => True
  | .currentDemand, .currentDemandRes _ => True
  | .weldingDetection, .weldingDetectionRes _ _ => True
  | _, _ => False

/-- The state looks into the response, which is not one of failure and has the session id. -/
structure Accepts (own : StateName) (res : ResponseMessage) (session : Session) : Prop where
  good : res.responseCode.isFailed = false
  known : Known res session
  expected : Expects own res.response

/-- The variables, the state and the request after a turn. Without a request, the message that
was there stays. -/
structure Turn.Leads {ρ : Type} (turn : Turn) (before after : World ρ) : Prop where
  session : after.session = turn.session
  own : after.currentState.own = before.currentState.own
  nextState : after.currentState.nextState = turn.nextState
  prepares : ∀ request, turn.request = some request →
    ∃ header, after.currentState.nextV2gtpMsg = some ⟨header, request⟩
  silent : turn.request = none →
    after.currentState.nextV2gtpMsg = before.currentState.nextV2gtpMsg

/-- What the current state does with a message. -/
inductive Reacts {ρ : Type} (answers : Answers) (schedules : Schedules) (message : V2GMessage)
    (before after : World ρ) : Prop
  | answers (res : ResponseMessage) (turn : Turn) (response : message = .response res)
      (accepts : Accepts before.currentState.own res before.session)
      (row : Row answers schedules before.currentState.own res.response before.session turn)
      (leads : turn.Leads before after)
  | refuses
      (refused : ¬∃ res, message = .response res ∧
        Accepts before.currentState.own res before.session)
      (session : after.session = before.session.stopped)
      (currentState :
        after.currentState = { before.currentState with nextState := some .terminate })

end Iso15118.Evcc.V2
