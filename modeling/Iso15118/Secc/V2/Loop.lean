import Iso15118.Secc.V2.Effects

/-!
# Runs of the ISO 15118-2 SECC

ISO 15118-2 as a protocol of the receive loop.
-/

namespace Iso15118.Secc.V2

open Effect Transition
open Iso15118.Shared
open Iso15118.Shared.V2

/-- Stopping ends the loop: the state machine has been stopped, or there is no failed
response to stop it with. -/
theorem stopStateMachine_ends (message : RequestMessage) (responseCode : ResponseCode)
    (world : World) :
    (∃ next, stopStateMachine (.request message) responseCode world = .ok ⟨⟩ next ∧
        next.currentState.nextState = some .terminate ∧ next.calls = world.calls ∧
        ∀ prepared, next.currentState.nextV2gtpMsg = some prepared →
          failedResponse message.request.requestType = some prepared.response) ∨
      ∃ exception next, stopStateMachine (.request message) responseCode world =
        .error exception next ∧ next.calls = world.calls := by
  unfold stopStateMachine updateSession
  rw [modify_bind_apply]
  dsimp only
  cases failedResponse message.request.requestType with
  | some response =>
      dsimp only
      unfold createNextMessage setNext
      rw [modify_bind_apply]
      rcases createMessage_ends Session.sessionId _ 0
          { world with
            session := world.session.stopped
            currentState :=
              { world.currentState with nextState := some .terminate, nextMsgTimeout := 0 } } with
          ⟨next, created, terminates, none, prepared⟩ | raised
      · refine .inl ⟨next, created, terminates, none, ?_⟩
        intro message responds
        cases prepared.symm.trans responds
        rfl
      · exact .inr raised
  | none => exact .inr ⟨_, _, rfl, rfl⟩

/-- The states of ISO 15118-2. -/
def protocol (environment : Environment) :
    SeccProtocol Session Own StateName ResponseMessage Call PUnit RequestType RequestMessage
      V2GMessage Answers where
  guide := guide
  requestType message := message.request.requestType
  request := .request
  Known := Known
  answer := answer environment
  processMessage := processMessage environment
  setPresentProtocolState := .setPresentProtocolState
  announce := Answers.setPresentProtocolState
  name_new := StateName.name_new
  request_injective _ _ := V2GMessage.request.inj
  processMessage_cases := by
    intro answers message world
    by_cases isRequest : ∃ req, message = .request req
    · obtain ⟨req, rfl⟩ := isRequest
      rw [processMessage_request, route_eq]
      by_cases accepted : world.currentState.own.accepts req.request.requestType = true
      · by_cases known : Known req world.session
        · rw [if_pos accepted, if_pos known]
          exact .inl ⟨req, rfl, accepted, known, rfl⟩
        · rw [if_pos accepted, if_neg known]
          right
          constructor
          · rintro _ ⟨⟩ valid
            exact known valid.2
          · exact (stopStateMachine_ends req _ world).imp_left fun stops =>
              ⟨req, rfl, stops⟩
      · rw [if_neg accepted]
        right
        constructor
        · rintro _ ⟨⟩ valid
          exact accepted valid.1
        · exact (stopStateMachine_ends req _ world).imp_left fun stops =>
            ⟨req, rfl, stops⟩
    · have other : ∀ req, message ≠ .request req := fun req same => isRequest ⟨req, same⟩
      exact .inr ⟨fun req same => absurd same (other req), .inr ⟨_, _,
        processMessage_not_request environment answers message world other, rfl⟩⟩
  answer_effects := answer_effects environment

abbrev Received := Secc.Received V2GMessage Answers

abbrev SECCSession := Secc.SECCSession Session Own StateName ResponseMessage Call PUnit

/-- `SECCCommunicationSession`, once ISO 15118-2 has been agreed on. -/
abbrev machine (environment : Environment) :
    SessionStateMachine Received Own StateName ResponseMessage World :=
  (protocol environment).machine

/-- A session at its start. The session context may be that of a paused session, and the
data contexts are those of the controller, which outlives the session. -/
def New (session : SECCSession) : Prop :=
  session.world.currentState = { own := .sessionSetup } ∧
    session.world.session =
      { isTls := session.world.session.isTls
        evSessionContext := session.world.session.evSessionContext } ∧
    session.sent = [] ∧ session.ended = false

/-! ## A sample session -/

namespace Sample

/-- A station whose certificates verify. -/
def environment : Environment where
  config :=
    { supportedAuthOptions := [.eim, .pnc]
      freeChargingService := false
      allowCertInstallService := false
      freeCertInstallService := false
      useCpoBackend := false }
  verifySignature _ _ _ := .ok true
  verifyInstallationSignature _ _ := .ok true
  logCertsDetails _ := .ok ⟨⟩
  loadMoRoot := .ok []
  verifyCerts _ _ _ := .ok ⟨⟩
  getCertificateHashData _ _ := .ok ⟨⟩
  buildPemCertificateChain _ _ := .ok ⟨⟩

def schedule : SAScheduleTuple :=
  ⟨1, ⟨[⟨zeroPhysical, ⟨0, some 86400, RelativeTimeInterval.start_zero, by decide⟩⟩]⟩⟩

/-- A controller that is ready for every request. -/
def answers : Answers where
  randomSessionId := "10"
  randomChallenge := [1, 2, 3]
  getEvseId := .ok "UK123E1234"
  isEimAuthorized := .ok false
  getSupportedEnergyTransferModes := .ok [.acSinglePhaseCore, .dcExtended]
  isAuthorized := .ok { authorizationStatus := .accepted }
  readyToCharge := .ok true
  get15118EvCertificate := .error .controllerError
  generateCertificateInstallationRes := .error .controllerError
  getAcChargeParamsV2 := .ok ⟨idleAcEvseStatus, zeroPhysical, zeroPhysical⟩
  getDcChargeParametersV2 := .ok ⟨readyDcEvseStatus, zeroPhysical, zeroPhysical, zeroPhysical,
    zeroPhysical, zeroPhysical⟩
  sendRatedLimits := .ok ⟨⟩
  getSaScheduleList := .ok (some [schedule])
  signSalesTariff := .ok ⟨⟩
  setHlcCharging _ := .ok ⟨⟩
  stopCharger := .ok ⟨⟩
  isContactorOpened := .ok true
  isContactorClosed := .ok (some true)
  waitForStateCOrD := .ok true
  getAcEvseStatus := .ok idleAcEvseStatus
  getDcEvseStatus := .ok readyDcEvseStatus
  startCableCheck := .ok ⟨⟩
  getCableCheckStatus := .ok (some .valid)
  sendChargingCommand := .ok ⟨⟩
  sendDisplayParams := .ok ⟨⟩
  getEvsePresentVoltage := .ok (some zeroPhysical)
  getEvsePresentCurrent := .ok (some zeroPhysical)
  isEvsePowerLimitAchieved := .ok false
  isEvseCurrentLimitAchieved := .ok false
  isEvseVoltageLimitAchieved := .ok false
  getEvseMaxVoltageLimit := .ok none
  getEvseMaxCurrentLimit := .ok none
  getEvseMaxPowerLimit := .ok none
  setPresentProtocolState := .ok ⟨⟩

def start : SECCSession where
  world :=
    { session := { isTls := true }
      evDataContext := {}
      evseDataContext := {}
      serviceRegistry := ⟨⟩
      currentState := { own := .sessionSetup }
      calls := [] }

theorem new_start : New start :=
  ⟨rfl, rfl, rfl, rfl⟩

/-- A request of the session that the controller has given an id to. -/
def request (request : Request) (answers : Answers := answers) : Option Received :=
  some ⟨.request ⟨{ sessionId := "10" }, request⟩, answers⟩

/-- The session up to the selection of a payment option. -/
def selectionHistory (selected : AuthEnum) : List (Option Received) :=
  [request (.paymentServiceSelectionReq ⟨selected, [1]⟩), request (.serviceDiscoveryReq ⟨none⟩),
    request (.sessionSetupReq ⟨"ev"⟩)]

theorem run_selectionHistory (selected : AuthEnum) :
    Run (machine environment).Step start (selectionHistory selected)
      ((machine environment).rcvAll start (selectionHistory selected)) := by
  apply SessionStateMachine.run_rcvAll_cons
  · exact SessionStateMachine.run_rcvAll_cons
      (SessionStateMachine.run_rcvAll_cons .start rfl) rfl
  · rfl

def dcEvStatus : DCEVStatus :=
  ⟨true, .noError, 50, Nat.le_add_right 50 50⟩

def powerDeliveryReq (chargeProgress : ChargeProgress) : PowerDeliveryReq :=
  ⟨chargeProgress, 1, none, none⟩

def currentDemandReq : CurrentDemandReq :=
  ⟨dcEvStatus, zeroPhysical, none, none, none, none, none, zeroPhysical⟩

/-- A DC session up to the pre-charge. -/
def preChargeHistory : List (Option Received) :=
  request (.preChargeReq ⟨dcEvStatus, zeroPhysical, zeroPhysical⟩) ::
    request (.cableCheckReq ⟨dcEvStatus⟩) ::
    request (.cableCheckReq ⟨dcEvStatus⟩) ::
    request (.chargeParameterDiscoveryReq ⟨none, .dcExtended, .dc ⟨none, dcEvStatus, zeroPhysical,
      none, zeroPhysical, none, none, none, none⟩, rfl⟩) ::
    request (.authorizationReq ⟨none, none⟩) ::
    selectionHistory .eim

/-- A session with a contract up to its authorization. -/
def contractHistory : List (Option Received) :=
  request (.authorizationReq ⟨none, some [1, 2, 3]⟩) ::
    request (.paymentDetailsReq ⟨"emaid", ⟨[], some []⟩⟩) ::
    selectionHistory .pnc

/-- An AC session with a contract up to the charge loop. -/
def chargingStatusHistory : List (Option Received) :=
  request .chargingStatusReq ::
    request (.powerDeliveryReq (powerDeliveryReq .start)) ::
    request (.chargeParameterDiscoveryReq ⟨none, .acSinglePhaseCore, .ac ⟨none, zeroPhysical,
      zeroPhysical, zeroPhysical, zeroPhysical⟩, rfl⟩) ::
    contractHistory

end Sample

end Iso15118.Secc.V2
