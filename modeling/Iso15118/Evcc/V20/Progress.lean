import Iso15118.Evcc.V20.Loop

/-!
# Progress of the EVCC

Each accepted response leads to a message or to the end of the session, where the message is
one that has been made for this response. What stops the EVCC, and what becomes of a
renegotiation of the services.
-/

namespace Iso15118.Evcc.V20

open Effect Transition
open Iso15118.Shared
open Iso15118.Shared.V20

variable {ρ : Type}

/-! ## The variables of a waiting state -/

/-- The SECC has asked for the renegotiation that it supports. -/
def RenegotiationDue (session : Session) : Prop :=
  session.serviceRenegotiationSupported = true ∧ session.renegotiationRequested = true

/-- There is a control mode and an energy service, which is one of these. -/
def Chosen (services : List ServiceV20) (session : Session) : Prop :=
  session.controlMode.isSome = true ∧
    ∃ selected, session.selectedEnergyService = some selected ∧ selected.service ∈ services

/-- The services that there are charge parameters for. -/
def chargingServices : List ServiceV20 := [.ac, .acBpt, .dc, .dcBpt]

/-- What the variables are like while a state waits for its response. -/
def Ready : Own → Session → Prop
  | .sessionSetup, session =>
      session.matchedServicesV20 = [] ∧ session.renegotiationRequested = false
  | .authorizationSetup, session | .serviceDiscovery, session =>
      ValidSessionId session.sessionId ∧ session.matchedServicesV20 = [] ∧
        session.renegotiationRequested = false
  | .authorization, session =>
      ValidSessionId session.sessionId ∧ session.matchedServicesV20 = [] ∧
        session.renegotiationRequested = false ∧ session.authorizationReqMessage.isSome = true
  | .serviceDetail, session =>
      ValidSessionId session.sessionId ∧ session.renegotiationRequested = false
  | .serviceSelection, session =>
      ValidSessionId session.sessionId ∧ session.renegotiationRequested = false ∧
        session.controlMode.isSome = true ∧ session.selectedEnergyService.isSome = true
  | .acChargeParameterDiscovery, session | .dcChargeParameterDiscovery, session =>
      ValidSessionId session.sessionId ∧ session.renegotiationRequested = false ∧
        Chosen chargingServices session
  | .scheduleExchange, session =>
      ValidSessionId session.sessionId ∧ session.renegotiationRequested = false ∧
        Chosen chargingServices session ∧ session.ongoingScheduleExchangeReq.isSome = true
  | .dcCableCheck, session | .dcPreCharge _, session =>
      ValidSessionId session.sessionId ∧ session.renegotiationRequested = false ∧
        Chosen chargingServices session ∧ session.scheduleExchangeRes.isSome = true
  | .powerDelivery, session =>
      ValidSessionId session.sessionId ∧ Chosen chargingServices session ∧
        session.scheduleExchangeRes.isSome = true ∧
        (session.renegotiationRequested = true →
          session.chargingSessionStopV20 = some .serviceRenegotiation ∧
            session.evProcessing ≠ .ongoing)
  | .acChargeLoop, session =>
      ValidSessionId session.sessionId ∧ session.renegotiationRequested = false ∧
        Chosen [.ac, .acBpt] session ∧ session.scheduleExchangeRes.isSome = true ∧
        session.evProcessing ≠ .ongoing
  | .dcChargeLoop, session =>
      ValidSessionId session.sessionId ∧ session.renegotiationRequested = false ∧
        Chosen [.dc, .dcBpt] session ∧ session.scheduleExchangeRes.isSome = true ∧
        session.evProcessing ≠ .ongoing
  | .dcWeldingDetection _, session | .sessionStop, session => ValidSessionId session.sessionId
  | .certificateInstallation, _ => True

/-- The state that waits after a turn, if one does. -/
def Turn.waiting (turn : Turn) : Option Own :=
  match turn.nextState with
  | none => some turn.own
  | some (.state name) => some name.new
  | some .terminate | some .pause => none

/-- A state leaves the variables as the next one needs them. -/
theorem Row.ready {contract : Contract} {own : Own} {response : Response} {session : Session}
    {turn : Turn} (row : Row contract own response session turn) (ready : Ready own session)
    (requests : turn.request.isSome = true) {waiting : Own}
    (waits : turn.waiting = some waiting) : Ready waiting turn.session := by
  cases row <;> cases waits
  all_goals try simp only [Ready, Chosen, chargingServices, StateName.new] at ready ⊢
  all_goals grind

/-- `DCWeldingDetection` needs the session id only. -/
theorem WeldingRow.ready {complete : Bool} {session : Session} {turn : Turn}
    (row : WeldingRow complete session turn) (ready : Ready (.dcWeldingDetection complete) session)
    {waiting : Own} (waits : turn.waiting = some waiting) : Ready waiting turn.session := by
  cases row with
  | timeout => cases waits
  | complete timer =>
      cases waits
      exact ready
  | detect timer finished =>
      cases waits
      exact ready

/-! ## What is handled -/

/-- The controller answers that it needs a certificate. -/
def InstallNeeded [EVController ρ] (controller : ρ) : Prop :=
  ∃ next, EVController.isCertInstallNeeded controller = .ok true next

/-- The certificate store gives what the answer to an `AuthorizationSetupRes` takes. The OEM
chain is read only if a certificate is needed, and a private key that cannot be read is done
without. -/
structure CertificatesGiven (needed : Prop) (answers : Answers) (res : AuthorizationSetupRes) :
    Prop where
  oem : res.certInstallService = true → needed →
    answers.getCertIssuerSerial = .ok ⟨⟩ ∧ answers.loadOemCertChain = .ok ⟨⟩ ∧
      ∀ exception, answers.signOemCertChain = .error exception → exception = .privateKeyReadError
  contract : .pnc ∈ res.authServices →
    res.pncAsRes.isSome = true ∧ answers.loadContractCertChain.isOk = true ∧
      ∀ params exception, answers.signPncParams params = .error exception →
        exception = .privateKeyReadError

/-- A notification of the EVSE that is not passed over. -/
def Notifies (evseStatus : Option EVSEStatus) : Prop :=
  ∀ status, evseStatus = some status →
    status.evseNotification ∈ [.serviceRenegotiation, .terminate]

/-- The responses that a state can deal with, with these variables, where a certificate is
needed or not. -/
def Handles (needed : Prop) (answers : Answers) (session : Session) (header : MessageHeader) :
    Own → Response → Prop
  | .sessionSetup, _ => ValidSessionId header.sessionId
  | .authorizationSetup, .authorizationSetupRes res => CertificatesGiven needed answers res
  | .certificateInstallation, _ => False
  | .serviceDiscovery, .serviceDiscoveryRes res =>
      ((res.vasList.map ServiceList.services).getD []).mapM matchedVas ≠ none
  | .serviceSelection, _ =>
      ∀ selected, session.selectedEnergyService = some selected →
        selected.service ∈ chargingServices
  | .sessionStop, _ => session.chargingSessionStopV20 ≠ none ∧ ¬RenegotiationDue session
  | .acChargeLoop, .acChargeLoopRes evseStatus => Notifies evseStatus
  | .dcChargeLoop, .dcChargeLoopRes evseStatus _ => Notifies evseStatus
  | _, _ => True

/-- A controller that keeps to this does not raise, and its answers fit the messages that they
are for. -/
def fitting : Contract where
  raised _ := False
  fits := True

/-- Behind the setup of the session its id is valid. -/
theorem Ready.validSessionId {own : Own} {session : Session} (ready : Ready own session)
    (setUp : own ≠ .sessionSetup) (installed : own ≠ .certificateInstallation) :
    ValidSessionId session.sessionId := by
  cases own
  case sessionSetup => exact absurd rfl setUp
  case certificateInstallation => exact absurd rfl installed
  case dcWeldingDetection => exact ready
  case sessionStop => exact ready
  all_goals exact ready.1

theorem Ready.selected {own : Own} {session : Session} (ready : Ready own session)
    (selected : AfterSelection own) :
    session.selectedEnergyService ≠ none ∧ session.controlMode ≠ none := by
  cases own <;> simp only [AfterSelection] at selected
  all_goals
    simp only [Ready, Chosen] at ready
    grind

theorem Ready.scheduled {own : Own} {session : Session} (ready : Ready own session)
    (scheduled : AfterSchedules own) : session.scheduleExchangeRes ≠ none := by
  cases own <;> simp only [AfterSchedules] at scheduled
  all_goals
    simp only [Ready, Chosen] at ready
    grind

/-- What is handled does not raise. -/
theorem Failure.not_handled {answers : Answers} {own : Own} {header : MessageHeader}
    {response : Response} {session : Session} {exception : PyError} {needed : Prop}
    (failure : Failure fitting answers own response session exception)
    (setUp : own ≠ .sessionSetup) (installs : own = .authorizationSetup → needed)
    (ready : Ready own session) (handles : Handles needed answers session header own response) :
    False := by
  cases failure with
  | controller _ _ _ _ raised => exact raised
  | unfit _ _ _ _ unfit => exact unfit trivial
  | header _ _ _ _ invalid =>
      have valid := ready.validSessionId setUp (by rintro rfl; exact handles)
      rw [checkSessionId_eq, if_pos valid] at invalid
      cases invalid
  | newSessionId => exact setUp rfl
  | installCertificate _ _ _ offered raised =>
      obtain ⟨serial, chain, signed⟩ := handles.oem offered (installs rfl)
      obtain failed | failed | ⟨failed, other⟩ := raised
      · cases serial.symm.trans failed
      · cases chain.symm.trans failed
      · exact other (signed _ failed)
  | loadContract _ _ _ offered raised =>
      obtain ⟨_, chain, signed⟩ := handles.contract offered
      obtain failed | ⟨params, failed, other⟩ := raised
      · rw [failed] at chain
        cases chain
      · exact other (signed _ _ failed)
  | noPncAsRes _ _ offered missing =>
      obtain ⟨given, _⟩ := handles.contract offered
      rw [missing] at given
      cases given
  | certificateInstallation => exact handles
  | noAuthorizationReq _ _ _ missing =>
      have cached := ready.2.2.2
      rw [missing] at cached
      cases cached
  | unknownVas _ _ unknown => exact handles unknown
  | noServiceDetail _ _ matched _ => exact matched ready.2.1
  | noSelection _ _ _ selected missing => exact (ready.selected selected).1 missing
  | noControlMode _ _ _ selected missing => exact (ready.selected selected).2 missing
  | noScheduleExchangeRes _ _ _ scheduled missing => exact ready.scheduled scheduled missing
  | noReason _ missing => exact handles.1 missing
  | acNotification status _ other => exact other (handles status rfl)
  | dcNotification status _ _ other => exact other (handles status rfl)
  | noDcService _ _ _ selects other =>
      obtain ⟨_, _, ⟨_, chosen, selects', dc⟩, _⟩ := ready
      cases selects.symm.trans selects'
      exact other dc

/-! ## One response -/

/-- What is handled is answered, or ends the session. -/
theorem Row.proceeds {contract : Contract} {answers : Answers} {own : Own}
    {header : MessageHeader} {response : Response} {session : Session} {turn : Turn}
    {needed : Prop} (row : Row contract own response session turn) (ready : Ready own session)
    (handles : Handles needed answers session header own response) :
    turn.nextState = some .terminate ∨ turn.request.isSome = true := by
  cases row with
  | otherEnergyService _ selected selects other => exact absurd (handles selected selects) other
  | repeatScheduleExchange res _ ongoing =>
      right
      rw [Option.isSome_map]
      exact ready.2.2.2
  | noChargeLoop _ selected selects other =>
      obtain ⟨_, ⟨_, chosen, selects', charges⟩, _⟩ := ready
      cases selects.symm.trans selects'
      exact absurd charges other
  | noAcChargeLoop _ selected selects other =>
      obtain ⟨_, _, ⟨_, chosen, selects', ac⟩, _⟩ := ready
      cases selects.symm.trans selects'
      exact absurd ac other
  | renegotiate _ _ _ supported requested => exact absurd ⟨supported, requested⟩ handles.2
  | authorizationTimeout | cableCheckTimeout | terminate => exact .inl rfl
  | _ => exact .inr rfl

theorem WeldingRow.proceeds {complete : Bool} {session : Session} {turn : Turn}
    (row : WeldingRow complete session turn) :
    turn.nextState = some .terminate ∨ turn.request.isSome = true := by
  cases row with
  | timeout => exact .inl rfl
  | complete | detect => exact .inr rfl

theorem Turn.Leads.proceeds {turn : Turn} {before after : World ρ} (leads : turn.Leads before after)
    (proceeds : turn.nextState = some .terminate ∨ turn.request.isSome = true) :
    after.currentState.nextState = some .terminate ∨
      after.currentState.nextV2gtpMsg.isSome = true := by
  rw [leads.nextState]
  apply proceeds.imp_right
  intro requests
  obtain ⟨request, prepared⟩ := Option.isSome_iff_exists.mp requests
  obtain ⟨header, message⟩ := leads.prepares request prepared
  rw [message]
  rfl

section

variable [EVController ρ]

/-- The session ends with this response, or there is a message for it. A message from before
is put aside first: it has not been made for this response. -/
def Proceeds (world : World ρ) (received : Received V2GMessage Answers) : Prop :=
  returns ((machine ρ).processMessage received)
    (fun _ after => after.currentState.nextState = some .terminate ∨
      after.currentState.nextV2gtpMsg.isSome = true)
    { world with currentState := { world.currentState with nextV2gtpMsg := none } }

/-- What an iteration in `SessionSetup` does with an accepted response. -/
theorem machine_sessionSetup {world : World ρ} {res : ResponseMessage}
    {received : Received V2GMessage Answers} (own : world.currentState.own = .sessionSetup)
    (response : received.message = .response res)
    (accepts : Accepts world.currentState.own res world.session) :
    (machine ρ).processMessage received world =
      SessionSetup.onSessionSetupRes res.header.sessionId { world with calls := [] } := by
  have expected := accepts.expected
  rw [own] at expected
  change processMessage received.answers received.message { world with calls := [] } = _
  unfold processMessage
  rw [get_bind_apply, response, own]
  dsimp only
  unfold SessionSetup.processMessage checkMsg
  dsimp only
  rw [bind_checkMsg rfl]
  cases taken : res.response <;> rw [taken] at expected
  case sessionSetupRes => exact if_pos ⟨accepts.good, accepts.known⟩
  all_goals cases expected

omit [EVController ρ] in
theorem SessionSetup.onSessionSetupRes_prepares {sessionId : String}
    (valid : ValidSessionId sessionId) (world : World ρ) :
    returns (onSessionSetupRes sessionId)
      (fun _ after => after.currentState.nextV2gtpMsg.isSome = true) world := by
  apply ensures_updateSession_bind
  apply ensures_messageHeader_bind
  · intro exception invalid
    rw [checkSessionId_eq, if_pos valid] at invalid
    cases invalid
  · intro header
    rfl

/-- What an iteration in `AuthorizationSetup` does with an accepted response. -/
theorem machine_authorizationSetup {world : World ρ} {res : ResponseMessage}
    {received : Received V2GMessage Answers}
    (own : world.currentState.own = .authorizationSetup)
    (response : received.message = .response res)
    (accepts : Accepts world.currentState.own res world.session) :
    ∃ setup, res.response = .authorizationSetupRes setup ∧
      (machine ρ).processMessage received world =
        AuthorizationSetup.onAuthorizationSetupRes received.answers setup
          { world with calls := [] } := by
  have expected := accepts.expected
  rw [own] at expected
  cases taken : res.response <;> rw [taken] at expected
  case authorizationSetupRes setup =>
    refine ⟨setup, rfl, ?_⟩
    change processMessage received.answers received.message { world with calls := [] } = _
    unfold processMessage
    rw [get_bind_apply, response, own]
    dsimp only
    unfold AuthorizationSetup.processMessage checkMsg
    dsimp only
    rw [bind_checkMsg rfl]
    simp only [taken]
    exact if_pos ⟨accepts.good, accepts.known⟩
  all_goals cases expected

omit [EVController ρ] in
/-- The `AuthorizationReq` is made with what the certificate store gives. -/
theorem AuthorizationSetup.authorize_prepares {needed : Prop} {answers : Answers}
    {res : AuthorizationSetupRes} (given : CertificatesGiven needed answers res)
    {world : World ρ} (valid : ValidSessionId world.session.sessionId) :
    returns (authorize answers res)
      (fun _ after => after.currentState.nextV2gtpMsg.isSome = true) world := by
  have goesOn : ∀ (signature : Option Signature) (authReq : AuthorizationReq),
      returns
        (do
          let header ← messageHeader signature
          let message : RequestMessage := ⟨header, .authorizationReq authReq⟩
          updateSession fun session => { session with authorizationReqMessage := some message }
          prepare (some (.state .authorization)) message Timeouts.authorizationReq)
        (fun _ after => after.currentState.nextV2gtpMsg.isSome = true) world := by
    intro signature authReq
    apply ensures_messageHeader_bind
    · intro exception invalid
      rw [checkSessionId_eq, if_pos valid] at invalid
      cases invalid
    · intro header
      rfl
  unfold authorize
  split
  next offered =>
    obtain ⟨pncAsRes, chain, signed⟩ := given.contract offered
    obtain ⟨pncAsRes, gives⟩ := Option.isSome_iff_exists.mp pncAsRes
    cases loaded : answers.loadContractCertChain with
    | error exception =>
        rw [loaded] at chain
        cases chain
    | ok certificate =>
        have made : Ensures (fun _ => False) (pncParams answers res : Program ρ _)
            (fun _ after => after = world) world := by
          unfold pncParams
          rw [gives, loaded]
          unfold Ensures
          simp only [required, wp_tryCatch, wp_bind, wp_ofExcept, wp_pure]
          refine ⟨?_, nofun⟩
          rintro _ ⟨⟩
          refine ⟨fun _ _ => trivial, fun exception failed => ?_⟩
          rw [signed _ _ failed]
          trivial
        apply ensures_bind made
        rintro pnc _ rfl
        exact goesOn _ _
  next => exact goesOn none _

/-- A session that needs no certificate asks for the authorization. -/
theorem AuthorizationSetup.onAuthorizationSetupRes_prepares (keeps : Keeps fitting ρ)
    {answers : Answers} {res : AuthorizationSetupRes} {world : World ρ} {needed : Prop}
    (unneeded : ¬InstallNeeded world.controller)
    (given : CertificatesGiven needed answers res)
    (valid : ValidSessionId world.session.sessionId) :
    returns (onAuthorizationSetupRes answers res)
      (fun _ after => after.currentState.nextV2gtpMsg.isSome = true) world := by
  unfold onAuthorizationSetupRes returns
  by_cases offered : res.certInstallService = true
  · have never := keeps.isCertInstallNeeded world.controller
    rw [if_pos offered, wp_bind, wp_ask]
    unfold wp at never ⊢
    cases answer : EVController.isCertInstallNeeded world.controller with
    | error exception controller =>
        rw [answer] at never
        exact never.elim
    | ok install controller =>
        cases install with
        | true => exact absurd ⟨controller, answer⟩ unneeded
        | false => exact authorize_prepares given (by exact valid)
  · rw [if_neg offered]
    exact authorize_prepares given valid

theorem returns_of_handles (keeps : Keeps fitting ρ) {world : World ρ}
    {received : Received V2GMessage Answers} {res : ResponseMessage}
    (idle : world.currentState.nextState = none)
    (ready : Ready world.currentState.own world.session)
    (response : received.message = .response res)
    (accepts : Accepts world.currentState.own res world.session)
    (handles : Handles (InstallNeeded world.controller) received.answers world.session res.header
      world.currentState.own res.response) :
    returns ((machine ρ).processMessage received)
      (fun _ after => after.currentState.nextState = some .terminate ∨
        after.currentState.nextV2gtpMsg.isSome = true) world := by
  by_cases setUp : world.currentState.own = .sessionSetup
  · unfold returns wp
    rw [machine_sessionSetup setUp response accepts]
    rw [setUp] at handles
    exact wp_mono (fun _ _ prepared => .inr prepared) (fun _ _ impossible => impossible)
      (SessionSetup.onSessionSetupRes_prepares handles _)
  · by_cases installs : world.currentState.own = .authorizationSetup →
        InstallNeeded world.controller
    · apply wp_mono _ _ (machine_reacts keeps idle received)
      · intro _ after reacts
        cases reacts with
        | answers res' turn response' accepts' row leads =>
            cases response.symm.trans response'
            exact leads.proceeds (row.proceeds ready handles)
        | refuses refused => exact absurd ⟨res, response, accepts⟩ refused
        | detectsWelding complete turn own row leads => exact leads.proceeds row.proceeds
      · intro exception _ fails
        cases fails with
        | response res' response' accepts' failure =>
            cases response.symm.trans response'
            exact failure.not_handled setUp installs ready handles
        | certificateInstallation own =>
            rw [own] at handles
            exact handles
        | weldingDetection complete own raised =>
            obtain never | invalid := raised
            · exact never
            · have valid := ready.validSessionId setUp (by rw [own]; nofun)
              rw [checkSessionId_eq, if_pos valid] at invalid
              cases invalid
    · obtain ⟨own, unneeded⟩ := Classical.not_imp.mp installs
      obtain ⟨setup, taken, processes⟩ := machine_authorizationSetup own response accepts
      unfold returns wp
      rw [processes]
      rw [own, taken] at handles
      rw [own] at ready
      exact wp_mono (fun _ _ prepared => .inr prepared) (fun _ _ impossible => impossible)
        (AuthorizationSetup.onAuthorizationSetupRes_prepares keeps unneeded handles ready.1)

/-- An accepted response that is handled. -/
theorem proceeds_of_handles (keeps : Keeps fitting ρ) {world : World ρ}
    {received : Received V2GMessage Answers} {res : ResponseMessage}
    (idle : world.currentState.nextState = none)
    (ready : Ready world.currentState.own world.session)
    (response : received.message = .response res)
    (accepts : Accepts world.currentState.own res world.session)
    (handles : Handles (InstallNeeded world.controller) received.answers world.session res.header
      world.currentState.own res.response) : Proceeds world received :=
  returns_of_handles keeps (by exact idle) (by exact ready) response (by exact accepts)
    (by exact handles)

end

/-! ## Runs -/

/-- The message of a waiting state. Only a state that repeats its request has one. -/
def Leftover (own : Own) (message : Option RequestMessage) : Prop :=
  match own with
  | .dcCableCheck | .dcPreCharge _ | .dcChargeLoop | .dcWeldingDetection _ =>
      ∀ header req, message ≠ some ⟨header, .sessionStopReq req⟩
  | _ => message = none

/-- Where the loop goes on without a new message, there was none before. -/
theorem Row.leftover_of_silent {contract : Contract} {own : Own} {response : Response}
    {session : Session} {turn : Turn} (row : Row contract own response session turn)
    (silent : turn.request = none) {waiting : Own} (waits : turn.waiting = some waiting)
    {message : Option RequestMessage} (leftover : Leftover own message) : message = none := by
  cases row <;> cases waits
  all_goals first | exact leftover | cases silent

/-- A new message that is left over is no `SessionStopReq`. -/
theorem Row.leftover {contract : Contract} {own : Own} {response : Response}
    {session : Session} {turn : Turn} (row : Row contract own response session turn)
    (idle : turn.nextState = none) {header : MessageHeader} {request : Request}
    (requests : turn.request = some request) : Leftover turn.own (some ⟨header, request⟩) := by
  cases row <;> cases idle <;> cases requests
  all_goals
    intro header' req same
    cases same

theorem WeldingRow.leftover {complete : Bool} {session : Session} {turn : Turn}
    (row : WeldingRow complete session turn) (idle : turn.nextState = none)
    {header : MessageHeader} {request : Request} (requests : turn.request = some request) :
    Leftover turn.own (some ⟨header, request⟩) := by
  cases row with
  | timeout => cases idle
  | complete => cases idle
  | detect timer finished =>
      intro header' req same
      cases requests
      cases same

theorem Leftover.not_sessionStopReq {own : Own} {message : Option RequestMessage}
    (leftover : Leftover own message) (header : MessageHeader) (req : SessionStopReq) :
    message ≠ some ⟨header, .sessionStopReq req⟩ := by
  rintro rfl
  cases own
  case dcCableCheck => exact leftover header req rfl
  case dcPreCharge => exact leftover header req rfl
  case dcChargeLoop => exact leftover header req rfl
  case dcWeldingDetection => exact leftover header req rfl
  all_goals cases leftover

/-- A constructed state has no message. -/
theorem leftover_new (name : StateName) : Leftover name.new none := by
  cases name <;> first | exact rfl | exact nofun

/-- What holds of a session that waits for a response. -/
structure Waits (session : EVCCSession ρ) : Prop where
  ready : Ready session.world.currentState.own session.world.session
  leftover : Leftover session.world.currentState.own session.world.currentState.nextV2gtpMsg

theorem Starts.waits {session : EVCCSession ρ} (starts : Starts session) : Waits session := by
  obtain ⟨points, sessionId, fresh⟩ := starts.fresh
  constructor
  · rw [starts.currentState, fresh]
    exact ⟨rfl, rfl⟩
  · rw [starts.currentState]
    exact rfl

/-- The state that waits is the one that the turn has led to. -/
theorem GoesOnTo.waiting {session next : EVCCSession ρ} {after : World ρ} {turn : Turn}
    (goesOn : GoesOnTo session after next) (leads : turn.Leads session.world after) :
    turn.waiting = some next.world.currentState.own := by
  unfold Turn.waiting
  rw [← leads.nextState]
  obtain ⟨idle, same⟩ | ⟨name, goes, same⟩ := goesOn.leads
  · rw [idle, same, leads.own]
  · rw [goes, same]

/-- The loop has gone on with a new message, where none is there from before. -/
theorem GoesOnTo.requests {session next : EVCCSession ρ} {after : World ρ} {turn : Turn}
    (goesOn : GoesOnTo session after next) (leads : turn.Leads session.world after)
    (silent : turn.request = none → ∀ waiting, turn.waiting = some waiting →
      session.world.currentState.nextV2gtpMsg = none) :
    ∃ header request, turn.request = some request ∧
      next.sent = ⟨header, request⟩ :: session.sent := by
  obtain ⟨message, sends, sent⟩ := goesOn.sends
  cases requests : turn.request with
  | none =>
      rw [leads.silent requests, silent requests _ (goesOn.waiting leads)] at sends
      cases sends
  | some request =>
      obtain ⟨header, prepared⟩ := leads.prepares request requests
      cases prepared.symm.trans sends
      exact ⟨header, request, rfl, sent⟩

/-- After a turn the state waits that the turn has led to. -/
theorem GoesOnTo.waits_of_turn {session next : EVCCSession ρ} {after : World ρ} {turn : Turn}
    (goesOn : GoesOnTo session after next) (leads : turn.Leads session.world after)
    (silent : turn.request = none → ∀ waiting, turn.waiting = some waiting →
      session.world.currentState.nextV2gtpMsg = none)
    (ready : turn.request.isSome = true → ∀ waiting, turn.waiting = some waiting →
      Ready waiting turn.session)
    (leftover : turn.nextState = none → ∀ header request, turn.request = some request →
      Leftover turn.own (some ⟨header, request⟩)) : Waits next := by
  have waits := goesOn.waiting leads
  obtain ⟨_, request, requested, _⟩ := goesOn.requests leads silent
  constructor
  · rw [goesOn.session, leads.session]
    exact ready (by rw [requested]; rfl) _ waits
  · obtain ⟨idle, same⟩ | ⟨name, goes, same⟩ := goesOn.leads
    · obtain ⟨header, prepared⟩ := leads.prepares request requested
      rw [same, prepared, leads.own]
      exact leftover (leads.nextState.symm.trans idle) header request requested
    · rw [same]
      exact leftover_new name

theorem GoesOnTo.waits {contract : Contract} {session next : EVCCSession ρ} {after : World ρ}
    {message : V2GMessage} (goesOn : GoesOnTo session after next)
    (reacts : Reacts contract message session.world after) (waits : Waits session) :
    Waits next := by
  cases reacts with
  | answers res turn response accepts row leads =>
      apply goesOn.waits_of_turn leads
      · intro silent waiting waits'
        exact row.leftover_of_silent silent waits' waits.leftover
      · intro requests waiting waits'
        exact row.ready waits.ready requests waits'
      · intro idle header request requests
        exact row.leftover idle requests
  | refuses _ _ currentState =>
      obtain ⟨idle, _⟩ | ⟨name, goes, _⟩ := goesOn.leads
      · rw [currentState] at idle
        cases idle
      · rw [currentState] at goes
        cases goes
  | detectsWelding complete turn own row leads =>
      have ready := waits.ready
      rw [own] at ready
      apply goesOn.waits_of_turn leads
      · intro silent waiting waits'
        cases row with
        | timeout => cases waits'
        | complete | detect => cases silent
      · intro requests waiting waits'
        exact row.ready ready waits'
      · intro idle header request requests
        exact row.leftover idle requests

theorem waits_of_run [EVController ρ] {start session : EVCCSession ρ}
    {history : List (Option (Received V2GMessage Answers))} (starts : Starts start)
    (run : Run (machine ρ).Step start history session) (goesOn : session.ended = false) :
    session.world.currentState.nextState = none ∧ Waits session :=
  run_invariant (keeps_any ρ) starts starts.waits
    (fun _ _ _ _ _ waits reacts goes => goes.waits reacts waits) run goesOn

/-! ## Renegotiation -/

/-- A `SessionStopReq` after a response asks for the renegotiation that is due. -/
theorem Row.stop_of_due {contract : Contract} {own : Own} {response : Response}
    {session : Session} {turn : Turn} (row : Row contract own response session turn)
    (ready : Ready own session) (due : RenegotiationDue session) {req : SessionStopReq}
    (requests : turn.request = some (.sessionStopReq req)) :
    req.chargingSession = .serviceRenegotiation := by
  cases row
  case noMatch => cases ready.2.2.symm.trans due.2
  case noControlMode => cases ready.2.symm.trans due.2
  case repeatAuthorization => cases ready.2.2.1.symm.trans due.2
  case repeatScheduleExchange => cases ready.2.1.symm.trans due.2
  case stopSession selected chargingSession reason other processed stops selects =>
    cases requests
    cases stops.symm.trans (ready.2.2.2 due.2).1
    rfl
  all_goals cases requests

/-- The only request for the end of a session that does not depend on the reason. -/
theorem WeldingRow.stop {complete : Bool} {session : Session} {turn : Turn}
    (row : WeldingRow complete session turn) {req : SessionStopReq}
    (requests : turn.request = some (.sessionStopReq req)) :
    complete = true ∧ req.chargingSession = .terminate := by
  cases row <;> cases requests
  exact ⟨rfl, rfl⟩

/-- The new message of a turn, if it is a `SessionStopReq`. -/
theorem Turn.Leads.requests_stop {turn : Turn} {before after : World ρ}
    (leads : turn.Leads before after)
    (leftover : Leftover before.currentState.own before.currentState.nextV2gtpMsg)
    {header : MessageHeader} {req : SessionStopReq}
    (prepared : after.currentState.nextV2gtpMsg = some ⟨header, .sessionStopReq req⟩) :
    turn.request = some (.sessionStopReq req) := by
  cases requests : turn.request with
  | none =>
      rw [leads.silent requests] at prepared
      exact absurd prepared (leftover.not_sessionStopReq header req)
  | some request =>
      obtain ⟨header', prepared'⟩ := leads.prepares request requests
      cases prepared.symm.trans prepared'
      rfl

/-- A `SessionStopReq` asks for the renegotiation that is due, or comes from
`DCWeldingDetection`. -/
theorem Reacts.stop_of_due {contract : Contract} {message : V2GMessage} {before after : World ρ}
    (reacts : Reacts contract message before after)
    (ready : Ready before.currentState.own before.session)
    (leftover : Leftover before.currentState.own before.currentState.nextV2gtpMsg)
    (due : RenegotiationDue before.session) {header : MessageHeader} {req : SessionStopReq}
    (prepared : after.currentState.nextV2gtpMsg = some ⟨header, .sessionStopReq req⟩) :
    (∀ complete, before.currentState.own ≠ .dcWeldingDetection complete) ∧
        req.chargingSession = .serviceRenegotiation ∨
      before.currentState.own = .dcWeldingDetection true ∧ req.chargingSession = .terminate := by
  cases reacts with
  | answers res turn response accepts row leads =>
      left
      constructor
      · intro complete own
        rw [own] at row
        cases row
      · exact row.stop_of_due ready due (leads.requests_stop leftover prepared)
  | refuses _ _ currentState =>
      rw [currentState] at prepared
      exact absurd prepared (leftover.not_sessionStopReq header req)
  | detectsWelding complete turn own row leads =>
      right
      obtain ⟨rfl, terminates⟩ := row.stop (leads.requests_stop leftover prepared)
      exact ⟨own, terminates⟩

/-- `SessionStop` makes no request. -/
theorem Row.sessionStop_silent {contract : Contract} {own : Own} {response : Response}
    {session : Session} {turn : Turn} (row : Row contract own response session turn)
    (stops : own = .sessionStop) : turn.request = none := by
  cases row <;> first | rfl | cases stops

theorem Reacts.sessionStop_silent {contract : Contract} {message : V2GMessage}
    {before after : World ρ} (reacts : Reacts contract message before after)
    (own : before.currentState.own = .sessionStop) :
    after.currentState.nextV2gtpMsg = before.currentState.nextV2gtpMsg := by
  cases reacts with
  | answers res turn response accepts row leads =>
      apply leads.silent
      exact row.sessionStop_silent own
  | refuses _ _ currentState => rw [currentState]
  | detectsWelding complete turn own' => cases own.symm.trans own'

section

variable [EVController ρ]

/-- What is received can be dealt with, and no renegotiation is due when the welding detection
is over. -/
structure Handled (session : EVCCSession ρ) (input : Option (Received V2GMessage Answers)) :
    Prop where
  response : ∀ received res, input = some received → received.message = .response res →
    Accepts session.world.currentState.own res session.world.session →
    Handles (InstallNeeded session.world.controller) received.answers session.world.session
      res.header session.world.currentState.own res.response
  welding : session.world.currentState.own = .dcWeldingDetection true →
    ¬RenegotiationDue session.world.session

/-- Each accepted response leads on, and a renegotiation that is due is asked for and begins
with the discovery of the services. -/
structure GoesForward (session next : EVCCSession ρ)
    (input : Option (Received V2GMessage Answers)) : Prop where
  proceeds : ∀ received res, input = some received → received.message = .response res →
    Accepts session.world.currentState.own res session.world.session →
    Proceeds session.world received
  stops : ∀ header req, next.sent = ⟨header, .sessionStopReq req⟩ :: session.sent →
    RenegotiationDue session.world.session → req.chargingSession = .serviceRenegotiation
  discovers : ∀ received res, input = some received → received.message = .response res →
    session.world.currentState.own = .sessionStop →
    Accepts session.world.currentState.own res session.world.session →
    RenegotiationDue session.world.session →
    ∃ header req, next.sent = ⟨header, .serviceDiscoveryReq req⟩ :: session.sent

/-- What a step sends has been prepared for its input. -/
theorem Step.prepared_of_sent {session next : EVCCSession ρ} {message : RequestMessage}
    {input : Option (Received V2GMessage Answers)} (step : (machine ρ).Step session input next)
    (idle : session.world.currentState.nextState = none)
    (sent : next.sent = message :: session.sent) :
    ∃ received after, input = some received ∧
      Reacts {} received.message session.world after ∧
      after.currentState.nextV2gtpMsg = some message := by
  obtain same | ⟨received, after, message', rfl, processed, prepared, sent'⟩ := step.sent_eq_or
  · rw [same] at sent
    exact (List.ne_cons_self sent).elim
  · obtain ⟨rfl, -⟩ := List.cons.inj (sent'.symm.trans sent)
    have reacts := post_of_eq_ok (machine_reacts (keeps_any ρ) idle received) processed
    exact ⟨received, after, rfl, reacts, prepared⟩

/-- In every run, with a controller whose answers fit, a step goes forward with what is
handled. A renegotiation that is due is never carried through: the welding detection of direct
current asks for the end of the session, and behind it nothing is sent. -/
theorem goesForward_of_run (ρ : Type) [EVController ρ] {start session next : EVCCSession ρ}
    {history : List (Option (Received V2GMessage Answers))}
    {input : Option (Received V2GMessage Answers)} (starts : Starts start)
    (run : Run (machine ρ).Step start history session)
    (step : (machine ρ).Step session input next) :
    (Keeps fitting ρ → Handled session input → GoesForward session next input) ∧
      (RenegotiationDue session.world.session →
        (∀ header req, session.world.currentState.own = .dcWeldingDetection true →
          next.sent = ⟨header, .sessionStopReq req⟩ :: session.sent →
          req.chargingSession = .terminate) ∧
        (session.world.currentState.own = .sessionStop →
          next.sent = session.sent ∧ next.ended = true)) := by
  obtain ⟨idle, waits⟩ := waits_of_run starts run step.1
  have stops : ∀ header req, next.sent = ⟨header, .sessionStopReq req⟩ :: session.sent →
      RenegotiationDue session.world.session →
      (∀ complete, session.world.currentState.own ≠ .dcWeldingDetection complete) ∧
          req.chargingSession = .serviceRenegotiation ∨
        session.world.currentState.own = .dcWeldingDetection true ∧
          req.chargingSession = .terminate := by
    intro header req sent due
    obtain ⟨received, after, _, reacts, prepared⟩ := Step.prepared_of_sent step idle sent
    exact reacts.stop_of_due waits.ready waits.leftover due prepared
  constructor
  · intro keeps handled
    constructor
    · intro received res taken response accepts
      exact proceeds_of_handles keeps idle waits.ready response accepts
        (handled.response received res taken response accepts)
    · intro header req sent due
      obtain ⟨_, renegotiates⟩ | ⟨welding, _⟩ := stops header req sent due
      · exact renegotiates
      · exact absurd due (handled.welding welding)
    · intro received res taken response own accepts due
      have handles := handled.response received res taken response accepts
      rw [own] at handles
      exact absurd due handles.2
  · intro due
    constructor
    · intro header req welding sent
      obtain ⟨other, _⟩ | ⟨_, terminates⟩ := stops header req sent due
      · exact absurd welding (other true)
      · exact terminates
    · intro own
      have leftover := waits.leftover
      rw [own] at leftover
      constructor
      · obtain same | ⟨received, after, message, _, processed, prepared, _⟩ := step.sent_eq_or
        · exact same
        · have reacts := post_of_eq_ok (machine_reacts (keeps_any ρ) idle received) processed
          cases (leftover.symm.trans (reacts.sessionStop_silent own).symm).trans prepared
      · by_contra goesOn
        obtain ⟨received, after, _, reacts, goes⟩ :=
          Step.reacts (keeps_any ρ) idle step (Bool.eq_false_iff.mpr goesOn)
        obtain ⟨message, prepared, _⟩ := goes.sends
        cases (leftover.symm.trans (reacts.sessionStop_silent own).symm).trans prepared

end

namespace Sample

/-- A controller for one service, whose answers are always the same. -/
structure SteadyController where
  service : ServiceV20

def acParams : ACChargeParameterDiscoveryReqParams :=
  ⟨zeroRational, none, none, zeroRational, none, none⟩

def dcParams : DCChargeParameterDiscoveryReqParams :=
  ⟨zeroRational, zeroRational, zeroRational, zeroRational, zeroRational, zeroRational, none⟩

def chargeParams (service : ServiceV20) : ChargeParams :=
  match service with
  | .acBpt => .bptAc ⟨acParams, zeroRational, none, none, zeroRational, none, none⟩
  | .dc => .dc dcParams
  | .dcBpt => .bptDc ⟨dcParams, zeroRational, zeroRational, zeroRational, zeroRational⟩
  | _ => .ac acParams

def scheduledAc : ScheduledACChargeLoopReqParams :=
  ⟨none, none, none, none, none, none, none, none, none, zeroRational, none, none, none, none, none⟩

def dynamicAc : DynamicACChargeLoopReqParams :=
  ⟨none, zeroRational, zeroRational, zeroRational, zeroRational, none, none, zeroRational, none,
    none, zeroRational, none, none, zeroRational, none, none⟩

def acLoopParams (controlMode : Option ControlMode) (service : ServiceV20) :
    ACChargeLoopReqParams :=
  if service = .acBpt then
    if controlMode = some .scheduled then
      .bptScheduled ⟨scheduledAc, none, none, none, none, none, none⟩
    else
      .bptDynamic ⟨dynamicAc, zeroRational, none, none, zeroRational, none, none, none, none⟩
  else if controlMode = some .scheduled then
    .scheduled scheduledAc
  else
    .dynamic dynamicAc

def scheduledDc : ScheduledDCChargeLoopReqParams :=
  ⟨none, none, none, zeroRational, zeroRational, none, none, none, none, none⟩

def dynamicDc : DynamicDCChargeLoopReqParams :=
  ⟨none, zeroRational, zeroRational, zeroRational, zeroRational, zeroRational, zeroRational,
    zeroRational, zeroRational⟩

def displayParameters : DisplayParameters :=
  ⟨none, none, none, none, none, none, none, false, none,
    socRange_none, socRange_none, socRange_none, socRange_none⟩

def powerProfile : EVPowerProfile := ⟨[⟨3600, zeroRational⟩], .scheduled 1⟩

instance : EVController SteadyController where
  isCertInstallNeeded := pure false
  getPrioritisedEmaids := pure ⟨⟩
  getSupportedEnergyServices := do return [(← get).service]
  selectEnergyServiceV20 _ := do
    return ⟨(← get).service, false, ⟨1, [⟨"ControlMode", .intValue 1⟩]⟩⟩
  selectVasServicesV20 _ := pure (some [])
  getChargeParamsV20 selected := pure (chargeParams selected.service)
  updateSeccLimits _ _ _ := pure ⟨⟩
  getScheduledSeParams _ := pure ⟨none, none, none, none⟩
  getDynamicSeParams _ :=
    pure ⟨0, none, none, zeroRational, zeroRational, zeroRational, none, none⟩
  processScheduledSeParams _ _ := pure (some powerProfile, .start)
  processDynamicSeParams _ _ := pure (some powerProfile, .start)
  enableCharging _ := pure ⟨⟩
  getPresentVoltage := pure zeroRational
  getTargetVoltage := pure zeroRational
  isPrecharged _ := pure true
  continueCharging := pure true
  chargeLoopDelay := pure ⟨⟩
  getAcChargeLoopParamsV20 controlMode service := pure (acLoopParams controlMode service)
  getScheduledDcChargeLoopParams := pure scheduledDc
  getDynamicDcChargeLoopParams := pure dynamicDc
  getBptScheduledDcChargeLoopParams := pure ⟨scheduledDc, none, none, none⟩
  getBptDynamicDcChargeLoopParams :=
    pure ⟨dynamicDc, zeroRational, zeroRational, zeroRational, none, none⟩
  getDisplayParams := pure displayParameters
  weldingDetectionHasFinished := pure true

/-- The answers of the steady controller fit. -/
theorem keeps_steadyController : Keeps fitting SteadyController where
  isCertInstallNeeded _ := trivial
  getPrioritisedEmaids _ := trivial
  getSupportedEnergyServices _ := trivial
  selectEnergyServiceV20 _ _ _ := by
    intro param member _
    cases List.mem_singleton.mp member
    exact .inl rfl
  selectVasServicesV20 _ _ _ := rfl
  getChargeParamsV20 selected _ _ := by
    intro charges
    simp only [List.mem_cons, List.not_mem_nil, or_false] at charges
    rcases charges with same | same | same | same <;> rw [same] <;> exact ⟨_, rfl⟩
  updateSeccLimits _ _ _ _ := trivial
  getScheduledSeParams _ _ := trivial
  getDynamicSeParams _ _ := trivial
  processScheduledSeParams _ _ _ := ⟨trivial, fun _ _ same => by cases same; nofun⟩
  processDynamicSeParams _ _ _ := ⟨trivial, fun _ _ same => by cases same; nofun⟩
  enableCharging _ _ := trivial
  getPresentVoltage _ := trivial
  getTargetVoltage _ := trivial
  isPrecharged _ _ := trivial
  continueCharging _ := trivial
  getAcChargeLoopParamsV20 controlMode service _ := by
    intro _ ac
    simp only [List.mem_cons, List.not_mem_nil, or_false] at ac
    rcases ac with rfl | rfl <;> rcases controlMode with _ | ⟨_ | _⟩ <;> exact ⟨_, rfl⟩
  getScheduledDcChargeLoopParams _ := trivial
  getDynamicDcChargeLoopParams _ := trivial
  getBptScheduledDcChargeLoopParams _ := trivial
  getBptDynamicDcChargeLoopParams _ := trivial
  getDisplayParams _ := trivial
  weldingDetectionHasFinished _ := trivial

def dcChargeLoopRes (evseNotification : EVSENotification) : Response :=
  .dcChargeLoopRes (some ⟨0, evseNotification⟩) (.scheduled ⟨none, none, none, none⟩)

/-- A DC session in which the SECC asks for a renegotiation that it supports, up to the end of
the welding detection. -/
def renegotiationHistory : List (Option (Received V2GMessage Answers)) :=
  [response (.dcWeldingDetectionRes zeroRational), response (.dcWeldingDetectionRes zeroRational),
    response .powerDeliveryRes, response (dcChargeLoopRes .serviceRenegotiation),
    response .powerDeliveryRes, response (.dcPreChargeRes zeroRational),
    response (.dcPreChargeRes zeroRational), response (.dcCableCheckRes .finished),
    response (.scheduleExchangeRes (scheduleExchangeRes none)),
    response (.dcChargeParameterDiscoveryRes (.dc ⟨zeroRational, zeroRational, zeroRational,
      zeroRational, zeroRational, zeroRational, none⟩)),
    response .serviceSelectionRes, response (.serviceDetailRes (serviceDetailRes .dc))] ++
  discoveryHistory .dc true

/-- An AC session in which the SECC asks for a renegotiation that it supports, in the charge
loop. -/
def acRenegotiationHistory : List (Option (Received V2GMessage Answers)) :=
  [response (.acChargeLoopRes (some ⟨0, .serviceRenegotiation⟩)), response .powerDeliveryRes,
    response (.scheduleExchangeRes (scheduleExchangeRes none)),
    response .acChargeParameterDiscoveryRes, response .serviceSelectionRes,
    response (.serviceDetailRes (serviceDetailRes .ac))] ++
  discoveryHistory .ac true

def stopReason (message : RequestMessage) : Option ChargingSession :=
  match message.request with
  | .sessionStopReq req => some req.chargingSession
  | _ => none

end Sample

open Sample in
/-- In an AC session, the EVCC asks for the renegotiation that is due. -/
theorem sample_goesForward :
    ∃ session next, Run (machine SteadyController).Step (start ⟨.ac⟩) acRenegotiationHistory
        session ∧
      (machine SteadyController).Step session (response .powerDeliveryRes) next ∧
      RenegotiationDue session.world.session ∧
      GoesForward session next (response .powerDeliveryRes) ∧
      next.sent.head?.map stopReason = some (some .serviceRenegotiation) := by
  have goesOn : (machine SteadyController).GoesOn (start ⟨.ac⟩)
      (response .powerDeliveryRes :: acRenegotiationHistory) := by decide +kernel
  have run := SessionStateMachine.run_of_goesOn goesOn.1
  have own : ((machine SteadyController).rcvAll (start ⟨.ac⟩)
      acRenegotiationHistory).world.currentState.own = .powerDelivery := by decide +kernel
  have step : (machine SteadyController).Step
      ((machine SteadyController).rcvAll (start ⟨.ac⟩) acRenegotiationHistory)
      (response .powerDeliveryRes)
      ((machine SteadyController).rcvAll (start ⟨.ac⟩)
        (response .powerDeliveryRes :: acRenegotiationHistory)) :=
    ⟨by decide +kernel, rfl⟩
  have forward := goesForward_of_run SteadyController (starts_start _) run step
  refine ⟨_, _, run, step, ⟨by decide +kernel, by decide +kernel⟩,
    forward.1 keeps_steadyController ?_, by decide +kernel⟩
  constructor
  · rintro _ res same taken _
    cases same
    cases taken
    rw [own]
    trivial
  · rw [own]
    nofun

open Sample in
/-- The SECC asks for a renegotiation, and the EVCC for the end of the session. Then it has
nothing to say, which is reported as a fault of the state. -/
theorem renegotiation_ends_session : ∃ session,
    Run (machine SteadyController).Step (start ⟨.dc⟩) renegotiationHistory session ∧
      session.world.session.serviceRenegotiationSupported = true ∧
      session.world.session.renegotiationRequested = true ∧
      session.world.currentState.own = .sessionStop ∧
      session.sent.head?.map stopReason = some (some .terminate) ∧
      ¬GoesForward session ((machine SteadyController).rcv session (response .sessionStopRes))
        (response .sessionStopRes) := by
  have goesOn : (machine SteadyController).GoesOn (start ⟨.dc⟩)
      (response .sessionStopRes :: renegotiationHistory) := by decide +kernel
  have own : ((machine SteadyController).rcvAll (start ⟨.dc⟩)
      renegotiationHistory).world.currentState.own = .sessionStop := by decide +kernel
  have supported : ((machine SteadyController).rcvAll (start ⟨.dc⟩)
      renegotiationHistory).world.session.serviceRenegotiationSupported = true := by
    decide +kernel
  have requested : ((machine SteadyController).rcvAll (start ⟨.dc⟩)
      renegotiationHistory).world.session.renegotiationRequested = true := by decide +kernel
  refine ⟨_, SessionStateMachine.run_of_goesOn goesOn.1, supported, requested, own,
    by decide +kernel, fun forward => ?_⟩
  have accepts : Accepts ((machine SteadyController).rcvAll (start ⟨.dc⟩)
        renegotiationHistory).world.currentState.own ⟨{ sessionId := "10" }, .ok, .sessionStopRes⟩
      ((machine SteadyController).rcvAll (start ⟨.dc⟩) renegotiationHistory).world.session := by
    refine ⟨rfl, .inr (by decide +kernel), ?_⟩
    rw [own]
    trivial
  obtain ⟨header, req, sent⟩ := forward.discovers _ _ rfl rfl own accepts ⟨supported, requested⟩
  have longer := congrArg List.length sent
  rw [List.length_cons] at longer
  exact absurd longer (by decide +kernel)

end Iso15118.Evcc.V20
