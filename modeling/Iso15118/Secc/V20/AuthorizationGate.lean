import Iso15118.Secc.V20.Loop

/-!
# The gate in front of the services

An EV is to be authorized before it discovers the services. The gate is closed
until an `AuthorizationReq` is accepted; what it accepts depends on the controller
and on the request, and the steps that open it without an authorization are told
apart from the others.
-/

namespace Iso15118.Secc.V20

open Effect Transition
open Iso15118.Shared
open Iso15118.Shared.V20

/-! ## What the EV has been offered -/

/-- The last `AuthorizationSetupRes` among the messages sent. -/
def lastAuthorizationSetupRes (sent : List ResponseMessage) : Option AuthorizationSetupRes :=
  sent.findSome? fun message =>
    match message.response with
    | .authorizationSetupRes res => some res
    | _ => none

/-- The last challenge among the messages sent. -/
def lastGenChallenge (sent : List ResponseMessage) : Option (List UInt8) :=
  sent.findSome? fun message =>
    match message.response with
    | .authorizationSetupRes res => res.pncAsRes.map PnCAuthSetupResParams.genChallenge
    | _ => none

section

variable {σ : Type}

/-- The session variables agree with what has been sent. -/
structure Offered (session : SECCSession σ) : Prop where
  authServices : ∃ res, lastAuthorizationSetupRes session.sent = some res ∧
    session.world.session.offeredAuthOptions = res.authServices
  genChallenge : .pnc ∈ session.world.session.offeredAuthOptions →
    lastGenChallenge session.sent = session.world.session.genChallenge

end

/-! ## What the states before the gate do -/

section Specs

variable {σ : Type} {environment : Environment} {answers : Answers} {world : World σ}

/-- A finished `AuthorizationSetup` has sent what it has stored. -/
theorem AuthorizationSetup.onAuthorizationSetupReq_spec :
    wp (onAuthorizationSetupReq environment answers)
      (fun _ next => next.currentState.own = .authorizationSetup false ∧
        next.currentState.nextState = none ∧
        ∃ header res, next.currentState.nextV2gtpMsg =
            some ⟨header, .ok, .authorizationSetupRes res⟩ ∧
          next.session.offeredAuthOptions = res.authServices ∧
          (.pnc ∈ res.authServices → ∃ pncAsRes, res.pncAsRes = some pncAsRes ∧
            next.session.genChallenge = some pncAsRes.genChallenge))
      (fun _ _ => True) world := by
  have offersPnc : ∀ supported : List AuthEnum,
      AuthEnum.pnc ∈ authOptions supported ↔ AuthEnum.pnc ∈ supported := by
    simp [authOptions]
  unfold onAuthorizationSetupReq pncAsRes
  simp only [wp_bind, wp_ask, implies_true, and_true]
  intro eimAuthorized _
  by_cases pnc : AuthEnum.pnc ∈ supportedAuthOptions environment eimAuthorized
  · simp +contextual [pnc, StateObject.createNextMessage]
  · simp +contextual [pnc, offersPnc, StateObject.createNextMessage]

/-- `Authorization` either stops the session, or the answer of the controller decides
whether it goes on waiting. -/
theorem Authorization.respond_spec {req : AuthorizationReq} {responseCode : ResponseCode} :
    wp (respond answers req responseCode)
      (fun _ next => ∃ status header code, answers.isAuthorized = .ok status ∧
        next.currentState.own = .authorization (authorizationProcessing
          status.authorizationStatus req.selectedAuthService ≠ .finished) ∧
        next.currentState.nextState = none ∧
        next.currentState.nextV2gtpMsg = some ⟨header, code, .authorizationRes
          (authorizationProcessing status.authorizationStatus req.selectedAuthService)⟩ ∧
        .isAuthorized ∈ next.calls)
      (fun _ _ => True) world := by
  simp only [respond, wp_bind, wp_ask, implies_true, and_true, wp_createNextMessage, wp_setOwn]
  intro status answered _
  exact ⟨status, _, _, answered, rfl, rfl, rfl, List.mem_cons_self⟩

theorem Authorization.onAuthorizationReq_spec {message : RequestMessage}
    {header : MessageHeader} {req : AuthorizationReq} :
    wp (onAuthorizationReq environment answers (.request message) header req)
      (fun _ next => next.currentState.nextState = some .terminate ∨
        (∀ pncParams, req.pncParams = some pncParams →
            environment.verifySignature header.signature pncParams = .ok true) ∧
          ∃ status header code, answers.isAuthorized = .ok status ∧
            next.currentState.own = .authorization (authorizationProcessing
              status.authorizationStatus req.selectedAuthService ≠ .finished) ∧
            next.currentState.nextState = none ∧
            next.currentState.nextV2gtpMsg = some ⟨header, code, .authorizationRes
              (authorizationProcessing status.authorizationStatus req.selectedAuthService)⟩ ∧
            .isAuthorized ∈ next.calls)
      (fun _ _ => True) world := by
  simp only [onAuthorizationReq, wp_bind, wp_updateSession]
  cases given : req.pncParams with
  | none =>
      apply wp_mono _ (fun _ _ _ => trivial) respond_spec
      intro _ next responded
      exact .inr ⟨nofun, responded⟩
  | some pncParams =>
      simp only [wp_bind, wp_ofExcept, implies_true, and_true, wp_ite]
      intro verified checked
      split
      next valid =>
        have valid : ∀ given, some pncParams = some given →
            environment.verifySignature header.signature given = .ok true := by
          rintro _ ⟨⟩
          rw [checked, valid]
        simp only [wp_get, wp_ite]
        split
        · apply wp_mono _ (fun _ _ _ => trivial) respond_spec
          intro _ next responded
          exact .inr ⟨valid, responded⟩
        · apply wp_mono _ (fun _ _ _ => trivial) respond_spec
          intro _ next responded
          exact .inr ⟨valid, responded⟩
      next invalid =>
        apply wp_mono _ (fun _ _ _ => trivial) (stopStateMachine_terminates _ _ _)
        exact fun _ _ => .inl

/-- A session that is stopped goes on only with another choice of services. -/
theorem SessionStop.onSessionStopReq_spec {req : SessionStopReq} :
    wp (onSessionStopReq answers req)
      (fun _ next => next.currentState.nextState = some .terminate ∨
        req.chargingSession = .serviceRenegotiation ∧
          answers.serviceRenegotiationSupported = .ok true)
      (fun _ _ => True) world := by
  simp only [onSessionStopReq, renegotiates, wp_bind, wp_ite, wp_ask, wp_pure]
  split
  next renegotiation =>
    simp only [implies_true, and_true]
    intro supported answered
    cases supported
    · exact createNextMessage_ensures (.inl rfl)
    · exact createNextMessage_ensures (.inr ⟨renegotiation, answered⟩)
  next => exact createNextMessage_ensures (.inl rfl)

end Specs

/-! ## The gate -/

section Gate

variable {σ : Type} [DiagnosticService σ] {environment : Environment}

/-- The step handles an `AuthorizationReq` that authorizes the EV: the controller
accepts it, its service was offered last, and Plug and Charge comes with signed
parameters that repeat the last challenge. -/
def Authorizes (environment : Environment) (session : SECCSession σ) (input : Option Received)
    (next : SECCSession σ) : Prop :=
  ∃ header req answers status res,
    input = some ⟨.request ⟨header, .authorizationReq req⟩, answers⟩ ∧
    .isAuthorized ∈ next.world.calls ∧
    answers.isAuthorized = .ok status ∧ status.authorizationStatus = .accepted ∧
    lastAuthorizationSetupRes session.sent = some res ∧
    req.selectedAuthService ∈ res.authServices ∧
    (req.selectedAuthService = .pnc → ∃ pncParams, req.pncParams = some pncParams ∧
      environment.verifySignature header.signature pncParams = .ok true ∧
      lastGenChallenge session.sent = some pncParams.genChallenge)

/-- The step does not open the gate to an EV without an authorization: the controller
rejects no `AuthorizationReq`, one that it accepts selects an offered service and,
for Plug and Charge, repeats the challenge of the session, and the services are not
renegotiated before there has been an `AuthorizationReq`. -/
def GateKept (session : SECCSession σ) (input : Option Received) (_next : SECCSession σ) :
    Prop :=
  ∀ header request answers, input = some ⟨.request ⟨header, request⟩, answers⟩ →
    session.world.currentState.own.accepts request.requestType = true →
    match request with
    | .authorizationReq req => ∀ status, answers.isAuthorized = .ok status →
        status.authorizationStatus ≠ .rejected ∧
          (status.authorizationStatus = .accepted →
            req.selectedAuthService ∈ session.world.session.offeredAuthOptions ∧
              (req.selectedAuthService = .pnc → ∃ pncParams, req.pncParams = some pncParams ∧
                session.world.session.genChallenge = some pncParams.genChallenge))
    | .sessionStopReq req => session.world.currentState.own = .authorizationSetup false →
        req.chargingSession = .serviceRenegotiation →
        answers.serviceRenegotiationSupported ≠ .ok true
    | _ => True

/-- The states in front of the gate. -/
def Closed (session : SECCSession σ) : Prop :=
  session.world.currentState.nextState = none ∧
    match session.world.currentState.own with
    | .sessionSetup => True
    | .authorizationSetup true => True
    | .authorizationSetup false => Offered session
    | .authorization true => Offered session
    | _ => False

/-- An answer to an `AuthorizationSetupReq` leaves the gate closed. -/
theorem closed_of_authorizationSetupReq {session next : SECCSession σ} {header : MessageHeader}
    {answers : Answers} {reached : World σ} {response : ResponseMessage}
    (answered : (protocol environment).Answered session ⟨header, .authorizationSetupReq⟩ answers
      reached
      response next) : Closed next := by
  rcases post_of_eq_ok AuthorizationSetup.onAuthorizationSetupReq_spec answered.answer with
    ⟨own, stays, header, res, prepared, offered, challenged⟩
  have sent : next.sent = ⟨header, .ok, .authorizationSetupRes res⟩ :: session.sent := by
    rw [answered.sent, Option.some.inj (answered.prepared.symm.trans prepared)]
  refine ⟨answered.resting, ?_⟩
  rw [answered.currentState_eq stays, own]
  constructor
  case authServices =>
    refine ⟨res, ?_, ?_⟩
    · rw [sent]
      rfl
    · rw [answered.session_eq, offered]
  case genChallenge =>
    intro pnc
    rw [answered.session_eq, offered] at pnc
    rcases challenged pnc with ⟨pncAsRes, issued, stored⟩
    rw [sent, answered.session_eq, stored]
    simp [lastGenChallenge, issued]

/-- An answer to an `AuthorizationReq` leaves it closed, unless it authorizes the EV. -/
theorem closed_or_authorizes_of_authorizationReq {session next : SECCSession σ}
    {header : MessageHeader} {req : AuthorizationReq} {answers : Answers} {reached : World σ}
    {response : ResponseMessage}
    (answered : (protocol environment).Answered session ⟨header, .authorizationReq req⟩ answers
      reached
      response next)
    (offered : Offered session)
    (kept : GateKept session (some ⟨.request ⟨header, .authorizationReq req⟩, answers⟩) next) :
    Closed next ∨ Authorizes environment session
      (some ⟨.request ⟨header, .authorizationReq req⟩, answers⟩) next := by
  rcases post_of_eq_ok Authorization.onAuthorizationReq_spec answered.answer with
    stopped | ⟨verified, status, resHeader, code, responded, own, stays, prepared, called⟩
  · exact absurd stopped answered.not_terminate
  · rcases kept header _ answers rfl (accepted_of_answered answered) status responded with
      ⟨notRejected, whenAccepted⟩
    cases processed : status.authorizationStatus with
    | rejected => exact absurd processed notRejected
    | accepted =>
        right
        rcases whenAccepted processed with ⟨selected, pnc⟩
        rcases offered.authServices with ⟨res, last, same⟩
        rw [same] at selected
        refine ⟨header, req, answers, status, res, rfl, ?_, responded, processed, last, selected,
          ?_⟩
        · rw [answered.calls]
          exact List.mem_cons_of_mem _ called
        · intro selectsPnc
          rcases pnc selectsPnc with ⟨pncParams, given, challenged⟩
          refine ⟨pncParams, given, verified pncParams given, ?_⟩
          rw [selectsPnc, ← same] at selected
          rw [offered.genChallenge selected, challenged]
    | ongoing =>
        left
        refine ⟨answered.resting, ?_⟩
        have waits : authorizationProcessing .ongoing req.selectedAuthService ≠ .finished := by
          unfold authorizationProcessing
          dsimp only
          split <;> nofun
        rw [processed] at own prepared
        rw [answered.currentState_eq stays, own, decide_eq_true waits]
        have sent := answered.sent
        rw [Option.some.inj (answered.prepared.symm.trans prepared)] at sent
        have kept := kept_of_answered answered
        constructor
        case authServices =>
          rcases offered.authServices with ⟨res, last, same⟩
          refine ⟨res, ?_, ?_⟩
          · rw [sent]
            exact last
          · rw [answered.session_eq, offeredAuthOptions_of_kept kept nofun]
            exact same
        case genChallenge =>
          rw [answered.session_eq, offeredAuthOptions_of_kept kept nofun,
            genChallenge_of_kept kept nofun,
            sent]
          exact offered.genChallenge

/-- A step that keeps the gate leaves it closed, or authorizes the EV. -/
theorem closed_or_authorizes_of_step {session next : SECCSession σ} {input : Option Received}
    (closed : Closed session) (step : (machine environment).Step session input next)
    (kept : GateKept session input next) (goesOn : next.ended = false) :
    Closed next ∨ Authorizes environment session input next := by
  rcases step_answered step goesOn with
    ⟨⟨header, request⟩, answers, reached, response, rfl, answered⟩
  rcases closed with ⟨resting, closed⟩
  have accepted := accepted_of_answered answered
  have expected := mem_expectedMsgTypes accepted
  cases own : session.world.currentState.own with
  | sessionSetup =>
      left
      refine ⟨answered.resting, ?_⟩
      rw [own] at expected
      have type : request.requestType = .sessionSetupReq := List.mem_singleton.mp expected
      rcases leads_of_answered answered resting with ⟨_, same, name⟩ | ⟨name, _, same, allowed⟩
      · rw [same]
        rw [type] at name
        cases stayed : reached.currentState.own <;> rw [stayed] at name <;> cases name
        trivial
      · rw [same]
        rw [type] at allowed
        cases name <;> cases allowed
        trivial
  | authorizationSetup expecting =>
      cases request with
      | authorizationSetupReq => exact .inl (closed_of_authorizationSetupReq answered)
      | authorizationReq req =>
          cases expecting with
          | true =>
              rw [own] at accepted
              cases accepted
          | false =>
              rw [own] at closed
              exact closed_or_authorizes_of_authorizationReq answered closed kept
      | certificateInstallationReq => cases answered.answer
      | sessionStopReq req =>
          cases expecting with
          | true =>
              rw [own] at accepted
              cases accepted
          | false =>
              rcases post_of_eq_ok SessionStop.onSessionStopReq_spec answered.answer with
                stopped | ⟨renegotiation, supported⟩
              · exact absurd stopped answered.not_terminate
              · exact absurd supported
                  (kept header _ answers rfl (accepted_of_answered answered) own renegotiation)
      | _ =>
          rw [own] at expected
          simp [Own.name, StateName.expectedMsgTypes, Request.requestType] at expected
  | authorization expecting =>
      cases expecting with
      | true =>
          rw [own] at accepted closed
          cases request with
          | authorizationReq req =>
              exact closed_or_authorizes_of_authorizationReq answered closed kept
          | _ => cases accepted
      | false =>
          rw [own] at closed
          exact closed.elim
  | _ =>
      rw [own] at closed
      exact closed.elim

/-- The gate stays closed until a step authorizes the EV. -/
theorem closed_or_passed {start session : SECCSession σ} {history : List (Option Received)}
    (new : New start)
    (run : Run (Restrict (machine environment).Step GateKept) start history session) :
    Passed (machine environment).Step (fun _ => Authorizes environment) start history session ∨
      (session.ended = false → Closed session) := by
  induction run with
  | start =>
      right
      intro _
      unfold Closed
      rw [new.1]
      exact ⟨rfl, trivial⟩
  | @step history session next input past last ih =>
      rcases last with ⟨taken, kept⟩
      have run : Run (machine environment).Step start history session :=
        past.mono fun _ _ _ step => step.1
      rcases ih with passed | closed
      · exact .inl (passed.later taken)
      · cases ended : next.ended with
        | true => exact .inr nofun
        | false =>
            rcases closed_or_authorizes_of_step (closed taken.1) taken kept ended with
              closed | authorizes
            · exact .inr fun _ => closed
            · exact .inl (Passed.now run taken authorizes)

/-- In a run that keeps the gate, a `ServiceDiscoveryReq` is processed only after a
step that has authorized the EV. -/
theorem authorizes_of_serviceDiscovery {start session next : SECCSession σ}
    {history : List (Option Received)} {received : Received} (new : New start)
    (run : Run (Restrict (machine environment).Step GateKept) start history session)
    (last : (machine environment).Step session (some received) next)
    (processed : .getEnergyServiceList ∈ next.world.calls) :
    Passed (machine environment).Step (fun _ => Authorizes environment) start history
      session := by
  rcases closed_or_passed new run with passed | closed
  · exact passed
  · rcases call_of_step last processed nofun with
      ⟨message, reached, _, accepted, _, allowed, _⟩
    rcases closed last.1 with ⟨_, closed⟩
    have expected := mem_expectedMsgTypes accepted
    have type : message.request.requestType = .serviceDiscoveryReq := by
      cases type : message.request.requestType <;> rw [type] at allowed <;> cases allowed
    rw [type] at accepted
    cases own : session.world.currentState.own with
    | sessionSetup =>
        rw [own] at accepted
        cases accepted
    | authorizationSetup expecting =>
        rw [own] at accepted
        cases expecting <;> cases accepted
    | authorization expecting =>
        cases expecting with
        | true =>
            rw [own] at accepted
            cases accepted
        | false =>
            rw [own] at closed
            exact closed.elim
    | _ =>
        rw [own] at closed
        exact closed.elim

end Gate

/-! ## A session without an authorization -/

def Sample.rejecting : Answers :=
  { Sample.answers with isAuthorized := .ok { authorizationStatus := .rejected } }

def Sample.serviceDiscovery : Received :=
  ⟨.request ⟨{ sessionId := "10" }, .serviceDiscoveryReq ⟨none⟩⟩, Sample.answers⟩

/-- The EV is rejected and discovers the services. -/
theorem serviceDiscovery_after_rejection :
    ∃ (environment : Environment) (start session next : SECCSession BatteryHealthService)
      (history : List (Option Received)) (received : Received),
      New start ∧ Run (machine environment).Step start history session ∧
        (machine environment).Step session (some received) next ∧
        .getEnergyServiceList ∈ next.world.calls ∧
        ¬Passed (machine environment).Step (fun _ => Authorizes environment) start history
          session := by
  refine ⟨Sample.environment, Sample.start, _, _, _, Sample.serviceDiscovery, Sample.new_start,
    Sample.run_authorizationHistory Sample.rejecting, SessionStateMachine.step_rcvAll rfl _,
    by decide, ?_⟩
  rintro ⟨recent, input, past, before, after, history, _, _, authorizes, _⟩
  rcases authorizes with ⟨header, req, answers, status, res, isInput, _, answered, accepted, _⟩
  have received : input ∈ Sample.authorizationHistory Sample.rejecting := by
    rw [history]
    exact List.mem_append_right _ List.mem_cons_self
  rw [isInput] at received
  simp only [Sample.authorizationHistory, Sample.request, List.mem_cons, Option.some.injEq,
    Received.mk.injEq, V2GMessage.request.injEq, RequestMessage.mk.injEq, reduceCtorEq,
    Request.authorizationReq.injEq, and_false, false_and, List.not_mem_nil, or_false] at received
  rw [received.2] at answered
  cases answered
  cases accepted

/-- The same session with an accepted request keeps the gate. -/
theorem authorizes_of_serviceDiscovery_accepted :
    Passed (machine Sample.environment).Step (fun _ => Authorizes Sample.environment)
      Sample.start (Sample.authorizationHistory Sample.answers)
      ((machine Sample.environment).rcvAll Sample.start
        (Sample.authorizationHistory Sample.answers)) := by
  apply authorizes_of_serviceDiscovery Sample.new_start _
    (SessionStateMachine.step_rcvAll rfl (some Sample.serviceDiscovery)) (by decide)
  refine .step (.step (.step .start ⟨⟨rfl, rfl⟩, ?_⟩) ⟨⟨rfl, rfl⟩, ?_⟩) ⟨⟨rfl, rfl⟩, ?_⟩
  · rintro _ _ _ ⟨⟩ _
    trivial
  · rintro _ _ _ ⟨⟩ _
    trivial
  · rintro _ _ _ ⟨⟩ _ status ⟨⟩
    exact ⟨nofun, fun _ => ⟨by decide, nofun⟩⟩

end Iso15118.Secc.V20
