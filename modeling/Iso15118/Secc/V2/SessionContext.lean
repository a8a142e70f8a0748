import Iso15118.Secc.V2.Loop

/-!
# The EV session context

What a session leaves in the context that a later session of the same EV is resumed
with: the id of the session, and the payment option that was selected. A service
discovery offers the stored option again.
-/

namespace Iso15118.Secc.V2

open Effect
open Iso15118.Shared
open Iso15118.Shared.V2

/-! ## What the states do -/

/-- A request has been refused, and the session is stopped. -/
structure Refused (type : RequestType) (before : Session) (after : World) : Prop where
  session : after.session = before.stopped
  response : ∀ prepared, after.currentState.nextV2gtpMsg = some prepared →
    prepared.responseCode ≠ .ok ∧ failedResponse type = some prepared.response

theorem stopStateMachine_refuses (message : RequestMessage) {responseCode : ResponseCode}
    (fails : responseCode ≠ .ok) (world : World) :
    wp (stopStateMachine (.request message) responseCode)
      (fun _ next => Refused message.request.requestType world.session next)
      (fun _ _ => True) world := by
  rw [wp_stopStateMachine]
  split
  next response failed =>
    rw [wp_createNextMessage]
    constructor
    · intro _
      constructor
      · rfl
      · rintro _ ⟨⟩
        exact ⟨fails, failed⟩
    · intros
      trivial
  · trivial

theorem refusalCode_ne_ok (refusal : Refusal) : refusalCode refusal ≠ .ok := by
  cases refusal <;> nofun

/-- The context after a session has been set up: it names the session. -/
def SessionSetup.contextOf (context : Option EVSessionContext) (joined : Bool)
    (sessionId : String) : Option EVSessionContext :=
  if joined then context else some { sessionId := some sessionId }

/-- The answer to a `SessionSetupReq`. -/
structure SessionSetup.Outcome (header : MessageHeader) (req : SessionSetupReq)
    (randomSessionId : String) (before : Session) (after : World) : Prop where
  setUp : ∃ joined sessionId evseId,
    SessionSetup.joins before.evSessionContext header.sessionId = .ok joined ∧
      sessionId = (if joined then header.sessionId else randomSessionId) ∧
      ValidSessionId sessionId ∧
      after.session =
        { before with
          evccId := some req.evccId
          sessionId := sessionId
          evSessionContext :=
            SessionSetup.contextOf before.evSessionContext joined sessionId } ∧
      after.currentState.nextV2gtpMsg =
        some ⟨{ sessionId := sessionId },
          if joined then .okOldSessionJoined else .okNewSessionEstablished,
          .sessionSetupRes evseId⟩

theorem validSessionId_of_ok {sessionId : String} (passed : checkSessionId sessionId = .ok ⟨⟩) :
    ValidSessionId sessionId := by
  rw [checkSessionId_eq] at passed
  split at passed
  next valid => exact valid
  next => cases passed

theorem SessionSetup.onSessionSetupReq_outcome (answers : Answers) (header : MessageHeader)
    (req : SessionSetupReq) (world : World) :
    wp (onSessionSetupReq answers header req)
      (fun _ next => next.currentState.nextState = some (.state .serviceDiscovery) ∧
        Outcome header req answers.randomSessionId world.session next)
      (fun _ _ => True) world := by
  unfold onSessionSetupReq
  simp only [wp_bind, wp_get, wp_ofExcept, wp_updateSession, wp_ask, wp_onEvData, wp_modify,
    wp_createNextMessage, implies_true, and_true]
  intro joined joins evseId _ _ _ passed
  exact ⟨rfl, joined, _, evseId, joins, rfl, validSessionId_of_ok passed, rfl, rfl⟩

/-- The options that a service discovery offers: those of the context, the one that was
selected, or what the connection allows. -/
def OffersFrom (environment : Environment) (session : Session) (context : EVSessionContext)
    (authOptions : List AuthEnum) : Prop :=
  authOptions = context.authOptions ∨
    (∃ selected, session.selectedAuthOption = some selected ∧ authOptions = [selected]) ∨
    authOptions = [.eim] ∨
    authOptions = allowedAuthOptions environment.config session.isTls

/-- The answer to a `ServiceDiscoveryReq` that is not refused. -/
structure ServiceDiscovery.Outcome (environment : Environment) (before : Session)
    (after : World) : Prop where
  offers : ∃ context res, before.evSessionContext = some context ∧
    OffersFrom environment before context res.authOptionList ∧
    after.session =
      { before with
        offeredAuthOptions := res.authOptionList
        offeredServices := after.session.offeredServices
        evSessionContext := some { context with chargeService := some res.chargeService } } ∧
    ∀ prepared, after.currentState.nextV2gtpMsg = some prepared →
      prepared.response = .serviceDiscoveryRes res

theorem fields_of_serviceDiscoveryRes {authOptions : List AuthEnum}
    {chargeService : ChargeService} {serviceList : List ServiceDetails}
    {res : ServiceDiscoveryRes}
    (responds : serviceDiscoveryRes authOptions chargeService serviceList = .ok res) :
    res.authOptionList = authOptions ∧ res.chargeService = chargeService := by
  unfold serviceDiscoveryRes at responds
  split at responds
  · cases responds
    exact ⟨rfl, rfl⟩
  · cases responds

theorem getAuthOptions_offers (environment : Environment) (answers : Answers)
    (context : EVSessionContext) (world : World) :
    wp (getAuthOptions environment answers context)
      (fun authOptions next => next.session = world.session ∧
        OffersFrom environment world.session context authOptions)
      (fun _ _ => True) world := by
  unfold getAuthOptions
  rw [wp_bind, wp_get, wp_ite]
  split
  · exact ⟨rfl, .inl rfl⟩
  · split
    next selected selects => exact ⟨rfl, .inr (.inl ⟨selected, selects, rfl⟩)⟩
    next =>
      rw [wp_bind, wp_ask]
      constructor
      · intro eimAuthorized _
        rw [wp_pure]
        refine ⟨rfl, .inr (.inr ?_)⟩
        split
        · exact .inl rfl
        · exact .inr rfl
      · intros
        trivial

theorem ServiceDiscovery.onServiceDiscoveryReq_outcome (environment : Environment)
    (answers : Answers) (message : RequestMessage) (req : ServiceDiscoveryReq)
    (expecting : Bool) (world : World) :
    wp (onServiceDiscoveryReq environment answers (.request message) req expecting)
      (fun _ next => Refused message.request.requestType world.session next ∨
        expecting = true ∧ Outcome environment world.session next)
      (fun _ _ => True) world := by
  unfold onServiceDiscoveryReq
  rw [wp_ite]
  split
  next isExpecting =>
    rw [wp_bind, wp_get]
    cases stored : world.session.evSessionContext with
    | none => trivial
    | some context =>
        dsimp only
        unfold getServices
        rw [wp_bind, wp_bind]
        apply wp_mono _ (fun _ _ _ => trivial)
          (getAuthOptions_offers environment answers context world)
        rintro authOptions next ⟨same, offers⟩
        simp only [wp_bind, wp_get, wp_ofExcept, wp_updateSession, wp_ask, wp_pure, wp_setOwn,
          wp_createNextMessage, implies_true, and_true]
        intro energyModes _ chargeService _ res responds _
        obtain ⟨rfl, rfl⟩ := fields_of_serviceDiscoveryRes responds
        refine .inr ⟨isExpecting, context, res, stored, offers, ?_, ?_⟩
        · rw [same]
        · rintro _ ⟨⟩
          rfl
  next =>
    have fails : ResponseCode.failedSequenceError ≠ .ok := by decide
    apply wp_mono _ (fun _ _ _ => trivial) (stopStateMachine_refuses message fails world)
    intro _ _ refused
    exact .inl refused

/-- The answer to a `PaymentServiceSelectionReq` that is not refused. -/
structure PaymentServiceSelection.Outcome (req : PaymentServiceSelectionReq) (before : Session)
    (after : World) : Prop where
  offered : req.selectedAuthOption ∈ before.offeredAuthOptions
  stored : ∃ context, before.evSessionContext = some context ∧
    after.session =
      { before with
        selectedAuthOption := some req.selectedAuthOption
        evSessionContext := some { context with authOptions := [req.selectedAuthOption] } }

theorem selectionError_ne_ok {session : Session} {req : PaymentServiceSelectionReq}
    {responseCode : ResponseCode} (error : selectionError session req = some responseCode) :
    responseCode ≠ .ok := by
  unfold selectionError at error
  split at error
  · cases error
    nofun
  · split at error
    · cases error
      nofun
    · split at error
      · cases error
        nofun
      · cases error

theorem offered_of_selectionError {session : Session} {req : PaymentServiceSelectionReq}
    (passed : selectionError session req = none) :
    req.selectedAuthOption ∈ session.offeredAuthOptions := by
  unfold selectionError at passed
  split at passed
  · cases passed
  · split at passed
    · cases passed
    · split at passed
      · cases passed
      next offered => exact not_not.mp offered

theorem PaymentServiceSelection.onPaymentServiceSelectionReq_outcome (message : RequestMessage)
    (req : PaymentServiceSelectionReq) (world : World) :
    wp (onPaymentServiceSelectionReq (.request message) req)
      (fun _ next => Refused message.request.requestType world.session next ∨
        Outcome req world.session next)
      (fun _ _ => True) world := by
  unfold onPaymentServiceSelectionReq
  rw [wp_bind, wp_get]
  cases selected : selectionError world.session req with
  | some responseCode =>
      apply wp_mono _ (fun _ _ _ => trivial)
        (stopStateMachine_refuses message (selectionError_ne_ok selected) world)
      intro _ _ refused
      exact .inl refused
  | none =>
      dsimp only
      unfold storeAuthOption
      rw [wp_bind, wp_updateSession, wp_bind, wp_bind, wp_get]
      cases stored : world.session.evSessionContext with
      | none => trivial
      | some context =>
          simp only [wp_bind, wp_updateSession, wp_createNextMessage, wp_setOwn, implies_true,
            and_true]
          intro _
          exact .inr ⟨offered_of_selectionError selected, context, stored, rfl⟩

/-- The answer to a `SessionStopReq`: without a pause the context is cleared. -/
structure SessionStop.Outcome (before : Session) (after : World) : Prop where
  stops : after.session =
        { before with stopReason := some { successful := true, stopAction := .pause } } ∨
      after.session =
        { before with
          evSessionContext := none
          stopReason := some { successful := true, stopAction := .terminate } } ∧
        after.currentState.nextState = some .terminate

theorem SessionStop.onSessionStopReq_outcome (req : SessionStopReq) (world : World) :
    wp (onSessionStopReq req) (fun _ next => Outcome world.session next)
      (fun _ _ => True) world := by
  unfold onSessionStopReq
  rw [wp_ite]
  split
  · rw [wp_bind, wp_updateSession, wp_createNextMessage]
    exact ⟨fun _ => ⟨.inl rfl⟩, fun _ _ => trivial⟩
  · rw [wp_bind, wp_updateSession, wp_createNextMessage]
    exact ⟨fun _ => ⟨.inr ⟨rfl, rfl⟩⟩, fun _ _ => trivial⟩

/-! ## What processing a request leaves -/

section

variable {environment : Environment} {answers : Answers} {message : RequestMessage}
  {world next : World}

/-- A request is refused, or the current state answers it. -/
theorem refused_or_answered
    (processed : processMessage environment answers (.request message) world = .ok ⟨⟩ next) :
    Refused message.request.requestType world.session next ∨
      world.currentState.own.accepts message.request.requestType = true ∧
        Known message world.session ∧
        answer environment answers message
          (answering world.currentState message.request.requestType).own
          { world with
            currentState := answering world.currentState message.request.requestType } =
          .ok ⟨⟩ next := by
  have refused : ∀ refusal,
      stopStateMachine (.request message) (refusalCode refusal) world = .ok ⟨⟩ next →
        Refused message.request.requestType world.session next := by
    intro refusal stopped
    have refuses :=
      post_of_eq_ok (stopStateMachine_refuses message (refusalCode_ne_ok refusal) world) stopped
    exact refuses
  rw [processMessage_request, route_eq] at processed
  split at processed
  next accepted =>
    split at processed
    next known => exact .inr ⟨accepted, known, processed⟩
    next => exact .inl (refused .unknownSession processed)
  next => exact .inl (refused .sequenceError processed)

/-- The context names the session. -/
def Session.Named (session : Session) : Prop :=
  ∃ context, session.evSessionContext = some context ∧
    context.sessionId = some session.sessionId

theorem Refused.named {type : RequestType} {before : Session} {after : World}
    (refused : Refused type before after) (named : before.Named) : after.session.Named := by
  rw [refused.session]
  exact named

/-- Only a `SessionSetupReq`, the services, the selection of a payment option and the stop
of the session change the context. -/
theorem context_of_kept {type : RequestType} {before after : Session}
    (setup : type ≠ .sessionSetupReq) (discovery : type ≠ .serviceDiscoveryReq)
    (selection : type ≠ .paymentServiceSelectionReq) (stop : type ≠ .sessionStopReq)
    (same : kept type after = kept type before) :
    after.evSessionContext = before.evSessionContext := by
  have context := congrArg Session.evSessionContext same
  cases type
  case sessionSetupReq => exact absurd rfl setup
  case serviceDiscoveryReq => exact absurd rfl discovery
  case paymentServiceSelectionReq => exact absurd rfl selection
  case sessionStopReq => exact absurd rfl stop
  all_goals exact context

/-- The context goes on to name the session, unless the session is terminated. -/
theorem named_of_answer {own : Own} (setup : message.request.requestType ≠ .sessionSetupReq)
    (answered : answer environment answers message own world = .ok ⟨⟩ next)
    (named : world.session.Named) :
    next.session.Named ∧ next.session.sessionId = world.session.sessionId ∨
      next.currentState.nextState = some .terminate ∧
        ∃ notification, next.session.stopReason = some notification ∧
          notification.stopAction = .terminate := by
  have kept : kept message.request.requestType next.session =
      kept message.request.requestType world.session :=
    ((answer_effects environment answers message own).of_reaches (.inl ⟨_, answered⟩)).session
  have sessionId := sessionId_of_kept setup kept
  rcases message with ⟨header, request⟩
  unfold answer at answered
  cases request
  case sessionSetupReq req => exact absurd rfl setup
  case serviceDiscoveryReq req =>
    refine .inl ⟨?_, sessionId⟩
    rcases post_of_eq_ok (ServiceDiscovery.onServiceDiscoveryReq_outcome environment answers
        ⟨header, _⟩ req own.expectsServiceDiscovery world) answered with refused | ⟨_, outcome⟩
    · exact refused.named named
    · obtain ⟨context, res, stored, _, session, _⟩ := outcome.offers
      obtain ⟨context', stored', names⟩ := named
      cases stored.symm.trans stored'
      rw [session]
      exact ⟨_, rfl, names⟩
  case paymentServiceSelectionReq req =>
    refine .inl ⟨?_, sessionId⟩
    rcases post_of_eq_ok (PaymentServiceSelection.onPaymentServiceSelectionReq_outcome
        ⟨header, _⟩ req world) answered with refused | outcome
    · exact refused.named named
    · obtain ⟨context, stored, session⟩ := outcome.stored
      obtain ⟨context', stored', names⟩ := named
      cases stored.symm.trans stored'
      rw [session]
      exact ⟨_, rfl, names⟩
  case sessionStopReq req =>
    rcases (post_of_eq_ok (SessionStop.onSessionStopReq_outcome req world) answered).stops with
      paused | ⟨terminated, leads⟩
    · refine .inl ⟨?_, sessionId⟩
      rw [paused]
      exact named
    · right
      rw [terminated]
      exact ⟨leads, _, rfl, rfl⟩
  all_goals
    refine .inl ⟨?_, sessionId⟩
    have context := context_of_kept (by nofun) (by nofun) (by nofun) (by nofun) kept
    unfold Session.Named
    rw [context, sessionId]
    exact named

end

end Iso15118.Secc.V2
