import Iso15118.Secc.V2.Loop

/-!
# Authorization before the charge parameters

`ChargeParameterDiscovery` is reached through an `Authorization` object only. Such
an object remembers that a request was authorized and that a signature has been
verified, and it goes on with the first request at which the station is ready.
-/

namespace Iso15118.Secc.V2

open Effect Transition
open Iso15118.Shared
open Iso15118.Shared.V2

/-! ## What an answer establishes -/

/-- The check of a Plug and Charge request has passed. -/
def SignatureAccepted (environment : Environment) (session : Session) (header : MessageHeader)
    (req : AuthorizationReq) : Prop :=
  ∃ chain, session.contractCertChain = some chain ∧ req.genChallenge = session.genChallenge ∧
    environment.verifySignature header.signature (.authorizationReq req) chain.certificate =
      .ok true

/-- What the answer to an `AuthorizationReq` has done, if the session goes on. -/
structure AuthorizationOutcome (environment : Environment) (answers : Answers)
    (header : MessageHeader) (req : AuthorizationReq) (verifiedOnce complete : Bool)
    (before after : World) : Prop where
  verified : before.session.selectedAuthOption = some .pnc → verifiedOnce = true ∨
    SignatureAccepted environment before.session header req
  own : ∃ verifiedOnce' complete', after.currentState.own =
      .authorization verifiedOnce' complete' ∧
    (verifiedOnce' = true → verifiedOnce = true ∨
      before.session.selectedAuthOption = some .pnc) ∧
    (complete' = true → complete = true ∨
      (∃ idToken, .isAuthorized idToken ∈ after.calls) ∧
        ∃ status, answers.isAuthorized = .ok status ∧ status.authorizationStatus = .accepted)
  ready : after.currentState.nextState = some (.state .chargeParameterDiscovery) →
    after.currentState.own.authorizationFlags.2 = true ∧ .readyToCharge ∈ after.calls ∧
      answers.readyToCharge = .ok true
  response : ∃ header responseCode evseProcessing,
    after.currentState.nextV2gtpMsg = some ⟨header, responseCode, .authorizationRes evseProcessing⟩

namespace Authorization

theorem checkPnc_verified (environment : Environment) (header : MessageHeader)
    (req : AuthorizationReq) {verifiedOnce complete : Bool} {world : World}
    (own : world.currentState.own = .authorization verifiedOnce complete) :
    wp (checkPnc environment header req verifiedOnce complete)
      (fun error next => error = none →
        (world.session.selectedAuthOption = some .pnc → verifiedOnce = true ∨
          SignatureAccepted environment world.session header req) ∧
        next.session = world.session ∧ ∃ verifiedOnce',
          next.currentState.own = .authorization verifiedOnce' complete ∧
          (verifiedOnce' = true → verifiedOnce = true ∨
            world.session.selectedAuthOption = some .pnc))
      (fun _ _ => True) world := by
  unfold checkPnc
  rw [wp_bind, wp_get, wp_ite]
  split
  next pnc =>
    split
    · exact nofun
    next chain stored =>
      rw [wp_ite]
      split
      next once =>
        intro _
        exact ⟨fun _ => .inl once, rfl, verifiedOnce, own, fun _ => .inr pnc⟩
      next =>
        rw [wp_bind, wp_setOwn, wp_ite]
        split
        · exact nofun
        next challenge =>
          rw [wp_bind, wp_ofExcept]
          constructor
          · intro verified accepted
            rw [wp_pure]
            split
            next isTrue =>
              intro _
              rw [isTrue] at accepted
              exact ⟨fun _ => .inr ⟨chain, stored, not_not.mp challenge, accepted⟩, rfl, true, rfl,
                fun _ => .inr pnc⟩
            next => exact nofun
          · intros
            trivial
  next other =>
    intro _
    exact ⟨fun pnc => absurd pnc other, rfl, verifiedOnce, own, .inl⟩

/-- What the end of `process_message` does, if the session goes on. -/
structure Responded (answers : Answers) (verifiedOnce complete : Bool) (after : World) : Prop where
  own : ∃ complete', after.currentState.own = .authorization verifiedOnce complete' ∧
    (complete' = true → complete = true ∨
      (∃ idToken, .isAuthorized idToken ∈ after.calls) ∧
        ∃ status, answers.isAuthorized = .ok status ∧ status.authorizationStatus = .accepted)
  ready : after.currentState.nextState = some (.state .chargeParameterDiscovery) →
    after.currentState.own.authorizationFlags.2 = true ∧ .readyToCharge ∈ after.calls ∧
      answers.readyToCharge = .ok true
  response : ∃ header responseCode evseProcessing,
    after.currentState.nextV2gtpMsg = some ⟨header, responseCode, .authorizationRes evseProcessing⟩

/-- The answer of `is_authorized` counts only if it has been asked for. -/
theorem currentStatus_asked (answers : Answers) (complete : Bool) (world : World) :
    wp (currentStatus answers complete)
      (fun status next => next.currentState = world.currentState ∧
        (status.authorizationStatus = .accepted →
          (∃ idToken, .isAuthorized idToken ∈ next.calls) ∧ answers.isAuthorized = .ok status))
      (fun _ _ => True) world := by
  unfold currentStatus
  rw [wp_bind, wp_get, wp_ite]
  split
  · exact ⟨rfl, nofun⟩
  · rw [wp_ask]
    constructor
    · intro status answered
      exact ⟨rfl, fun _ => ⟨⟨_, List.mem_cons_self⟩, answered⟩⟩
    · intros
      trivial

theorem finished_ready (answers : Answers) {verifiedOnce complete now : Bool} {world : World}
    (own : world.currentState.own = .authorization verifiedOnce complete)
    (grows : complete = true → now = true) :
    wp (finished answers now)
      (fun ready next => next.currentState.own = .authorization verifiedOnce now ∧
        world.calls ⊆ next.calls ∧
        (ready = true → now = true ∧ .readyToCharge ∈ next.calls ∧
          answers.readyToCharge = .ok true))
      (fun _ _ => True) world := by
  unfold finished
  rw [wp_ite]
  split
  next isNow =>
    rw [wp_bind]
    unfold setComplete
    rw [wp_modify, wp_ask]
    constructor
    · intro ready answered
      refine ⟨?_, List.subset_cons_self _ _, ?_⟩
      · simp only [own, Own.complete, isNow]
      · rintro rfl
        exact ⟨isNow, List.mem_cons_self, answered⟩
    · intros
      trivial
  next notNow =>
    have unfinished : complete = false := by
      cases complete
      · rfl
      · exact absurd (grows rfl) notNow
    refine ⟨?_, List.Subset.refl _, nofun⟩
    rw [own, unfinished, Bool.eq_false_iff.mpr notNow]

theorem respond_responded (answers : Answers) (message : V2GMessage)
    {verifiedOnce complete : Bool} {world : World}
    (own : world.currentState.own = .authorization verifiedOnce complete) :
    wp (respond answers message complete)
      (fun _ next => next.currentState.nextState ≠ some .terminate →
        Responded answers verifiedOnce complete next)
      (fun _ _ => True) world := by
  unfold respond
  rw [wp_bind]
  apply wp_mono _ (fun _ _ _ => trivial) (currentStatus_asked answers complete world)
  rintro status asking ⟨same, asked⟩
  dsimp only
  rw [wp_bind]
  have grows : complete = true →
      (complete || decide (status.authorizationStatus = .accepted)) = true := by
    rintro rfl
    rfl
  apply wp_mono _ (fun _ _ _ => trivial) (finished_ready answers (same ▸ own) grows)
  rintro ready next ⟨nextOwn, calls, isReady⟩
  have authorized :
      (complete || decide (status.authorizationStatus = .accepted)) = true → complete = true ∨
        (∃ idToken, .isAuthorized idToken ∈ next.calls) ∧ ∃ status,
          answers.isAuthorized = .ok status ∧ status.authorizationStatus = .accepted := by
    intro now
    rcases Bool.or_eq_true_iff.mp now with done | accepted
    · exact .inl done
    · have accepted := of_decide_eq_true accepted
      rcases asked accepted with ⟨⟨idToken, called⟩, answered⟩
      exact .inr ⟨⟨idToken, calls called⟩, status, answered, accepted⟩
  rw [wp_bind, wp_get, wp_ite]
  split
  next finished =>
    rw [wp_createNextMessage]
    refine ⟨fun _ _ => ?_, fun _ _ => trivial⟩
    rcases isReady finished with ⟨now, called, answered⟩
    exact
      { own := ⟨_, nextOwn, authorized⟩
        ready := by
          intro _
          refine ⟨?_, called, answered⟩
          change next.currentState.own.authorizationFlags.2 = true
          rw [nextOwn]
          exact now
        response := ⟨_, _, _, rfl⟩ }
  next =>
    rw [wp_ite]
    split
    · exact stopStateMachine_goesOn message _ _
    · rw [wp_createNextMessage]
      refine ⟨fun _ _ => ?_, fun _ _ => trivial⟩
      exact
        { own := ⟨_, nextOwn, authorized⟩
          ready := nofun
          response := ⟨_, _, _, rfl⟩ }

theorem onAuthorizationReq_outcome {environment : Environment} {answers : Answers}
    {message : V2GMessage} {header : MessageHeader} {req : AuthorizationReq}
    {verifiedOnce complete : Bool} {world next : World}
    (own : world.currentState.own = .authorization verifiedOnce complete)
    (answered : onAuthorizationReq environment answers message header req verifiedOnce complete
      world = .ok ⟨⟩ next)
    (goesOn : next.currentState.nextState ≠ some .terminate) :
    AuthorizationOutcome environment answers header req verifiedOnce complete world next := by
  have outcome : wp (onAuthorizationReq environment answers message header req verifiedOnce
        complete)
      (fun _ next => next.currentState.nextState ≠ some .terminate →
        AuthorizationOutcome environment answers header req verifiedOnce complete world next)
      (fun _ _ => True) world := by
    unfold onAuthorizationReq
    rw [wp_bind]
    apply wp_mono _ (fun _ _ _ => trivial) (checkPnc_verified environment header req own)
    intro error checked holds
    split
    · exact stopStateMachine_goesOn message _ _
    · rcases holds rfl with ⟨verified, _, verifiedOnce', checkedOwn, once⟩
      apply wp_mono _ (fun _ _ _ => trivial) (respond_responded answers message checkedOwn)
      intro _ next responded goesOn
      rcases responded goesOn with ⟨⟨complete', nextOwn, authorized⟩, ready, response⟩
      exact ⟨verified, ⟨verifiedOnce', complete', nextOwn, once, authorized⟩, ready, response⟩
  have holds := post_of_eq_ok outcome answered
  exact holds goesOn

end Authorization

/-- The challenge and the certificate chain that a `PaymentDetailsReq` leaves, and the
response with the challenge, if the session goes on. -/
structure PaymentDetails.Stored (req : PaymentDetailsReq) (challenge : List UInt8)
    (after : World) : Prop where
  chain : after.session.contractCertChain = some req.certChain
  issued : after.session.genChallenge = some challenge
  leads : after.currentState.nextState = some (.state .authorization)
  response : ∃ header responseCode,
    after.currentState.nextV2gtpMsg = some ⟨header, responseCode, .paymentDetailsRes challenge⟩

theorem PaymentDetails.respond_stored (answers : Answers) (message : V2GMessage)
    (req : PaymentDetailsReq) (status : AuthorizationResponse) {world : World}
    (chain : world.session.contractCertChain = some req.certChain) :
    wp (respond answers message status)
      (fun _ next => next.currentState.nextState ≠ some .terminate →
        Stored req answers.randomChallenge next)
      (fun _ _ => True) world := by
  unfold respond
  dsimp only
  rw [wp_ite]
  split
  · rw [wp_bind, wp_updateSession, wp_createNextMessage]
    exact ⟨fun _ _ => ⟨chain, rfl, rfl, _, _, rfl⟩, fun _ _ => trivial⟩
  · exact stopStateMachine_goesOn message _ _

theorem PaymentDetails.onPaymentDetailsReq_stored {environment : Environment} {answers : Answers}
    {message : V2GMessage} {req : PaymentDetailsReq} {world next : World}
    (answered : onPaymentDetailsReq environment answers message req world = .ok ⟨⟩ next)
    (goesOn : next.currentState.nextState ≠ some .terminate) :
    Stored req answers.randomChallenge next := by
  have stored : wp (onPaymentDetailsReq environment answers message req)
      (fun _ next => next.currentState.nextState ≠ some .terminate →
        Stored req answers.randomChallenge next)
      (fun _ _ => True) world := by
    have authorized : wp (authorize environment answers message req)
        (fun _ next => next.currentState.nextState ≠ some .terminate →
          Stored req answers.randomChallenge next)
        (fun _ _ => True) world := by
      unfold authorize
      split
      · trivial
      · dsimp only
        simp only [wp_bind, wp_ofExcept, wp_ask, wp_updateSession, implies_true, and_true]
        intros
        exact respond_stored answers message req _ rfl
    unfold onPaymentDetailsReq
    rw [wp_tryCatch]
    apply wp_mono (fun _ _ holds => holds) _ authorized
    intro exception raised _
    split
    · exact stopStateMachine_goesOn message _ _
    · trivial
  have holds := post_of_eq_ok stored answered
  exact holds goesOn

/-! ## Runs -/

/-- The challenge of the last `PaymentDetailsRes`. -/
def lastChallenge : List ResponseMessage → Option (List UInt8)
  | [] => none
  | message :: earlier =>
      match message.response with
      | .paymentDetailsRes challenge => some challenge
      | _ => lastChallenge earlier

/-- The step processes a `PaymentDetailsReq` with a chain. -/
def StoresChain (environment : Environment) (chain : CertificateChain)
    (_past : List (Option Received)) (session : SECCSession) (input : Option Received)
    (_next : SECCSession) : Prop :=
  ∃ header req, (protocol environment).Processes session input ⟨header, .paymentDetailsReq req⟩ ∧
    req.certChain = chain

/-- The step processes an `AuthorizationReq` with the challenge that was issued last and
with a signature that is accepted for the stored leaf certificate. -/
def Verifies (environment : Environment) (start : SECCSession) (past : List (Option Received))
    (session : SECCSession) (input : Option Received) (_next : SECCSession) : Prop :=
  ∃ header req chain challenge,
    (protocol environment).Processes session input ⟨header, .authorizationReq req⟩ ∧
    Passed (machine environment).Step (StoresChain environment chain) start past session ∧
    session.world.session.contractCertChain = some chain ∧
    lastChallenge session.sent = some challenge ∧ req.genChallenge = some challenge ∧
    environment.verifySignature header.signature (.authorizationReq req) chain.certificate =
      .ok true

/-- The step processes an `AuthorizationReq` that `is_authorized` accepts. With a contract,
one was verified at it or before. -/
def Authorizes (environment : Environment) (start : SECCSession) (option : Option AuthEnum)
    (past : List (Option Received)) (session : SECCSession) (input : Option Received)
    (next : SECCSession) : Prop :=
  ∃ header req answers, input = some ⟨.request ⟨header, .authorizationReq req⟩, answers⟩ ∧
    (protocol environment).Processes session input ⟨header, .authorizationReq req⟩ ∧
    (∃ idToken, .isAuthorized idToken ∈ next.world.calls) ∧
    (∃ status, answers.isAuthorized = .ok status ∧ status.authorizationStatus = .accepted) ∧
    (option = some .pnc →
      Passed (machine environment).Step (Verifies environment start) start (input :: past) next)

/-- The step processes an `AuthorizationReq` at which the station is ready. One was
authorized at it or before. -/
def Admits (environment : Environment) (start : SECCSession) (option : Option AuthEnum)
    (past : List (Option Received)) (session : SECCSession) (input : Option Received)
    (next : SECCSession) : Prop :=
  ∃ header req answers, input = some ⟨.request ⟨header, .authorizationReq req⟩, answers⟩ ∧
    (protocol environment).Processes session input ⟨header, .authorizationReq req⟩ ∧
    .readyToCharge ∈ next.world.calls ∧ answers.readyToCharge = .ok true ∧
    session.world.session.selectedAuthOption = option ∧
    Passed (machine environment).Step (Authorizes environment start option) start
      (input :: past) next

/-- The states up to the payment details. -/
def StateName.beforeAuthorization : StateName → Bool
  | .sessionSetup | .serviceDiscovery | .serviceDetail | .paymentServiceSelection
  | .certificateInstallation | .paymentDetails => true
  | _ => false

/-- The states from the charge parameters on. -/
def StateName.afterAuthorization (name : StateName) : Bool :=
  !name.beforeAuthorization && name ≠ .authorization

/-- What an `Authorization` object can rely on. -/
structure Remembers (environment : Environment) (start : SECCSession)
    (history : List (Option Received)) (session : SECCSession)
    (verifiedOnce complete : Bool) : Prop where
  contract : ∀ chain, session.world.session.contractCertChain = some chain →
    Passed (machine environment).Step (StoresChain environment chain) start history session ∧
    ∃ challenge, session.world.session.genChallenge = some challenge ∧
      lastChallenge session.sent = some challenge
  verifiedOnce : verifiedOnce = true →
    session.world.session.selectedAuthOption = some .pnc →
    Passed (machine environment).Step (Verifies environment start) start history session
  complete : complete = true →
    Passed (machine environment).Step
      (Authorizes environment start session.world.session.selectedAuthOption) start history
      session

/-- What the current state can rely on. -/
structure Gated (environment : Environment) (start : SECCSession)
    (history : List (Option Received)) (session : SECCSession) : Prop where
  resting : session.world.currentState.nextState = none
  before : session.world.currentState.own.name.beforeAuthorization = true →
    session.world.session.contractCertChain = none
  authorization : ∀ verifiedOnce complete,
    session.world.currentState.own = .authorization verifiedOnce complete →
    Remembers environment start history session verifiedOnce complete
  after : session.world.currentState.own.name.afterAuthorization = true →
    Passed (machine environment).Step
      (Admits environment start session.world.session.selectedAuthOption) start history session

section

variable {environment : Environment} {start session next : SECCSession}
  {history : List (Option Received)} {input : Option Received} {header : MessageHeader}
  {answers : Answers} {reached : World} {response : ResponseMessage}

/-- What the object that answers an `AuthorizationReq` relies on: it is the current one, or
a new one before any contract is stored. -/
theorem remembers_of_answering {req : AuthorizationReq}
    (gated : Gated environment start history session)
    (answered : (protocol environment).Answered session ⟨header, .authorizationReq req⟩ answers
      reached response next) :
    ∃ verifiedOnce complete,
      ((protocol environment).answering session.world ⟨header, .authorizationReq req⟩).own =
        .authorization verifiedOnce complete ∧
      Remembers environment start history session verifiedOnce complete := by
  have listed := mem_expectedMsgTypes answered.accepted
  cases own : session.world.currentState.own
  case authorization verifiedOnce complete =>
    refine ⟨verifiedOnce, complete, ?_, gated.authorization verifiedOnce complete own⟩
    unfold SeccProtocol.answering StateTable.answering
    rw [if_pos, own]
    rw [own]
    rfl
  case paymentServiceSelection expecting =>
    refine ⟨false, false, ?_, ?_⟩
    · unfold SeccProtocol.answering StateTable.answering
      rw [if_neg]
      · rfl
      · rw [own]
        exact nofun
    · have none_stored := gated.before (by rw [own]; rfl)
      constructor
      case contract =>
        intro chain stored
        rw [none_stored] at stored
        cases stored
      case verifiedOnce => exact nofun
      case complete => exact nofun
  all_goals
    rw [own] at listed
    cases listed
    contradiction

/-- After an `AuthorizationReq`, the same object goes on or the charge parameters come. -/
theorem gated_of_authorizationReq {req : AuthorizationReq}
    (gated : Gated environment start history session)
    (past : Run (machine environment).Step start history session)
    (step : (machine environment).Step session
      (some ⟨.request ⟨header, .authorizationReq req⟩, answers⟩) next)
    (answered : (protocol environment).Answered session ⟨header, .authorizationReq req⟩ answers
      reached response next) :
    Gated environment start
      (some ⟨.request ⟨header, .authorizationReq req⟩, answers⟩ :: history) next := by
  rcases remembers_of_answering gated answered with ⟨verifiedOnce, complete, own, remembers⟩
  have answer := answered.answer
  change Authorization.onAuthorizationReq environment answers _ header req
    ((protocol environment).answering session.world _).own.authorizationFlags.1
    ((protocol environment).answering session.world _).own.authorizationFlags.2 _ = _ at answer
  rw [own] at answer
  have outcome := Authorization.onAuthorizationReq_outcome own answer answered.not_terminate
  have keptSession : kept .authorizationReq next.world.session =
    kept .authorizationReq session.world.session := answered.kept
  have option := selectedAuthOption_of_kept (by decide) keptSession
  have contract := contract_of_kept (by decide) keptSession
  have processes : (protocol environment).Processes session
      (some ⟨.request ⟨header, .authorizationReq req⟩, answers⟩)
      ⟨header, .authorizationReq req⟩ :=
    ⟨⟨answers, rfl⟩, answered.accepted, answered.known⟩
  have called : ∀ call ∈ reached.calls, call ∈ next.world.calls := by
    intro call made
    rw [answered.calls]
    exact List.mem_cons_of_mem _ made
  have verified : session.world.session.selectedAuthOption = some .pnc →
      Passed (machine environment).Step (Verifies environment start) start
        (some ⟨.request ⟨header, .authorizationReq req⟩, answers⟩ :: history) next := by
    intro pnc
    rcases outcome.verified pnc with once | ⟨chain, stored, same, accepted⟩
    · exact (remembers.verifiedOnce once pnc).later step
    · rcases remembers.contract chain stored with ⟨passed, challenge, issued, last⟩
      exact Passed.now past step ⟨header, req, chain, challenge, processes, passed, stored, last,
        same.trans issued, accepted⟩
  rcases outcome.own with ⟨verifiedOnce', complete', reachedOwn, once, authorized⟩
  have completed : complete' = true → Passed (machine environment).Step
      (Authorizes environment start session.world.session.selectedAuthOption) start
      (some ⟨.request ⟨header, .authorizationReq req⟩, answers⟩ :: history) next := by
    intro now
    rcases authorized now with before | ⟨⟨idToken, asked⟩, accepted⟩
    · exact (remembers.complete before).later step
    · exact Passed.now past step ⟨header, req, answers, rfl, processes,
        ⟨idToken, called _ asked⟩, accepted, verified⟩
  rcases answered.leads gated.resting with ⟨_, same, _⟩ | ⟨name, leads, same, allowed⟩
  · have nextOwn : next.world.currentState.own = .authorization verifiedOnce' complete' := by
      rw [same, reachedOwn]
    constructor
    case resting => exact answered.resting
    case before =>
      rw [nextOwn]
      exact nofun
    case authorization =>
      intro verifiedOnce'' complete'' isOwn
      rw [nextOwn] at isOwn
      cases isOwn
      constructor
      case contract =>
        intro chain stored
        rw [contract.1] at stored
        rcases remembers.contract chain stored with ⟨passed, challenge, issued, last⟩
        refine ⟨passed.later step, challenge, contract.2.trans issued, ?_⟩
        rcases outcome.response with ⟨_, _, _, prepared⟩
        rw [answered.prepared] at prepared
        cases prepared
        rw [answered.sent]
        exact last
      case verifiedOnce =>
        intro _ pnc
        rw [option] at pnc
        exact verified pnc
      case complete =>
        rw [option]
        exact completed
    case after =>
      rw [nextOwn]
      exact nofun
  · have isNext : name = .chargeParameterDiscovery := by
      revert allowed
      cases name <;> first
        | exact fun _ => rfl
        | exact fun allowed => absurd allowed nofun
    subst isNext
    have ready := outcome.ready leads
    rw [reachedOwn] at ready
    constructor
    case resting => exact answered.resting
    case before =>
      rw [same]
      exact nofun
    case authorization =>
      rw [same]
      exact nofun
    case after =>
      intro _
      rw [option]
      exact Passed.now past step ⟨header, req, answers, rfl, processes, called _ ready.2.1,
        ready.2.2, rfl, completed ready.1⟩

/-- A `PaymentDetailsReq` stores the contract and leads to a new `Authorization` object. -/
theorem gated_of_paymentDetailsReq {req : PaymentDetailsReq}
    (past : Run (machine environment).Step start history session)
    (step : (machine environment).Step session
      (some ⟨.request ⟨header, .paymentDetailsReq req⟩, answers⟩) next)
    (answered : (protocol environment).Answered session ⟨header, .paymentDetailsReq req⟩ answers
      reached response next) :
    Gated environment start
      (some ⟨.request ⟨header, .paymentDetailsReq req⟩, answers⟩ :: history) next := by
  have stored := PaymentDetails.onPaymentDetailsReq_stored answered.answer answered.not_terminate
  have same : next.world.currentState = { own := .authorization false false } :=
    answered.currentState_new stored.leads
  constructor
  case resting => exact answered.resting
  case before =>
    rw [same]
    exact nofun
  case authorization =>
    intro verifiedOnce complete isOwn
    rw [same] at isOwn
    cases isOwn
    constructor
    case contract =>
      intro chain isChain
      rw [answered.session_eq, stored.chain] at isChain
      refine ⟨Passed.now past step ⟨header, req,
        ⟨⟨answers, rfl⟩, answered.accepted, answered.known⟩, Option.some.inj isChain⟩,
        answers.randomChallenge, ?_, ?_⟩
      · rw [answered.session_eq]
        exact stored.issued
      · rcases stored.response with ⟨_, _, prepared⟩
        rw [answered.prepared] at prepared
        cases prepared
        rw [answered.sent]
        rfl
    case verifiedOnce => exact nofun
    case complete => exact nofun
  case after =>
    rw [same]
    exact nofun

/-- The requests before the authorization, but for the payment details. -/
def isEarly (type : RequestType) : Bool :=
  (answeredBy type).beforeAuthorization && type ≠ .paymentDetailsReq

theorem beforeAuthorization_of_accepts {own : Own} {type : RequestType}
    (early : isEarly type = true) (accepted : own.accepts type = true) :
    own.name.beforeAuthorization = true := by
  have listed := mem_expectedMsgTypes accepted
  revert listed early
  cases own.name <;> cases type <;> decide

theorem beforeAuthorization_of_mayGoTo {type : RequestType} {name : StateName}
    (early : isEarly type = true) (allowed : mayGoTo type name = true) :
    name.beforeAuthorization = true := by
  revert allowed early
  cases name <;> cases type <;> decide

/-- Before the payment details, nothing is stored. -/
theorem gated_of_early {message : RequestMessage}
    (early : isEarly message.request.requestType = true)
    (gated : Gated environment start history session)
    (answered : (protocol environment).Answered session message answers reached response next) :
    Gated environment start (input :: history) next := by
  have isBefore : next.world.currentState.own.name.beforeAuthorization = true := by
    rcases answered.leads gated.resting with ⟨_, same, named⟩ | ⟨name, _, same, allowed⟩
    · rw [same]
      change reached.currentState.own.name = answeredBy message.request.requestType at named
      rw [named]
      exact (Bool.and_eq_true_iff.mp early).1
    · rw [same]
      change name.new.name.beforeAuthorization = true
      rw [StateName.name_new]
      exact beforeAuthorization_of_mayGoTo early allowed
  constructor
  case resting => exact answered.resting
  case before =>
    intro _
    have other : message.request.requestType ≠ .paymentDetailsReq :=
      of_decide_eq_true (Bool.and_eq_true_iff.mp early).2
    rw [(contract_of_kept other answered.kept).1]
    exact gated.before (beforeAuthorization_of_accepts early answered.accepted)
  case authorization =>
    intro verifiedOnce complete isOwn
    rw [isOwn] at isBefore
    cases isBefore
  case after =>
    intro isAfter
    rw [StateName.afterAuthorization, isBefore] at isAfter
    cases isAfter

theorem afterAuthorization_of_accepts {own : Own} {type : RequestType}
    (late : (answeredBy type).afterAuthorization = true) (accepted : own.accepts type = true) :
    own.name.afterAuthorization = true := by
  have listed := mem_expectedMsgTypes accepted
  revert listed late
  cases own.name <;> cases type <;> decide

theorem afterAuthorization_of_mayGoTo {type : RequestType} {name : StateName}
    (late : (answeredBy type).afterAuthorization = true) (allowed : mayGoTo type name = true) :
    name.afterAuthorization = true := by
  revert allowed late
  cases name <;> cases type <;> decide

/-- There is no way back from the charge parameters. -/
theorem gated_of_late {message : RequestMessage}
    (late : (answeredBy message.request.requestType).afterAuthorization = true)
    (gated : Gated environment start history session)
    (step : (machine environment).Step session input next)
    (answered : (protocol environment).Answered session message answers reached response next) :
    Gated environment start (input :: history) next := by
  have isAfter : next.world.currentState.own.name.afterAuthorization = true := by
    rcases answered.leads gated.resting with ⟨_, same, named⟩ | ⟨name, _, same, allowed⟩
    · rw [same]
      change reached.currentState.own.name = answeredBy message.request.requestType at named
      rw [named]
      exact late
    · rw [same]
      change name.new.name.afterAuthorization = true
      rw [StateName.name_new]
      exact afterAuthorization_of_mayGoTo late allowed
  constructor
  case resting => exact answered.resting
  case before =>
    intro isBefore
    rw [StateName.afterAuthorization, isBefore] at isAfter
    cases isAfter
  case authorization =>
    intro verifiedOnce complete isOwn
    rw [isOwn] at isAfter
    cases isAfter
  case after =>
    intro _
    have other : message.request.requestType ≠ .paymentServiceSelectionReq := by
      intro same
      rw [same] at late
      cases late
    rw [selectedAuthOption_of_kept other answered.kept]
    exact (gated.after (afterAuthorization_of_accepts late answered.accepted)).later step

theorem gated_of_step (gated : Gated environment start history session)
    (past : Run (machine environment).Step start history session)
    (step : (machine environment).Step session input next) (goesOn : next.ended = false) :
    Gated environment start (input :: history) next := by
  rcases SeccProtocol.step_answered step goesOn with
    ⟨⟨header, req⟩, answers, reached, response, rfl, answered⟩
  cases req with
  | authorizationReq req => exact gated_of_authorizationReq gated past step answered
  | paymentDetailsReq req => exact gated_of_paymentDetailsReq past step answered
  | _ => first
      | exact gated_of_early rfl gated answered
      | exact gated_of_late rfl gated step answered

theorem gated_of_run (new : New start)
    (run : Run (machine environment).Step start history session) (goesOn : session.ended = false) :
    Gated environment start history session := by
  induction run with
  | start =>
      constructor
      case resting => rw [new.1]
      case before =>
        intro _
        rw [new.2.1]
      case authorization =>
        rw [new.1]
        exact nofun
      case after =>
        rw [new.1]
        exact nofun
  | step past last ih => exact gated_of_step (ih last.1) past last goesOn

end

/-- Whatever is requested and answered, `ChargeParameterDiscovery` is reached only after an
`AuthorizationReq` that was authorized and one, at it or later, at which the station was
ready. With a contract, one at the first of these or before had the challenge that was
issued last and a signature that was accepted. -/
theorem admitted_of_chargeParameterDiscovery (environment : Environment)
    {start session : SECCSession} {history : List (Option Received)} (new : New start)
    (run : Run (machine environment).Step start history session) (goesOn : session.ended = false)
    (current : session.world.currentState.own.name = .chargeParameterDiscovery) :
    Passed (machine environment).Step
      (Admits environment start session.world.session.selectedAuthOption) start history
      session := by
  apply (gated_of_run new run goesOn).after
  rw [current]
  rfl

/-- A session with a contract is admitted by its only `AuthorizationReq`. -/
theorem admitted_of_chargeParameterDiscovery_contract :
    Passed (machine Sample.environment).Step
      (Admits Sample.environment Sample.start (some .pnc)) Sample.start Sample.contractHistory
      ((machine Sample.environment).rcvAll Sample.start Sample.contractHistory) := by
  have run : Run (machine Sample.environment).Step Sample.start Sample.contractHistory
      ((machine Sample.environment).rcvAll Sample.start Sample.contractHistory) := by
    apply SessionStateMachine.run_rcvAll_cons
    · exact SessionStateMachine.run_rcvAll_cons (Sample.run_selectionHistory .pnc) rfl
    · rfl
  exact admitted_of_chargeParameterDiscovery Sample.environment Sample.new_start run rfl rfl

/-- The step processes an `AuthorizationReq` that is accepted while the station is ready. -/
def AdmitsAtOnce (_past : List (Option Received)) (_session : SECCSession)
    (input : Option Received) (next : SECCSession) : Prop :=
  ∃ header req answers, input = some ⟨.request ⟨header, .authorizationReq req⟩, answers⟩ ∧
    (∃ idToken, .isAuthorized idToken ∈ next.world.calls) ∧
    (∃ status, answers.isAuthorized = .ok status ∧ status.authorizationStatus = .accepted) ∧
    .readyToCharge ∈ next.world.calls ∧ answers.readyToCharge = .ok true

def Sample.notReady : Answers :=
  { Sample.answers with readyToCharge := .ok false }

/-- The first request is accepted and the second finds the station ready. -/
def Sample.delayedHistory : List (Option Received) :=
  request (.authorizationReq ⟨none, none⟩)
      { answers with isAuthorized := .error .controllerError } ::
    request (.authorizationReq ⟨none, none⟩) notReady :: selectionHistory .eim

/-- No single request has to be both. -/
theorem admitted_by_two_requests :
    ∃ (environment : Environment) (start session : SECCSession)
      (history : List (Option Received)), New start ∧
      Run (machine environment).Step start history session ∧ session.ended = false ∧
      session.world.currentState.own.name = .chargeParameterDiscovery ∧
      ¬Passed (machine environment).Step AdmitsAtOnce start history session := by
  refine ⟨Sample.environment, Sample.start, _, Sample.delayedHistory, Sample.new_start,
    SessionStateMachine.run_rcvAll_cons (SessionStateMachine.run_rcvAll_cons
      (Sample.run_selectionHistory .eim) rfl) rfl, rfl, rfl, ?_⟩
  rintro ⟨recent, input, past, before, after, history, _, _, atOnce, _⟩
  rcases atOnce with ⟨header, req, answers, isInput, _, ⟨status, accepted, _⟩, _, ready⟩
  have received : input ∈ Sample.delayedHistory := by
    rw [history]
    exact List.mem_append_right _ List.mem_cons_self
  rw [isInput] at received
  simp only [Sample.delayedHistory, Sample.selectionHistory, Sample.request, List.mem_cons,
    Option.some.injEq, Received.mk.injEq, V2GMessage.request.injEq, RequestMessage.mk.injEq,
    reduceCtorEq, Request.authorizationReq.injEq, and_false, false_and, List.not_mem_nil,
    or_false] at received
  rcases received with ⟨_, rfl⟩ | ⟨_, rfl⟩
  · cases accepted
  · cases ready

end Iso15118.Secc.V2
