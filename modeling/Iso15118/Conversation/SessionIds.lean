import Iso15118.Conversation.V2
import Iso15118.Conversation.V20
import Iso15118.Evcc.V2.SessionIds
import Iso15118.Evcc.V20.SessionIds
import Iso15118.Secc.SessionIdIsolation

/-!
# Session ids in conversations

The SECC chooses a session id, and the EVCC takes it from the first response. From then on both
sides have it and send it, so that no message is refused for the id that it has. Only what a backend
has made for the installation of a certificate may have another one.
-/

namespace Iso15118.Conversation

open Transition Dialogue
open Iso15118.Shared

/-! ## The agreement -/

/-- Where the session ids are. In one state the EVCC takes the id of the response, and in another
one the response need not have that of the session. -/
structure Ids (q ω r ω' : Type) where
  evcc : ω → String
  secc : ω' → String
  request : q → String
  response : r → String
  setup : ω → Prop
  passedOn : ω → Prop
  /-- The requests that the EVCC has made have its session id. -/
  addressed : CommSession q ω → Prop
  /-- The SECC has chosen its session id. -/
  chosen : CommSession r ω' → Prop

namespace Ids

variable {ι κ ν q ω A ι' κ' ν' r ω' A' : Type} (ids : Ids q ω r ω')
  (sides : Sides ι κ ν q ω A ι' κ' ν' r ω' A') (agreement : Sides.Agreement q ω r ω')

/-- What is known of a request. -/
structure Asked (evcc : CommSession q ω) (secc : CommSession r ω') (message : q) : Prop where
  addressed : ids.addressed evcc
  chosen : ¬ids.setup evcc.world → ids.chosen secc
  same : ¬ids.setup evcc.world → ids.secc secc.world = ids.evcc evcc.world
  sent : ¬ids.setup evcc.world → ids.request message = ids.evcc evcc.world

/-- What the EVCC expects of a response. -/
def Expected (evcc : CommSession q ω) (message : r) : Prop :=
  ¬ids.setup evcc.world → ¬ids.passedOn evcc.world → ids.response message = ids.evcc evcc.world

/-- What is known of a response. -/
structure Answered (evcc : CommSession q ω) (secc : CommSession r ω') (message : r) : Prop where
  addressed : ids.addressed evcc
  chosen : ids.chosen secc
  same : ¬ids.setup evcc.world → ids.secc secc.world = ids.evcc evcc.world
  sent : ¬ids.passedOn evcc.world → ids.response message = ids.secc secc.world

/-- Both sides agree on the session id, and on something else. -/
def and : Sides.Agreement q ω r ω' where
  asked evcc secc message := agreement.asked evcc secc message ∧ ids.Asked evcc secc message
  expected evcc message := agreement.expected evcc message ∧ ids.Expected evcc message
  answered evcc secc message :=
    agreement.answered evcc secc message ∧ ids.Answered evcc secc message

/-- What each side does with the session id. -/
structure Kept : Prop where
  apart : ∀ world, ids.setup world → ¬ids.passedOn world
  serves : ∀ evcc secc message answers next response,
    agreement.asked evcc secc message →
      sides.secc.Step secc (some (sides.toSecc message answers)) next →
        next.sent = response :: secc.sent →
          ids.chosen next ∧
            (¬ids.passedOn evcc.world → ids.response response = ids.secc next.world) ∧
            (ids.chosen secc → ids.secc next.world = ids.secc secc.world)
  asks : ∀ evcc secc message answers next request,
    agreement.answered evcc secc message → ids.addressed evcc →
      sides.evcc.Step evcc (some (sides.toEvcc message answers)) next →
        next.sent = request :: evcc.sent → next.ended = false →
          ids.addressed next ∧ ids.request request = ids.evcc next.world ∧
            (ids.setup evcc.world → ids.evcc next.world = ids.response message) ∧
            (¬ids.setup evcc.world → ids.evcc next.world = ids.evcc evcc.world)

variable {ids sides agreement}

/-- The agreement on the session id is kept with the other one. -/
theorem Kept.and (kept : ids.Kept sides agreement) (other : agreement.Kept sides) :
    (ids.and agreement).Kept sides where
  serves := by
    rintro evcc secc message answers next response goesOn ⟨asked, known⟩ step sent
    obtain ⟨expected, answered⟩ :=
      other.serves evcc secc message answers next response goesOn asked step sent
    obtain ⟨chosen, sends, stays⟩ :=
      kept.serves evcc secc message answers next response asked step sent
    have same : ¬ids.setup evcc.world → ids.secc next.world = ids.evcc evcc.world :=
      fun setUp => (stays (known.chosen setUp)).trans (known.same setUp)
    refine ⟨⟨expected, fun setUp made => (sends made).trans (same setUp)⟩, ?_⟩
    exact fun seccGoesOn => ⟨answered seccGoesOn, known.addressed, chosen, same, sends⟩
  asks := by
    rintro evcc secc message answers next request ⟨expected, _⟩ ⟨answered, known⟩ step sent goesOn
    obtain ⟨addressed, sends, takes, stays⟩ :=
      kept.asks evcc secc message answers next request answered known.addressed step sent goesOn
    have same : ids.secc secc.world = ids.evcc next.world := by
      by_cases setup : ids.setup evcc.world
      · rw [takes setup, known.sent (kept.apart _ setup)]
      · rw [stays setup, known.same setup]
    exact ⟨other.asks evcc secc message answers next request expected answered step sent goesOn,
      addressed, fun _ => known.chosen, fun _ => same, fun _ => sends⟩

/-- In the state that takes the id of the response, nothing is agreed on yet. -/
theorem Asked.of_setup {evcc : CommSession q ω} {secc : CommSession r ω'} {message : q}
    (setup : ids.setup evcc.world) (addressed : ids.addressed evcc) :
    ids.Asked evcc secc message where
  addressed := addressed
  chosen := absurd setup
  same := absurd setup
  sent := absurd setup

/-- Whichever message is on its way, both sides have the same id. -/
theorem same_of_holds {config : Config (CommSession q ω) (CommSession r ω') q r}
    (holds : (ids.and agreement).coupling.Holds config) (sent : config.mail ≠ .none)
    (evccGoesOn : config.client.ended = false) (seccGoesOn : config.server.ended = false)
    (setUp : ¬ids.setup config.client.world) :
    ids.secc config.server.world = ids.evcc config.client.world := by
  unfold Coupling.Holds at holds
  cases mail : config.mail with
  | none => exact absurd mail sent
  | request message =>
      rw [mail] at holds
      exact (holds evccGoesOn seccGoesOn).2.same setUp
  | response message =>
      rw [mail] at holds
      exact ((holds evccGoesOn).2 seccGoesOn).2.same setUp

end Ids

/-! ## ISO 15118-2 -/

namespace V2

open Iso15118.Shared.V2

/-- In `CertificateInstallation`, the response may be one that a backend has made. -/
def ids (ρ : Type) :
    Ids RequestMessage (Evcc.V2.World ρ) ResponseMessage Secc.V2.World where
  evcc world := world.session.sessionId
  secc world := world.session.sessionId
  request message := message.header.sessionId
  response message := message.header.sessionId
  setup world := world.currentState.own = .sessionSetup
  passedOn world := world.currentState.own = .certificateInstallation
  addressed evcc := Evcc.V2.Identified evcc.world.session.sessionId evcc.world
  chosen := Secc.SetUp Secc.V2.stateTable .sessionSetup

variable {ρ : Type} [Evcc.V2.EVController ρ] {environment : Secc.V2.Environment}

theorem ids_kept : (ids ρ).Kept (sides ρ environment) (agreement ρ environment) where
  apart := by
    intro world setup made
    cases setup.symm.trans made
  serves := by
    intro evcc secc message answers next response asked step sent
    have once := Secc.V2.choosesIdOnce environment
    refine ⟨(Secc.SeccProtocol.begun_of_step once step asked.resting).1, ?_,
      Secc.SeccProtocol.sessionId_of_step once step⟩
    intro made
    rcases Secc.V2.replied_of_sent step sent with ⟨_, same⟩ | ⟨installs, _⟩
    · exact same
    · obtain ⟨resumes, asking⟩ := asked.asking
      have own := asking.type.symm.trans installs
      refine absurd ?_ made
      change evcc.world.currentState.own = .certificateInstallation
      cases state : evcc.world.currentState.own <;> rw [state] at own <;> cases own
  asks := by
    intro evcc secc message answers next request _ addressed step sent goesOn
    obtain ⟨sends, addressed, same⟩ := Evcc.V2.Step.identified step sent goesOn addressed
    refine ⟨addressed, sends, fun setup => ?_, fun setUp => ?_⟩
    · exact same.trans (if_pos setup)
    · exact same.trans (if_neg setUp)

/-- The response is one that the EVCC waits for, with a good code, and has the session id. -/
theorem accepts_iff {own : Evcc.V2.StateName} {message : ResponseMessage}
    {session : Evcc.V2.Session} (expects : Evcc.V2.Expects own message.response)
    (known : own ≠ .sessionSetup → message.header.sessionId = session.sessionId) :
    Evcc.V2.Accepts own message session ↔ message.responseCode.isFailed = false := by
  refine ⟨Evcc.V2.Accepts.good, fun good => ⟨good, ?_, expects⟩⟩
  by_cases setup : own = .sessionSetup
  · left
    cases response : message.response <;> rw [setup, response] at expects <;> cases expects
    exact ⟨_, rfl⟩
  · exact .inr (known setup)

theorem Begins.identified {start : Config ρ} (begins : Begins start) :
    ((ids ρ).and (agreement ρ environment)).coupling.Holds start := by
  have holds : (agreement ρ environment).coupling.Holds start := begins.asked
  obtain ⟨header, req, mail, _⟩ := begins.mail
  unfold Coupling.Holds at holds ⊢
  rw [mail] at holds ⊢
  intro evccGoesOn seccGoesOn
  have setup : (ids ρ).setup start.client.world :=
    congrArg StateObject.own begins.evcc.currentState
  exact ⟨holds evccGoesOn seccGoesOn, .of_setup setup
    (Evcc.addressed_of_new begins.evcc.currentState rfl)⟩

/-- Each side recognises the messages of the other one, as long as both go on. -/
structure Recognized (config : Config ρ) : Prop where
  request : ∀ message, config.mail = .request message → config.server.ended = false →
    (config.server.world.currentState.own.accepts message.request.requestType = true ∧
        Secc.V2.Known message config.server.world.session ↔
      strays config.client.sent = false)
  response : ∀ message, config.mail = .response message →
    config.client.world.currentState.own ≠ .certificateInstallation →
    (Evcc.V2.Accepts config.client.world.currentState.own message config.client.world.session ↔
      message.responseCode.isFailed = false)
  same : config.mail ≠ .none → config.server.ended = false →
    config.client.world.currentState.own ≠ .sessionSetup →
    config.server.world.session.sessionId = config.client.world.session.sessionId

theorem recognized_of_run {start reached : Config ρ} {history : List Party}
    (begins : Begins start) (run : Run (sides ρ environment).Step start history reached)
    (goesOn : reached.client.ended = false) : Recognized reached := by
  have agreed := (ids_kept.and kept).run begins.identified run
  have holds := agreed
  unfold Coupling.Holds at holds
  constructor
  · intro message mail seccGoesOn
    rw [mail] at holds
    obtain ⟨asked, known⟩ := holds goesOn seccGoesOn
    rw [and_iff_left, asked.accepts]
    by_cases setup : (ids ρ).setup reached.client.world
    · obtain ⟨resumes, asking⟩ := asked.asking
      left
      rw [asking.type]
      exact congrArg Evcc.V2.waitsFor setup
    · exact .inr ((known.sent setup).trans (known.same setup).symm)
  · intro message mail made
    rw [mail] at holds
    obtain ⟨expected | installs, known⟩ := (holds goesOn).1
    · exact accepts_iff expected fun setUp => known setUp made
    · exact absurd installs.1 made
  · exact fun sent seccGoesOn setUp => Ids.same_of_holds agreed sent goesOn seccGoesOn setUp

end V2

/-! ## ISO 15118-20 -/

namespace V20

open Iso15118.Shared.V20

/-- There is no response of a backend. -/
def ids (ρ σ : Type) :
    Ids RequestMessage (Evcc.V20.World ρ) ResponseMessage (Secc.V20.World σ) where
  evcc world := world.session.sessionId
  secc world := world.session.sessionId
  request message := message.header.sessionId
  response message := message.header.sessionId
  setup world := world.currentState.own = .sessionSetup
  passedOn _ := False
  addressed evcc :=
    Evcc.V20.Identified evcc.world.session.sessionId evcc.world ∧
      (evcc.world.currentState.own = .sessionSetup →
        evcc.world.session.ongoingScheduleExchangeReq = none)
  chosen := Secc.SetUp Secc.V20.stateTable .sessionSetup

variable {ρ σ : Type} [Evcc.V20.EVController ρ] [DiagnosticService σ]
  {environment : Secc.V20.Environment}

theorem ids_kept : (ids ρ σ).Kept (sides ρ σ environment) (agreement ρ σ) where
  apart _ _ := id
  serves := by
    intro evcc secc message answers next response asked step sent
    have once := Secc.V20.choosesIdOnce (σ := σ) environment
    exact ⟨(Secc.SeccProtocol.begun_of_step once step asked.resting).1,
      fun _ => Secc.V20.sessionId_of_sent step sent,
      Secc.SeccProtocol.sessionId_of_step once step⟩
  asks := by
    rintro evcc secc message answers next request answered ⟨addressed, fresh⟩ step sent goesOn
    obtain ⟨sends, addressed, same⟩ := Evcc.V20.Step.identified step sent goesOn addressed fresh
    obtain ⟨previous, asking, _⟩ := answered.waits
    obtain ⟨_, turn, _, _, digests, _, waiting, _⟩ := asking.step step goesOn
    have left : next.world.currentState.own ≠ .sessionSetup := by
      rintro back
      rw [back] at waiting
      exact digests.waiting_ne_sessionSetup waiting
    refine ⟨⟨addressed, fun back => absurd back left⟩, sends, fun setup => ?_, fun setUp => ?_⟩
    · exact same.trans (if_pos setup)
    · exact same.trans (if_neg setUp)

/-- The response is one that the EVCC waits for, with a good code, and has the session id. -/
theorem accepts_iff {own : Evcc.V20.Own} {message : ResponseMessage}
    {session : Evcc.V20.Session} (expects : Evcc.V20.Expects own message.response)
    (known : own ≠ .sessionSetup → message.header.sessionId = session.sessionId) :
    Evcc.V20.Accepts own message session ↔ message.responseCode.isFailed = false := by
  refine ⟨Evcc.V20.Accepts.good, fun good => ⟨good, ?_, expects⟩⟩
  by_cases setup : own = .sessionSetup
  · left
    cases response : message.response <;> rw [setup, response] at expects <;> cases expects
    exact ⟨_, rfl⟩
  · exact .inr (known setup)

theorem Begins.identified {start : Config ρ σ} (begins : Begins start) :
    ((ids ρ σ).and (agreement ρ σ)).coupling.Holds start := by
  have holds := begins.asked
  obtain ⟨header, req, mail, _⟩ := begins.mail
  obtain ⟨points, sessionId, fresh⟩ := begins.evcc.fresh
  unfold Coupling.Holds at holds ⊢
  rw [mail] at holds ⊢
  intro evccGoesOn seccGoesOn
  have setup : (ids ρ σ).setup start.client.world :=
    congrArg StateObject.own begins.evcc.currentState
  have unkept : start.client.world.session.ongoingScheduleExchangeReq = none := by rw [fresh]
  refine ⟨holds evccGoesOn seccGoesOn, .of_setup setup ⟨?_, fun _ => unkept⟩⟩
  apply Evcc.addressed_of_new begins.evcc.currentState
  refine ⟨rfl, ?_⟩
  intro kept keeps
  cases unkept.symm.trans keeps

/-- Each side recognises the messages of the other one, as long as both go on. -/
structure Recognized (config : Config ρ σ) : Prop where
  request : ∀ message, config.mail = .request message → config.server.ended = false →
    (config.server.world.currentState.own.accepts message.request.requestType = true ∧
        Secc.V20.Known message config.server.world.session ↔
      strays config.client.sent = false)
  response : ∀ message, config.mail = .response message →
    (Evcc.V20.Accepts config.client.world.currentState.own message config.client.world.session ↔
      message.responseCode.isFailed = false)
  same : config.mail ≠ .none → config.server.ended = false →
    config.client.world.currentState.own ≠ .sessionSetup →
    config.server.world.session.sessionId = config.client.world.session.sessionId

theorem recognized_of_run {start reached : Config ρ σ} {history : List Party}
    (begins : Begins start) (run : Run (sides ρ σ environment).Step start history reached)
    (goesOn : reached.client.ended = false) : Recognized reached := by
  have agreed := (ids_kept.and kept).run begins.identified run
  have holds := agreed
  unfold Coupling.Holds at holds
  constructor
  · intro message mail seccGoesOn
    rw [mail] at holds
    obtain ⟨asked, known⟩ := holds goesOn seccGoesOn
    rw [and_iff_left, asked.accepts]
    by_cases setup : (ids ρ σ).setup reached.client.world
    · left
      rw [asked.asking.type]
      exact congrArg Evcc.V20.waitsFor setup
    · exact .inr ((known.sent setup).trans (known.same setup).symm)
  · intro message mail
    rw [mail] at holds
    obtain ⟨expected, known⟩ := (holds goesOn).1
    exact accepts_iff expected fun setUp => known setUp id
  · exact fun sent seccGoesOn setUp => Ids.same_of_holds agreed sent goesOn seccGoesOn setUp

end V20

/-- In every conversation, as long as both sides go on, they have the same session id once the EVCC
has got one. So the SECC answers exactly the requests that do not stray, and the EVCC accepts every
response without a FAILED code, unless it is one that a backend may have made. -/
theorem recognized_in_conversation :
    (∀ {ρ : Type} [Evcc.V2.EVController ρ] {environment : Secc.V2.Environment}
        {start reached : V2.Config ρ} {history : List Party}, V2.Begins start →
      Run (V2.sides ρ environment).Step start history reached →
      reached.client.ended = false → V2.Recognized reached) ∧
    ∀ {ρ σ : Type} [Evcc.V20.EVController ρ] [DiagnosticService σ]
        {environment : Secc.V20.Environment} {start reached : V20.Config ρ σ}
        {history : List Party}, V20.Begins start →
      Run (V20.sides ρ σ environment).Step start history reached →
      reached.client.ended = false → V20.Recognized reached :=
  ⟨V2.recognized_of_run, V20.recognized_of_run⟩

/-- In both samples the request after four messages does not stray. -/
theorem goesOn_start :
    ((V2.sides V2.Sample.Vehicle V2.Sample.eimEnvironment).receiveAll { now := 0 }
        V2.Sample.answers V2.Sample.start 4).any
      (Sides.refusesNext fun sent => !V2.strays sent) = true ∧
    ((V20.sides V20.Sample.Vehicle BatteryHealthService V20.Sample.eimEnvironment).receiveAll
        { now := 0 } V20.Sample.answers V20.Sample.start 4).any
      (Sides.refusesNext fun sent => !V20.strays sent) = true := by
  constructor <;> decide +kernel

/-- That request has the id of the session. -/
theorem recognized_in_conversation_sample :
    (∃ reached history message,
      Run (V2.sides V2.Sample.Vehicle V2.Sample.eimEnvironment).Step V2.Sample.start history
        reached ∧
      reached.mail = .request message ∧ Secc.V2.Known message reached.server.world.session) ∧
    ∃ reached history message,
      Run (V20.sides V20.Sample.Vehicle BatteryHealthService V20.Sample.eimEnvironment).Step
        V20.Sample.start history reached ∧
      reached.mail = .request message ∧ Secc.V20.Known message reached.server.world.session := by
  constructor
  · obtain ⟨reached, history, message, run, mail, evccGoesOn, seccGoesOn, follows⟩ :=
      Sides.exists_strays goesOn_start.1
    have recognized := recognized_in_conversation.1 V2.Sample.begins_start run evccGoesOn
    refine ⟨reached, history, message, run, mail, ?_⟩
    exact ((recognized.request message mail seccGoesOn).mpr (by simpa using follows)).2
  · obtain ⟨reached, history, message, run, mail, evccGoesOn, seccGoesOn, follows⟩ :=
      Sides.exists_strays goesOn_start.2
    have recognized := recognized_in_conversation.2 V20.Sample.begins_start run evccGoesOn
    refine ⟨reached, history, message, run, mail, ?_⟩
    exact ((recognized.request message mail seccGoesOn).mpr (by simpa using follows)).2

end Iso15118.Conversation
