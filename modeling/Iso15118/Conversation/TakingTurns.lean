import Iso15118.Conversation.Din
import Iso15118.Conversation.V2
import Iso15118.Conversation.V20
import Iso15118.Shared.TakingTurns

/-!
# Conversations over connections

Both sides of a session over a connection that carries any number of messages, and may merge them.
They take turns all the same.
-/

namespace Iso15118.Conversation

open Transition Dialogue
open Iso15118.Shared

/-- A response of the type that a request asks for. -/
def Din.Answers (response : Shared.Din.ResponseMessage) (request : Shared.Din.RequestMessage) :
    Prop :=
  Secc.Din.responseTo response.response = request.request.requestType

/-- A response of the type that a request asks for. Where there is a backend, it may answer the
one that asks for a certificate with another type. -/
def V2.Answers (environment : Secc.V2.Environment) (response : Shared.V2.ResponseMessage)
    (request : Shared.V2.RequestMessage) : Prop :=
  Secc.V2.responseTo response.response = request.request.requestType ∨
    request.request.requestType = .certificateInstallationReq ∧
      environment.config.useCpoBackend = true

/-- A response of the type that a request asks for. -/
def V20.Answers (response : Shared.V20.ResponseMessage) (request : Shared.V20.RequestMessage) :
    Prop :=
  Secc.V20.responseTo response.response = request.request.requestType

theorem Din.responds {ρ : Type} [Evcc.Din.EVController ρ] {config : Secc.Din.Config} :
    (Din.sides ρ config).Responds Din.Answers :=
  fun _ _ _ _ _ step sent => (Secc.Din.replied_of_sent step sent).1

theorem V2.responds {ρ : Type} [Evcc.V2.EVController ρ] {environment : Secc.V2.Environment} :
    (V2.sides ρ environment).Responds (V2.Answers environment) :=
  fun _ _ _ _ _ step sent =>
    (Secc.V2.replied_of_sent step sent).imp And.left fun made => ⟨made.1, made.2.1⟩

theorem V20.responds {ρ σ : Type} [Evcc.V20.EVController ρ] [DiagnosticService σ]
    {environment : Secc.V20.Environment} : (V20.sides ρ σ environment).Responds V20.Answers :=
  fun _ _ _ _ _ step sent => Secc.V20.responseTo_of_sent step sent

/-- Whatever the controllers of both sides answer, whenever they read and whoever gives up waiting,
there is never more than one message in the connection and never none as long as both sides go on;
no message is read together with another one; and what the SECC has sent answers what the EVCC has
sent, one response for one request, in the same order and of its type, unless a backend installs a
certificate. -/
theorem answers_in_turn :
    (∀ {ρ : Type} [Evcc.Din.EVController ρ] {config : Secc.Din.Config} {start : Din.Config ρ}
        {history : List Party} {reached}, Din.Begins start →
      Run (Din.sides ρ config).parties.Moves start.network history reached →
      Sides.InTurn Din.Answers reached) ∧
    (∀ {ρ : Type} [Evcc.V2.EVController ρ] {environment : Secc.V2.Environment}
        {start : V2.Config ρ} {history : List Party} {reached}, V2.Begins start →
      Run (V2.sides ρ environment).parties.Moves start.network history reached →
      Sides.InTurn (V2.Answers environment) reached) ∧
    ∀ {ρ σ : Type} [Evcc.V20.EVController ρ] [DiagnosticService σ]
        {environment : Secc.V20.Environment} {start : V20.Config ρ σ} {history : List Party}
        {reached}, V20.Begins start →
      Run (V20.sides ρ σ environment).parties.Moves start.network history reached →
      Sides.InTurn V20.Answers reached := by
  refine ⟨?_, ?_, ?_⟩
  · intro ρ _ config start history reached begins run
    obtain ⟨header, req, mail, sent⟩ := begins.mail
    exact Sides.inTurn_of_run Din.responds mail sent begins.secc.2.2.1 run
  · intro ρ _ environment start history reached begins run
    obtain ⟨header, req, mail, sent⟩ := begins.mail
    exact Sides.inTurn_of_run V2.responds mail sent begins.secc.2.2.1 run
  · intro ρ σ _ _ environment start history reached begins run
    obtain ⟨header, req, mail, sent⟩ := begins.mail
    exact Sides.inTurn_of_run V20.responds mail sent begins.secc.2.1 run

/-- The conversations of the samples, up to a request that strays. -/
theorem answers_in_turn_sample :
    (∃ reached history message,
      Run (Din.sides Din.Sample.Vehicle Secc.Din.Sample.config).parties.Moves
        Din.Sample.start.network history reached ∧
      reached.requests = [message] ∧ Sides.InTurn Din.Answers reached) ∧
    (∃ reached history message,
      Run (V2.sides V2.Sample.Vehicle V2.Sample.eimEnvironment).parties.Moves
        V2.Sample.start.network history reached ∧
      reached.requests = [message] ∧
        Sides.InTurn (V2.Answers V2.Sample.eimEnvironment) reached) ∧
    ∃ reached history message,
      Run (V20.sides V20.Sample.Vehicle BatteryHealthService
          V20.Sample.eimEnvironment).parties.Moves
        V20.Sample.start.network history reached ∧
      reached.requests = [message] ∧ Sides.InTurn V20.Answers reached := by
  refine ⟨?_, ?_, ?_⟩
  · obtain ⟨reached, history, message, run, mail⟩ := Sides.exists_moves Din.Sample.refuses_start
    exact ⟨reached, history, message, run, mail, answers_in_turn.1 Din.Sample.begins_start run⟩
  · obtain ⟨reached, history, message, run, mail⟩ := Sides.exists_moves V2.Sample.refuses_start
    exact ⟨reached, history, message, run, mail, answers_in_turn.2.1 V2.Sample.begins_start run⟩
  · obtain ⟨reached, history, message, run, mail⟩ := Sides.exists_moves V20.Sample.refuses_start
    exact ⟨reached, history, message, run, mail, answers_in_turn.2.2 V20.Sample.begins_start run⟩

end Iso15118.Conversation
