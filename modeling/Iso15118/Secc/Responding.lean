import Iso15118.Secc.Din.Responding
import Iso15118.Secc.SupportedAppProtocol
import Iso15118.Secc.V2.Loop
import Iso15118.Secc.V2.Responding
import Iso15118.Secc.V20.Responding

/-!
# When the SECC responds to a message

The states of the four modules together, from the negotiation to the states of the
protocol that was agreed on.
-/

namespace Iso15118.Secc

open Effect
open Iso15118.Shared

namespace Sap

/-- The message is a request, and every supported protocol has a namespace. -/
def Answerable (world : World) : SapMessage → Prop
  | .req _ => .unknown ∉ world.session.supportedProtocols
  | .res _ => False

theorem responds_iff {message : SapMessage} {world : World} :
    Responds (processMessage message) world ↔ Answerable world message := by
  cases message with
  | req sapReq =>
      unfold processMessage onSupportedAppProtocolReq supportedNsList Answerable
      by_cases known : .unknown ∈ world.session.supportedProtocols
      · simp [known]
      · cases selected : select (world.session.supportedProtocols.map Protocol.ns)
          (sortByPriority sapReq.appProtocol) with
        | none => simp [known, selected, stopStateMachine, createNextMessage]
        | some entry => simp [known, selected, createNextMessage]
  | res sapRes => simp [processMessage, stopStateMachine, Answerable]

end Sap

/-- In every state of the SECC, and for whatever the EXI codec has decoded, a state
finishes with a response to send exactly if the message is answerable there. -/
theorem responds_iff_answerable {σ : Type} [DiagnosticService σ]
    (sapWorld : Sap.World) (sapMessage : SapMessage)
    (dinConfig : Din.Config) (dinAnswers : Din.Answers) (dinWorld : Din.World)
    (dinMessage : Din.V2GMessage)
    (environmentV2 : V2.Environment) (answersV2 : V2.Answers) (worldV2 : V2.World)
    (messageV2 : V2.V2GMessage)
    (environmentV20 : V20.Environment) (answersV20 : V20.Answers) (worldV20 : V20.World σ)
    (messageV20 : V20.V2GMessage) :
    (Responds (Sap.processMessage sapMessage) sapWorld ↔ Sap.Answerable sapWorld sapMessage) ∧
    (Responds (Din.processMessage dinConfig dinAnswers dinMessage) dinWorld ↔
      Din.Answerable dinAnswers dinWorld dinMessage) ∧
    (Responds (V2.processMessage environmentV2 answersV2 messageV2) worldV2 ↔
      V2.Answerable environmentV2 answersV2 worldV2 messageV2) ∧
    (Responds (V20.processMessage environmentV20 answersV20 messageV20) worldV20 ↔
      V20.Answerable environmentV20 answersV20 worldV20 messageV20) :=
  ⟨Sap.responds_iff, Din.responds_iff, V2.responds_iff, V20.responds_iff⟩

namespace V2

open Transition
open Iso15118.Shared.V2

/-- A `CertificateUpdateReq` stops the session without a response: its failed response is not
found. -/
theorem certificateUpdateReq_not_answered :
    ∃ session, Run (machine Sample.environment).Step Sample.start
        (Sample.selectionHistory .pnc) session ∧
      ¬Responds (processMessage Sample.environment Sample.answers
        (.request ⟨{ sessionId := "10" }, .certificateUpdateReq⟩)) session.world := by
  refine ⟨_, Sample.run_selectionHistory .pnc, ?_⟩
  rw [responds_iff]
  intro answerable
  simp only [Answerable, Request.requestType, not_accepts_certificateUpdateReq,
    Bool.false_eq_true, false_and, ↓reduceIte, HasFailedResponse, failedResponse,
    Option.isSome_none] at answerable

end V2

end Iso15118.Secc
