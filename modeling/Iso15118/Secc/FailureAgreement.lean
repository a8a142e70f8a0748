import Iso15118.Secc.Din.FailedResponses
import Iso15118.Secc.V2.FailedResponses
import Iso15118.Secc.V20.FailedResponses

/-!
# The SECC and the EVCC on whether a session goes on

The EVCC takes a failed response, and no other, as the end of the session. What the SECC does
besides preparing the response may say otherwise.
-/

namespace Iso15118.Secc

open Effect
open Iso15118.Shared

/-- A DIN SPEC 70121 state prepares a failed response exactly if the session fails. In the other
two protocols this is so exactly for what is answered consistently: a service that was offered,
a certificate status in line with the authorization, an installation that the backend has not
refused, and no standby that is not allowed. -/
theorem failedResponse_iff_sessionFails {σ : Type} [DiagnosticService σ]
    (dinConfig : Din.Config) (dinAnswers : Din.Answers) (dinWorld : Din.World)
    (dinMessage : Din.V2GMessage)
    (environmentV2 : V2.Environment) (answersV2 : V2.Answers) (worldV2 : V2.World)
    (messageV2 : V2.V2GMessage)
    (environmentV20 : V20.Environment) (answersV20 : V20.Answers) (worldV20 : V20.World σ)
    (messageV20 : V20.V2GMessage) :
    wp (Din.processMessage dinConfig dinAnswers dinMessage)
      (fun _ after => Din.stopConvention.Agrees after) (fun _ _ => True) dinWorld ∧
    (wp (V2.processMessage environmentV2 answersV2 messageV2)
        (fun _ after => V2.stopConvention.Agrees after) (fun _ _ => True) worldV2 ↔
      (V2.Answerable environmentV2 answersV2 worldV2 messageV2 →
        V2.Consistent environmentV2 answersV2 worldV2 messageV2)) ∧
    (wp (V20.processMessage environmentV20 answersV20 messageV20)
        (fun _ after => V20.stopConvention.Agrees after) (fun _ _ => True) worldV20 ↔
      (V20.Answerable environmentV20 answersV20 worldV20 messageV20 →
        V20.Consistent environmentV20 answersV20 worldV20 messageV20)) := by
  refine ⟨?_, ?_, ?_⟩
  · exact (Din.agreesIff_processMessage.agrees_iff Din.responds_iff).mpr fun _ => trivial
  · exact V2.agreesIff_processMessage.agrees_iff V2.responds_iff
  · exact V20.agreesIff_processMessage.agrees_iff V20.responds_iff

end Iso15118.Secc
