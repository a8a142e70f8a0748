import Iso15118.Evcc.V20.Progress

/-!
# The discovery of the services by the EVCC

What processing a `ServiceDiscoveryRes` adds to the matched services. In a run it is processed
once, so that they stay those of one response.
-/

namespace Iso15118.Evcc.V20

open Effect Transition
open Iso15118.Shared
open Iso15118.Shared.V20

variable {ρ : Type}

/-! ## One response -/

theorem returns_messageHeader {signature : Option Signature}
    {post : MessageHeader → World ρ → Prop} {world : World ρ} :
    returns (messageHeader signature) post world ↔
      ValidSessionId world.session.sessionId ∧
        post { sessionId := world.session.sessionId, signature := signature } world := by
  unfold messageHeader
  rw [returns_bind, returns_get, returns_bind, returns_ofExcept, checkSessionId_eq]
  by_cases valid : ValidSessionId world.session.sessionId
  · simp [valid]
  · simp [valid]

/-- What follows a call goes on with its answer. -/
theorem returns_ask_bind {α β : Type} {call : Call} {method : EStateM PyError ρ β}
    {next : β → Program ρ α} {post : α → World ρ → Prop} {world : World ρ} :
    returns (ask call method >>= next) post world ↔
      ∃ value controller, method world.controller = .ok value controller ∧
        returns (next value) post
          { world with calls := call :: world.calls, controller := controller } := by
  unfold returns
  rw [wp_bind, wp_ask]
  conv_lhs => unfold wp
  cases method world.controller with
  | ok value controller => simp [wp]
  | error exception controller => simp

/-- The value-added services are appended, where all are known. -/
theorem returns_appendVas {vasServices : List Service} {post : PUnit → World ρ → Prop}
    {world : World ρ} :
    returns (vasServices.forM fun vasService => appendMatched vasService false) post world ↔
      ∃ vas, vasServices.mapM matchedVas = some vas ∧ post ⟨⟩ { world with
        session :=
          { world.session with
            matchedServicesV20 := world.session.matchedServicesV20 ++ vas } } := by
  induction vasServices generalizing world with
  | nil =>
      change post ⟨⟩ world ↔ _
      simp
  | cons vasService others ih =>
      change returns (appendMatched vasService false >>= fun _ => others.forM _) post world ↔ _
      rw [returns_bind, List.mapM_cons, matchedVas]
      unfold appendMatched
      cases ServiceV20.getById vasService.serviceId with
      | none => simp
      | some service =>
          change returns (others.forM fun vasService => appendMatched vasService false) _ _ ↔ _
          rw [ih]
          cases others.mapM matchedVas with
          | none => simp
          | some vas => simp

/-- A program that certainly ends in a world goes on there. -/
theorem returns_bind_of_ensures {program : Program ρ PUnit} {reached world : World ρ}
    (ends : Ensures (fun _ => False) program (fun _ after => after = reached) world)
    {α : Type} {next : PUnit → Program ρ α} {post : α → World ρ → Prop} :
    returns (program >>= next) post world ↔ returns (next ⟨⟩) post reached := by
  obtain ⟨_, _, ended, rfl⟩ := eq_ok_of_wp ends
  rw [returns_bind]
  constructor
  · intro holds
    have rest := post_of_eq_ok holds ended
    exact rest
  · exact fun holds => returns_of_eq_ok ended holds

/-- The last of the services whose details are to be requested is requested. -/
theorem returns_requestServiceDetail {post : List MatchedService → Prop} {world : World ρ} :
    returns requestServiceDetail (fun _ after => post after.session.matchedServicesV20) world ↔
      ValidSessionId world.session.sessionId ∧ world.session.serviceDetailsToRequest ≠ [] ∧
        post world.session.matchedServicesV20 := by
  unfold requestServiceDetail popServiceDetail
  rw [returns_bind, returns_messageHeader, returns_bind, returns_bind, returns_get]
  apply and_congr_right
  intro _
  cases last : world.session.serviceDetailsToRequest.getLast? with
  | none =>
      rw [List.getLast?_eq_none_iff] at last
      simp [last]
  | some serviceId =>
      have details : world.session.serviceDetailsToRequest ≠ [] := by
        rintro none
        rw [none] at last
        cases last
      change post world.session.matchedServicesV20 ↔ _
      simp [details]

variable [EVController ρ]

/-- What the list of the matched services becomes with a response. Without a common energy
service, the value-added services are not looked at. -/
def Discovers (session : Session) (res : ServiceDiscoveryRes) (supported : List ServiceV20)
    (matched : List MatchedService) : Prop :=
  if session.matchedServicesV20 ++
      matchedEnergyServices res.energyServiceList.services supported = [] then
    matched = []
  else
    session.serviceDetailsToRequest ++
        (matchedEnergyServices res.energyServiceList.services supported).map (·.service.id) ≠ [] ∧
      ∃ vas, ((res.vasList.map ServiceList.services).getD []).mapM matchedVas = some vas ∧
        matched = session.matchedServicesV20 ++
          matchedEnergyServices res.energyServiceList.services supported ++ vas

/-- When a `ServiceDiscoveryRes` is processed, and which services are matched then. -/
theorem returns_onServiceDiscoveryRes {res : ServiceDiscoveryRes}
    {post : List MatchedService → Prop} {world : World ρ} :
    returns (ServiceDiscovery.onServiceDiscoveryRes res)
        (fun _ after => post after.session.matchedServicesV20) world ↔
      ∃ supported controller,
        EVController.getSupportedEnergyServices world.controller = .ok supported controller ∧
        ValidSessionId world.session.sessionId ∧
        ∃ matched, Discovers world.session res supported matched ∧ post matched := by
  unfold ServiceDiscovery.onServiceDiscoveryRes Discovers
  rw [returns_bind]
  apply returns_ask_bind.trans
  apply exists_congr
  intro supported
  apply exists_congr
  intro controller
  apply and_congr_right
  intro _
  rw [returns_bind_of_ensures (ServiceDiscovery.matchEnergyServices_spec _ supported)]
  rw [returns_bind, returns_get]
  by_cases empty : world.session.matchedServicesV20 ++
      matchedEnergyServices res.energyServiceList.services supported = []
  · rw [if_pos (by simpa [Session.matching] using empty)]
    simp only [if_pos empty, exists_eq_left]
    unfold requestSessionStop
    change returns (messageHeader >>= _) _ _ ↔ _
    rw [returns_bind, returns_messageHeader, ← empty]
    exact Iff.rfl
  · rw [if_neg (by simpa [Session.matching] using empty)]
    simp only [if_neg empty, and_assoc, exists_and_left]
    rw [returns_bind, returns_appendVas]
    constructor
    · rintro ⟨vas, known, requests⟩
      obtain ⟨valid, details, holds⟩ := returns_requestServiceDetail.mp requests
      exact ⟨valid, details, _, ⟨vas, known, rfl⟩, holds⟩
    · rintro ⟨valid, details, _, ⟨vas, known, rfl⟩, holds⟩
      exact ⟨vas, known, returns_requestServiceDetail.mpr ⟨valid, details, holds⟩⟩

/-! ## Runs -/

/-- A `ServiceDiscoveryRes` that `ServiceDiscovery` accepts is processed. -/
theorem discovers_of_processMessage {received : Received V2GMessage Answers}
    {res : ResponseMessage} {world after : World ρ}
    (own : world.currentState.own = .serviceDiscovery) (response : received.message = .response res)
    (accepts : Accepts .serviceDiscovery res world.session)
    (processed : (machine ρ).processMessage received world = .ok ⟨⟩ after) :
    ∃ discovery supported controller, res.response = .serviceDiscoveryRes discovery ∧
      EVController.getSupportedEnergyServices world.controller = .ok supported controller ∧
      Discovers world.session discovery supported after.session.matchedServicesV20 := by
  obtain ⟨good, known, expected⟩ := accepts
  obtain ⟨message, answers⟩ := received
  cases response
  obtain ⟨header, code, response⟩ := res
  cases response <;> try cases expected
  rename_i discovery
  change processMessage answers _ { world with calls := [] } = _ at processed
  have checked : processMessage answers (.response ⟨header, code, .serviceDiscoveryRes discovery⟩)
      { world with calls := [] } =
      ServiceDiscovery.processMessage (.response ⟨header, code, .serviceDiscoveryRes discovery⟩)
        { world with calls := [] } := by
    unfold processMessage
    simp only [Effect.get_bind_apply, own]
  rw [checked] at processed
  unfold ServiceDiscovery.processMessage checkMsg at processed
  dsimp only at processed
  rw [bind_checkMsg rfl] at processed
  dsimp only at processed
  rw [if_pos ⟨good, known⟩] at processed
  have ended : returns (ServiceDiscovery.onServiceDiscoveryRes discovery)
      (fun _ next => after.session.matchedServicesV20 = next.session.matchedServicesV20) _ :=
    returns_of_eq_ok processed rfl
  obtain ⟨supported, controller, answered, _, _, discovers, rfl⟩ :=
    returns_onServiceDiscoveryRes.mp ended
  exact ⟨discovery, supported, controller, rfl, answered, discovers⟩

end Iso15118.Evcc.V20
