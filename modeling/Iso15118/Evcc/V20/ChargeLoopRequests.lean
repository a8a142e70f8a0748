import Iso15118.Evcc.V20.Loop

/-!
# Requests of the charge loop

What `PowerDelivery` and `DCChargeLoop` prepare for a message: the request of the charge loop,
which is built from the battery of the moment, another one, or nothing. Then a message that is
there from before is sent again.
-/

namespace Iso15118.Evcc.V20

open Effect
open Iso15118.Shared
open Iso15118.Shared.V20

/-- The message is no `DCChargeLoopReq`. -/
def Elsewhere (message : RequestMessage) : Prop :=
  ∀ req, message.request ≠ .dcChargeLoopReq req

/-- The states from which the charge loop is entered and in which it goes on. -/
def InChargeLoop (own : Own) : Prop :=
  own = .powerDelivery ∨ own = .dcChargeLoop

instance (own : Own) : Decidable (InChargeLoop own) :=
  inferInstanceAs (Decidable (_ ∨ _))

section

variable {ρ : Type} [EVController ρ]

/-- What processing a message prepares in these states, where a request of the charge loop is good
for the controller that it leaves. -/
inductive Prepares (good : ρ → RequestMessage → Prop) (message : V2GMessage)
    (before after : World ρ) : Prop
  | refuses
      (refused : ¬∃ res, message = .response res ∧
        Accepts before.currentState.own res before.session)
      (controller : after.controller = before.controller)
      (kept : after.currentState.nextV2gtpMsg = before.currentState.nextV2gtpMsg)
  | silent (own : before.currentState.own = .powerDelivery)
      (controller : after.controller = before.controller)
      (kept : after.currentState.nextV2gtpMsg = before.currentState.nextV2gtpMsg)
  | prepares (res : ResponseMessage) (request : RequestMessage) (response : message = .response res)
      (accepts : Accepts before.currentState.own res before.session)
      (prepared : after.currentState.nextV2gtpMsg = some request)
      (isGood : good after.controller request)

/-- A message is prepared. -/
def PreparesGood (good : ρ → RequestMessage → Prop) (after : World ρ) : Prop :=
  ∃ request, after.currentState.nextV2gtpMsg = some request ∧ good after.controller request

variable {α : Type} {world : World ρ} {good : ρ → RequestMessage → Prop}

omit [EVController ρ] in
theorem ensures_messageHeader {signature : Option Signature} {next : MessageHeader → Program ρ α}
    {post : α → World ρ → Prop}
    (holds : ∀ header, Ensures (fun _ => True) (next header) post world) :
    Ensures (fun _ => True) (messageHeader signature >>= next) post world := by
  unfold messageHeader
  rw [bind_assoc]
  apply ensures_get_bind
  rw [bind_assoc]
  apply ensures_ofExcept_bind
  · exact fun _ _ => trivial
  · exact fun _ _ => holds _

omit [EVController ρ] in
theorem ensures_prepare {nextState : Option (NextState StateName)} {message : RequestMessage}
    {timeout : ℚ} (isGood : good world.controller message) :
    Ensures (fun _ => True) (prepare nextState message timeout)
      (fun _ after => PreparesGood good after) world :=
  ⟨message, rfl, isGood⟩

/-- Whatever is asked of the controller, the request is a `PowerDeliveryReq`. -/
theorem buildPowerDeliveryReq_request (world : World ρ) :
    Ensures (fun _ => True) (buildPowerDeliveryReq : Program ρ _)
      (fun message _ => ∃ req, message.request = .powerDeliveryReq req) world := by
  unfold buildPowerDeliveryReq
  iterate 4
    apply returned_bind
    intro value world
  apply returned_bind
  intro selected world
  extract_lets rest
  have rest_request : ∀ channel world, Ensures (fun _ => True) (rest channel)
      (fun message _ => ∃ req, message.request = .powerDeliveryReq req) world := by
    intro channel
    apply returned_bind
    intro header
    apply returned_bind
    exact fun req _ => ⟨req, rfl⟩
  split
  · split
    · exact returned_bind (fun _ => returned_bind rest_request) world
    · exact rest_request _ world
  · exact rest_request _ world

section

variable (others : ∀ controller message, Elsewhere message → good controller message)

include others

omit [EVController ρ] in
theorem requestSessionStop_prepares (chargingSession : ChargingSession) :
    Ensures (fun _ => True) (requestSessionStop chargingSession)
      (fun _ after => PreparesGood good after) world := by
  apply ensures_messageHeader
  intro header
  apply ensures_prepare
  apply others
  rintro _ ⟨⟩

theorem requestAcChargeLoop_prepares (service : ServiceV20) :
    Ensures (fun _ => True) (requestAcChargeLoop service)
      (fun _ after => PreparesGood good after) world := by
  apply ensures_get_bind
  apply ensures_ask_eq_bind
  intro params controller _
  apply ensures_messageHeader
  intro header
  apply ensures_ask_eq_bind
  intro display controller _
  apply ensures_ofExcept_bind
  · exact fun _ _ => trivial
  intro params _
  apply ensures_prepare
  apply others
  rintro _ ⟨⟩

theorem powerDelivery_stop_prepares (selected : Option SelectedEnergyService)
    (chargingSession : ChargingSession) :
    Ensures (fun _ => True) (PowerDelivery.stop selected chargingSession)
      (fun _ after => PreparesGood good after) world := by
  apply ensures_ask_eq_bind
  intro _ controller _
  cases selected with
  | none => exact trivial
  | some selected =>
      unfold required
      rw [pure_bind]
      split
      · apply ensures_messageHeader
        intro header
        apply ensures_prepare
        apply others
        rintro _ ⟨⟩
      · exact requestSessionStop_prepares others chargingSession

/-- Behind the check of `PowerDelivery`. The request of the charge loop is built where the power
profile is finished and no end of the session is waiting. -/
theorem onPowerDeliveryRes_prepares
    (builds : world.session.evProcessing ≠ .ongoing →
      world.session.chargingSessionStopV20 ∈ [none, some .pause] →
      ∀ selected, world.session.selectedEnergyService = some selected →
        Ensures (fun _ => True) (buildCurrentDemandData selected.service)
          (fun message after => good after.controller message) world) :
    Ensures (fun _ => True) PowerDelivery.onPowerDeliveryRes
      (fun _ after => PreparesGood good after ∨ after.controller = world.controller ∧
        after.currentState.nextV2gtpMsg = world.currentState.nextV2gtpMsg) world := by
  apply ensures_get_bind
  by_cases processes : world.session.evProcessing = .ongoing
  · rw [if_pos processes]
    apply ensures_bind (buildPowerDeliveryReq_request world)
    rintro message reached ⟨req, same⟩
    left
    refine ⟨message, rfl, others _ _ ?_⟩
    intro _ other
    cases same.symm.trans other
  · rw [if_neg processes]
    have enters (stays : world.session.chargingSessionStopV20 ∈ [none, some .pause]) :
        Ensures (fun _ => True)
          (required world.session.selectedEnergyService >>= fun selected =>
            PowerDelivery.enterChargeLoop selected)
          (fun _ after => PreparesGood good after ∨ after.controller = world.controller ∧
            after.currentState.nextV2gtpMsg = world.currentState.nextV2gtpMsg) world := by
      cases selects : world.session.selectedEnergyService with
      | none => exact trivial
      | some selected =>
          unfold required PowerDelivery.enterChargeLoop
          rw [pure_bind]
          split
          · exact wp_mono (fun _ _ => .inl) (fun _ _ => id) (requestAcChargeLoop_prepares others _)
          · split
            · apply ensures_bind (builds processes stays selected selects)
              exact fun req reached isGood => .inl ⟨req, rfl, isGood⟩
            · exact .inr ⟨rfl, rfl⟩
    cases stopping : world.session.chargingSessionStopV20 with
    | none => exact enters (by rw [stopping]; decide)
    | some chargingSession =>
        cases chargingSession with
        | pause => exact enters (by rw [stopping]; decide)
        | terminate =>
            exact wp_mono (fun _ _ => .inl) (fun _ _ => id) (powerDelivery_stop_prepares others _ _)
        | serviceRenegotiation =>
            exact wp_mono (fun _ _ => .inl) (fun _ _ => id) (powerDelivery_stop_prepares others _ _)

omit [EVController ρ] in
theorem stopV20Charging_prepares (renegotiateRequested : Bool) :
    Ensures (fun _ => True) (stopV20Charging renegotiateRequested)
      (fun _ after => PreparesGood good after) world := by
  apply ensures_messageHeader
  intro header
  refine ⟨_, rfl, others _ _ ?_⟩
  rintro _ ⟨⟩

/-- Behind the check of `DCChargeLoop`. Where the request of the charge loop is built, the
controller has gone on charging and has waited. -/
theorem onDCChargeLoopRes_prepares
    {evseStatus : Option EVSEStatus}
    (builds : evseStatus = none → ∀ reached : World ρ, reached.session = world.session →
      (∃ middle, EVController.continueCharging world.controller = .ok true middle ∧
        Reaches EVController.chargeLoopDelay middle reached.controller) →
      ∀ selected, world.session.selectedEnergyService = some selected →
        Ensures (fun _ => True) (buildCurrentDemandData selected.service)
          (fun message after => good after.controller message) reached) :
    Ensures (fun _ => True) (DCChargeLoop.onDCChargeLoopRes evseStatus)
      (fun _ after => PreparesGood good after) world := by
  unfold DCChargeLoop.onDCChargeLoopRes chargeLoop
  cases evseStatus with
  | some status =>
      dsimp only
      split
      · exact stopV20Charging_prepares others true
      · exact stopV20Charging_prepares others false
      · exact trivial
  | none =>
      apply ensures_ask_eq_bind
      intro continues controller goesOn
      cases continues with
      | false => exact stopV20Charging_prepares others false
      | true =>
          rw [if_pos rfl]
          have goOn : ∀ reached : World ρ, reached.session = world.session →
              Reaches EVController.chargeLoopDelay controller reached.controller →
                Ensures (fun _ => True) (do
                    let world ← get
                    let selected ← required world.session.selectedEnergyService
                    let req ← buildCurrentDemandData selected.service
                    prepare none req Timeouts.dcChargeLoopReq)
                  (fun _ after => PreparesGood good after) reached := by
            intro reached same waited
            apply ensures_get_bind
            rw [same]
            cases selects : world.session.selectedEnergyService with
            | none => exact trivial
            | some selected =>
                unfold required
                rw [pure_bind]
                apply ensures_bind
                  (builds rfl reached same ⟨controller, goesOn, waited⟩ selected selects)
                exact fun req _ isGood => ⟨req, rfl, isGood⟩
          unfold Ensures
          rw [wp_bind, wp_tryCatch, wp_ask]
          unfold wp
          cases waited : EVController.chargeLoopDelay controller with
          | ok _ later => exact goOn _ rfl (.inl ⟨_, waited⟩)
          | error exception later => exact goOn _ rfl (.inr ⟨_, waited⟩)

/-- What the state prepares behind its check, and what it does if it does not accept the
message. -/
theorem processMessage_prepares (inLoop : InChargeLoop world.currentState.own)
    {message : V2GMessage}
    (enters : world.currentState.own = .powerDelivery → ∀ res, message = .response res →
      Accepts world.currentState.own res world.session →
      world.session.evProcessing ≠ .ongoing →
      world.session.chargingSessionStopV20 ∈ [none, some .pause] →
      ∀ selected, world.session.selectedEnergyService = some selected →
        Ensures (fun _ => True) (buildCurrentDemandData selected.service)
          (fun message after => good after.controller message) world)
    (goesOn : world.currentState.own = .dcChargeLoop → ∀ res params, message = .response res →
      Accepts world.currentState.own res world.session →
      res.response = .dcChargeLoopRes none params →
      ∀ reached : World ρ, reached.session = world.session →
        (∃ middle, EVController.continueCharging world.controller = .ok true middle ∧
          Reaches EVController.chargeLoopDelay middle reached.controller) →
        ∀ selected, world.session.selectedEnergyService = some selected →
          Ensures (fun _ => True) (buildCurrentDemandData selected.service)
            (fun message after => good after.controller message) reached)
    (answers : Answers) :
    Ensures (fun _ => True) (processMessage answers message)
      (fun _ after => Prepares good message world after) world := by
  unfold processMessage
  apply ensures_get_bind
  obtain own | own := inLoop
  · rw [own]
    apply ensures_checked rfl
    · intro refused
      refine .refuses ?_ rfl rfl
      rintro ⟨res, same, accepts⟩
      have expected := accepts.expected
      rw [own] at expected
      cases response : res.response with
      | powerDeliveryRes =>
          exact refused ⟨res, (), same, by rw [response], accepts.good, accepts.known⟩
      | _ =>
          rw [response] at expected
          exact expected
    · intro res value same known isGood isKnown
      have accepts : Accepts world.currentState.own res world.session := by
        refine ⟨isGood, isKnown, ?_⟩
        rw [own]
        split at known
        next response =>
          rw [response]
          trivial
        · cases known
      apply wp_mono _ (fun _ _ => id)
        (onPowerDeliveryRes_prepares others (enters own res same accepts))
      rintro _ after (⟨request, prepared, isGood⟩ | ⟨controller, kept⟩)
      · exact .prepares res request same accepts prepared isGood
      · exact .silent own controller kept
  · rw [own]
    apply ensures_checked rfl
    · intro refused
      refine .refuses ?_ rfl rfl
      rintro ⟨res, same, accepts⟩
      have expected := accepts.expected
      rw [own] at expected
      cases response : res.response with
      | dcChargeLoopRes evseStatus params =>
          exact refused ⟨res, evseStatus, same, by rw [response], accepts.good, accepts.known⟩
      | _ =>
          rw [response] at expected
          exact expected
    · intro res evseStatus same known isGood isKnown
      have accepts : Accepts world.currentState.own res world.session := by
        refine ⟨isGood, isKnown, ?_⟩
        rw [own]
        split at known
        next response =>
          rw [response]
          trivial
        · cases known
      have builds : evseStatus = none → ∃ params, res.response = .dcChargeLoopRes none params := by
        rintro rfl
        split at known
        next response =>
          cases known
          exact ⟨_, response⟩
        · cases known
      apply wp_mono _ (fun _ _ => id) (onDCChargeLoopRes_prepares others fun silent => ?_)
      rotate_left
      · obtain ⟨params, response⟩ := builds silent
        exact goesOn own res params same accepts response
      rintro _ after ⟨request, prepared, isGood⟩
      exact .prepares res request same accepts prepared isGood

end

end

end Iso15118.Evcc.V20
