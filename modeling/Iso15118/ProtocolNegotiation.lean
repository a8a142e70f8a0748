import Iso15118.Evcc.SupportedAppProtocol
import Iso15118.Secc.SupportedAppProtocol

/-!
# Both sides agree on a protocol

The SECC chooses the entry of highest priority among those that name one of its
protocols, and the EVCC finds the same protocol under the schema id of the answer.
-/

namespace Iso15118

open Effect
open Iso15118.Shared

/-! ## Entries and protocols -/

/-- The major version of the messages of a protocol. -/
def majorVersionOf : Protocol → Int
  | .dinSpec70121 => 2
  | .iso15118_2 => 2
  | _ => 1

/-- The entry names a protocol of a list with its major version. -/
def Names (supportedProtocols : List Protocol) (entry : AppProtocol) (protocol : Protocol) :
    Prop :=
  protocol ∈ supportedProtocols ∧ entry.protocolNs = protocol.ns ∧
    entry.majorVersion = majorVersionOf protocol

namespace Secc.Sap

variable {supportedProtocols : List Protocol}

theorem isV20_ns (protocol : Protocol) :
    isV20 protocol.ns = decide (protocol.sessionSetup = some .v20) := by
  cases protocol <;> decide

/-- What the branches say about the namespace of a protocol. -/
theorem nextStateFor_ns {entry : AppProtocol} {protocol : Protocol}
    (supported : protocol ∈ supportedProtocols) (named : entry.protocolNs = protocol.ns) :
    nextStateFor (supportedProtocols.map Protocol.ns) entry =
      if entry.majorVersion = majorVersionOf protocol then protocol.sessionSetup else none := by
  have listed : entry.protocolNs ∈ supportedProtocols.map Protocol.ns := by
    rw [named]
    exact List.mem_map_of_mem supported
  have same : ∀ other, entry.protocolNs = Protocol.ns other ↔ protocol = other := by
    intro other
    rw [named]
    exact ⟨Protocol.ns_injective, congrArg Protocol.ns⟩
  unfold nextStateFor
  rw [if_pos listed, named, isV20_ns, ← named]
  simp only [same]
  by_cases major : entry.majorVersion = majorVersionOf protocol
  · rw [if_pos major]
    cases protocol <;> simp_all [Protocol.sessionSetup, majorVersionOf]
  · rw [if_neg major]
    cases protocol <;> simp_all [Protocol.sessionSetup, majorVersionOf]

/-- The branches of the loop agree with the protocols. -/
theorem nextStateFor_eq_some_iff {entry : AppProtocol} {nextState : SessionSetupState} :
    nextStateFor (supportedProtocols.map Protocol.ns) entry = some nextState ↔
      ∃ protocol, Names supportedProtocols entry protocol ∧
        protocol.sessionSetup = some nextState := by
  constructor
  · intro leads
    have listed : entry.protocolNs ∈ supportedProtocols.map Protocol.ns := by
      by_contra missing
      unfold nextStateFor at leads
      rw [if_neg missing] at leads
      cases leads
    rcases List.mem_map.mp listed with ⟨protocol, supported, named⟩
    rw [nextStateFor_ns supported named.symm] at leads
    split at leads
    next major => exact ⟨protocol, ⟨supported, named.symm, major⟩, leads⟩
    next => cases leads
  · rintro ⟨protocol, ⟨supported, named, major⟩, leads⟩
    rw [nextStateFor_ns supported named, if_pos major]
    exact leads

/-! ## The choice of the SECC -/

/-- The first entry that leads somewhere is the first of a sorted list that does. -/
theorem select_eq_some {supportedNsList : List String} {entries : List AppProtocol}
    {entry : AppProtocol} {nextState : SessionSetupState}
    (sorted : entries.Pairwise fun first second => first.priority ≤ second.priority)
    (selected : select supportedNsList entries = some (entry, nextState)) :
    entry ∈ entries ∧ nextStateFor supportedNsList entry = some nextState ∧
      ∀ other ∈ entries, (nextStateFor supportedNsList other).isSome →
        entry.priority ≤ other.priority := by
  induction entries with
  | nil => cases selected
  | cons first rest ih =>
      rw [List.pairwise_cons] at sorted
      unfold select at selected
      split at selected
      next leads =>
        cases selected
        refine ⟨List.mem_cons_self, leads, ?_⟩
        intro other member _
        rcases List.mem_cons.mp member with rfl | later
        · exact le_refl _
        · exact sorted.1 other later
      next none_leads =>
        rcases ih sorted.2 selected with ⟨member, leads, least⟩
        refine ⟨List.mem_cons_of_mem _ member, leads, ?_⟩
        intro other listed otherLeads
        rcases List.mem_cons.mp listed with rfl | later
        · rw [none_leads] at otherLeads
          cases otherLeads
        · exact least other later otherLeads

theorem select_eq_none {supportedNsList : List String} {entries : List AppProtocol}
    (none_selected : select supportedNsList entries = none) :
    ∀ entry ∈ entries, nextStateFor supportedNsList entry = none := by
  induction entries with
  | nil => exact nofun
  | cons first rest ih =>
      unfold select at none_selected
      split at none_selected
      next => cases none_selected
      next none_leads =>
        intro entry member
        rcases List.mem_cons.mp member with rfl | later
        · exact none_leads
        · exact ih none_selected entry later

theorem sortByPriority_sorted (entries : List AppProtocol) :
    (sortByPriority entries).Pairwise fun first second => first.priority ≤ second.priority := by
  have total : Std.Total fun first second : AppProtocol => first.priority ≤ second.priority :=
    ⟨fun first second => Nat.le_total first.priority second.priority⟩
  have trans : IsTrans AppProtocol fun first second => first.priority ≤ second.priority :=
    ⟨fun _ _ _ => Nat.le_trans⟩
  exact List.pairwise_insertionSort _ entries

theorem mem_sortByPriority {entries : List AppProtocol} {entry : AppProtocol} :
    entry ∈ sortByPriority entries ↔ entry ∈ entries := by
  unfold sortByPriority
  exact List.mem_insertionSort _

theorem supportedNsList_eq (known : .unknown ∉ supportedProtocols) :
    supportedNsList supportedProtocols = .ok (supportedProtocols.map Protocol.ns) := by
  unfold supportedNsList
  rw [if_neg known]

/-- The SECC after it has chosen an entry. -/
def selectedWorld (world : World) (entry : AppProtocol) (nextState : SessionSetupState) : World :=
  { world with
    session :=
      { world.session with
        selectedChargingTypeIsAc :=
          if nextState = .dinSpec then false else world.session.selectedChargingTypeIsAc
        protocol := .getByNs entry.protocolNs }
    currentState := world.currentState.createNextMessage (some (.state nextState))
      ⟨responseCodeFor entry, some entry.schemaId⟩ v2gSeccSequenceTimeout
    calls := .setSelectedProtocol (.getByNs entry.protocolNs) :: world.calls }

/-- The SECC after it has found no entry. -/
def rejectedWorld (world : World) : World :=
  { world with
    session := { world.session with stopReason := some { successful := false } }
    currentState := world.currentState.createNextMessage (some .terminate)
      ⟨.negotiationFailed, none⟩ 0 }

theorem wp_processMessage_req {world : World} (sapReq : SupportedAppProtocolReq)
    (known : .unknown ∉ world.session.supportedProtocols) :
    wp (processMessage (.req sapReq))
      (fun _ next =>
        match select (world.session.supportedProtocols.map Protocol.ns)
            (sortByPriority sapReq.appProtocol) with
        | none => next = rejectedWorld world
        | some (entry, nextState) => next = selectedWorld world entry nextState)
      (fun _ _ => False) world := by
  unfold processMessage onSupportedAppProtocolReq
  simp only [wp_bind, wp_get, supportedNsList_eq known]
  show wp (match select (world.session.supportedProtocols.map Protocol.ns)
      (sortByPriority sapReq.appProtocol) with
    | none => _
    | some (protocol, nextState) => _) _ _ world
  cases select (world.session.supportedProtocols.map Protocol.ns)
      (sortByPriority sapReq.appProtocol) with
  | none => rfl
  | some selected => rfl

theorem responseCodeFor_isPositive (entry : AppProtocol) :
    (responseCodeFor entry).isPositive = true := by
  unfold responseCodeFor
  split <;> rfl

/-- The answer of the SECC, as a fact about the entries of the request. -/
theorem processMessage_req {world : World} (sapReq : SupportedAppProtocolReq)
    (known : .unknown ∉ world.session.supportedProtocols) :
    (∃ entry ∈ sapReq.appProtocol, ∃ protocol nextState,
      Names world.session.supportedProtocols entry protocol ∧
        protocol.sessionSetup = some nextState ∧
        (∀ other ∈ sapReq.appProtocol,
          (∃ named, Names world.session.supportedProtocols other named) →
            entry.priority ≤ other.priority) ∧
        processMessage (.req sapReq) world = .ok ⟨⟩ (selectedWorld world entry nextState)) ∨
    (∀ entry ∈ sapReq.appProtocol, ∀ protocol,
      ¬ Names world.session.supportedProtocols entry protocol) ∧
        processMessage (.req sapReq) world = .ok ⟨⟩ (rejectedWorld world) := by
  have leads : ∀ entry protocol, Names world.session.supportedProtocols entry protocol →
      (nextStateFor (world.session.supportedProtocols.map Protocol.ns) entry).isSome := by
    intro entry protocol names
    cases setup : protocol.sessionSetup with
    | some nextState =>
        rw [nextStateFor_eq_some_iff.mpr ⟨protocol, names, setup⟩]
        rfl
    | none =>
        have unknown : protocol = .unknown := by
          cases protocol <;> first | rfl | cases setup
        exact absurd (unknown ▸ names.1) known
  have answered := wp_processMessage_req sapReq known
  rcases eq_ok_of_wp answered with ⟨⟨⟩, next, ended, result⟩
  rw [ended]
  cases chosen : select (world.session.supportedProtocols.map Protocol.ns)
      (sortByPriority sapReq.appProtocol) with
  | none =>
      rw [chosen] at result
      subst result
      right
      refine ⟨?_, rfl⟩
      intro entry listed protocol names
      have nowhere := select_eq_none chosen entry (mem_sortByPriority.mpr listed)
      have somewhere := leads entry protocol names
      rw [nowhere] at somewhere
      cases somewhere
  | some selected =>
      rcases selected with ⟨entry, nextState⟩
      rw [chosen] at result
      subst result
      left
      rcases select_eq_some (sortByPriority_sorted _) chosen with ⟨listed, goesTo, least⟩
      rcases nextStateFor_eq_some_iff.mp goesTo with ⟨protocol, names, setup⟩
      refine ⟨entry, mem_sortByPriority.mp listed, protocol, nextState, names, setup, ?_, rfl⟩
      rintro other member ⟨named, otherNames⟩
      exact least other (mem_sortByPriority.mpr member) (leads other named otherNames)

end Secc.Sap

namespace Evcc.Sap

/-! ## The request of the EVCC -/

theorem appProtocolEntry_eq_ok {protocol : Protocol} {counter : Nat} {entry : AppProtocol}
    (built : appProtocolEntry protocol counter = .ok entry) :
    entry.protocolNs = protocol.ns ∧ entry.schemaId = counter := by
  unfold appProtocolEntry at built
  split at built
  next => cases built
  next =>
    split at built
    next =>
      cases built
      exact ⟨rfl, rfl⟩
    next => cases built

/-- The schema ids of the entries count on. -/
theorem lt_schemaId_of_appProtocols {protocols : List Protocol} {counter : Nat}
    {entries : List AppProtocol} (built : appProtocols counter protocols = .ok entries) :
    ∀ entry ∈ entries, counter < entry.schemaId := by
  induction protocols generalizing counter entries with
  | nil =>
      cases built
      exact nofun
  | cons protocol rest ih =>
      rcases bind_eq_ok_iff.mp built with ⟨first, firstBuilt, built⟩
      rcases bind_eq_ok_iff.mp built with ⟨later, laterBuilt, built⟩
      cases built
      have firstId := (appProtocolEntry_eq_ok firstBuilt).2
      intro entry listed
      rcases List.mem_cons.mp listed with rfl | listed
      · omega
      · have laterId := ih laterBuilt entry listed
        omega

/-- The schema id of an entry finds the entry. -/
theorem find_schemaId {protocols : List Protocol} {counter : Nat} {entries : List AppProtocol}
    (built : appProtocols counter protocols = .ok entries) {entry : AppProtocol}
    (listed : entry ∈ entries) :
    entries.find? (fun other => some other.schemaId = some entry.schemaId) = some entry := by
  induction protocols generalizing counter entries with
  | nil =>
      cases built
      cases listed
  | cons protocol rest ih =>
      rcases bind_eq_ok_iff.mp built with ⟨first, firstBuilt, built⟩
      rcases bind_eq_ok_iff.mp built with ⟨later, laterBuilt, built⟩
      cases built
      have firstId := (appProtocolEntry_eq_ok firstBuilt).2
      rcases List.mem_cons.mp listed with rfl | listed
      · simp
      · have laterId := lt_schemaId_of_appProtocols laterBuilt entry listed
        rw [List.find?_cons_of_neg]
        · exact ih laterBuilt listed
        · simp
          omega

/-- What the EVCC remembers of the request it sends. -/
theorem createSap_eq_ok {start session : Session} {req : SupportedAppProtocolReq}
    (created : createSap start = .ok req session) :
    session.supportedAppProtocols = req.appProtocol ∧
      session.resumeSessionId = start.resumeSessionId ∧
      ∃ protocols, appProtocols 0 protocols = .ok req.appProtocol := by
  have holds : wp createSap
      (fun sent next =>
        next.supportedAppProtocols = sent.appProtocol ∧
          next.resumeSessionId = start.resumeSessionId ∧
          ∃ protocols, appProtocols 0 protocols = .ok sent.appProtocol)
      (fun _ _ => True) start := by
    unfold createSap
    simp only [wp_bind, wp_modify, wp_get, wp_pure, wp_ofExcept]
    exact ⟨fun entries built => ⟨trivial, trivial, _, built⟩, fun _ _ => trivial⟩
  have recorded := post_of_eq_ok holds created
  exact recorded

/-! ## The choice of the EVCC -/

/-- `get_evcc_id` has an id for every protocol, in the format of its `SessionSetupReq`. -/
def HasEvccIds (ρ : Type) [EVController ρ] : Prop :=
  ∀ protocol state (controller : ρ), protocol.sessionSetup = some state →
    wp (EVController.getEvccId protocol) (fun evccId _ => checkEvccId state evccId = .ok ⟨⟩)
      (fun _ _ => False) controller

section

variable {ρ : Type} [EVController ρ] {world : World ρ}

theorem wp_evccIdFor (hasIds : HasEvccIds ρ) {state : SessionSetupState} {protocol : Protocol}
    (setup : protocol.sessionSetup = some state) :
    wp (evccIdFor state protocol : Program ρ String)
      (fun _ next => next.session = world.session ∧ next.currentState = world.currentState)
      (fun _ _ => False) world := by
  unfold evccIdFor
  simp only [wp_bind, wp_ask, wp_pure, wp_ofExcept]
  apply wp_mono _ _ (hasIds protocol state world.controller setup)
  · intro evccId _ allowed
    simp [allowed]
  · intro _ _ impossible
    exact impossible

/-- The ids that `get_session_id` can take from a paused session. -/
def ValidResume (session : Session) : Prop :=
  ∀ sessionId, session.resumeSessionId = some sessionId → checkSessionId sessionId = .ok ⟨⟩

theorem checkSessionId_zeros :
    checkSessionId (String.ofList (List.replicate (2 * 1) '0')) = .ok ⟨⟩ ∧
    checkSessionId (String.ofList (List.replicate (2 * 8) '0')) = .ok ⟨⟩ := by
  decide

omit [EVController ρ] in
theorem wp_getSessionId {length : Nat} (valid : ValidResume world.session)
    (zeros : checkSessionId (String.ofList (List.replicate (2 * length) '0')) = .ok ⟨⟩) :
    wp (getSessionId length)
      (fun sessionId next => checkSessionId sessionId = .ok ⟨⟩ ∧
        next.session.protocol = world.session.protocol)
      (fun _ _ => False) world := by
  unfold getSessionId
  simp only [wp_bind, wp_updateSession, wp_get, wp_pure]
  refine ⟨?_, trivial⟩
  cases resume : world.session.resumeSessionId with
  | none => exact zeros
  | some sessionId =>
      have allowed := valid sessionId resume
      by_cases empty : sessionId = ""
      · rw [empty]
        exact zeros
      · simp [Option.filter, empty, allowed]

/-- The EVCC has stored a protocol and goes to a `SessionSetup`. -/
def GoesTo (protocol : Protocol) (state : SessionSetupState) (next : World ρ) : Prop :=
  next.session.protocol = protocol ∧ next.currentState.nextState = some (.state state)

omit [EVController ρ] in
theorem goesTo_createNextMessage {protocol : Protocol} {req : SessionSetupReq}
    (stored : world.session.protocol = protocol) :
    wp (createNextMessage req) (fun _ => GoesTo protocol req.state) (fun _ _ => False) world :=
  ⟨stored, rfl⟩

/-- The state after a match is that of the protocol which the entry names. -/
theorem wp_onMatch (hasIds : HasEvccIds ρ) (valid : ValidResume world.session)
    {entry : AppProtocol} {protocol : Protocol} {state : SessionSetupState} {evccIdV2 : String}
    (named : entry.protocolNs = protocol.ns) (setup : protocol.sessionSetup = some state) :
    wp (onMatch entry evccIdV2) (fun _ => GoesTo protocol state) (fun _ _ => False) world := by
  unfold onMatch
  rw [named, Secc.Sap.isV20_ns, Protocol.getByNs_ns, setup]
  simp only [Protocol.ns_eq_iff, wp_ite, wp_bind, wp_updateSession]
  split
  next isV2 =>
    subst isV2
    cases setup
    apply wp_mono _ _ (wp_getSessionId (by exact valid) checkSessionId_zeros.1)
    · rintro sessionId next ⟨allowed, stored⟩
      rw [allowed]
      exact goesTo_createNextMessage stored
    · exact fun _ _ => id
  next notV2 =>
    split
    next isDin =>
      subst isDin
      cases setup
      apply wp_mono _ _ (wp_getSessionId (by exact valid) checkSessionId_zeros.1)
      · rintro sessionId next ⟨allowed, stored⟩
        rw [wp_bind]
        apply wp_mono _ _ (wp_evccIdFor hasIds (by rfl))
        · rintro evccId last ⟨session, _⟩
          rw [allowed]
          apply goesTo_createNextMessage
          rw [session]
          exact stored
        · exact fun _ _ => id
      · exact fun _ _ => id
    next notDin =>
      have isV20 : state = .v20 := by
        cases protocol <;> first | contradiction | (cases setup; rfl)
      subst isV20
      rw [if_pos (by decide)]
      apply wp_mono _ _ (wp_getSessionId (by exact valid) checkSessionId_zeros.2)
      · rintro sessionId next ⟨allowed, stored⟩
        rw [allowed]
        change wp (evccIdFor .v20 protocol >>= fun _ => _) _ _ next
        rw [wp_bind]
        apply wp_mono _ _ (wp_evccIdFor hasIds setup)
        · rintro evccId last ⟨session, _⟩
          apply goesTo_createNextMessage
          rw [session]
          exact stored
        · exact fun _ _ => id
      · exact fun _ _ => id

omit [EVController ρ] in
/-- `FAILED` is no part of the value of `FAILED_NO_NEGOTIATION`. -/
theorem isFailed_eq_false (responseCode : ResponseCodeSAP) : isFailed responseCode = false := by
  cases responseCode <;> decide

/-- The EVCC looks for the schema id of every response. -/
theorem wp_processMessage_res (hasIds : HasEvccIds ρ) {sapRes : SupportedAppProtocolRes}
    {onOk : PUnit → World ρ → Prop}
    (found : ∀ entry evccIdV2 (next : World ρ), next.session = world.session →
      (world.session.supportedAppProtocols.find? fun entry =>
        some entry.schemaId = sapRes.schemaId) = some entry →
      wp (onMatch entry evccIdV2) onOk (fun _ _ => False) next)
    (missing : ∀ next : World ρ,
      (world.session.supportedAppProtocols.find? fun entry =>
        some entry.schemaId = sapRes.schemaId) = none →
      wp stopStateMachine onOk (fun _ _ => False) next) :
    wp (processMessage (.res sapRes)) onOk (fun _ _ => False) world := by
  unfold processMessage
  dsimp only
  rw [isFailed_eq_false]
  unfold onSupportedAppProtocolRes
  change wp (evccIdFor .v2 .iso15118_2 >>= fun _ => _) _ _ world
  rw [wp_bind]
  apply wp_mono _ _ (wp_evccIdFor hasIds (by rfl))
  · rintro evccIdV2 next ⟨session, _⟩
    rw [wp_bind, wp_get, session]
    cases chosen : world.session.supportedAppProtocols.find? fun entry =>
        some entry.schemaId = sapRes.schemaId with
    | some entry => exact found entry evccIdV2 next session chosen
    | none => exact missing next chosen
  · exact fun _ _ => id

end

end Evcc.Sap

/-! ## A negotiation -/

namespace ProtocolNegotiation.Sample

/-- A vehicle without a network interface. -/
abbrev Vehicle := PUnit.{1}

/-- The ids of a simulated vehicle. -/
instance : Evcc.Sap.EVController Vehicle where
  getEvccId protocol :=
    match protocol with
    | .unknown => throw .valueError
    | .dinSpec70121 | .iso15118_2 => return "000000000000"
    | _ => return "WMIV1234567890ABCDEX"

/-- A station that prefers no protocol. -/
def secc : Secc.Sap.World where
  session := { supportedProtocols := [.iso15118_20Dc, .iso15118_2] }
  evDataContext := {}
  evseDataContext := {}
  serviceRegistry := ⟨⟩
  currentState := { own := ⟨⟩ }
  calls := []

def start : Evcc.Sap.Session :=
  { supportedProtocols := [.dinSpec70121, .iso15118_2, .iso15118_20Dc] }

def entry (protocol : Protocol) (majorVersion : Int) (id : Nat) (range : 1 ≤ id ∧ id ≤ 20) :
    AppProtocol :=
  ⟨protocol.ns, majorVersion, 0, id, id, AppProtocol.schemaId_of_priority range, range⟩

def sapReq : SupportedAppProtocolReq :=
  ⟨[entry .iso15118_2 2 1 AppProtocol.priority_one, entry .iso15118_20Dc 1 2 (by decide)]⟩

def evcc : Evcc.Sap.World Vehicle where
  session :=
    { start with
      supportedProtocols := [.iso15118_2, .iso15118_20Dc]
      supportedAppProtocols := sapReq.appProtocol }
  controller := ⟨⟩
  currentState := { own := ⟨⟩ }
  calls := []

theorem hasEvccIds : Evcc.Sap.HasEvccIds Vehicle := by
  rintro protocol state ⟨⟩ setup
  cases protocol <;> cases setup <;> rfl

end ProtocolNegotiation.Sample

/-! ## Agreement -/

/-- Both sides have stored one protocol and go to its `SessionSetup`, or both stop. -/
def Agree {ρ : Type} (secc : Secc.Sap.World) (evcc : Evcc.Sap.World ρ) : Prop :=
  (∃ state, secc.session.protocol.sessionSetup = some state ∧
    evcc.session.protocol = secc.session.protocol ∧
    secc.currentState.nextState = some (.state state) ∧
    evcc.currentState.nextState = some (.state state)) ∨
  secc.currentState.nextState = some .terminate ∧ evcc.currentState.nextState = some .terminate

open Evcc.Sap in
/-- The SECC answers positively when an entry names one of its protocols, with the entry
of highest priority among those. An EVCC that has sent the request agrees. -/
theorem negotiation_agrees {secc : Secc.Sap.World} (sapReq : SupportedAppProtocolReq)
    (known : .unknown ∉ secc.session.supportedProtocols) :
    ∃ next sapRes, Secc.Sap.processMessage (.req sapReq) secc = .ok ⟨⟩ next ∧
      next.currentState.nextV2gtpMsg = some sapRes ∧
      (sapRes.responseCode.isPositive ↔ ∃ entry ∈ sapReq.appProtocol, ∃ protocol,
        Names secc.session.supportedProtocols entry protocol) ∧
      (sapRes.responseCode.isPositive → ∃ entry ∈ sapReq.appProtocol,
        Names secc.session.supportedProtocols entry next.session.protocol ∧
        (∀ other ∈ sapReq.appProtocol,
          (∃ protocol, Names secc.session.supportedProtocols other protocol) →
            entry.priority ≤ other.priority) ∧
        sapRes.schemaId = some entry.schemaId) ∧
      ∀ {ρ : Type} [EVController ρ] (evcc : World ρ) (start : Session),
        createSap start = .ok sapReq evcc.session → HasEvccIds ρ → ValidResume start →
          ∃ next', processMessage (.res sapRes) evcc = .ok ⟨⟩ next' ∧ Agree next next' := by
  rcases Secc.Sap.processMessage_req sapReq known with
    ⟨entry, listed, protocol, state, names, setup, least, ended⟩ | ⟨noneNamed, ended⟩
  · have stored : (Secc.Sap.selectedWorld secc entry state).session.protocol = protocol := by
      unfold Secc.Sap.selectedWorld
      dsimp only
      rw [names.2.1, Protocol.getByNs_ns]
    refine ⟨_, _, ended, rfl, ?_, ?_, ?_⟩
    · constructor
      · intro _
        exact ⟨entry, listed, protocol, names⟩
      · intro _
        exact Secc.Sap.responseCodeFor_isPositive entry
    · intro _
      rw [stored]
      exact ⟨entry, listed, names, least, rfl⟩
    · intro ρ _ evcc start created hasIds valid
      rcases createSap_eq_ok created with ⟨remembered, resume, protocols, built⟩
      have valid' : ValidResume evcc.session := by
        intro sessionId
        rw [resume]
        exact valid sessionId
      have answered : wp
          (processMessage (.res ⟨Secc.Sap.responseCodeFor entry, some entry.schemaId⟩))
          (fun _ => GoesTo protocol state) (fun _ _ => False) evcc := by
        apply wp_processMessage_res hasIds
        · intro found evccIdV2 next session chosen
          rw [remembered, find_schemaId built listed] at chosen
          cases chosen
          apply wp_onMatch hasIds _ names.2.1 setup
          rw [session]
          exact valid'
        · intro next missing
          rw [remembered, find_schemaId built listed] at missing
          cases missing
      rcases eq_ok_of_wp answered with ⟨_, next', ended', goesTo⟩
      refine ⟨next', ended', .inl ⟨state, ?_, ?_, rfl, goesTo.2⟩⟩
      · rw [stored]
        exact setup
      · rw [stored]
        exact goesTo.1
  · refine ⟨_, _, ended, rfl, ?_, ?_, ?_⟩
    · constructor
      · intro impossible
        cases impossible
      · rintro ⟨entry, listed, protocol, names⟩
        exact (noneNamed entry listed protocol names).elim
    · intro impossible
      cases impossible
    · intro ρ _ evcc start created hasIds valid
      have answered : wp (processMessage (.res ⟨.negotiationFailed, none⟩))
          (fun _ next' => next'.currentState.nextState = some .terminate)
          (fun _ _ => False) evcc := by
        refine wp_processMessage_res hasIds ?_ ?_
        · intro found evccIdV2 next session chosen
          have matched := List.find?_some chosen
          exact absurd (of_decide_eq_true matched) nofun
        · intro next missing
          rfl
      obtain ⟨_, next', ended', terminates⟩ := eq_ok_of_wp answered
      exact ⟨next', ended', .inr ⟨rfl, terminates⟩⟩

open ProtocolNegotiation.Sample in
/-- A vehicle that has left out DIN SPEC 70121 because of TLS and prefers ISO 15118-2. -/
theorem negotiation_agrees_v2 :
    ∃ next sapRes next', Secc.Sap.processMessage (.req sapReq) secc = .ok ⟨⟩ next ∧
      next.currentState.nextV2gtpMsg = some sapRes ∧
      Evcc.Sap.processMessage (.res sapRes) evcc = .ok ⟨⟩ next' ∧ Agree next next' := by
  obtain ⟨next, sapRes, ended, prepared, _, _, agrees⟩ :=
    negotiation_agrees sapReq (show .unknown ∉ secc.session.supportedProtocols by decide)
  obtain ⟨next', ended', both⟩ := agrees evcc start rfl hasEvccIds nofun
  exact ⟨next, sapRes, next', ended, prepared, ended', both⟩

end Iso15118
