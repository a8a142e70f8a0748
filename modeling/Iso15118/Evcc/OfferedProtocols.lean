import Iso15118.Evcc.SupportedAppProtocol
import Iso15118.Shared.Utils
import Mathlib.Data.List.Range

/-!
# The protocols that the EVCC offers

What is configured, against what the `SupportedAppProtocolReq` of each session lists. The
names in the configuration go through sets, and the list of the configuration is the one
that `create_sap` changes.
-/

namespace Iso15118.Evcc.Sap

open Effect
open Iso15118.Shared

/-- A value of the setting `supported_protocols`, as it is loaded. -/
structure SupportedProtocols where
  protocols : List Protocol
  nodup : protocols.Nodup
  supported : ∀ protocol ∈ protocols, protocol ∈ requestedProtocols.supported.map Prod.snd

/-- `create_sap` in a session over TLS or plain TCP, with the list of the configuration. -/
def createSapWith (protocols : List Protocol) (isTls : Bool) :
    EStateM.Result PyError Session SupportedAppProtocolReq :=
  createSap { supportedProtocols := protocols, isTls := isTls }

/-! ## Requests -/

/-- The entries are those of the protocols in their order, with priorities from one on. -/
def Lists (req : SupportedAppProtocolReq) (protocols : List Protocol) : Prop :=
  req.appProtocol.map AppProtocol.protocolNs = protocols.map Protocol.ns ∧
    req.appProtocol.map AppProtocol.priority = List.range' 1 protocols.length

/-- What a session should offer. -/
def offered (protocols : List Protocol) (isTls : Bool) : List Protocol :=
  if isTls then protocols.filter (· ≠ .dinSpec70121) else protocols

/-- The entries behind `counter` others, when there is room for them. -/
theorem exists_appProtocols {protocols : List Protocol} (known : .unknown ∉ protocols)
    (counter : Nat) (room : counter + protocols.length ≤ 20) :
    ∃ entries, appProtocols counter protocols = .ok entries ∧
      entries.map AppProtocol.protocolNs = protocols.map Protocol.ns ∧
      entries.map AppProtocol.priority = List.range' (counter + 1) protocols.length := by
  induction protocols generalizing counter with
  | nil => exact ⟨[], rfl, rfl, rfl⟩
  | cons protocol rest ih =>
      rw [List.length_cons] at room
      have notUnknown : protocol ≠ .unknown := fun unknown => known (by simp [unknown])
      have later : .unknown ∉ rest := fun listed => known (List.mem_cons_of_mem _ listed)
      obtain ⟨entries, built, names, priorities⟩ := ih later (counter + 1) (by omega)
      have allowed : 1 ≤ counter + 1 ∧ counter + 1 ≤ 20 := by omega
      unfold appProtocols appProtocolEntry
      rw [if_neg notUnknown, dif_pos allowed, ok_bind, built, ok_bind]
      refine ⟨_, rfl, ?_, ?_⟩
      · rw [List.map_cons, List.map_cons, names]
      · rw [List.map_cons, List.length_cons, List.range'_succ, priorities]

namespace SupportedProtocols

variable (config : SupportedProtocols)

theorem length_le : config.protocols.length ≤ 4 :=
  List.Nodup.length_le_of_subset config.nodup config.supported

theorem unknown_not_mem : .unknown ∉ config.protocols := by
  intro listed
  have supported := config.supported .unknown listed
  revert supported
  decide

theorem erase_eq_offered (isTls : Bool) :
    (if isTls then config.protocols.erase .dinSpec70121 else config.protocols) =
      offered config.protocols isTls := by
  unfold offered
  split
  next =>
    rw [config.nodup.erase_eq_filter]
    apply List.filter_congr
    intro protocol _
    cases protocol <;> rfl
  next => rfl

/-- The list of the configuration becomes what the session offers. -/
theorem createSapWith_eq (isTls : Bool) :
    ∃ req session, createSapWith config.protocols isTls = .ok req session ∧
      Lists req (offered config.protocols isTls) ∧
      session.supportedProtocols = offered config.protocols isTls := by
  have sub : ∀ protocol ∈ offered config.protocols isTls, protocol ∈ config.protocols := by
    intro protocol listed
    unfold offered at listed
    split at listed
    next => exact (List.mem_filter.mp listed).1
    next => exact listed
  have short : (offered config.protocols isTls).length ≤ config.protocols.length := by
    unfold offered
    split
    next => exact List.length_filter_le _ _
    next => exact Nat.le_refl _
  have room : 0 + (offered config.protocols isTls).length ≤ 20 := by
    have four := config.length_le
    omega
  have known : .unknown ∉ offered config.protocols isTls :=
    fun listed => config.unknown_not_mem (sub _ listed)
  obtain ⟨entries, built, names, priorities⟩ := exists_appProtocols known 0 room
  refine ⟨⟨entries⟩,
    { supportedProtocols := offered config.protocols isTls
      isTls := isTls
      supportedAppProtocols := entries }, ?_, ⟨names, priorities⟩, rfl⟩
  unfold createSapWith createSap
  rw [modify_bind_apply, get_bind_apply]
  simp only [config.erase_eq_offered, built, Effect.ofExcept]
  rfl

end SupportedProtocols

/-! ## Sessions with one configuration -/

/-- The requests of the sessions, and the list of the configuration after each of them. -/
def createSaps : List Protocol → List Bool →
    List (Except PyError SupportedAppProtocolReq × List Protocol)
  | _, [] => []
  | protocols, isTls :: later =>
      match createSapWith protocols isTls with
      | .ok req session =>
          (.ok req, session.supportedProtocols) :: createSaps session.supportedProtocols later
      | .error exception session =>
          (.error exception, session.supportedProtocols) ::
            createSaps session.supportedProtocols later

/-- What a session should do with the configuration: offer its protocols, and leave it as it
is. -/
def Offers (protocols : List Protocol) (isTls : Bool)
    (result : Except PyError SupportedAppProtocolReq × List Protocol) : Prop :=
  (∃ req, result.1 = .ok req ∧ Lists req (offered protocols isTls)) ∧ result.2 = protocols

/-- Each of the sessions does so, whatever the sessions before it were. -/
def OffersConfigured (protocols : List Protocol) (sessions : List Bool) : Prop :=
  List.Forall₂ (Offers protocols) sessions (createSaps protocols sessions)

variable {config : SupportedProtocols} {isTls : Bool}

theorem offered_eq_self_iff {protocols : List Protocol} :
    offered protocols isTls = protocols ↔ (.dinSpec70121 ∈ protocols → isTls = false) := by
  unfold offered
  split
  next secured =>
    rw [List.filter_eq_self]
    constructor
    · intro others listed
      simpa using others _ listed
    · intro absent protocol listed
      apply decide_eq_true
      rintro rfl
      rw [absent listed] at secured
      cases secured
  next plain => simp [plain]

/-- The configuration decides, and whether a session uses TLS. -/
theorem offersConfigured_iff (config : SupportedProtocols) (sessions : List Bool) :
    OffersConfigured config.protocols sessions ↔
      (.dinSpec70121 ∈ config.protocols → ∀ isTls ∈ sessions, isTls = false) := by
  unfold OffersConfigured
  induction sessions with
  | nil => simp [createSaps]
  | cons isTls later ih =>
      obtain ⟨req, session, created, lists, left⟩ := config.createSapWith_eq isTls
      unfold createSaps
      rw [created]
      dsimp only
      rw [List.forall₂_cons, left]
      constructor
      · rintro ⟨⟨_, same⟩, rest⟩ listed other member
        dsimp only at same
        rw [same] at rest
        rcases List.mem_cons.mp member with rfl | member
        · exact offered_eq_self_iff.mp same listed
        · exact ih.mp rest listed other member
      · intro plain
        have same : offered config.protocols isTls = config.protocols :=
          offered_eq_self_iff.mpr fun listed => plain listed isTls List.mem_cons_self
        constructor
        · exact ⟨⟨req, rfl, lists⟩, same⟩
        · rw [same]
          exact ih.mpr fun listed other member =>
            plain listed other (List.mem_cons_of_mem isTls member)

/-- DIN SPEC 70121 and ISO 15118-2. -/
def sampleProtocols : SupportedProtocols where
  protocols := [.dinSpec70121, .iso15118_2]
  nodup := by decide
  supported := by decide

/-- After a session over TLS, a session over plain TCP does not offer DIN SPEC 70121. -/
theorem sampleProtocols_not_offered :
    ¬OffersConfigured sampleProtocols.protocols [true, false] := by
  intro offers
  obtain ⟨req, session, created, lists, left⟩ := sampleProtocols.createSapWith_eq true
  unfold OffersConfigured createSaps at offers
  rw [created] at offers
  have same := (List.forall₂_cons.mp offers).1.2
  dsimp only at same
  rw [left] at same
  revert same
  decide

/-! ## From the names to the priorities -/

variable {text : StringMethods} {readProtocols : List String}

/-- What the names in a configuration stand for. -/
def configuredProtocols (text : StringMethods) (readProtocols : List String) :
    SupportedProtocols where
  protocols := requestedProtocols.configured text readProtocols
  nodup := Loader.nodup_configured
  supported := by
    intro protocol listed
    obtain ⟨name, _, member⟩ := Loader.mem_configured_iff.mp listed
    exact List.mem_map.mpr ⟨(name, protocol), Loader.member_eq_some_iff.mp member, rfl⟩

/-- Whatever the order of sets is, the protocols are loaded in the order of their first
occurrences in the configuration, and a request gives them priorities in this order. -/
def PrioritiesKept (text : StringMethods) (readProtocols : List String) : Prop :=
  requestedProtocols.listed text readProtocols ≠ [] → ∀ order, ∃ loaded,
    loadRequestedProtocols text order readProtocols = .ok loaded ∧
      loaded = requestedProtocols.configured text readProtocols ∧
      ∀ isTls, ∃ req session, createSapWith loaded isTls = .ok req session ∧
        Lists req (offered loaded isTls)

theorem prioritiesKept_iff_keepsOrder :
    PrioritiesKept text readProtocols ↔ requestedProtocols.KeepsOrder text readProtocols := by
  constructor
  · intro kept some order
    obtain ⟨loaded, loads, rfl, _⟩ := kept some order
    exact loads
  · intro keeps some order
    refine ⟨_, keeps some order, rfl, ?_⟩
    intro isTls
    obtain ⟨req, session, created, lists, _⟩ :=
      (configuredProtocols text readProtocols).createSapWith_eq isTls
    exact ⟨req, session, created, lists⟩

/-- The order of a configuration is kept if it names at most one supported protocol, and so
for the energy services and the authentication modes. -/
theorem configuredOrder_iff (text : StringMethods)
    (readProtocols readServices readAuthModes : List String) :
    (PrioritiesKept text readProtocols ↔ requestedProtocols.AtMostOne text readProtocols) ∧
      (requestedEnergyServices.KeepsOrder text readServices ↔
        requestedEnergyServices.AtMostOne text readServices) ∧
      (requestedAuthModes.KeepsOrder text readAuthModes ↔
        requestedAuthModes.AtMostOne text readAuthModes) :=
  ⟨prioritiesKept_iff_keepsOrder.trans Loader.keepsOrder_iff, Loader.keepsOrder_iff,
    Loader.keepsOrder_iff⟩

/-- On names in capitals and without blanks, the methods change nothing. -/
def plainText : StringMethods := ⟨id, id⟩

/-- A set may list two protocols the other way round. -/
theorem two_not_prioritiesKept :
    ¬∀ text readProtocols, PrioritiesKept text readProtocols := by
  intro kept
  have keeps := prioritiesKept_iff_keepsOrder.mp (kept plainText ["DIN_SPEC_70121", "ISO_15118_2"])
  have single := Loader.keepsOrder_iff.mp keeps "DIN_SPEC_70121" (by decide) "ISO_15118_2"
    (by decide)
  revert single
  decide

end Iso15118.Evcc.Sap
