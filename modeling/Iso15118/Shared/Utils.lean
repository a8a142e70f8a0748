import Iso15118.Library.SetOrder
import Iso15118.Shared.Exceptions
import Iso15118.Shared.Messages.AppProtocol
import Iso15118.Shared.Messages.Enums

/-!
# Settings that are lists of names

The loaders of `shared/utils.py`, which turn the names in a configuration into members of
their enumerations. The names go through sets, whose order Python leaves open.
-/

namespace Iso15118.Shared

/-- The methods of strings that are called for a setting. -/
structure StringMethods where
  strip : String → String
  upper : String → String

/-- A setting as it is compared with the supported names. -/
def StringMethods.normalise (text : StringMethods) (setting : String) : String :=
  text.upper (text.strip setting)

/-- What a loader supports: names and the members that they stand for. -/
structure Loader (α : Type) where
  supported : List (String × α)
  error : PyError
  names_nodup : (supported.map Prod.fst).Nodup
  members_nodup : (supported.map Prod.snd).Nodup

variable (text : StringMethods) (order : SetOrder String)

/-- `_format_list`. -/
def formatList (readSettings : List String) : List String :=
  order.list ((readSettings.filter (· ≠ "")).map text.normalise)

namespace Loader

variable {α : Type} (loader : Loader α)

/-- The member of a name. -/
def member (name : String) : Option α :=
  (loader.supported.find? fun entry => entry.1 = name).map Prod.snd

/-- The supported names among those that a configuration lists. -/
def validNames (readSettings : List String) : List String :=
  order.list ((loader.supported.map Prod.fst).filter (· ∈ formatList text order readSettings))

/-- What the loaders have in common. -/
def load (readSettings : List String) : Except PyError (List α) :=
  if loader.validNames text order readSettings = [] then
    .error loader.error
  else
    .ok ((loader.validNames text order readSettings).filterMap loader.member)

end Loader

def requestedProtocols : Loader Protocol where
  supported :=
    [("ISO_15118_2", .iso15118_2), ("ISO_15118_20_AC", .iso15118_20Ac),
      ("ISO_15118_20_DC", .iso15118_20Dc), ("DIN_SPEC_70121", .dinSpec70121)]
  error := .noSupportedProtocols
  names_nodup := by decide
  members_nodup := by decide

def loadRequestedProtocols (readProtocols : List String) : Except PyError (List Protocol) :=
  requestedProtocols.load text order readProtocols

def requestedEnergyServices : Loader ServiceV20 where
  supported :=
    [("AC", .ac), ("DC", .dc), ("WPT", .wpt), ("DC_ACDP", .dcAcdp), ("AC_BPT", .acBpt),
      ("DC_BPT", .dcBpt), ("DC_ACDP_BPT", .dcAcdpBpt), ("INTERNET", .internet),
      ("PARKING_STATUS", .parkingStatus)]
  error := .noSupportedEnergyServices
  names_nodup := by decide
  members_nodup := by decide

def loadRequestedEnergyServices (readServices : List String) :
    Except PyError (List ServiceV20) :=
  requestedEnergyServices.load text order readServices

def requestedAuthModes : Loader AuthEnum where
  supported := [("EIM", .eim), ("PNC", .pnc)]
  error := .noSupportedAuthenticationModes
  names_nodup := by decide
  members_nodup := by decide

def loadRequestedAuthModes (readAuthModes : List String) : Except PyError (List AuthEnum) :=
  requestedAuthModes.load text order readAuthModes

/-! ## What a configuration lists -/

namespace Loader

variable {α : Type} (loader : Loader α) {text} {order}

/-- The supported names in the order of the configuration, with all repetitions. -/
def listed (text : StringMethods) (readSettings : List String) : List String :=
  ((readSettings.filter (· ≠ "")).map text.normalise).filter
    (· ∈ loader.supported.map Prod.fst)

/-- The members in the order in which the configuration names them first. -/
def configured (text : StringMethods) (readSettings : List String) : List α :=
  (loader.listed text readSettings).eraseDups.filterMap loader.member

variable {loader} {readSettings : List String} {name : String}

theorem member_eq_some_iff {value : α} :
    loader.member name = some value ↔ (name, value) ∈ loader.supported := by
  unfold member
  constructor
  · intro found
    obtain ⟨⟨name', value'⟩, finds, rfl⟩ := Option.map_eq_some_iff.mp found
    have same := List.find?_some finds
    rw [decide_eq_true_eq] at same
    rw [← same]
    exact List.mem_of_find?_eq_some finds
  · intro supported
    have found : (loader.supported.find? fun entry => entry.1 = name).isSome = true :=
      List.find?_isSome.mpr ⟨(name, value), supported, decide_eq_true rfl⟩
    obtain ⟨⟨name', value'⟩, finds⟩ := Option.isSome_iff_exists.mp found
    have same := List.find?_some finds
    rw [decide_eq_true_eq] at same
    have entry := List.inj_on_of_nodup_map loader.names_nodup (List.mem_of_find?_eq_some finds)
      supported same
    rw [finds, entry]
    rfl

/-- No two names stand for the same member. -/
theorem member_injective (first second : String) (value : α)
    (one : value ∈ loader.member first) (two : value ∈ loader.member second) : first = second := by
  have entry := List.inj_on_of_nodup_map loader.members_nodup (member_eq_some_iff.mp one)
    (member_eq_some_iff.mp two) rfl
  exact congrArg Prod.fst entry

theorem isSome_member (supported : name ∈ loader.supported.map Prod.fst) :
    (loader.member name).isSome = true := by
  obtain ⟨⟨name', value⟩, listed, rfl⟩ := List.mem_map.mp supported
  exact Option.isSome_iff_exists.mpr ⟨value, member_eq_some_iff.mpr listed⟩

/-- The names that go into the second set. -/
theorem mem_filter_formatList_iff :
    name ∈ (loader.supported.map Prod.fst).filter (· ∈ formatList text order readSettings) ↔
      name ∈ loader.listed text readSettings := by
  unfold formatList listed
  simp only [List.mem_filter, decide_eq_true_eq, SetOrder.mem_list]
  exact and_comm

theorem mem_validNames_iff :
    name ∈ loader.validNames text order readSettings ↔ name ∈ loader.listed text readSettings := by
  unfold validNames
  rw [SetOrder.mem_list]
  exact mem_filter_formatList_iff

theorem validNames_eq_nil_iff :
    loader.validNames text order readSettings = [] ↔ loader.listed text readSettings = [] := by
  rw [List.eq_nil_iff_forall_not_mem, List.eq_nil_iff_forall_not_mem]
  simp only [mem_validNames_iff]

/-- Without a supported name, the loader says so. -/
theorem load_eq_error (none : loader.listed text readSettings = []) :
    loader.load text order readSettings = .error loader.error :=
  if_pos (validNames_eq_nil_iff.mpr none)

theorem load_eq_ok (some : loader.listed text readSettings ≠ []) :
    loader.load text order readSettings =
      .ok ((loader.validNames text order readSettings).filterMap loader.member) :=
  if_neg fun none => some (validNames_eq_nil_iff.mp none)

theorem mem_configured_iff {value : α} :
    value ∈ loader.configured text readSettings ↔
      ∃ name ∈ loader.listed text readSettings, loader.member name = some value := by
  unfold configured
  simp only [List.mem_filterMap, List.mem_eraseDups]

theorem nodup_configured : (loader.configured text readSettings).Nodup :=
  (SetOrder.nodup_eraseDups _).filterMap member_injective

/-! ## The order of the configuration -/

/-- Whatever the order of sets is, the loader keeps that of the configuration. -/
def KeepsOrder (loader : Loader α) (text : StringMethods) (readSettings : List String) : Prop :=
  loader.listed text readSettings ≠ [] →
    ∀ order, loader.load text order readSettings = .ok (loader.configured text readSettings)

/-- No two different names are supported. -/
def AtMostOne (loader : Loader α) (text : StringMethods) (readSettings : List String) : Prop :=
  ∀ first ∈ loader.listed text readSettings, ∀ second ∈ loader.listed text readSettings,
    first = second

theorem keepsOrder_iff :
    loader.KeepsOrder text readSettings ↔ loader.AtMostOne text readSettings := by
  constructor
  · intro keeps first firstListed second secondListed
    have some : loader.listed text readSettings ≠ [] := List.ne_nil_of_mem firstListed
    -- the elements of the second set, in the order of the first occurrences
    have elements (order : SetOrder String) :
        (loader.supported.map Prod.fst).filter (· ∈ formatList text order readSettings) =
          (loader.supported.map Prod.fst).filter (· ∈ loader.listed text readSettings) := by
      apply List.filter_congr
      intro name supported
      have same := @mem_filter_formatList_iff text order α loader readSettings name
      rw [List.mem_filter] at same
      simpa [supported] using same
    have same (order : SetOrder String) :
        (order.list ((loader.supported.map Prod.fst).filter
          (· ∈ loader.listed text readSettings))).filterMap loader.member =
            loader.configured text readSettings := by
      have loaded := keeps some order
      rw [load_eq_ok some] at loaded
      rw [← elements order]
      exact Except.ok.inj loaded
    have supported {name : String} (listed : name ∈ loader.listed text readSettings) :
        name ∈ loader.supported.map Prod.fst := by
      unfold Loader.listed at listed
      exact of_decide_eq_true (List.mem_filter.mp listed).2
    exact SetOrder.eq_of_forall member_injective _ same
      (List.mem_filter.mpr ⟨supported firstListed, decide_eq_true firstListed⟩)
      (List.mem_filter.mpr ⟨supported secondListed, decide_eq_true secondListed⟩)
      (isSome_member (supported firstListed)) (isSome_member (supported secondListed))
  · intro single some order
    rw [load_eq_ok some]
    unfold configured
    have names : loader.validNames text order readSettings =
        (loader.listed text readSettings).eraseDups := by
      unfold validNames
      apply order.list_eq_of_forall_eq
      · intro name
        rw [mem_filter_formatList_iff, List.mem_eraseDups]
      · exact SetOrder.nodup_eraseDups _
      · intro first firstListed second secondListed
        exact single first (mem_filter_formatList_iff.mp firstListed) second
          (mem_filter_formatList_iff.mp secondListed)
    rw [names]

end Loader

end Iso15118.Shared
