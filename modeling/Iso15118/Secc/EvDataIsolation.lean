import Iso15118.Secc.Controller.EvDataSharing

/-!
# EV data of different sessions

Every context that is created with default arguments refers to the same limits. So the
limits of an EV are still there after `reset_ev_data_context`, and nothing else is.
-/

namespace Iso15118.Secc

open Iso15118.Shared
open Iso15118.Shared.V20

/-- Contexts that were created with default arguments, by who holds them, and the objects
that they refer to. -/
structure EvDataContexts where
  contexts : Nat → EVDataObject := fun _ => {}
  objects : LimitObjects := .defaults

/-- A context is updated, or replaced by a new one, as `reset_ev_data_context` does. -/
inductive EvDataEvent where
  | update (holder : Nat) (update : Update)
  | create (holder : Nat)

namespace EvDataContexts

/-- What a reader of a context sees. -/
def view (data : EvDataContexts) (holder : Nat) : EVDataContext :=
  (data.contexts holder).attributes.withLimits (data.objects.limitsOf (data.contexts holder))

def apply (data : EvDataContexts) : EvDataEvent → EvDataContexts
  | .update holder update =>
      { contexts :=
          Function.update data.contexts holder
            { data.contexts holder with attributes := update.after (data.view holder) }
        objects := update.limitChange.store (data.contexts holder) data.objects }
  | .create holder => { data with contexts := Function.update data.contexts holder {} }

def run (events : List EvDataEvent) : EvDataContexts :=
  events.foldl apply {}

theorem run_concat (events : List EvDataEvent) (event : EvDataEvent) :
    run (events ++ [event]) = (run events).apply event :=
  List.foldl_concat _ _ _ _

/-- Seen from the context itself, an update is what its method does. -/
theorem view_update (data : EvDataContexts) (holder : Nat) (update : Update) :
    (data.apply (.update holder update)).view holder = update.after (data.view holder) := by
  have same : (data.apply (.update holder update)).contexts holder =
      { data.contexts holder with attributes := update.after (data.view holder) } :=
    Function.update_self _ _ _
  have limits : (data.apply (.update holder update)).objects.limitsOf (data.contexts holder) =
      (update.after (data.view holder)).limits := by
    rw [update.after_limits]
    exact limitsOf_store _ _ _
  unfold view
  rw [same]
  exact congrArg (EVDataContext.withLimits _) limits

end EvDataContexts

/-! ## Stored limits -/

/-- For which current types limits are stored. -/
structure StoredLimits where
  ac : Bool := false
  dc : Bool := false
  deriving DecidableEq

/-- New limits of a current type take the place of the stored ones, and are empty when
the message was rejected. A charge loop message stores the limits that it carries. -/
def LimitChange.stored (stored : StoredLimits) : LimitChange → StoredLimits
  | .none => stored
  | .createAc rated => { stored with ac := rated.isSome }
  | .createDc rated => { stored with dc := rated.isSome }
  | .assignAc new => { stored with ac := stored.ac || decide (new ≠ {}) }
  | .assignDc new => { stored with dc := stored.dc || decide (new ≠ {}) }

def EvDataEvent.stored (stored : StoredLimits) : EvDataEvent → StoredLimits
  | .update _ change => change.limitChange.stored stored
  | .create _ => stored

/-- For which current types a sequence of events has stored limits. -/
def storedLimits (events : List EvDataEvent) : StoredLimits :=
  events.foldl EvDataEvent.stored {}

theorem storedLimits_concat (events : List EvDataEvent) (event : EvDataEvent) :
    storedLimits (events ++ [event]) = event.stored (storedLimits events) :=
  List.foldl_concat _ _ _ _

/-- Limits of a current type are not the default ones when they are stored. -/
structure EVLimits.Told (limits : EVLimits) (stored : StoredLimits) : Prop where
  ac : stored.ac = false ↔ limits.acRated = {} ∧ limits.acSession = {}
  dc : stored.dc = false ↔ limits.dcRated = {} ∧ limits.dcSession = {}

namespace EVLimits.Told

variable {limits : EVLimits} {stored : StoredLimits}

theorem eq_default_iff (told : limits.Told stored) : limits = {} ↔ stored = {} := by
  obtain ⟨acRated, dcRated, acSession, dcSession⟩ := limits
  obtain ⟨ac, dc⟩ := stored
  have storedAc := told.ac
  have storedDc := told.dc
  simp only at storedAc storedDc
  simp only [EVLimits.mk.injEq, StoredLimits.mk.injEq, storedAc, storedDc]
  tauto

/-- Rated limits and the session limits made from them are never both the default ones. -/
theorem not_default_ac (rated : EVACCPDLimits) :
    ¬(rated = {} ∧ EVACCLLimits.ofRated rated = {}) := by
  rintro ⟨rfl, session⟩
  cases session

theorem not_default_dc (rated : EVDCCPDLimits) :
    ¬(rated = {} ∧ EVDCCLLimits.ofRated rated = {}) := by
  rintro ⟨rfl, session⟩
  cases session

theorem change (told : limits.Told stored) (change : LimitChange) :
    (change.on limits).Told (change.stored stored) := by
  cases change with
  | none => exact told
  | createAc rated =>
      cases rated with
      | none => exact ⟨by simp [LimitChange.on, LimitChange.stored], told.dc⟩
      | some rated =>
          exact ⟨by simpa [LimitChange.on, LimitChange.stored] using not_default_ac rated, told.dc⟩
  | createDc rated =>
      cases rated with
      | none => exact ⟨told.ac, by simp [LimitChange.on, LimitChange.stored]⟩
      | some rated =>
          exact ⟨told.ac, by simpa [LimitChange.on, LimitChange.stored] using not_default_dc rated⟩
  | assignAc new =>
      refine ⟨?_, told.dc⟩
      simp only [LimitChange.on, LimitChange.stored, EVACCLLimits.over_eq_default_iff,
        Bool.or_eq_false_iff, told.ac, decide_eq_false_iff_not, not_not]
      tauto
  | assignDc new =>
      refine ⟨told.ac, ?_⟩
      simp only [LimitChange.on, LimitChange.stored, EVDCCLLimits.over_eq_default_iff,
        Bool.or_eq_false_iff, told.dc, decide_eq_false_iff_not, not_not]
      tauto

end EVLimits.Told

/-! ## Isolation -/

theorem EVDataContext.withLimits_default_eq_iff {limits : EVLimits} :
    EVDataContext.withLimits {} limits = {} ↔ limits = {} := by
  constructor
  · intro same
    exact congrArg EVDataContext.limits same
  · rintro rfl
    rfl

theorem EVDataContext.withLimits_eq_self_iff {context : EVDataContext} {limits : EVLimits} :
    context.withLimits limits = context ↔ limits = context.limits := by
  constructor
  · intro same
    exact congrArg EVDataContext.limits same
  · rintro rfl
    rfl

namespace EvDataContexts

/-- Every context refers to the default arguments, and their limits are those that the
events have stored. -/
structure Explained (data : EvDataContexts) (stored : StoredLimits) : Prop where
  references : ∀ holder,
    (data.contexts holder).ratedLimits = 0 ∧ (data.contexts holder).sessionLimits = 0
  limits : (data.objects.limitsOf {}).Told stored

namespace Explained

variable {data : EvDataContexts} {stored : StoredLimits}

/-- Every context sees the limits that a new one sees. -/
theorem limitsOf (explained : data.Explained stored) (objects : LimitObjects) (holder : Nat) :
    objects.limitsOf (data.contexts holder) = objects.limitsOf {} := by
  obtain ⟨rated, session⟩ := explained.references holder
  simp only [LimitObjects.limitsOf, rated, session]

theorem apply (explained : data.Explained stored) (event : EvDataEvent) :
    (data.apply event).Explained (event.stored stored) := by
  cases event with
  | update holder update =>
      constructor
      · intro other
        by_cases same : other = holder
        · subst same
          simpa [EvDataContexts.apply] using explained.references other
        · simpa [EvDataContexts.apply, same] using explained.references other
      · have changed := explained.limits.change update.limitChange
        rw [← explained.limitsOf data.objects holder, ← limitsOf_store,
          explained.limitsOf _ holder] at changed
        exact changed
  | create holder =>
      constructor
      · intro other
        by_cases same : other = holder
        · subst same
          simp [EvDataContexts.apply]
        · simpa [EvDataContexts.apply, same] using explained.references other
      · exact explained.limits

end Explained

theorem explained_run (events : List EvDataEvent) :
    (run events).Explained (storedLimits events) := by
  induction events using List.reverseRecOn with
  | nil => exact ⟨fun _ => ⟨rfl, rfl⟩, by decide, by decide⟩
  | append_singleton events event ih =>
      rw [run_concat, storedLimits_concat]
      exact ih.apply event

/-- A new context shows the limits that all contexts share, and nothing else. -/
theorem view_create (data : EvDataContexts) (holder : Nat) :
    (data.apply (.create holder)).view holder =
      EVDataContext.withLimits {} (data.objects.limitsOf {}) := by
  simp only [view, apply, Function.update_self]

/-- An update of a context is the update of the limits that another one shows. -/
theorem view_update_of_ne {data : EvDataContexts} {stored : StoredLimits}
    (explained : data.Explained stored) {holder other : Nat} (different : other ≠ holder)
    (update : Update) :
    (data.apply (.update holder update)).view other =
      (data.view other).withLimits (update.limitChange.on (data.view other).limits) := by
  have changed := limitsOf_store update.limitChange (data.contexts holder) data.objects
  rw [explained.limitsOf _ holder, ← explained.limitsOf _ other] at changed
  rw [explained.limitsOf _ holder, ← explained.limitsOf _ other] at changed
  simp only [view, apply, Function.update_of_ne different]
  rw [changed]
  rfl


/-- A new context is as good as new exactly when no limits are stored. It shares its rated
and session limits with every other one, which shows an update exactly when the update
changes the limits. -/
theorem evData_isolated_iff (events : List EvDataEvent) (holder : Nat) :
    (((run events).apply (.create holder)).view holder = {} ↔ storedLimits events = {}) ∧
      ∀ other, other ≠ holder →
        ((run events).contexts other).ratedLimits =
          ((run events).contexts holder).ratedLimits ∧
        ((run events).contexts other).sessionLimits =
          ((run events).contexts holder).sessionLimits ∧
        ∀ update,
          ((run events).apply (.update holder update)).view other = (run events).view other ↔
            update.limitChange.on ((run events).view other).limits =
              ((run events).view other).limits := by
  have explained := explained_run events
  constructor
  · rw [view_create, ← explained.limits.eq_default_iff]
    exact EVDataContext.withLimits_default_eq_iff
  · intro other different
    obtain ⟨rated, session⟩ := explained.references other
    obtain ⟨rated', session'⟩ := explained.references holder
    refine ⟨rated.trans rated'.symm, session.trans session'.symm, ?_⟩
    intro update
    rw [view_update_of_ne explained different]
    exact EVDataContext.withLimits_eq_self_iff

/-- A battery of 400 V, which charges with direct current at up to 100 A. -/
def dcChargeParameter : DCChargeParameterDiscoveryReq :=
  .dc
    { evMaxChargePower := ⟨3, 40, int8_three, by decide⟩
      evMinChargePower := ⟨0, 0, int8_zero, int16_zero⟩
      evMaxChargeCurrent := ⟨0, 100, int8_zero, int16_hundred⟩
      evMinChargeCurrent := ⟨0, 0, int8_zero, int16_zero⟩
      evMaxVoltage := ⟨0, 400, int8_zero, int16_fourHundred⟩
      evMinVoltage := ⟨0, 0, int8_zero, int16_zero⟩
      targetSoc := some 80 }

/-- A session that has only told the EVCC id leaves nothing behind. -/
theorem sample_evData_isolated :
    ((run [.update 0 (.evccId "EVCC")]).apply (.create 0)).view 0 = {} ∧
      ((run [.update 0 (.evccId "EVCC")]).apply (.update 0 (.presentSoc 20))).view 1 =
        (run [.update 0 (.evccId "EVCC")]).view 1 := by
  obtain ⟨reset, others⟩ := evData_isolated_iff [.update 0 (.evccId "EVCC")] 0
  obtain ⟨_, _, visible⟩ := others 1 (by decide)
  exact ⟨reset.mpr (by decide), (visible (.presentSoc 20)).mpr rfl⟩

/-- The limits of an EV are those of the next one, and of every other context. -/
theorem dc_limits_leak :
    ((run [.update 0 (.dcChargeParametersV20 .dc dcChargeParameter), .create 0]).view 0) ≠ {} ∧
      ((run [.update 0 (.dcChargeParametersV20 .dc dcChargeParameter)]).view 1) ≠
        (run []).view 1 := by
  decide +kernel

end EvDataContexts

end Iso15118.Secc
