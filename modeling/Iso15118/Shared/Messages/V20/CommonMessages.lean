import Iso15118.Shared.Messages.Enums
import Iso15118.Shared.Messages.V20.CommonTypes

/-!
# ISO 15118-20 common messages

`shared/messages/iso15118_20/common_messages.py`. Where a validator asks for
exactly one of several fields, the type is a sum.
-/

namespace Iso15118.Shared.V20

structure SessionSetupReq where
  evccId : String
  deriving DecidableEq

structure PnCAuthSetupResParams where
  genChallenge : List UInt8
  supportedProviders : Option (List String)
  deriving DecidableEq

structure AuthorizationSetupRes where
  authServices : List AuthEnum
  certInstallService : Bool
  pncAsRes : Option PnCAuthSetupResParams
  deriving DecidableEq

/-- `PnCAuthReqParams`, with the certificate of its chain. -/
structure PnCAuthReqParams where
  id : Option String
  genChallenge : List UInt8
  certificate : List UInt8
  deriving DecidableEq

/-- At least one of the two authorization modes is set. -/
structure AuthorizationReq where
  selectedAuthService : AuthEnum
  pncParams : Option PnCAuthReqParams
  eimParams : Bool
  mode_set : pncParams.isSome = true ∨ eimParams = true
  deriving DecidableEq

/-- A request for external identification. -/
theorem AuthorizationReq.eim_set :
    (none : Option PnCAuthReqParams).isSome = true ∨ true = true :=
  .inr rfl

/-- The one value that a `Parameter` carries. -/
inductive ParameterValue where
  | boolValue (value : Bool)
  | byteValue (value : Int)
  | shortValue (value : Int)
  | intValue (value : Int)
  | rationalNumber (value : RationalNumber)
  | finiteStr (value : String)
  deriving DecidableEq

structure Parameter where
  name : String
  value : ParameterValue
  deriving DecidableEq

/-- The field `int_value`, which is unset for the other kinds. -/
def Parameter.intValue (parameter : Parameter) : Option Int :=
  match parameter.value with
  | .intValue value => some value
  | _ => none

structure ParameterSet where
  id : Int
  parameters : List Parameter
  deriving DecidableEq

structure ServiceParameterList where
  parameterSets : List ParameterSet
  deriving DecidableEq

structure Service where
  serviceId : Int
  freeService : Bool
  deriving DecidableEq

structure ServiceList where
  services : List Service
  deriving DecidableEq

/-- `ServiceList(...)` has at most eight services. -/
def ServiceList.new (services : List Service) : Except PyError ServiceList :=
  if services.length ≤ 8 then .ok ⟨services⟩ else .error .validationError

structure ServiceDiscoveryReq where
  supportedServiceIds : Option (List Int)
  deriving DecidableEq

structure ServiceDiscoveryRes where
  serviceRenegotiationSupported : Bool
  energyServiceList : ServiceList
  vasList : Option ServiceList
  deriving DecidableEq

structure ServiceDetailReq where
  serviceId : Int
  deriving DecidableEq

structure ServiceDetailRes where
  serviceId : Int
  serviceParameterList : ServiceParameterList
  deriving DecidableEq

structure SelectedService where
  serviceId : Int
  parameterSetId : Int
  deriving DecidableEq

structure ServiceSelectionReq where
  selectedEnergyService : SelectedService
  selectedVasList : Option (List SelectedService)
  deriving DecidableEq

/-- `MatchedService`: what both sides keep of an offered service. -/
structure MatchedService where
  service : ServiceV20
  isEnergyService : Bool
  isFree : Bool
  parameterSets : List ParameterSet
  deriving DecidableEq

def MatchedService.serviceParameterSetIds (matched : MatchedService) : List (Int × Int) :=
  matched.parameterSets.map fun parameterSet => (matched.service.id, parameterSet.id)

structure SelectedEnergyService where
  service : ServiceV20
  isFree : Bool
  parameterSet : ParameterSet
  deriving DecidableEq

/-- The EVCC keeps a service without parameters when it was told none. -/
structure SelectedVAS where
  service : ServiceV20
  isFree : Bool
  parameterSet : Option ParameterSet
  deriving DecidableEq

/-! ## Schedules and power delivery -/

structure ScheduledScheduleExchangeReqParams where
  departureTime : Option Int
  evTargetEnergyRequest : Option RationalNumber
  evMaxEnergyRequest : Option RationalNumber
  evMinEnergyRequest : Option RationalNumber
  deriving DecidableEq

structure DynamicScheduleExchangeReqParams where
  departureTime : Int
  minSoc : Option Int
  targetSoc : Option Int
  evTargetEnergyRequest : RationalNumber
  evMaxEnergyRequest : RationalNumber
  evMinEnergyRequest : RationalNumber
  evMaxV2xEnergyRequest : Option RationalNumber
  evMinV2xEnergyRequest : Option RationalNumber
  deriving DecidableEq

/-- The one parameter block of a `ScheduleExchangeReq`. -/
inductive ScheduleExchangeReqParams where
  | scheduled (params : ScheduledScheduleExchangeReqParams)
  | dynamic (params : DynamicScheduleExchangeReqParams)
  deriving DecidableEq

structure ScheduleExchangeReq where
  maxSupportingPoints : Int
  params : ScheduleExchangeReqParams
  deriving DecidableEq

structure PowerScheduleEntry where
  duration : Int
  power : RationalNumber
  deriving DecidableEq

/-- `ScheduleTuple`, with the entries of its charging schedule. -/
structure ScheduleTuple where
  scheduleTupleId : Int
  chargingEntries : List PowerScheduleEntry
  deriving DecidableEq

structure ScheduledScheduleExchangeResParams where
  scheduleTuples : List ScheduleTuple
  deriving DecidableEq

/-- `PriceLevelSchedule`, with the levels of its entries. -/
structure PriceLevelSchedule where
  numPriceLevels : Int
  priceLevels : List Int
  deriving DecidableEq

structure DynamicScheduleExchangeResParams where
  departureTime : Option Int
  minSoc : Option Int
  targetSoc : Option Int
  priceLevelSchedule : Option PriceLevelSchedule
  deriving DecidableEq

/-- What `get_schedule_exchange_params` may hand to the response. -/
inductive ScheduleExchangeResParams where
  | scheduled (params : ScheduledScheduleExchangeResParams)
  | dynamic (params : DynamicScheduleExchangeResParams)
  deriving DecidableEq

/-- A finished response has its one parameter block. -/
structure ScheduleExchangeRes where
  evseProcessing : Processing
  params : Option ScheduleExchangeResParams
  goToPause : Option Bool
  params_set : evseProcessing ≠ .ongoing → params.isSome = true
  deriving DecidableEq

/-- The power profile of one of the two control modes. -/
inductive EVPowerProfileMode where
  | scheduled (selectedScheduleTupleId : Int)
  | dynamic
  deriving DecidableEq

structure EVPowerProfile where
  entryList : List PowerScheduleEntry
  mode : EVPowerProfileMode
  deriving DecidableEq

inductive ChannelSelection where
  | charge
  | discharge
  deriving DecidableEq, Repr

inductive ChargeProgress where
  | start
  | stop
  | standby
  | scheduleRenegotiation
  deriving DecidableEq, Repr

/-- Once the EV has finished processing and does not stop, the power profile is
set. -/
structure PowerDeliveryReq where
  evProcessing : Processing
  chargeProgress : ChargeProgress
  evPowerProfile : Option EVPowerProfile
  bptChannelSelection : Option ChannelSelection
  profile_set : evProcessing ≠ .ongoing → chargeProgress ≠ .stop → evPowerProfile.isSome = true
  deriving DecidableEq

inductive ChargingSession where
  | pause
  | terminate
  | serviceRenegotiation
  deriving DecidableEq, Repr

structure SessionStopReq where
  chargingSession : ChargingSession
  deriving DecidableEq

end Iso15118.Shared.V20
