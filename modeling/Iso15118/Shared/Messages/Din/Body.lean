import Iso15118.Shared.Messages.V2.Datatypes

/-!
# DIN SPEC 70121 messages

`shared/messages/din_spec/body.py`, `datatypes.py` and `msgdef.py`, with the fields
that the states read or set. The status of an EV and of an EVSE have the fields of
their ISO 15118-2 twins.
-/

namespace Iso15118.Shared.Din

open V2

/-! ## Data types -/

/-- An entry of the schedules that are offered. Only their number matters. -/
structure SAScheduleTupleEntry where
  saScheduleTupleId : Nat
  deriving DecidableEq

structure DCEVChargeParameter where
  dcEvStatus : DCEVStatus
  evMaximumCurrentLimit : PhysicalValue
  evMaximumPowerLimit : Option PhysicalValue
  evMaximumVoltageLimit : PhysicalValue
  evEnergyCapacity : Option PhysicalValue
  evEnergyRequest : Option PhysicalValue
  fullSoc : Option Int
  bulkSoc : Option Int
  deriving DecidableEq

inductive ResponseCode where
  | ok
  | okNewSessionEstablished
  | okOldSessionJoined
  | okCertificateExpiresSoon
  | failed
  | failedSequenceError
  | failedServiceIdInvalid
  | failedUnknownSession
  | failedServiceSelectionInvalid
  | failedPaymentSelectionInvalid
  | failedCertificateExpired
  | failedSignatureError
  | failedNoCertificateAvailable
  | failedCertChainError
  | failedChallengeInvalid
  | failedContractCanceled
  | failedWrongChargeParameter
  | failedPowerDeliveryNotApplied
  | failedTariffSelectionInvalid
  | failedChargingProfileInvalid
  | failedEvsePresentVoltageToLow
  | failedMeteringSignatureNotValid
  | failedWrongEnergyTransferMode
  deriving DecidableEq, Repr

/-- `"FAILED" in response_code`. -/
def ResponseCode.isFailed : ResponseCode → Bool
  | .ok | .okNewSessionEstablished | .okOldSessionJoined | .okCertificateExpiresSoon => false
  | _ => true

/-! ## Requests -/

structure SessionSetupReq where
  evccId : String
  deriving DecidableEq

/-- `selectedServiceList` has the ids of the selected services. -/
structure ServicePaymentSelectionReq where
  selectedPaymentOption : AuthEnum
  selectedServiceList : List Int
  deriving DecidableEq

/-- The charge parameters are those of a DC mode. -/
structure ChargeParameterDiscoveryReq where
  requestedEnergyMode : EnergyTransferMode
  dcEvChargeParameter : DCEVChargeParameter
  dc_mode : requestedEnergyMode = .dcExtended ∨ requestedEnergyMode = .dcCore
  deriving DecidableEq

structure PowerDeliveryReq where
  readyToCharge : Bool
  dcEvPowerDeliveryParameter : Option DCEVPowerDeliveryParameter
  deriving DecidableEq

structure CableCheckReq where
  dcEvStatus : DCEVStatus
  deriving DecidableEq

structure PreChargeReq where
  dcEvStatus : DCEVStatus
  evTargetVoltage : PhysicalValue
  evTargetCurrent : PhysicalValue
  deriving DecidableEq

structure CurrentDemandReq where
  dcEvStatus : DCEVStatus
  evTargetCurrent : PhysicalValue
  evMaxVoltageLimit : Option PhysicalValue
  evMaxCurrentLimit : Option PhysicalValue
  evMaxPowerLimit : Option PhysicalValue
  chargingComplete : Bool
  remainingTimeToFullSoc : Option PhysicalValue
  remainingTimeToBulkSoc : Option PhysicalValue
  evTargetVoltage : PhysicalValue
  deriving DecidableEq

inductive Request where
  | sessionSetupReq (req : SessionSetupReq)
  | serviceDiscoveryReq
  | servicePaymentSelectionReq (req : ServicePaymentSelectionReq)
  | contractAuthenticationReq
  | chargeParameterDiscoveryReq (req : ChargeParameterDiscoveryReq)
  | cableCheckReq (req : CableCheckReq)
  | preChargeReq (req : PreChargeReq)
  | powerDeliveryReq (req : PowerDeliveryReq)
  | currentDemandReq (req : CurrentDemandReq)
  | weldingDetectionReq
  | sessionStopReq
  deriving DecidableEq

/-- The classes of requests. -/
inductive RequestType where
  | sessionSetupReq
  | serviceDiscoveryReq
  | servicePaymentSelectionReq
  | contractAuthenticationReq
  | chargeParameterDiscoveryReq
  | cableCheckReq
  | preChargeReq
  | powerDeliveryReq
  | currentDemandReq
  | weldingDetectionReq
  | sessionStopReq
  deriving DecidableEq, Repr

def Request.requestType : Request → RequestType
  | .sessionSetupReq _ => .sessionSetupReq
  | .serviceDiscoveryReq => .serviceDiscoveryReq
  | .servicePaymentSelectionReq _ => .servicePaymentSelectionReq
  | .contractAuthenticationReq => .contractAuthenticationReq
  | .chargeParameterDiscoveryReq _ => .chargeParameterDiscoveryReq
  | .cableCheckReq _ => .cableCheckReq
  | .preChargeReq _ => .preChargeReq
  | .powerDeliveryReq _ => .powerDeliveryReq
  | .currentDemandReq _ => .currentDemandReq
  | .weldingDetectionReq => .weldingDetectionReq
  | .sessionStopReq => .sessionStopReq

/-! ## Responses -/

structure ServiceDiscoveryRes where
  authOptions : List AuthEnum
  freeService : Bool
  energyTransferType : EnergyTransferMode
  deriving DecidableEq

structure ChargeParameterDiscoveryRes where
  evseProcessing : EVSEProcessing
  saScheduleList : Option (List SAScheduleTupleEntry)
  dcChargeParameter : DCEVSEChargeParameter
  deriving DecidableEq

structure CurrentDemandRes where
  dcEvseStatus : DCEVSEStatus
  evsePresentVoltage : PhysicalValue
  evsePresentCurrent : PhysicalValue
  evseCurrentLimitAchieved : Bool
  evseVoltageLimitAchieved : Bool
  evsePowerLimitAchieved : Bool
  evseMaxVoltageLimit : Option PhysicalValue
  evseMaxCurrentLimit : Option PhysicalValue
  evseMaxPowerLimit : Option PhysicalValue
  deriving DecidableEq

/-- The body of a response behind its response code. -/
inductive Response where
  | sessionSetupRes (evseId : String)
  | serviceDiscoveryRes (res : ServiceDiscoveryRes)
  | servicePaymentSelectionRes
  | contractAuthenticationRes (evseProcessing : EVSEProcessing)
  | chargeParameterDiscoveryRes (res : ChargeParameterDiscoveryRes)
  | cableCheckRes (dcEvseStatus : DCEVSEStatus) (evseProcessing : EVSEProcessing)
  | preChargeRes (dcEvseStatus : DCEVSEStatus) (evsePresentVoltage : PhysicalValue)
  | powerDeliveryRes (dcEvseStatus : DCEVSEStatus)
  | currentDemandRes (res : CurrentDemandRes)
  | weldingDetectionRes (dcEvseStatus : DCEVSEStatus) (evsePresentVoltage : PhysicalValue)
  | sessionStopRes
  deriving DecidableEq

/-! ## Messages -/

structure MessageHeader where
  sessionId : String
  deriving DecidableEq

structure RequestMessage where
  header : MessageHeader
  request : Request
  deriving DecidableEq

structure ResponseMessage where
  header : MessageHeader
  responseCode : ResponseCode
  response : Response
  deriving DecidableEq

/-- `V2GMessage`. The schema also allows a body without an element. -/
inductive V2GMessage where
  | request (message : RequestMessage)
  | response (message : ResponseMessage)
  | empty (header : MessageHeader)
  deriving DecidableEq

end Iso15118.Shared.Din
