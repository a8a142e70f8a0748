import Iso15118.Shared.Messages.V2.Datatypes

/-!
# ISO 15118-2 messages

`shared/messages/iso15118_2/body.py` and `msgdef.py`, with the fields that the
states read or set.
-/

namespace Iso15118.Shared.V2

/-! ## Requests -/

structure SessionSetupReq where
  evccId : String
  deriving DecidableEq

structure ServiceDiscoveryReq where
  serviceCategory : Option ServiceCategory
  deriving DecidableEq

structure ServiceDetailReq where
  serviceId : Int
  deriving DecidableEq

/-- `selectedServiceList` has the ids of the selected services. -/
structure PaymentServiceSelectionReq where
  selectedAuthOption : AuthEnum
  selectedServiceList : List Int
  deriving DecidableEq

structure CertificateInstallationReq where
  id : String
  oemProvisioningCert : Certificate
  deriving DecidableEq

structure PaymentDetailsReq where
  emaid : String
  certChain : CertificateChain
  deriving DecidableEq

structure AuthorizationReq where
  id : Option String
  genChallenge : Option (List UInt8)
  deriving DecidableEq

/-- The charge parameters of a request, of the kind that its energy mode has. -/
inductive EVChargeParameter where
  | ac (parameter : ACEVChargeParameter)
  | dc (parameter : DCEVChargeParameter)
  deriving DecidableEq

def EVChargeParameter.isAc : EVChargeParameter → Bool
  | .ac _ => true
  | .dc _ => false

structure ChargeParameterDiscoveryReq where
  maxEntriesSaScheduleTuple : Option Int
  requestedEnergyMode : EnergyTransferMode
  evChargeParameter : EVChargeParameter
  matches_mode : evChargeParameter.isAc = requestedEnergyMode.isAc
  deriving DecidableEq

structure PowerDeliveryReq where
  chargeProgress : ChargeProgress
  saScheduleTupleId : Nat
  chargingProfile : Option ChargingProfile
  dcEvPowerDeliveryParameter : Option DCEVPowerDeliveryParameter
  deriving DecidableEq

structure MeteringReceiptReq where
  id : Option String
  meterInfo : MeterInfo
  deriving DecidableEq

structure SessionStopReq where
  chargingSession : ChargingSession
  deriving DecidableEq

structure CableCheckReq where
  dcEvStatus : DCEVStatus
  deriving DecidableEq

structure PreChargeReq where
  dcEvStatus : DCEVStatus
  evTargetVoltage : PhysicalValue
  evTargetCurrent : PhysicalValue
  deriving DecidableEq

structure CurrentDemandReq where
  dcEvStatus : DCEVStatus
  evTargetCurrent : PhysicalValue
  evMaxVoltageLimit : Option PhysicalValue
  evMaxCurrentLimit : Option PhysicalValue
  evMaxPowerLimit : Option PhysicalValue
  remainingTimeToFullSoc : Option PhysicalValue
  remainingTimeToBulkSoc : Option PhysicalValue
  evTargetVoltage : PhysicalValue
  deriving DecidableEq

inductive Request where
  | sessionSetupReq (req : SessionSetupReq)
  | serviceDiscoveryReq (req : ServiceDiscoveryReq)
  | serviceDetailReq (req : ServiceDetailReq)
  | paymentServiceSelectionReq (req : PaymentServiceSelectionReq)
  | certificateInstallationReq (req : CertificateInstallationReq)
  | certificateUpdateReq
  | paymentDetailsReq (req : PaymentDetailsReq)
  | authorizationReq (req : AuthorizationReq)
  | chargeParameterDiscoveryReq (req : ChargeParameterDiscoveryReq)
  | powerDeliveryReq (req : PowerDeliveryReq)
  | meteringReceiptReq (req : MeteringReceiptReq)
  | sessionStopReq (req : SessionStopReq)
  | chargingStatusReq
  | cableCheckReq (req : CableCheckReq)
  | preChargeReq (req : PreChargeReq)
  | currentDemandReq (req : CurrentDemandReq)
  | weldingDetectionReq
  deriving DecidableEq

/-- The classes of requests. -/
inductive RequestType where
  | sessionSetupReq
  | serviceDiscoveryReq
  | serviceDetailReq
  | paymentServiceSelectionReq
  | certificateInstallationReq
  | certificateUpdateReq
  | paymentDetailsReq
  | authorizationReq
  | chargeParameterDiscoveryReq
  | powerDeliveryReq
  | meteringReceiptReq
  | sessionStopReq
  | chargingStatusReq
  | cableCheckReq
  | preChargeReq
  | currentDemandReq
  | weldingDetectionReq
  deriving DecidableEq, Repr

def Request.requestType : Request → RequestType
  | .sessionSetupReq _ => .sessionSetupReq
  | .serviceDiscoveryReq _ => .serviceDiscoveryReq
  | .serviceDetailReq _ => .serviceDetailReq
  | .paymentServiceSelectionReq _ => .paymentServiceSelectionReq
  | .certificateInstallationReq _ => .certificateInstallationReq
  | .certificateUpdateReq => .certificateUpdateReq
  | .paymentDetailsReq _ => .paymentDetailsReq
  | .authorizationReq _ => .authorizationReq
  | .chargeParameterDiscoveryReq _ => .chargeParameterDiscoveryReq
  | .powerDeliveryReq _ => .powerDeliveryReq
  | .meteringReceiptReq _ => .meteringReceiptReq
  | .sessionStopReq _ => .sessionStopReq
  | .chargingStatusReq => .chargingStatusReq
  | .cableCheckReq _ => .cableCheckReq
  | .preChargeReq _ => .preChargeReq
  | .currentDemandReq _ => .currentDemandReq
  | .weldingDetectionReq => .weldingDetectionReq

/-! ## Responses -/

structure ServiceDiscoveryRes where
  authOptionList : List AuthEnum
  chargeService : ChargeService
  serviceList : Option (List ServiceDetails)
  deriving DecidableEq

structure ChargeParameterDiscoveryRes where
  evseProcessing : EVSEProcessing
  saScheduleList : Option (List SAScheduleTuple)
  acChargeParameter : Option ACEVSEChargeParameter
  dcChargeParameter : Option DCEVSEChargeParameter
  deriving DecidableEq

structure CurrentDemandRes where
  dcEvseStatus : DCEVSEStatus
  evsePresentVoltage : PhysicalValue
  evsePresentCurrent : PhysicalValue
  evseCurrentLimitAchieved : Bool
  evseVoltageLimitAchieved : Bool
  evsePowerLimitAchieved : Bool
  evseMaxVoltageLimit : Option PhysicalValue
  evseMaxCurrentLimit : Option PhysicalValue
  evseMaxPowerLimit : Option PhysicalValue
  evseId : String
  saScheduleTupleId : Nat
  deriving DecidableEq

/-- The body of a response behind its response code. -/
inductive Response where
  | sessionSetupRes (evseId : String)
  | serviceDiscoveryRes (res : ServiceDiscoveryRes)
  | serviceDetailRes (serviceId : Int) (serviceParameterList : Option (List ParameterSet))
  | paymentServiceSelectionRes
  | certificateInstallationRes
  | paymentDetailsRes (genChallenge : List UInt8)
  | authorizationRes (evseProcessing : EVSEProcessing)
  | chargeParameterDiscoveryRes (res : ChargeParameterDiscoveryRes)
  | powerDeliveryRes (acEvseStatus : Option ACEVSEStatus) (dcEvseStatus : Option DCEVSEStatus)
  | meteringReceiptRes (acEvseStatus : Option ACEVSEStatus)
      (dcEvseStatus : Option DCEVSEStatus)
  | sessionStopRes
  | chargingStatusRes (evseId : String) (saScheduleTupleId : Nat) (acEvseStatus : ACEVSEStatus)
      (evseMaxCurrent : Option PhysicalValue) (meterInfo : Option MeterInfo)
      (receiptRequired : Option Bool)
  | cableCheckRes (dcEvseStatus : DCEVSEStatus) (evseProcessing : EVSEProcessing)
  | preChargeRes (dcEvseStatus : DCEVSEStatus) (evsePresentVoltage : PhysicalValue)
  | currentDemandRes (res : CurrentDemandRes)
  | weldingDetectionRes (dcEvseStatus : DCEVSEStatus) (evsePresentVoltage : PhysicalValue)
  deriving DecidableEq

/-! ## Messages -/

/-- The `Signature` element of a header. Only `verify_signature` looks into it. -/
structure Signature where
  signatureValue : List UInt8
  deriving DecidableEq

structure MessageHeader where
  sessionId : String
  signature : Option Signature := none
  deriving DecidableEq

structure RequestMessage where
  header : MessageHeader
  request : Request
  deriving DecidableEq

structure ResponseMessage where
  header : MessageHeader
  responseCode : ResponseCode
  response : Response
  deriving DecidableEq

/-- `V2GMessage`. The schema also allows a body without an element. -/
inductive V2GMessage where
  | request (message : RequestMessage)
  | response (message : ResponseMessage)
  | empty (header : MessageHeader)
  deriving DecidableEq

end Iso15118.Shared.V2
