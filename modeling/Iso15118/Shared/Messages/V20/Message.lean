import Iso15118.Shared.Messages.V20.Ac
import Iso15118.Shared.Messages.V20.CommonMessages
import Iso15118.Shared.Messages.V20.Dc

/-!
# The messages of an ISO 15118-20 session

The classes that `EXI.from_exi` builds in the namespaces of ISO 15118-20. A
message is one of them with its header.
-/

namespace Iso15118.Shared.V20

inductive Request where
  | sessionSetupReq (req : SessionSetupReq)
  | authorizationSetupReq
  | authorizationReq (req : AuthorizationReq)
  | certificateInstallationReq
  | serviceDiscoveryReq (req : ServiceDiscoveryReq)
  | serviceDetailReq (req : ServiceDetailReq)
  | serviceSelectionReq (req : ServiceSelectionReq)
  | scheduleExchangeReq (req : ScheduleExchangeReq)
  | powerDeliveryReq (req : PowerDeliveryReq)
  | sessionStopReq (req : SessionStopReq)
  | acChargeParameterDiscoveryReq (req : ACChargeParameterDiscoveryReq)
  | acChargeLoopReq (req : ACChargeLoopReq)
  | dcChargeParameterDiscoveryReq (req : DCChargeParameterDiscoveryReq)
  | dcCableCheckReq
  | dcPreChargeReq (req : DCPreChargeReq)
  | dcChargeLoopReq (req : DCChargeLoopReq)
  | dcWeldingDetectionReq (req : DCWeldingDetectionReq)

/-- The classes of the requests, for the `isinstance` tests. -/
inductive RequestType where
  | sessionSetupReq
  | authorizationSetupReq
  | authorizationReq
  | certificateInstallationReq
  | serviceDiscoveryReq
  | serviceDetailReq
  | serviceSelectionReq
  | scheduleExchangeReq
  | powerDeliveryReq
  | sessionStopReq
  | acChargeParameterDiscoveryReq
  | acChargeLoopReq
  | dcChargeParameterDiscoveryReq
  | dcCableCheckReq
  | dcPreChargeReq
  | dcChargeLoopReq
  | dcWeldingDetectionReq
  deriving DecidableEq, Repr

def Request.requestType : Request → RequestType
  | .sessionSetupReq _ => .sessionSetupReq
  | .authorizationSetupReq => .authorizationSetupReq
  | .authorizationReq _ => .authorizationReq
  | .certificateInstallationReq => .certificateInstallationReq
  | .serviceDiscoveryReq _ => .serviceDiscoveryReq
  | .serviceDetailReq _ => .serviceDetailReq
  | .serviceSelectionReq _ => .serviceSelectionReq
  | .scheduleExchangeReq _ => .scheduleExchangeReq
  | .powerDeliveryReq _ => .powerDeliveryReq
  | .sessionStopReq _ => .sessionStopReq
  | .acChargeParameterDiscoveryReq _ => .acChargeParameterDiscoveryReq
  | .acChargeLoopReq _ => .acChargeLoopReq
  | .dcChargeParameterDiscoveryReq _ => .dcChargeParameterDiscoveryReq
  | .dcCableCheckReq => .dcCableCheckReq
  | .dcPreChargeReq _ => .dcPreChargeReq
  | .dcChargeLoopReq _ => .dcChargeLoopReq
  | .dcWeldingDetectionReq _ => .dcWeldingDetectionReq

inductive Response where
  | sessionSetupRes (evseId : String)
  | authorizationSetupRes (res : AuthorizationSetupRes)
  | authorizationRes (evseProcessing : Processing)
  | certificateInstallationRes
  | serviceDiscoveryRes (res : ServiceDiscoveryRes)
  | serviceDetailRes (res : ServiceDetailRes)
  | serviceSelectionRes
  | scheduleExchangeRes (res : ScheduleExchangeRes)
  | powerDeliveryRes
  | sessionStopRes
  | acChargeParameterDiscoveryRes
  | acChargeLoopRes (evseStatus : Option EVSEStatus)
  | dcChargeParameterDiscoveryRes (res : DCChargeParameterDiscoveryRes)
  | dcCableCheckRes (evseProcessing : Processing)
  | dcPreChargeRes (evsePresentVoltage : RationalNumber)
  | dcChargeLoopRes (evseStatus : Option EVSEStatus) (params : DCChargeLoopResParams)
  | dcWeldingDetectionRes (evsePresentVoltage : RationalNumber)
  deriving DecidableEq

/-- A response with the code that every response carries. -/
structure ResponseMessage where
  header : MessageHeader
  responseCode : ResponseCode
  response : Response
  deriving DecidableEq

structure RequestMessage where
  header : MessageHeader
  request : Request

/-- What the EXI codec can decode in the session. -/
inductive V2GMessage where
  | request (message : RequestMessage)
  | response (message : ResponseMessage)

end Iso15118.Shared.V20
