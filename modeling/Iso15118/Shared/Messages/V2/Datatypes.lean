import Iso15118.Shared.Messages.Datatypes
import Iso15118.Shared.Messages.Enums

/-!
# ISO 15118-2 data types

The types of `shared/messages/iso15118_2/datatypes.py` that the SECC states
read. Bounds that a field declares are kept as proofs in the type.
-/

namespace Iso15118.Shared.V2

inductive ChargeProgress where
  | start
  | stop
  | renegotiate
  deriving DecidableEq, Repr

/-- An offset in seconds from now, and how long the interval lasts. -/
structure RelativeTimeInterval where
  start : Int
  duration : Option Int
  start_range : 0 ≤ start ∧ start ≤ 16777214
  duration_range : ∀ seconds ∈ duration, 0 ≤ seconds ∧ seconds ≤ 86400
  deriving DecidableEq

namespace RelativeTimeInterval

theorem start_zero : (0 : Int) ≤ 0 ∧ (0 : Int) ≤ 16777214 := by decide

theorem start_ten : (0 : Int) ≤ 10 ∧ (10 : Int) ≤ 16777214 := by decide

/-- An interval that does not say how long it lasts. -/
theorem duration_none : ∀ seconds ∈ (none : Option Int), 0 ≤ seconds ∧ seconds ≤ 86400 :=
  nofun

theorem duration_ten : ∀ seconds ∈ (some 10 : Option Int), 0 ≤ seconds ∧ seconds ≤ 86400 := by
  decide

end RelativeTimeInterval

structure PMaxScheduleEntry where
  pMax : PhysicalValue
  timeInterval : RelativeTimeInterval
  deriving DecidableEq

structure PMaxSchedule where
  scheduleEntries : List PMaxScheduleEntry
  deriving DecidableEq

structure SAScheduleTuple where
  saScheduleTupleId : Nat
  pMaxSchedule : PMaxSchedule
  deriving DecidableEq

structure ProfileEntryDetails where
  start : Int
  maxPower : PhysicalValue
  deriving DecidableEq

structure ChargingProfile where
  profileEntries : List ProfileEntryDetails
  deriving DecidableEq

/-- An error that the EV reports about itself. -/
inductive DCEVErrorCode where
  | noError
  | failedRessTemperatureInhibit
  | failedEvShiftPosition
  | failedChargerConnectorLockFault
  | failedEvRessMalfunction
  | failedChargingCurrentDifferential
  | failedChargingVoltageOutOfRange
  | failedChargingSystemIncompatibility
  | noData
  | reservedA
  | reservedB
  | reservedC
  deriving DecidableEq, Repr

structure DCEVStatus where
  evReady : Bool
  evErrorCode : DCEVErrorCode
  evRessSoc : Nat
  evRessSoc_range : evRessSoc ≤ 100
  deriving DecidableEq

structure DCEVPowerDeliveryParameter where
  dcEvStatus : DCEVStatus
  bulkChargingComplete : Option Bool
  chargingComplete : Bool
  deriving DecidableEq

inductive ChargingSession where
  | terminate
  | pause
  deriving DecidableEq, Repr

inductive ServiceCategory where
  | charging
  | certificate
  | internet
  | custom
  deriving DecidableEq, Repr

/-- The members of `ServiceID` that the states name. -/
def ServiceID.charging : Int := 1

def ServiceID.certificate : Int := 2

structure ServiceDetails where
  serviceId : Int
  serviceCategory : ServiceCategory
  freeService : Bool
  deriving DecidableEq

/-- `ChargeService`, always with the id and the category of charging. -/
structure ChargeService where
  freeService : Bool
  supportedEnergyTransferMode : List EnergyTransferMode
  deriving DecidableEq

structure Parameter where
  name : String
  strValue : String
  deriving DecidableEq

structure ParameterSet where
  parameterSetId : Int
  parameters : List Parameter
  deriving DecidableEq

/-- A certificate in DER form. -/
abbrev Certificate := List UInt8

structure CertificateChain where
  certificate : Certificate
  subCertificates : Option (List Certificate)
  deriving DecidableEq

structure MeterInfo where
  meterReading : Option Int
  deriving DecidableEq

structure ACEVChargeParameter where
  departureTime : Option Int
  eAmount : PhysicalValue
  evMaxVoltage : PhysicalValue
  evMaxCurrent : PhysicalValue
  evMinCurrent : PhysicalValue
  deriving DecidableEq

structure DCEVChargeParameter where
  departureTime : Option Int
  dcEvStatus : DCEVStatus
  evMaximumCurrentLimit : PhysicalValue
  evMaximumPowerLimit : Option PhysicalValue
  evMaximumVoltageLimit : PhysicalValue
  evEnergyCapacity : Option PhysicalValue
  evEnergyRequest : Option PhysicalValue
  fullSoc : Option Int
  bulkSoc : Option Int
  deriving DecidableEq

inductive EVSEProcessing where
  | finished
  | ongoing
  | ongoingWaitingForCustomer
  deriving DecidableEq, Repr

inductive EVSENotification where
  | none
  | stopCharging
  | reNegotiation
  deriving DecidableEq, Repr

inductive DCEVSEStatusCode where
  | evseNotReady
  | evseReady
  | evseShutdown
  | evseUtilityInterruptEvent
  | evseIsolationMonitoringActive
  | evseEmergencyShutdown
  | evseMalfunction
  | reserved8
  | reserved9
  | reservedA
  | reservedB
  | reservedC
  deriving DecidableEq, Repr

structure ACEVSEStatus where
  notificationMaxDelay : Int
  evseNotification : EVSENotification
  rcd : Bool
  deriving DecidableEq

structure DCEVSEStatus where
  notificationMaxDelay : Int
  evseNotification : EVSENotification
  evseIsolationStatus : Option IsolationLevel
  evseStatusCode : DCEVSEStatusCode
  deriving DecidableEq

structure ACEVSEChargeParameter where
  acEvseStatus : ACEVSEStatus
  evseNominalVoltage : PhysicalValue
  evseMaxCurrent : PhysicalValue
  deriving DecidableEq

structure DCEVSEChargeParameter where
  dcEvseStatus : DCEVSEStatus
  evseMaximumCurrentLimit : PhysicalValue
  evseMaximumPowerLimit : PhysicalValue
  evseMaximumVoltageLimit : PhysicalValue
  evseMinimumCurrentLimit : PhysicalValue
  evseMinimumVoltageLimit : PhysicalValue
  deriving DecidableEq

inductive ResponseCode where
  | ok
  | okNewSessionEstablished
  | okOldSessionJoined
  | okCertificateExpiresSoon
  | failed
  | failedSequenceError
  | failedServiceIdInvalid
  | failedUnknownSession
  | failedServiceSelectionInvalid
  | failedPaymentSelectionInvalid
  | failedCertificateExpired
  | failedSignatureError
  | failedNoCertificateAvailable
  | failedCertChainError
  | failedChallengeInvalid
  | failedContractCanceled
  | failedWrongChargeParameter
  | failedPowerDeliveryNotApplied
  | failedTariffSelectionInvalid
  | failedChargingProfileInvalid
  | failedMeteringSignatureNotValid
  | failedNoChargeServiceSelected
  | failedWrongEnergyTransferMode
  | failedContactorError
  | failedCertificateNotAllowedAtThisEvse
  | failedCertificateRevoked
  deriving DecidableEq, Repr

/-- `"FAILED" in response_code`. -/
def ResponseCode.isFailed : ResponseCode → Bool
  | .ok | .okNewSessionEstablished | .okOldSessionJoined | .okCertificateExpiresSoon => false
  | _ => true

end Iso15118.Shared.V2
