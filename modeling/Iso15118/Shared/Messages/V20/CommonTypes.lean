import Iso15118.Shared.Messages.Datatypes

/-!
# ISO 15118-20 common types

`shared/messages/iso15118_20/common_types.py`.
-/

namespace Iso15118.Shared.V20

inductive ResponseCode where
  | ok
  | okCertExpiresSoon
  | okNewSessionEstablished
  | okOldSessionJoined
  | okPowerToleranceConfirmed
  | warnAuthSelectionInvalid
  | warnCertExpired
  | warnCertNotYetValid
  | warnCertRevoked
  | warnCertValidationError
  | warnChallengeInvalid
  | warnEimAuthFailed
  | warnEmspUnknown
  | warnEvPowerProfileViolation
  | warnGeneralPncAuthError
  | warnNoCertAvailable
  | warnNoContractMatchingPcidFound
  | warnPowerToleranceNotConfirmed
  | warnScheduleRenegotiationFailed
  | warnStandbyNotAllowed
  | warnWpt
  | failed
  | failedAssociationError
  | failedContactorError
  | failedEvPowerProfileInvalid
  | failedEvPowerProfileViolation
  | failedMeteringSignatureNotValid
  | failedNoEnergyTransferServiceSelected
  | failedNoServiceRenegotiationSupported
  | failedPauseNotAllowed
  | failedPowerDeliveryNotApplied
  | failedPowerToleranceNotConfirmed
  | failedScheduleRenegotiation
  | failedScheduleSelectionInvalid
  | failedSequenceError
  | failedServiceIdInvalid
  | failedServiceSelectionInvalid
  | failedSignatureError
  | failedUnknownSession
  | failedWrongChargeParameter
  deriving DecidableEq, Repr

/-- `"FAILED" in response_code`: the values of the members from `FAILED` on
begin with that word, the others do not contain it. -/
def ResponseCode.isFailed : ResponseCode → Bool
  | ok | okCertExpiresSoon | okNewSessionEstablished | okOldSessionJoined
  | okPowerToleranceConfirmed | warnAuthSelectionInvalid | warnCertExpired
  | warnCertNotYetValid | warnCertRevoked | warnCertValidationError | warnChallengeInvalid
  | warnEimAuthFailed | warnEmspUnknown | warnEvPowerProfileViolation
  | warnGeneralPncAuthError | warnNoCertAvailable | warnNoContractMatchingPcidFound
  | warnPowerToleranceNotConfirmed | warnScheduleRenegotiationFailed | warnStandbyNotAllowed
  | warnWpt => false
  | _ => true

/-- The `Signature` element of a header. Only `verify_signature` looks into it. -/
structure Signature where
  signatureValue : List UInt8
  deriving DecidableEq

structure MessageHeader where
  sessionId : String
  signature : Option Signature := none
  deriving DecidableEq

inductive Processing where
  | finished
  | ongoing
  | waitingForCustomer
  deriving DecidableEq, Repr

inductive EVSENotification where
  | pause
  | exitStandby
  | terminate
  | meteringConfirmation
  | scheduleRenegotiation
  | serviceRenegotiation
  deriving DecidableEq, Repr

structure EVSEStatus where
  notificationMaxDelay : Int
  evseNotification : EVSENotification
  deriving DecidableEq

/-- State of charge on the wire: `ge=0, le=100`. -/
def SocRange (soc : Option Int) : Prop :=
  ∀ percent ∈ soc, 0 ≤ percent ∧ percent ≤ 100

instance (soc : Option Int) : Decidable (SocRange soc) :=
  inferInstanceAs (Decidable (∀ percent ∈ soc, 0 ≤ percent ∧ percent ≤ 100))

theorem socRange_none : SocRange none :=
  nofun

structure DisplayParameters where
  presentSoc : Option Int
  minSoc : Option Int
  targetSoc : Option Int
  maxSoc : Option Int
  remainingTimeToMinSoc : Option Int
  remainingTimeToTargetSoc : Option Int
  remainingTimeToMaxSoc : Option Int
  chargingComplete : Bool
  batteryEnergyCapacity : Option RationalNumber
  presentSoc_range : SocRange presentSoc
  minSoc_range : SocRange minSoc
  targetSoc_range : SocRange targetSoc
  maxSoc_range : SocRange maxSoc

end Iso15118.Shared.V20
