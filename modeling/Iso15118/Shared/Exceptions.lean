/-!
# Exceptions

The Python exceptions that the modelled functions raise, and those the code
defines itself in `shared/exceptions.py`.
-/

namespace Iso15118.Shared

/-- The exception classes that the modelled code raises. -/
inductive PyError where
  | attributeError
  | indexError
  | keyError
  | notImplementedError
  | overflowError
  | stopIteration
  | timeoutError
  | connectionResetError
  | typeError
  | unboundLocalError
  | validationError
  | valueError
  | zeroDivisionError
  | faultyStateImplementationError
  | messageProcessingError
  | invalidV2gtpMessageError
  | invalidPayloadTypeError
  | invalidSdpResponseError
  | sdpFailedError
  | invalidSettingsValueError
  | unknownEnergyService
  | fileNotFoundError
  | certAttributeError
  | certChainLengthError
  | certExpiredError
  | certNotYetValidError
  | certRevokedError
  | certSignatureError
  | keyTypeError
  | extensionNotFound
  | invalidSignature
  | unsupportedAlgorithm
  | privateKeyReadError
  | decryptionError
  | noSupportedProtocols
  | noSupportedEnergyServices
  | noSupportedAuthenticationModes
  /-- Whatever else a controller implementation outside the repository raises. -/
  | controllerError
  deriving DecidableEq, Repr

end Iso15118.Shared
