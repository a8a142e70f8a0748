import Iso15118.Shared.Exceptions

/-!
# XML signatures

The models of `shared/messages/xmldsig.py` that go into a header.
-/

namespace Iso15118.Shared.Xmldsig

/-- `Reference`, with the algorithms of its transforms and its digest. -/
structure Reference where
  transforms : List String
  digestMethod : String
  digestValue : List UInt8
  uri : Option String := none
  deriving DecidableEq

/-- `SignedInfo`. At most four elements are signed. -/
structure SignedInfo where
  canonicalizationMethod : String
  signatureMethod : String
  reference : List Reference
  reference_length : reference.length ≤ 4
  deriving DecidableEq

/-- `SignedInfo(...)`. -/
def SignedInfo.make (canonicalizationMethod signatureMethod : String)
    (reference : List Reference) : Except PyError SignedInfo :=
  if fits : reference.length ≤ 4 then
    .ok ⟨canonicalizationMethod, signatureMethod, reference, fits⟩
  else
    .error .validationError

theorem SignedInfo.make_eq_ok {canonicalizationMethod signatureMethod : String}
    {reference : List Reference} {signedInfo : SignedInfo}
    (made : SignedInfo.make canonicalizationMethod signatureMethod reference = .ok signedInfo) :
    signedInfo.reference = reference := by
  unfold SignedInfo.make at made
  split at made
  next =>
    cases made
    rfl
  next => cases made

/-- `Signature`, with the bytes of its `SignatureValue`. -/
structure Signature where
  signedInfo : SignedInfo
  signatureValue : List UInt8
  deriving DecidableEq

end Iso15118.Shared.Xmldsig
