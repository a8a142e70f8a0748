import Iso15118.Library.BigEndian
import Iso15118.Shared.Messages.Xmldsig
import Iso15118.Shared.Security.CertificateChain

/-!
# XML signatures

`create_signature` and `verify_signature` of `shared/security.py`. A signature has a
reference with a digest for each signed element; what is signed are the references.
-/

namespace Iso15118.Shared.Security

open Effect
open Iso15118.Shared.Xmldsig

/-- The rest of the library, and the EXI codec. `signWith` takes the random number of ECDSA.
Signatures are DER encoded pairs of numbers. -/
structure SigningLibrary (κ σ : Type) extends Cryptography κ where
  createDigest : List UInt8 → List UInt8
  toExi : SignedInfo → Except PyError (List UInt8)
  publicKeyOf : σ → κ
  signWith : Nat → σ → List UInt8 → List UInt8
  decodeDssSignature : List UInt8 → Nat × Nat
  encodeDssSignature : Nat × Nat → List UInt8

variable {κ σ : Type} (library : SigningLibrary κ σ)

/-! ## Signing -/

def canonicalExi : String := "http://www.w3.org/TR/canonical-exi/"

def sha256 : String := "http://www.w3.org/2001/04/xmlenc#sha256"

def ecdsaSha256 : String := "http://www.w3.org/2001/04/xmldsig-more#ecdsa-sha256"

/-- The reference to an element, given by its id and its EXI encoding. -/
def referenceTo (element : String × List UInt8) : Reference where
  transforms := [canonicalExi]
  digestMethod := sha256
  digestValue := library.createDigest element.2
  uri := some ("#" ++ element.1)

/-- `create_signature`. Each coordinate of the signature is written with 32 bytes. -/
def createSignature (random : Nat) (elementsToSign : List (String × List UInt8))
    (signatureKey : σ) : Except PyError Signature := do
  let signedInfo ← SignedInfo.make canonicalExi ecdsaSha256
    (elementsToSign.map (referenceTo library))
  let exiEncodedSignedInfo ← library.toExi signedInfo
  let coordinates :=
    library.decodeDssSignature (library.signWith random signatureKey exiEncodedSignedInfo)
  if coordinates.1 < 256 ^ 32 ∧ coordinates.2 < 256 ^ 32 then
    return ⟨signedInfo,
      BigEndian.toBytes 32 coordinates.1 ++ BigEndian.toBytes 32 coordinates.2⟩
  else
    throw .overflowError

/-! ## Verification -/

/-- Whether one of the references has the id and the digest of an element. -/
def messageDigestsEqual (reference : List Reference) (element : String × List UInt8) : Bool :=
  reference.any fun reference =>
    decide (reference.uri = some ("#" ++ element.1)) &&
      decide (library.createDigest element.2 = reference.digestValue)

/-- Step 2, whether the signature value was made for the `SignedInfo`. -/
def verifySignatureValue (signature : Signature) (leafCert : List UInt8) :
    Except PyError Bool := do
  let cert ← library.loadDerX509Certificate leafCert
  let publicKey ← cert.publicKey
  let exiEncodedSignedInfo ← library.toExi signature.signedInfo
  let derEncodedSignature := library.encodeDssSignature
    (BigEndian.ofBytes (signature.signatureValue.take 32),
      BigEndian.ofBytes (signature.signatureValue.drop 32))
  match publicKey with
  | .other => throw .keyTypeError
  | .ellipticCurve pubKey =>
      match library.verify pubKey derEncodedSignature exiEncodedSignedInfo with
      | .ok _ => return true
      | .error .invalidSignature => return false
      | .error exception => throw exception

/-- The exceptions of `verify_certs` that make step 3 fail. -/
def isChainError : PyError → Bool
  | .certSignatureError => true
  | .certNotYetValidError => true
  | .certExpiredError => true
  | .certRevokedError => true
  | .certAttributeError => true
  | .certChainLengthError => true
  | _ => false

/-- Step 3, for the certificates that are supplied. -/
def verifyChain (now : Int) (leafCert : List UInt8) (subCaCerts : List (List UInt8))
    (rootCaCert : List UInt8) : Except PyError Bool :=
  if subCaCerts ≠ [] ∧ rootCaCert ≠ [] then
    match verifyCerts library.toCryptography now leafCert subCaCerts rootCaCert false with
    | .ok _ => .ok true
    | .error exception => if isChainError exception then .ok false else .error exception
  else
    .ok true

/-- `verify_signature`. No sub-CA certificates are an empty list, and no root certificate has
no bytes. -/
def verifySignature (now : Int) (signature : Signature)
    (elementsToSign : List (String × List UInt8)) (leafCert : List UInt8)
    (subCaCerts : List (List UInt8)) (rootCaCert : List UInt8) : Except PyError Bool := do
  if elementsToSign.all (messageDigestsEqual library signature.signedInfo.reference) then
    if ← verifySignatureValue library signature leafCert then
      verifyChain library now leafCert subCaCerts rootCaCert
    else
      return false
  else
    return false

/-! ## Ideal signatures -/

/-- What is assumed of the library: no two elements have the same digest, the encoding of a
signature is undone by reading it, and what the matching key has signed is accepted. -/
structure Ideal : Prop where
  digest_injective : Function.Injective library.createDigest
  encode_decode : ∀ random key data,
    library.encodeDssSignature
      (library.decodeDssSignature (library.signWith random key data)) =
    library.signWith random key data
  accepts : ∀ random key data,
    library.verify (library.publicKeyOf key) (library.signWith random key data) data = .ok ()

variable {library} {random : Nat} {elementsToSign : List (String × List UInt8)}
  {signatureKey : σ} {signature : Signature}

/-- A signature has a reference to each element, and two coordinates. -/
theorem createSignature_eq_ok
    (created : createSignature library random elementsToSign signatureKey = .ok signature) :
    signature.signedInfo.reference = elementsToSign.map (referenceTo library) ∧
      ∃ exi, library.toExi signature.signedInfo = .ok exi ∧
        (BigEndian.ofBytes (signature.signatureValue.take 32),
          BigEndian.ofBytes (signature.signatureValue.drop 32)) =
        library.decodeDssSignature (library.signWith random signatureKey exi) := by
  unfold createSignature at created
  rcases bind_eq_ok_iff.mp created with ⟨signedInfo, made, created⟩
  rcases bind_eq_ok_iff.mp created with ⟨exi, encoded, created⟩
  dsimp only at created
  split at created
  next fits =>
    cases created
    refine ⟨SignedInfo.make_eq_ok made, exi, encoded, ?_⟩
    rcases coordinates : library.decodeDssSignature (library.signWith random signatureKey exi)
      with ⟨r, s⟩
    rw [coordinates] at fits
    have first := BigEndian.ofBytes_toBytes_of_lt fits.1
    have second := BigEndian.ofBytes_toBytes_of_lt fits.2
    simp [first, second]
  next => cases created

/-- A reference with the id and the digest of an element is the reference to it. -/
theorem messageDigestsEqual_iff (ideal : Ideal library) {element : String × List UInt8} :
    messageDigestsEqual library (elementsToSign.map (referenceTo library)) element = true ↔
      element ∈ elementsToSign := by
  unfold messageDigestsEqual
  rw [List.any_map, List.any_eq_true]
  constructor
  · rintro ⟨signed, listed, equal⟩
    rcases Bool.and_eq_true_iff.mp equal with ⟨sameUri, sameDigest⟩
    have sameBytes := ideal.digest_injective (of_decide_eq_true sameDigest)
    have sameId : signed.1 = element.1 := by
      have prefixed := Option.some.inj (of_decide_eq_true sameUri)
      simpa [referenceTo] using prefixed
    have same : signed = element := Prod.ext sameId sameBytes.symm
    rw [← same]
    exact listed
  · intro listed
    refine ⟨element, listed, ?_⟩
    simp [referenceTo]

/-- The value of a signature is verified with the certificate of its key. -/
theorem verifySignatureValue_created (ideal : Ideal library)
    (created : createSignature library random elementsToSign signatureKey = .ok signature)
    {leafCert : List UInt8} {cert : Certificate κ}
    (loaded : library.loadDerX509Certificate leafCert = .ok cert)
    (certified : cert.publicKey = .ok (.ellipticCurve (library.publicKeyOf signatureKey))) :
    verifySignatureValue library signature leafCert = .ok true := by
  rcases createSignature_eq_ok created with ⟨_, exi, encoded, coordinates⟩
  have accepted := ideal.accepts random signatureKey exi
  unfold verifySignatureValue
  simp [loaded, certified, encoded, coordinates, ideal.encode_decode, accepted, bind,
    Except.bind, pure, Except.pure]

/-! ## A key -/

namespace Sample

/-- One key, whose signatures depend on the length of the data. -/
def signing : SigningLibrary Unit Unit where
  toCryptography :=
    { pki with
      verify := fun _ signature data =>
        if signature = [UInt8.ofNat data.length, 7] then .ok () else .error .invalidSignature }
  createDigest := id
  toExi signedInfo := .ok (signedInfo.reference.flatMap Reference.digestValue)
  publicKeyOf := id
  signWith _ _ data := [UInt8.ofNat data.length, 7]
  decodeDssSignature bytes := ((bytes.headD 0).toNat, (bytes.tail.headD 0).toNat)
  encodeDssSignature coordinates := [UInt8.ofNat coordinates.1, UInt8.ofNat coordinates.2]

theorem ideal_signing : Ideal signing where
  digest_injective := Function.injective_id
  encode_decode random key data := by
    change [UInt8.ofNat (UInt8.ofNat data.length).toNat, 7] = [UInt8.ofNat data.length, 7]
    rw [UInt8.ofNat_toNat]
  accepts random key data := by simp [signing]

theorem loaded :
    signing.loadDerX509Certificate [1] = .ok (cert none (.ellipticCurve ())) :=
  rfl

def elements : List (String × List UInt8) := [("ID1", [1, 2, 3]), ("ID2", [4, 5])]

end Sample

/-- What `create_signature` has signed is what `verify_signature` accepts: elements that were
all signed, with their ids. -/
theorem verifySignature_createSignature (ideal : Ideal library)
    (created : createSignature library random elementsToSign signatureKey = .ok signature)
    {leafCert : List UInt8} {cert : Certificate κ}
    (loaded : library.loadDerX509Certificate leafCert = .ok cert)
    (certified : cert.publicKey = .ok (.ellipticCurve (library.publicKeyOf signatureKey)))
    (now : Int) (elements : List (String × List UInt8)) :
    verifySignature library now signature elements leafCert [] [] =
      .ok (decide (∀ element ∈ elements, element ∈ elementsToSign)) := by
  have checked : elements.all (messageDigestsEqual library signature.signedInfo.reference) =
      decide (∀ element ∈ elements, element ∈ elementsToSign) := by
    rw [(createSignature_eq_ok created).1, Bool.eq_iff_iff, List.all_eq_true,
      decide_eq_true_iff]
    simp only [messageDigestsEqual_iff ideal]
  unfold verifySignature
  rw [checked, verifySignatureValue_created ideal created loaded certified]
  by_cases signed : ∀ element ∈ elements, element ∈ elementsToSign
  · rw [decide_eq_true signed]
    rfl
  · rw [decide_eq_false signed]
    rfl

open Sample in
/-- Signed elements in another order, and one under the id of another. -/
theorem verifySignature_createSignature_two :
    ∃ signature, createSignature signing 0 elements () = .ok signature ∧
      verifySignature signing 50 signature [("ID2", [4, 5]), ("ID1", [1, 2, 3])] [1] [] [] =
        .ok true ∧
      verifySignature signing 50 signature [("ID2", [1, 2, 3])] [1] [] [] = .ok false := by
  obtain ⟨signature, created⟩ : ∃ signature, createSignature signing 0 elements () =
      .ok signature := ⟨_, rfl⟩
  have verified := verifySignature_createSignature ideal_signing created loaded rfl 50
  exact ⟨signature, created, verified _, verified _⟩

end Iso15118.Shared.Security
