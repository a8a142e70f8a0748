import Iso15118.Shared.Security.PrivateKeyTransport

/-!
# The installation of a contract certificate

The `CertificateInstallationRes` of ISO 15118-2 from the side that makes it, which is the SECC
where there is no backend, to the side that stores what it contains. The EXI codec, the clock, the
certificate store of each side and the library are parameters.
-/

namespace Iso15118.CertificateInstallation

open Effect
open Iso15118.Shared
open Iso15118.Shared.Security
open Iso15118.Shared.Xmldsig

/-! ## Messages -/

/-- `CertificateChain`. -/
structure CertificateChain where
  id : Option String
  certificate : List UInt8
  subCertificates : Option (List (List UInt8))
  deriving DecidableEq

structure EncryptedPrivateKey where
  id : String
  value : List UInt8
  fits : value.length ≤ 48
  deriving DecidableEq

structure DHPublicKey where
  id : String
  value : List UInt8
  fits : value.length ≤ 65
  deriving DecidableEq

structure EMAID where
  id : String
  value : String
  fits : 14 ≤ value.length ∧ value.length ≤ 15
  deriving DecidableEq

structure CertificateInstallationRes where
  cpsCertChain : CertificateChain
  contractCertChain : CertificateChain
  encryptedPrivateKey : EncryptedPrivateKey
  dhPublicKey : DHPublicKey
  emaid : EMAID
  deriving DecidableEq

/-- A part of the message that is signed. -/
inductive Element where
  | contractCertChain (chain : CertificateChain)
  | encryptedPrivateKey (key : EncryptedPrivateKey)
  | dhPublicKey (key : DHPublicKey)
  | emaid (emaid : EMAID)
  deriving DecidableEq

/-- The EXI encoding of each part. -/
structure Encoded where
  contractCertChain : List UInt8
  encryptedPrivateKey : List UInt8
  dhPublicKey : List UInt8
  emaid : List UInt8

/-- `EXI().to_exi` for the parts that are signed. -/
def encode (toExi : Element → Except PyError (List UInt8)) (res : CertificateInstallationRes) :
    Except PyError Encoded := do
  let contractCertChain ← toExi (.contractCertChain res.contractCertChain)
  let encryptedPrivateKey ← toExi (.encryptedPrivateKey res.encryptedPrivateKey)
  let dhPublicKey ← toExi (.dhPublicKey res.dhPublicKey)
  let emaid ← toExi (.emaid res.emaid)
  return ⟨contractCertChain, encryptedPrivateKey, dhPublicKey, emaid⟩

/-- `elements_to_sign`, with the id of the contract chain. -/
def elementsToSign (id : String) (res : CertificateInstallationRes) (encoded : Encoded) :
    List (String × List UInt8) :=
  [(id, encoded.contractCertChain),
    (res.encryptedPrivateKey.id, encoded.encryptedPrivateKey),
    (res.dhPublicKey.id, encoded.dhPublicKey),
    (res.emaid.id, encoded.emaid)]

variable {κ σ : Type} (library : KeyLibrary κ σ) (toExi : Element → Except PyError (List UInt8))

/-! ## The SECC -/

/-- What is read from the files of the SECC. `contractCn` is `get_cert_cn` of the contract
certificate. -/
structure SeccStore (σ : Type) where
  oemLeafCert : Except PyError (List UInt8)
  contractLeafKey : Except PyError σ
  contractLeafCert : Except PyError (List UInt8)
  moSubCa2Cert : Except PyError (List UInt8)
  moSubCa1Cert : Except PyError (List UInt8)
  contractCn : Except PyError String
  cpsLeafCert : Except PyError (List UInt8)
  cpsSubCa2Cert : Except PyError (List UInt8)
  cpsSubCa1Cert : Except PyError (List UInt8)
  cpsLeafKey : Except PyError σ

/-- What the library and the system draw at random. -/
structure Random where
  ephemeralKey : Nat
  initVector : InitVector
  signature : Nat

/-- A value that must pass the check of its model. -/
def checked {α : Type} (condition : Prop) [Decidable condition] (make : condition → α) :
    Except PyError α :=
  if passes : condition then .ok (make passes) else .error .validationError

/-- The chain of the contract, and that of the certificate provisioning service, which has no id. -/
def certificateChain (id : Option String)
    (leafCert subCa2Cert subCa1Cert : Except PyError (List UInt8)) :
    Except PyError CertificateChain := do
  let certificate ← leafCert
  let subCa2 ← subCa2Cert
  let subCa1 ← subCa1Cert
  return ⟨id, certificate, some [subCa2, subCa1]⟩

/-- The parts of the message, once the key has been encrypted. -/
def buildRes (store : SeccStore σ) (dhPubKey encryptedPrivKeyBytes : List UInt8) :
    Except PyError CertificateInstallationRes := do
  let contractCertChain ←
    certificateChain (some "id1") store.contractLeafCert store.moSubCa2Cert store.moSubCa1Cert
  let encryptedPrivateKey ← checked (encryptedPrivKeyBytes.length ≤ 48) fun fits =>
    (⟨"id2", encryptedPrivKeyBytes, fits⟩ : EncryptedPrivateKey)
  let dhPublicKey ← checked (dhPubKey.length ≤ 65) fun fits =>
    (⟨"id3", dhPubKey, fits⟩ : DHPublicKey)
  let contractCn ← store.contractCn
  let emaid ← checked (14 ≤ contractCn.length ∧ contractCn.length ≤ 15) fun fits =>
    (⟨"id4", contractCn, fits⟩ : EMAID)
  let cpsCertChain ←
    certificateChain none store.cpsLeafCert store.cpsSubCa2Cert store.cpsSubCa1Cert
  return ⟨cpsCertChain, contractCertChain, encryptedPrivateKey, dhPublicKey, emaid⟩

/-- `generate_certificate_installation_res`. -/
def generateCertificateInstallationRes (random : Random) (store : SeccStore σ) :
    Except EncryptionFailure (CertificateInstallationRes × Signature) := do
  let oemProvCert ← raising store.oemLeafCert
  let privKeyToEncrypt ← raising store.contractLeafKey
  let transported ← encryptPrivKey library random.ephemeralKey random.initVector oemProvCert
    privKeyToEncrypt
  let certInstallRes ← raising (buildRes store transported.1 transported.2)
  let encoded ← raising (encode toExi certInstallRes)
  let signatureKey ← raising store.cpsLeafKey
  let signature ← raising (createSignature library.toSigningLibrary random.signature
    (elementsToSign "id1" certInstallRes encoded) signatureKey)
  return (certInstallRes, signature)

/-! ## The EVCC -/

/-- What is read from the files of the EVCC. -/
structure EvccStore (σ : Type) where
  v2gRootCert : Except PyError (List UInt8)
  oemLeafKey : Except PyError σ

/-- `verify_signature` of the four parts. Without an id of the contract chain, no reference can be
compared with it. -/
def verifyRes (now : Int) (signature : Option Signature) (res : CertificateInstallationRes)
    (encoded : Encoded) (subCaCerts : List (List UInt8)) (rootCaCert : List UInt8) :
    Except PyError Bool :=
  match signature, res.contractCertChain.id with
  | none, _ => .error .attributeError
  | some signature, none =>
      if signature.signedInfo.reference.any fun reference => reference.uri.getD "" ≠ "" then
        .error .typeError
      else
        .ok false
  | some signature, some id =>
      verifySignature library.toSigningLibrary now signature (elementsToSign id res encoded)
        res.cpsCertChain.certificate subCaCerts rootCaCert

/-- The decryption of the private key. -/
def decryptRes (store : EvccStore σ) (res : CertificateInstallationRes) :
    Except PyError (List UInt8) := do
  let ecdhPrivKey ← store.oemLeafKey
  let ecdhPubKey ← library.fromEncodedPoint res.dhPublicKey.value
  decryptPrivKey library res.encryptedPrivateKey.value ecdhPrivKey ecdhPubKey

/-- `CertificateInstallation.process_message` of the EVCC behind its check, up to the certificate
and the private key that the controller is given to store. Without them the state machine is
stopped. -/
def onCertificateInstallationRes (now : Int) (store : EvccStore σ) (signature : Option Signature)
    (res : CertificateInstallationRes) : Except PyError (Option (List UInt8 × List UInt8)) := do
  let encoded ← encode toExi res
  match res.cpsCertChain.subCertificates with
  | none => .error .attributeError
  | some subCaCerts => do
      let rootCaCert ← store.v2gRootCert
      let verified ← verifyRes library now signature res encoded subCaCerts rootCaCert
      if verified then
        match decryptRes library store res with
        | .ok decryptedPrivKey => return some (res.contractCertChain.certificate, decryptedPrivKey)
        | .error exception =>
            if exception = .decryptionError ∨ exception = .privateKeyReadError then return none
            else throw exception
      else
        return none

/-! ## What is generated -/

variable {library toExi}

theorem encode_eq_ok_iff {res : CertificateInstallationRes} {encoded : Encoded} :
    encode toExi res = .ok encoded ↔
      toExi (.contractCertChain res.contractCertChain) = .ok encoded.contractCertChain ∧
        toExi (.encryptedPrivateKey res.encryptedPrivateKey) = .ok encoded.encryptedPrivateKey ∧
        toExi (.dhPublicKey res.dhPublicKey) = .ok encoded.dhPublicKey ∧
        toExi (.emaid res.emaid) = .ok encoded.emaid := by
  unfold encode
  simp only [bind_eq_ok_iff, pure_eq_ok_iff]
  constructor
  · rintro ⟨chain, first, key, second, dhPublicKey, third, emaid, fourth, rfl⟩
    exact ⟨first, second, third, fourth⟩
  · rintro ⟨first, second, third, fourth⟩
    exact ⟨_, first, _, second, _, third, _, fourth, rfl⟩

theorem checked_eq_ok_iff {α : Type} {condition : Prop} [Decidable condition]
    {make : condition → α} {value : α} :
    checked condition make = .ok value ↔ ∃ passes, make passes = value := by
  unfold checked
  split <;> simp_all

theorem certificateChain_eq_ok_iff {id : Option String}
    {leafCert subCa2Cert subCa1Cert : Except PyError (List UInt8)} {chain : CertificateChain} :
    certificateChain id leafCert subCa2Cert subCa1Cert = .ok chain ↔
      ∃ leaf subCa2 subCa1, leafCert = .ok leaf ∧ subCa2Cert = .ok subCa2 ∧
        subCa1Cert = .ok subCa1 ∧ chain = ⟨id, leaf, some [subCa2, subCa1]⟩ := by
  unfold certificateChain
  simp only [bind_eq_ok_iff, pure_eq_ok_iff]
  constructor
  · rintro ⟨leaf, first, subCa2, second, subCa1, third, rfl⟩
    exact ⟨leaf, subCa2, subCa1, first, second, third, rfl⟩
  · rintro ⟨leaf, subCa2, subCa1, first, second, third, rfl⟩
    exact ⟨leaf, first, subCa2, second, subCa1, third, rfl⟩

/-- Where the parts of the message come from. -/
structure BuiltFrom (store : SeccStore σ) (dhPubKey encryptedPrivKeyBytes : List UInt8)
    (res : CertificateInstallationRes) : Prop where
  id : res.contractCertChain.id = some "id1"
  contractLeaf : store.contractLeafCert = .ok res.contractCertChain.certificate
  encryptedPrivateKey : res.encryptedPrivateKey.value = encryptedPrivKeyBytes
  dhPublicKey : res.dhPublicKey.value = dhPubKey
  cpsLeaf : store.cpsLeafCert = .ok res.cpsCertChain.certificate
  cpsSubCas : ∃ subCa2 subCa1, store.cpsSubCa2Cert = .ok subCa2 ∧
    store.cpsSubCa1Cert = .ok subCa1 ∧ res.cpsCertChain.subCertificates = some [subCa2, subCa1]

theorem builtFrom_of_buildRes {store : SeccStore σ} {dhPubKey encryptedPrivKeyBytes : List UInt8}
    {res : CertificateInstallationRes}
    (built : buildRes store dhPubKey encryptedPrivKeyBytes = .ok res) :
    BuiltFrom store dhPubKey encryptedPrivKeyBytes res := by
  unfold buildRes at built
  simp only [bind_eq_ok_iff, pure_eq_ok_iff, checked_eq_ok_iff, certificateChain_eq_ok_iff]
    at built
  obtain ⟨_, ⟨leaf, _, _, contractLeaf, _, _, rfl⟩, _, ⟨_, rfl⟩, _, ⟨_, rfl⟩, _, _, _, ⟨_, rfl⟩, _,
    ⟨cpsLeaf, subCa2, subCa1, cpsLoaded, second, first, rfl⟩, rfl⟩ := built
  exact ⟨rfl, contractLeaf, rfl, rfl, cpsLoaded, subCa2, subCa1, second, first, rfl⟩

/-- What a message that has been generated, and its signature, are made of. -/
theorem of_generateCertificateInstallationRes {random : Random} {store : SeccStore σ}
    {res : CertificateInstallationRes} {signature : Signature}
    (generated : generateCertificateInstallationRes library toExi random store =
      .ok (res, signature)) :
    ∃ oemProvCert contractKey dhPubKey encryptedPrivKey encoded cpsKey,
      store.oemLeafCert = .ok oemProvCert ∧ store.contractLeafKey = .ok contractKey ∧
        store.cpsLeafKey = .ok cpsKey ∧
        encryptPrivKey library random.ephemeralKey random.initVector oemProvCert contractKey =
          .ok (dhPubKey, encryptedPrivKey) ∧
        BuiltFrom store dhPubKey encryptedPrivKey res ∧ encode toExi res = .ok encoded ∧
        createSignature library.toSigningLibrary random.signature
          (elementsToSign "id1" res encoded) cpsKey = .ok signature := by
  unfold generateCertificateInstallationRes at generated
  simp only [bind_eq_ok_iff, pure_eq_ok_iff, raising_eq_ok_iff] at generated
  obtain ⟨oemProvCert, oemLoaded, contractKey, keyLoaded, ⟨dhPubKey, encryptedPrivKey⟩, encrypted,
    _, built, encoded, encodes, cpsKey, cpsKeyLoaded, _, created, same⟩ := generated
  cases same
  exact ⟨oemProvCert, contractKey, dhPubKey, encryptedPrivKey, encoded, cpsKey, oemLoaded,
    keyLoaded, cpsKeyLoaded, encrypted, builtFrom_of_buildRes built, encodes, created⟩

/-! ## What is accepted -/

/-- A certificate for the public key of a private one. -/
def Certified (library : KeyLibrary κ σ) (leafCert : Except PyError (List UInt8))
    (leafKey : Except PyError σ) : Prop :=
  ∃ bytes key cert, leafCert = .ok bytes ∧ leafKey = .ok key ∧
    library.loadDerX509Certificate bytes = .ok cert ∧
    cert.publicKey = .ok (.ellipticCurve (library.publicKeyOf key))

/-- No two parts have the same encoding. -/
def Distinct (toExi : Element → Except PyError (List UInt8)) : Prop :=
  ∀ first second bytes, toExi first = .ok bytes → toExi second = .ok bytes → first = second

/-- Two messages with the same signed parts. -/
def SameParts (first second : CertificateInstallationRes) : Prop :=
  first.contractCertChain = second.contractCertChain ∧
    first.encryptedPrivateKey = second.encryptedPrivateKey ∧
    first.dhPublicKey = second.dhPublicKey ∧ first.emaid = second.emaid

/-- An encoding that is signed is that of one of the parts. -/
theorem mem_elementsToSign {id : String} {res : CertificateInstallationRes} {encoded : Encoded}
    (encodes : encode toExi res = .ok encoded) {element : String × List UInt8}
    (member : element ∈ elementsToSign id res encoded) :
    toExi (.contractCertChain res.contractCertChain) = .ok element.2 ∨
      toExi (.encryptedPrivateKey res.encryptedPrivateKey) = .ok element.2 ∨
      toExi (.dhPublicKey res.dhPublicKey) = .ok element.2 ∨
      toExi (.emaid res.emaid) = .ok element.2 := by
  obtain ⟨chain, key, dhPublicKey, emaid⟩ := encode_eq_ok_iff.mp encodes
  simp only [elementsToSign, List.mem_cons, List.not_mem_nil, or_false] at member
  obtain rfl | rfl | rfl | rfl := member
  · exact .inl chain
  · exact .inr (.inl key)
  · exact .inr (.inr (.inl dhPublicKey))
  · exact .inr (.inr (.inr emaid))

/-- Messages with the same signed encodings have the same signed parts. -/
theorem sameParts_of_signed (distinct : Distinct toExi) {id id' : String}
    {res res' : CertificateInstallationRes} {encoded encoded' : Encoded}
    (encodes : encode toExi res = .ok encoded) (encodes' : encode toExi res' = .ok encoded')
    (signed : ∀ element ∈ elementsToSign id' res' encoded',
      element ∈ elementsToSign id res encoded) : SameParts res' res := by
  obtain ⟨chain, key, dhPublicKey, emaid⟩ := encode_eq_ok_iff.mp encodes'
  have part (name : String) {part : Element} {bytes : List UInt8} (exi : toExi part = .ok bytes)
      (listed : (name, bytes) ∈ elementsToSign id' res' encoded') :
      part = .contractCertChain res.contractCertChain ∨
        part = .encryptedPrivateKey res.encryptedPrivateKey ∨
        part = .dhPublicKey res.dhPublicKey ∨ part = .emaid res.emaid := by
    obtain same | same | same | same := mem_elementsToSign encodes (signed _ listed)
    · exact .inl (distinct _ _ _ exi same)
    · exact .inr (.inl (distinct _ _ _ exi same))
    · exact .inr (.inr (.inl (distinct _ _ _ exi same)))
    · exact .inr (.inr (.inr (distinct _ _ _ exi same)))
  refine ⟨?_, ?_, ?_, ?_⟩
  · simpa using part id' chain (by simp [elementsToSign])
  · simpa using part res'.encryptedPrivateKey.id key (by simp [elementsToSign])
  · simpa using part res'.dhPublicKey.id dhPublicKey (by simp [elementsToSign])
  · simpa using part res'.emaid.id emaid (by simp [elementsToSign])

/-- Messages with the same signed parts are decrypted to the same. -/
theorem decryptRes_congr {evStore : EvccStore σ} {res res' : CertificateInstallationRes}
    (same : SameParts res' res) :
    decryptRes library evStore res' = decryptRes library evStore res := by
  obtain ⟨_, key, dhPublicKey, _⟩ := same
  rw [decryptRes, decryptRes, key, dhPublicKey]

/-- The vehicle with the OEM provisioning certificate decrypts the private key of the contract. -/
theorem decryptRes_of_encryptPrivKey (agrees : library.Agrees) {store : SeccStore σ}
    {evStore : EvccStore σ} (oem : Certified library store.oemLeafCert evStore.oemLeafKey)
    {random : Nat} {initVector : InitVector} {oemProvCert : List UInt8} {contractKey : σ}
    {res : CertificateInstallationRes} (loaded : store.oemLeafCert = .ok oemProvCert)
    (encrypts : encryptPrivKey library random initVector oemProvCert contractKey =
      .ok (res.dhPublicKey.value, res.encryptedPrivateKey.value)) :
    decryptRes library evStore res =
      .ok (BigEndian.toBytes 32 (library.privateValue contractKey)) := by
  obtain ⟨_, oemKey, cert, loaded', keyLoaded, certLoaded, certified⟩ := oem
  cases loaded.symm.trans loaded'
  obtain ⟨ecdhPubKey, read, decrypts⟩ :=
    decryptPrivKey_of_encryptPrivKey agrees encrypts certLoaded certified
  rw [decryptRes, keyLoaded, ok_bind, read, ok_bind, decrypts]

/-- A message is accepted under the signature of another one only with the same signed parts. -/
theorem sameParts_of_verifyRes (ideal : Ideal library.toSigningLibrary) (distinct : Distinct toExi)
    {random : Nat} {id : String} {res res' : CertificateInstallationRes}
    {encoded encoded' : Encoded} {cpsKey : σ} {signature : Signature} {now : Int}
    {subCaCerts : List (List UInt8)} {rootCaCert : List UInt8}
    (encodes : encode toExi res = .ok encoded)
    (created : createSignature library.toSigningLibrary random (elementsToSign id res encoded)
      cpsKey = .ok signature)
    (encodes' : encode toExi res' = .ok encoded')
    (verified : verifyRes library now (some signature) res' encoded' subCaCerts rootCaCert =
      .ok true) : SameParts res' res := by
  unfold verifyRes at verified
  cases known : res'.contractCertChain.id with
  | none =>
      rw [known] at verified
      dsimp only at verified
      split at verified <;> cases verified
  | some id' =>
      rw [known] at verified
      dsimp only at verified
      unfold verifySignature at verified
      split at verified
      next equal =>
        rw [(createSignature_eq_ok created).1, List.all_eq_true] at equal
        apply sameParts_of_signed distinct encodes encodes'
        intro element member
        exact (messageDigestsEqual_iff ideal).mp (equal element member)
      next => cases verified

/-- The message that was signed passes the check of its parts. What is left is that of the chain. -/
theorem verifyRes_created (ideal : Ideal library.toSigningLibrary) {random : Nat} {id : String}
    {res : CertificateInstallationRes} {encoded : Encoded} {cpsLeaf : Except PyError (List UInt8)}
    {cpsKey : σ} {signature : Signature} {now : Int} {subCaCerts : List (List UInt8)}
    {rootCaCert : List UInt8} (known : res.contractCertChain.id = some id)
    (created : createSignature library.toSigningLibrary random (elementsToSign id res encoded)
      cpsKey = .ok signature)
    (loaded : cpsLeaf = .ok res.cpsCertChain.certificate)
    (cps : Certified library cpsLeaf (.ok cpsKey)) :
    verifyRes library now (some signature) res encoded subCaCerts rootCaCert =
      verifyChain library.toSigningLibrary now res.cpsCertChain.certificate subCaCerts
        rootCaCert := by
  obtain ⟨_, _, cert, loaded', sameKey, certLoaded, certified⟩ := cps
  cases loaded.symm.trans loaded'
  cases sameKey
  have equal : (elementsToSign id res encoded).all
      (messageDigestsEqual library.toSigningLibrary signature.signedInfo.reference) = true := by
    rw [(createSignature_eq_ok created).1, List.all_eq_true]
    intro element member
    exact (messageDigestsEqual_iff ideal).mpr member
  have value := verifySignatureValue_created ideal created certLoaded certified
  unfold verifyRes
  rw [known]
  dsimp only
  unfold verifySignature
  rw [if_pos equal, value, ok_bind, if_pos rfl]

/-- What is stored is the certificate of an accepted message, and the key that it transports. -/
theorem of_onCertificateInstallationRes {now : Int} {evStore : EvccStore σ}
    {signature : Option Signature} {res : CertificateInstallationRes}
    {stored : List UInt8 × List UInt8}
    (accepted : onCertificateInstallationRes library toExi now evStore signature res =
      .ok (some stored)) :
    ∃ encoded subCaCerts rootCaCert, encode toExi res = .ok encoded ∧
      verifyRes library now signature res encoded subCaCerts rootCaCert = .ok true ∧
      stored.1 = res.contractCertChain.certificate ∧
      decryptRes library evStore res = .ok stored.2 := by
  unfold onCertificateInstallationRes at accepted
  obtain ⟨encoded, encodes, accepted⟩ := bind_eq_ok_iff.mp accepted
  split at accepted
  · cases accepted
  next subCaCerts _ =>
    obtain ⟨rootCaCert, _, accepted⟩ := bind_eq_ok_iff.mp accepted
    obtain ⟨verified, verifies, accepted⟩ := bind_eq_ok_iff.mp accepted
    cases verified with
    | false => cases accepted
    | true =>
        rw [if_pos rfl] at accepted
        refine ⟨encoded, subCaCerts, rootCaCert, encodes, verifies, ?_⟩
        split at accepted
        next decrypted decrypts =>
          cases accepted
          exact ⟨rfl, decrypts⟩
        · split at accepted <;> cases accepted

/-! ## A vehicle and a charging station -/

namespace Sample

/-- Certificates with a signature over one byte, of the leaf, the two authorities and the root. -/
def certificate (pathLength : Option Nat) : Certificate Unit where
  notValidBefore := 0
  notValidAfter := 100
  pathLength := .ok pathLength
  publicKey := .ok (.ellipticCurve ())
  signature := [1, 7]
  tbsCertificateBytes := [1]

/-- Whole blocks after a vector of one block, each byte combined with one of the key. -/
def cipher (key initVector data : List UInt8) : Except PyError (List UInt8) :=
  if initVector.length = 16 ∧ data.length % 16 = 0 then
    .ok (data.map fun byte => byte ^^^ key.headD 0)
  else
    .error .valueError

/-- One key, with the value 5. -/
def keys : KeyLibrary Unit Unit where
  toSigningLibrary :=
    { Security.Sample.signing with
      loadDerX509Certificate
        | [1] => .ok (certificate none)
        | [2] => .ok (certificate (some 0))
        | [3] => .ok (certificate (some 1))
        | [4] => .ok (certificate none)
        | _ => .error .valueError }
  generatePrivateKey _ := ()
  publicBytes _ := 4 :: List.replicate 64 9
  fromEncodedPoint _ := .ok ()
  exchange _ _ := .ok [6]
  privateValue _ := 5
  derive _ secret := List.replicate 16 (secret.headD 0)
  encryptCbc := cipher
  decryptCbc := cipher

theorem ideal_keys : Ideal keys.toSigningLibrary where
  digest_injective := Security.Sample.ideal_signing.digest_injective
  encode_decode := Security.Sample.ideal_signing.encode_decode
  accepts := Security.Sample.ideal_signing.accepts

theorem agrees_keys : keys.Agrees where
  exchange_comm _ _ := rfl
  fromEncodedPoint_publicBytes _ := rfl
  decryptCbc_encryptCbc key initVector data encrypted done := by
    change cipher key initVector data = .ok encrypted at done
    change cipher key initVector encrypted = .ok data
    unfold cipher at done ⊢
    split at done
    next whole =>
      cases done
      rw [List.length_map, if_pos whole, List.map_map]
      congr 1
      refine (List.map_congr_left fun byte _ => ?_).trans (List.map_id data)
      change byte ^^^ key.headD 0 ^^^ key.headD 0 = byte
      rw [UInt8.xor_assoc, UInt8.xor_self, UInt8.xor_zero]
    next => cases done

/-- Encodings of parts with the ids that are used, of chains with two authorities and of one
EMAID. -/
def exi : Element → Except PyError (List UInt8)
  | .contractCertChain chain =>
      if chain.id = some "id1" ∧ chain.subCertificates = some [[12], [13]] then
        .ok (1 :: chain.certificate)
      else
        .error .valueError
  | .encryptedPrivateKey key => if key.id = "id2" then .ok (2 :: key.value) else .error .valueError
  | .dhPublicKey key => if key.id = "id3" then .ok (3 :: key.value) else .error .valueError
  | .emaid emaid =>
      if emaid.id = "id4" ∧ emaid.value = "DE1ABCD2345678" then .ok [4] else .error .valueError

/-- The first byte is that of the kind of part, and the others are its value. -/
theorem distinct_exi : Distinct exi := by
  rintro (⟨id, leaf, subCas⟩ | ⟨id, value, fits⟩ | ⟨id, value, fits⟩ | ⟨id, value, fits⟩)
    (⟨id', leaf', subCas'⟩ | ⟨id', value', fits'⟩ | ⟨id', value', fits'⟩ | ⟨id', value', fits'⟩)
    bytes encodes encodes' <;>
    grind [exi]

def random : Random where
  ephemeralKey := 0
  initVector := ⟨List.replicate 16 77, rfl⟩
  signature := 0

def store : SeccStore Unit where
  oemLeafCert := .ok [1]
  contractLeafKey := .ok ()
  contractLeafCert := .ok [11]
  moSubCa2Cert := .ok [12]
  moSubCa1Cert := .ok [13]
  contractCn := .ok "DE1ABCD2345678"
  cpsLeafCert := .ok [1]
  cpsSubCa2Cert := .ok [2]
  cpsSubCa1Cert := .ok [3]
  cpsLeafKey := .ok ()

def evStore : EvccStore Unit where
  v2gRootCert := .ok [4]
  oemLeafKey := .ok ()

theorem certified : Certified keys (.ok [1]) (.ok ()) :=
  ⟨[1], (), certificate none, rfl, rfl, rfl, rfl⟩

theorem generates : ∃ res signature,
    generateCertificateInstallationRes keys exi random store = .ok (res, signature) := by
  cases generated : generateCertificateInstallationRes keys exi random store with
  | ok answer => exact ⟨answer.1, answer.2, rfl⟩
  | error exception =>
      have succeeds : (generateCertificateInstallationRes keys exi random store).isOk := by
        decide +kernel
      rw [generated] at succeeds
      cases succeeds

end Sample

/-- The response that the SECC generates installs the certificate of the contract and its private
key at the vehicle that it was generated for, if the chain of the certificate provisioning service
is verified. Whatever else the vehicle receives under the same signature, it never stores anything
else. -/
theorem installs_only_generated (ideal : Ideal library.toSigningLibrary)
    (agrees : library.Agrees) (distinct : Distinct toExi) {store : SeccStore σ}
    {evStore : EvccStore σ} (oem : Certified library store.oemLeafCert evStore.oemLeafKey)
    (cps : Certified library store.cpsLeafCert store.cpsLeafKey) {rootCaCert : List UInt8}
    (root : evStore.v2gRootCert = .ok rootCaCert) {random : Random}
    {res : CertificateInstallationRes} {signature : Signature}
    (generated : generateCertificateInstallationRes library toExi random store =
      .ok (res, signature)) (now : Int) :
    ∃ contractCert contractKey, store.contractLeafCert = .ok contractCert ∧
      store.contractLeafKey = .ok contractKey ∧
      (∃ cpsLeaf subCa2 subCa1, store.cpsLeafCert = .ok cpsLeaf ∧
        store.cpsSubCa2Cert = .ok subCa2 ∧ store.cpsSubCa1Cert = .ok subCa1 ∧
        onCertificateInstallationRes library toExi now evStore (some signature) res =
          (verifyChain library.toSigningLibrary now cpsLeaf [subCa2, subCa1] rootCaCert).map
            fun verified => if verified then
              some (contractCert, BigEndian.toBytes 32 (library.privateValue contractKey))
            else none) ∧
      ∀ res' stored,
        onCertificateInstallationRes library toExi now evStore (some signature) res' =
          .ok (some stored) →
        SameParts res' res ∧
          stored = (contractCert, BigEndian.toBytes 32 (library.privateValue contractKey)) := by
  obtain ⟨oemProvCert, contractKey, dhPubKey, encryptedPrivKey, encoded, cpsKey, oemLoaded,
    contractKeyLoaded, cpsKeyLoaded, encrypts, built, encodes, created⟩ :=
    of_generateCertificateInstallationRes generated
  rw [← built.dhPublicKey, ← built.encryptedPrivateKey] at encrypts
  have decrypts := decryptRes_of_encryptPrivKey agrees oem oemLoaded encrypts
  refine ⟨_, contractKey, built.contractLeaf, contractKeyLoaded, ?_, ?_⟩
  · obtain ⟨subCa2, subCa1, second, first, subCas⟩ := built.cpsSubCas
    rw [cpsKeyLoaded] at cps
    refine ⟨_, subCa2, subCa1, built.cpsLeaf, second, first, ?_⟩
    unfold onCertificateInstallationRes
    rw [encodes, ok_bind, subCas]
    dsimp only
    rw [root, ok_bind, verifyRes_created ideal built.id created built.cpsLeaf cps]
    cases verifyChain library.toSigningLibrary now res.cpsCertChain.certificate [subCa2, subCa1]
        rootCaCert with
    | error exception => rfl
    | ok verified =>
        cases verified with
        | false => rfl
        | true =>
            rw [ok_bind, if_pos rfl, decrypts]
            rfl
  · intro res' stored accepted
    obtain ⟨encoded', subCaCerts, rootCaCert', encodes', verified, certificate, decrypts'⟩ :=
      of_onCertificateInstallationRes accepted
    have same := sameParts_of_verifyRes ideal distinct encodes created encodes' verified
    rw [decryptRes_congr same, decrypts] at decrypts'
    rw [same.1] at certificate
    exact ⟨same, Prod.ext certificate (Except.ok.inj decrypts').symm⟩

open Sample in
/-- The certificate and the key are stored, and nothing else is under that signature. -/
theorem installs_only_generated_sample :
    ∃ res signature, generateCertificateInstallationRes keys exi random store =
        .ok (res, signature) ∧
      onCertificateInstallationRes keys exi 50 evStore (some signature) res =
        .ok (some ([11], BigEndian.toBytes 32 5)) ∧
      ∀ res' stored,
        onCertificateInstallationRes keys exi 50 evStore (some signature) res' =
          .ok (some stored) →
        SameParts res' res ∧ stored = ([11], BigEndian.toBytes 32 5) := by
  obtain ⟨res, signature, generated⟩ := generates
  have root : evStore.v2gRootCert = .ok [4] := rfl
  obtain ⟨_, _, contractCert, contractKey, ⟨_, _, _, cpsLeaf, subCa2, subCa1, installs⟩, only⟩ :=
    installs_only_generated ideal_keys agrees_keys distinct_exi certified certified root generated
      50
  cases contractCert
  cases cpsLeaf
  cases subCa2
  cases subCa1
  have verified : verifyChain keys.toSigningLibrary 50 [1] [[2], [3]] [4] = .ok true := by
    decide +kernel
  rw [verified] at installs
  exact ⟨res, signature, generated, installs, only⟩

end Iso15118.CertificateInstallation
