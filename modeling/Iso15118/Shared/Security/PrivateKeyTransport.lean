import Iso15118.Library.BigEndian
import Iso15118.Shared.Security.XmlSignature

/-!
# The transport of a private key

`encrypt_priv_key` and `decrypt_priv_key` of `shared/security.py`. Both sides derive the same
symmetric key, each from its own private key and the public key of the other one. The private key
of a contract is encrypted with it, after an initialization vector.
-/

namespace Iso15118.Shared.Security

/-- The rest of the library. A key for one exchange is generated from a random number, and has an
uncompressed point of its curve for bytes. `derive` is that of `ConcatKDFHash`, and gives 16
bytes. `encryptCbc` and `decryptCbc` are `update` and `finalize` of the encryptor and the decryptor
for AES in the mode CBC, with the key, the initialization vector and the data. -/
structure KeyLibrary (κ σ : Type) extends SigningLibrary κ σ where
  generatePrivateKey : Nat → σ
  publicBytes : κ → List UInt8
  fromEncodedPoint : List UInt8 → Except PyError κ
  exchange : σ → κ → Except PyError (List UInt8)
  privateValue : σ → Nat
  derive : List UInt8 → List UInt8 → List UInt8
  encryptCbc : List UInt8 → List UInt8 → List UInt8 → Except PyError (List UInt8)
  decryptCbc : List UInt8 → List UInt8 → List UInt8 → Except PyError (List UInt8)

/-- What `get_random_bytes(16)` draws. -/
structure InitVector where
  bytes : List UInt8
  length_eq : bytes.length = 16

/-- What `encrypt_priv_key` raises: an `EncryptionError`, or what the library raises. -/
inductive EncryptionFailure where
  | encryptionError
  | raised (exception : PyError)
  deriving DecidableEq

variable {κ σ : Type} (library : KeyLibrary κ σ)

/-! ## The functions -/

/-- The algorithm, the sender and the receiver. -/
def otherInfo : List UInt8 := [0x01, 0x55, 0x56]

/-- The secret that is shared with the owner of a certificate, if its key is on an elliptic
curve. -/
def sharedSecretWith (ecdhPrivKey : σ) : PublicKey κ → Except PyError (List UInt8)
  | .ellipticCurve pubKey => library.exchange ecdhPrivKey pubKey
  | .other => .ok []

def raising {α : Type} : Except PyError α → Except EncryptionFailure α
  | .ok value => .ok value
  | .error exception => .error (.raised exception)

/-- `encrypt_priv_key`. -/
def encryptPrivKey (random : Nat) (initVector : InitVector) (oemProvCert : List UInt8)
    (privKeyToEncrypt : σ) : Except EncryptionFailure (List UInt8 × List UInt8) := do
  let ephemeralEcdhPrivKey := library.generatePrivateKey random
  let ephemeralEcdhPubKey := library.publicBytes (library.publicKeyOf ephemeralEcdhPrivKey)
  let cert ← raising (library.loadDerX509Certificate oemProvCert)
  let oemProvCertPubKey ← raising cert.publicKey
  let sharedSecret ← raising (sharedSecretWith library ephemeralEcdhPrivKey oemProvCertPubKey)
  if sharedSecret = [] then
    .error .encryptionError
  else
    let symmetricKey := library.derive otherInfo sharedSecret
    if library.privateValue privKeyToEncrypt < 256 ^ 32 then
      match library.encryptCbc symmetricKey initVector.bytes
          (BigEndian.toBytes 32 (library.privateValue privKeyToEncrypt)) with
      | .ok encryptedPrivKey => .ok (ephemeralEcdhPubKey, initVector.bytes ++ encryptedPrivKey)
      | .error _ => .error .encryptionError
    else
      .error .encryptionError

/-- `decrypt_priv_key`. -/
def decryptPrivKey (encryptedPrivKeyWithIv : List UInt8) (ecdhPrivKey : σ) (ecdhPubKey : κ) :
    Except PyError (List UInt8) := do
  let sharedSecret ← library.exchange ecdhPrivKey ecdhPubKey
  if sharedSecret = [] then
    .error .decryptionError
  else
    let symmetricKey := library.derive otherInfo sharedSecret
    library.decryptCbc symmetricKey (encryptedPrivKeyWithIv.take 16)
      (encryptedPrivKeyWithIv.drop 16)

/-! ## Round trip -/

/-- What is assumed of the library: an exchange gives both sides the same secret, the bytes of a
key that has been generated are read as that key, and what has been encrypted is decrypted with the
same key and the same initialization vector. -/
structure KeyLibrary.Agrees : Prop where
  exchange_comm : ∀ first second, library.exchange first (library.publicKeyOf second) =
    library.exchange second (library.publicKeyOf first)
  fromEncodedPoint_publicBytes : ∀ random,
    library.fromEncodedPoint
        (library.publicBytes (library.publicKeyOf (library.generatePrivateKey random))) =
      .ok (library.publicKeyOf (library.generatePrivateKey random))
  decryptCbc_encryptCbc : ∀ key initVector data encrypted,
    library.encryptCbc key initVector data = .ok encrypted →
      library.decryptCbc key initVector encrypted = .ok data

variable {library}

theorem raising_eq_ok_iff {α : Type} {answer : Except PyError α} {value : α} :
    raising answer = .ok value ↔ answer = .ok value := by
  cases answer <;> simp [raising]

/-- When a private key can be encrypted, and what it is encrypted to. -/
theorem encryptPrivKey_eq_ok_iff {random : Nat} {initVector : InitVector}
    {oemProvCert dhPublicKey encryptedPrivKey : List UInt8} {privKey : σ} :
    encryptPrivKey library random initVector oemProvCert privKey =
        .ok (dhPublicKey, encryptedPrivKey) ↔
      ∃ cert pubKey secret encrypted, library.loadDerX509Certificate oemProvCert = .ok cert ∧
        cert.publicKey = .ok (.ellipticCurve pubKey) ∧
        library.exchange (library.generatePrivateKey random) pubKey = .ok secret ∧ secret ≠ [] ∧
        library.privateValue privKey < 256 ^ 32 ∧
        library.encryptCbc (library.derive otherInfo secret) initVector.bytes
          (BigEndian.toBytes 32 (library.privateValue privKey)) = .ok encrypted ∧
        dhPublicKey =
          library.publicBytes (library.publicKeyOf (library.generatePrivateKey random)) ∧
        encryptedPrivKey = initVector.bytes ++ encrypted := by
  unfold encryptPrivKey
  simp only [Effect.bind_eq_ok_iff, raising_eq_ok_iff]
  constructor
  · rintro ⟨cert, loaded, key, certified, secret, shared, done⟩
    split at done
    · cases done
    next some =>
      split at done
      next fits =>
        split at done
        next encrypted done' =>
          cases done
          cases key with
          | ellipticCurve pubKey =>
              exact ⟨cert, pubKey, secret, encrypted, loaded, certified, shared, some, fits, done',
                rfl, rfl⟩
          | other =>
              cases shared
              exact absurd rfl some
        · cases done
      · cases done
  · rintro ⟨cert, pubKey, secret, encrypted, loaded, certified, shared, some, fits, done, keyBytes,
      framed⟩
    refine ⟨cert, loaded, .ellipticCurve pubKey, certified, secret, shared, ?_⟩
    rw [if_neg some, if_pos fits, done, keyBytes, framed]

/-- The owner of the certificate decrypts the private value, in 32 bytes. -/
theorem decryptPrivKey_of_encryptPrivKey (agrees : library.Agrees) {random : Nat}
    {initVector : InitVector} {oemProvCert dhPublicKey encryptedPrivKey : List UInt8}
    {privKey oemKey : σ} {cert : Certificate κ}
    (encrypts : encryptPrivKey library random initVector oemProvCert privKey =
      .ok (dhPublicKey, encryptedPrivKey))
    (loaded : library.loadDerX509Certificate oemProvCert = .ok cert)
    (certified : cert.publicKey = .ok (.ellipticCurve (library.publicKeyOf oemKey))) :
    ∃ ecdhPubKey, library.fromEncodedPoint dhPublicKey = .ok ecdhPubKey ∧
      decryptPrivKey library encryptedPrivKey oemKey ecdhPubKey =
        .ok (BigEndian.toBytes 32 (library.privateValue privKey)) := by
  obtain ⟨cert', pubKey, secret, encrypted, loaded', certified', shared, some, _, done, keyBytes,
    framed⟩ := encryptPrivKey_eq_ok_iff.mp encrypts
  cases loaded.symm.trans loaded'
  cases certified.symm.trans certified'
  refine ⟨library.publicKeyOf (library.generatePrivateKey random), ?_, ?_⟩
  · rw [keyBytes, agrees.fromEncodedPoint_publicBytes]
  have first : (initVector.bytes ++ encrypted).take 16 = initVector.bytes := by
    rw [← initVector.length_eq, List.take_left]
  have rest : (initVector.bytes ++ encrypted).drop 16 = encrypted := by
    rw [← initVector.length_eq, List.drop_left]
  unfold decryptPrivKey
  rw [framed, agrees.exchange_comm, shared, Effect.ok_bind, if_neg some, first, rest]
  exact agrees.decryptCbc_encryptCbc _ _ _ _ done

end Iso15118.Shared.Security
