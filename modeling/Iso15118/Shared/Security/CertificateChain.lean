import Iso15118.Library.Effect
import Iso15118.Shared.Exceptions
import Mathlib.Data.List.Chain

/-!
# Certificate chains

`verify_certs` of `shared/security.py`. Certificates and the verification of a single
signature are those of a library, which is a parameter.
-/

namespace Iso15118.Shared.Security

open Effect

/-! ## Certificates -/

/-- A public key. Only those on elliptic curves can verify a signature here. -/
inductive PublicKey (κ : Type) where
  | ellipticCurve (key : κ)
  | other
  deriving DecidableEq

/-- What `verify_certs` reads of a certificate. The path length is that of the basic
constraints, which need not have one. Reading it, or the key, may raise. -/
structure Certificate (κ : Type) where
  notValidBefore : Int
  notValidAfter : Int
  pathLength : Except PyError (Option Nat)
  publicKey : Except PyError (PublicKey κ)
  signature : List UInt8
  tbsCertificateBytes : List UInt8

/-- The library. `verify` takes a signature and the signed data. -/
structure Cryptography (κ : Type) where
  loadDerX509Certificate : List UInt8 → Except PyError (Certificate κ)
  verify : κ → List UInt8 → List UInt8 → Except PyError Unit

variable {κ : Type} (library : Cryptography κ)

/-! ## The function -/

/-- `check_validity`, at a time. -/
def checkValidity (now : Int) : List (Certificate κ) → Except PyError Unit
  | [] => .ok ()
  | cert :: certs =>
      if now < cert.notValidBefore then .error .certNotYetValidError
      else if cert.notValidAfter < now then .error .certExpiredError
      else checkValidity now certs

/-- Step 2.a, the loop that finds the sub-CA 2 and the sub-CA 1. -/
def categorize (subCa2Cert subCa1Cert : Option (Certificate κ)) :
    List (Certificate κ) → Except PyError (Option (Certificate κ) × Option (Certificate κ))
  | [] => .ok (subCa2Cert, subCa1Cert)
  | cert :: certs =>
      match cert.pathLength with
      | .error .extensionNotFound => .error .certAttributeError
      | .error exception => .error exception
      | .ok (some 0) =>
          if subCa2Cert.isSome then .error .certAttributeError
          else categorize (some cert) subCa1Cert certs
      | .ok (some 1) =>
          if subCa1Cert.isSome then .error .certAttributeError
          else categorize subCa2Cert (some cert) certs
      | .ok _ => .error .certChainLengthError

/-- The certificates that are found to be a chain. -/
structure CertificateChain (κ : Type) where
  leafCert : Certificate κ
  subCa2Cert : Option (Certificate κ)
  subCa1Cert : Option (Certificate κ)
  rootCaCert : Certificate κ

/-- The certificates in the order in which they issue each other. -/
def CertificateChain.certs (chain : CertificateChain κ) : List (Certificate κ) :=
  chain.leafCert :: (chain.subCa2Cert.toList ++ chain.subCa1Cert.toList ++ [chain.rootCaCert])

/-- The root certificate, where there is one. -/
def loadRootCaCert (rootCaCertBytes : List UInt8) : Except PyError (Option (Certificate κ)) :=
  if rootCaCertBytes = [] then .ok none
  else (library.loadDerX509Certificate rootCaCertBytes).map some

/-- The checks of the number of sub-CA certificates. -/
def checkLength (subCa2Cert subCa1Cert : Option (Certificate κ)) (privateEnvironment : Bool) :
    Except PyError Unit :=
  if subCa2Cert.isNone ∧ privateEnvironment = false then
    .error .certChainLengthError
  else if (subCa2Cert.isSome ∨ subCa1Cert.isSome) ∧ privateEnvironment = true then
    .error .certChainLengthError
  else
    .ok ()

/-- The steps up to 2.a. Without a root certificate there is nothing to verify. -/
def orderedChain (now : Int) (leafCertBytes : List UInt8) (subCaCertsBytes : List (List UInt8))
    (rootCaCertBytes : List UInt8) (privateEnvironment : Bool) :
    Except PyError (Option (CertificateChain κ)) := do
  let leafCert ← library.loadDerX509Certificate leafCertBytes
  let rootCaCert ← loadRootCaCert library rootCaCertBytes
  let subCaDerCerts ← subCaCertsBytes.mapM library.loadDerX509Certificate
  checkValidity now (leafCert :: subCaDerCerts)
  match rootCaCert with
  | none => return none
  | some rootCaCert => do
      let found ← categorize none none subCaDerCerts
      checkLength found.1 found.2 privateEnvironment
      return some ⟨leafCert, found.1, found.2, rootCaCert⟩

/-- The verification of one signature with the key of the issuer. -/
def verifyIssuedBy (issuer cert : Certificate κ) : Except PyError Unit := do
  match ← issuer.publicKey with
  | .ellipticCurve pubKey => library.verify pubKey cert.signature cert.tbsCertificateBytes
  | .other => throw .keyTypeError

/-- Step 2.b. -/
def verifySignatures (chain : CertificateChain κ) (privateEnvironment : Bool) :
    Except PyError Unit :=
  if privateEnvironment then
    verifyIssuedBy library chain.rootCaCert chain.leafCert
  else
    match chain.subCa2Cert with
    | none => throw .certChainLengthError
    | some subCa2Cert => do
        verifyIssuedBy library subCa2Cert chain.leafCert
        match chain.subCa1Cert with
        | some subCa1Cert => do
            verifyIssuedBy library subCa1Cert subCa2Cert
            verifyIssuedBy library chain.rootCaCert subCa1Cert
        | none => verifyIssuedBy library chain.rootCaCert subCa2Cert

/-- The `except` branches of step 2.b. The last of them only logs. -/
def onVerifyException : PyError → Except PyError Unit
  | .invalidSignature => throw .certSignatureError
  | .unsupportedAlgorithm => throw .certSignatureError
  | _ => return ()

/-- `verify_certs`. -/
def verifyCerts (now : Int) (leafCertBytes : List UInt8) (subCaCertsBytes : List (List UInt8))
    (rootCaCertBytes : List UInt8) (privateEnvironment : Bool) : Except PyError Unit := do
  match ← orderedChain library now leafCertBytes subCaCertsBytes rootCaCertBytes
      privateEnvironment with
  | none => return ()
  | some chain => tryCatch (verifySignatures library chain privateEnvironment) onVerifyException

/-! ## What has to be verified -/

/-- The signature of a certificate is verified with the key of its issuer. -/
def Verified (cert issuer : Certificate κ) : Prop :=
  ∃ pubKey, issuer.publicKey = .ok (.ellipticCurve pubKey) ∧
    library.verify pubKey cert.signature cert.tbsCertificateBytes = .ok ()

/-- The certificates given are those of a chain, which leads from the leaf to the root by
way of the sub-CA 2 and, if there is one, the sub-CA 1. -/
structure Ordered (leafCertBytes : List UInt8) (subCaCertsBytes : List (List UInt8))
    (rootCaCertBytes : List UInt8) (privateEnvironment : Bool) (chain : CertificateChain κ) :
    Prop where
  leaf : library.loadDerX509Certificate leafCertBytes = .ok chain.leafCert
  root : library.loadDerX509Certificate rootCaCertBytes = .ok chain.rootCaCert
  subCas : ∃ subCaDerCerts,
    subCaCertsBytes.mapM library.loadDerX509Certificate = .ok subCaDerCerts ∧
      subCaDerCerts.Perm (chain.subCa2Cert.toList ++ chain.subCa1Cert.toList)
  subCa2 : ∀ cert ∈ chain.subCa2Cert, cert.pathLength = .ok (some 0)
  subCa1 : ∀ cert ∈ chain.subCa1Cert, cert.pathLength = .ok (some 1)
  length :
    if privateEnvironment then chain.subCa2Cert = none ∧ chain.subCa1Cert = none
    else chain.subCa2Cert.isSome

/-- In a chain of the certificates, each is verified with the key of the next. -/
def VerifiedChain (leafCertBytes : List UInt8) (subCaCertsBytes : List (List UInt8))
    (rootCaCertBytes : List UInt8) (privateEnvironment : Bool) : Prop :=
  ∃ chain, Ordered library leafCertBytes subCaCertsBytes rootCaCertBytes privateEnvironment chain ∧
    chain.certs.IsChain (Verified library)

/-- Up to the first signature that is not verified, the keys of the issuers are on elliptic
curves, and that one is rejected as invalid or for its algorithm. -/
def Decided : List (Certificate κ) → Prop
  | cert :: issuer :: certs =>
      issuer.publicKey = .error .invalidSignature ∨
      issuer.publicKey = .error .unsupportedAlgorithm ∨
      ∃ pubKey, issuer.publicKey = .ok (.ellipticCurve pubKey) ∧
        (library.verify pubKey cert.signature cert.tbsCertificateBytes = .ok () ∧
            Decided (issuer :: certs) ∨
          library.verify pubKey cert.signature cert.tbsCertificateBytes =
            .error .invalidSignature ∨
          library.verify pubKey cert.signature cert.tbsCertificateBytes =
            .error .unsupportedAlgorithm)
  | _ => True

variable {library}

/-! ## The order of the certificates -/

/-- The loop finds each certificate, by its path length. -/
theorem categorize_eq_ok {subCa2Cert subCa1Cert : Option (Certificate κ)}
    {certs : List (Certificate κ)} {found : Option (Certificate κ) × Option (Certificate κ)}
    (known2 : ∀ cert ∈ subCa2Cert, cert.pathLength = .ok (some 0))
    (known1 : ∀ cert ∈ subCa1Cert, cert.pathLength = .ok (some 1))
    (categorized : categorize subCa2Cert subCa1Cert certs = .ok found) :
    (subCa2Cert.toList ++ subCa1Cert.toList ++ certs).Perm (found.1.toList ++ found.2.toList) ∧
      (∀ cert ∈ found.1, cert.pathLength = .ok (some 0)) ∧
      ∀ cert ∈ found.2, cert.pathLength = .ok (some 1) := by
  induction certs generalizing subCa2Cert subCa1Cert with
  | nil =>
      cases categorized
      exact ⟨by simp, known2, known1⟩
  | cons cert certs ih =>
      unfold categorize at categorized
      split at categorized
      next => cases categorized
      next => cases categorized
      next length =>
        split at categorized
        next => cases categorized
        next absent =>
          have none2 : subCa2Cert = none := by simpa using absent
          subst none2
          have known : ∀ other ∈ some cert, other.pathLength = .ok (some 0) := by
            rintro other ⟨⟩
            exact length
          rcases ih known known1 categorized with ⟨perm, rest⟩
          refine ⟨List.Perm.trans ?_ perm, rest⟩
          simp
      next length =>
        split at categorized
        next => cases categorized
        next absent =>
          have none1 : subCa1Cert = none := by simpa using absent
          subst none1
          have known : ∀ other ∈ some cert, other.pathLength = .ok (some 1) := by
            rintro other ⟨⟩
            exact length
          rcases ih known2 known categorized with ⟨perm, rest⟩
          refine ⟨List.Perm.trans ?_ perm, rest⟩
          simp
      next => cases categorized

theorem checkLength_eq_ok {subCa2Cert subCa1Cert : Option (Certificate κ)}
    {privateEnvironment : Bool}
    (allowed : checkLength subCa2Cert subCa1Cert privateEnvironment = .ok ()) :
    if privateEnvironment then subCa2Cert = none ∧ subCa1Cert = none else subCa2Cert.isSome := by
  unfold checkLength at allowed
  split at allowed
  next => cases allowed
  next enough =>
    split at allowed
    next => cases allowed
    next notTooMany =>
      cases privateEnvironment with
      | true => simpa using notTooMany
      | false => simpa [Option.isSome_iff_ne_none] using enough

section

variable {now : Int} {leafCertBytes rootCaCertBytes : List UInt8}
  {subCaCertsBytes : List (List UInt8)} {privateEnvironment : Bool}
  {chain : CertificateChain κ}

/-- A chain that is found consists of the certificates given. -/
theorem ordered_of_orderedChain
    (found : orderedChain library now leafCertBytes subCaCertsBytes rootCaCertBytes
      privateEnvironment = .ok (some chain)) :
    Ordered library leafCertBytes subCaCertsBytes rootCaCertBytes privateEnvironment chain := by
  unfold orderedChain at found
  rcases bind_eq_ok_iff.mp found with ⟨leafCert, leafLoaded, found⟩
  rcases bind_eq_ok_iff.mp found with ⟨rootCaCert, rootLoaded, found⟩
  rcases bind_eq_ok_iff.mp found with ⟨subCaDerCerts, subsLoaded, found⟩
  rcases bind_eq_ok_iff.mp found with ⟨_, _, found⟩
  cases rootCaCert with
  | none => cases found
  | some rootCaCert =>
      rcases bind_eq_ok_iff.mp found with ⟨subCas, categorized, found⟩
      rcases bind_eq_ok_iff.mp found with ⟨_, allowed, found⟩
      cases found
      rcases categorize_eq_ok (by simp) (by simp) categorized with ⟨perm, length2, length1⟩
      unfold loadRootCaCert at rootLoaded
      split at rootLoaded
      next => cases rootLoaded
      next =>
        rcases map_eq_ok_iff.mp rootLoaded with ⟨_, loaded, same⟩
        cases same
        exact
          { leaf := leafLoaded
            root := loaded
            subCas := ⟨subCaDerCerts, subsLoaded, by simpa using perm⟩
            subCa2 := length2
            subCa1 := length1
            length := checkLength_eq_ok allowed }

/-- With a root certificate, a chain is found, or an exception is raised. -/
theorem orderedChain_ne_none (present : rootCaCertBytes ≠ []) :
    orderedChain library now leafCertBytes subCaCertsBytes rootCaCertBytes privateEnvironment ≠
      .ok none := by
  intro missing
  unfold orderedChain at missing
  rcases bind_eq_ok_iff.mp missing with ⟨leafCert, leafLoaded, missing⟩
  rcases bind_eq_ok_iff.mp missing with ⟨rootCaCert, rootLoaded, missing⟩
  rcases bind_eq_ok_iff.mp missing with ⟨subCaDerCerts, subsLoaded, missing⟩
  rcases bind_eq_ok_iff.mp missing with ⟨_, _, missing⟩
  cases rootCaCert with
  | none =>
      unfold loadRootCaCert at rootLoaded
      rw [if_neg present] at rootLoaded
      rcases map_eq_ok_iff.mp rootLoaded with ⟨_, _, impossible⟩
      cases impossible
  | some rootCaCert =>
      rcases bind_eq_ok_iff.mp missing with ⟨subCas, categorized, missing⟩
      rcases bind_eq_ok_iff.mp missing with ⟨_, allowed, missing⟩
      cases missing

omit library in
/-- Of two options that hold the certificates of a path length, among those with one of two
path lengths, the second holds what the first does. -/
theorem mem_of_perm {own other : Option (Certificate κ)} {length length' : Option Nat}
    {rest rest' : List (Certificate κ)} (differ : length ≠ length')
    (perm : (own.toList ++ rest).Perm (other.toList ++ rest'))
    (ownLength : ∀ cert ∈ own, cert.pathLength = .ok length)
    (restLength : ∀ cert ∈ rest', cert.pathLength = .ok length') :
    ∀ cert ∈ own, cert ∈ other := by
  intro cert member
  have listed : cert ∈ other.toList ++ rest' :=
    perm.mem_iff.mp (List.mem_append_left _ (Option.mem_toList.mpr member))
  rcases List.mem_append.mp listed with here | there
  · exact Option.mem_toList.mp here
  · have same := (ownLength cert member).symm.trans (restLength cert there)
    cases same
    exact absurd rfl differ

/-- Which certificate is the sub-CA 2, and which the sub-CA 1, is settled by the path
lengths. -/
theorem Ordered.unique {other : CertificateChain κ}
    (first : Ordered library leafCertBytes subCaCertsBytes rootCaCertBytes privateEnvironment
      chain)
    (second : Ordered library leafCertBytes subCaCertsBytes rootCaCertBytes privateEnvironment
      other) : chain = other := by
  rcases first.subCas with ⟨certs, loaded, perm⟩
  rcases second.subCas with ⟨certs', loaded', perm'⟩
  rw [loaded] at loaded'
  cases loaded'
  have same := perm.symm.trans perm'
  have swapped := (List.perm_append_comm.trans same).trans List.perm_append_comm
  have sameLeaf := Except.ok.inj (first.leaf.symm.trans second.leaf)
  have sameRoot := Except.ok.inj (first.root.symm.trans second.root)
  have toList : ∀ {cert : Certificate κ} {certs : Option (Certificate κ)},
      cert ∈ certs.toList → cert ∈ certs := Option.mem_toList.mp
  have zeroNeOne : some 0 ≠ some 1 := by decide
  have sameSubCa2 : chain.subCa2Cert = other.subCa2Cert := by
    apply Option.ext
    intro cert
    constructor
    · exact mem_of_perm zeroNeOne same first.subCa2 (fun _ h => second.subCa1 _ (toList h)) cert
    · exact mem_of_perm zeroNeOne same.symm second.subCa2
        (fun _ h => first.subCa1 _ (toList h)) cert
  have sameSubCa1 : chain.subCa1Cert = other.subCa1Cert := by
    apply Option.ext
    intro cert
    constructor
    · exact mem_of_perm zeroNeOne.symm swapped first.subCa1
        (fun _ h => second.subCa2 _ (toList h)) cert
    · exact mem_of_perm zeroNeOne.symm swapped.symm second.subCa1
        (fun _ h => first.subCa2 _ (toList h)) cert
  cases chain
  cases other
  simp_all

end

/-! ## The signatures -/

theorem verifyIssuedBy_eq_ok_iff {issuer cert : Certificate κ} :
    verifyIssuedBy library issuer cert = .ok () ↔ Verified library cert issuer := by
  unfold verifyIssuedBy Verified
  constructor
  · intro verified
    rcases bind_eq_ok_iff.mp verified with ⟨publicKey, read, verified⟩
    cases publicKey with
    | ellipticCurve pubKey => exact ⟨pubKey, read, verified⟩
    | other => cases verified
  · rintro ⟨pubKey, read, verified⟩
    rw [read]
    exact verified

variable (library) in
/-- The verification of each signature with the key of the next certificate. -/
def verifyAll : List (Certificate κ) → Except PyError Unit
  | cert :: issuer :: certs => do
      verifyIssuedBy library issuer cert
      verifyAll (issuer :: certs)
  | _ => .ok ()

theorem verifyAll_cons_cons (cert issuer : Certificate κ) (certs : List (Certificate κ)) :
    verifyAll library (cert :: issuer :: certs) =
      (do
        verifyIssuedBy library issuer cert
        verifyAll library (issuer :: certs)) := by
  rw [verifyAll]

theorem verifyAll_eq_ok_iff {certs : List (Certificate κ)} :
    verifyAll library certs = .ok () ↔ certs.IsChain (Verified library) := by
  induction certs with
  | nil => simp [verifyAll]
  | cons cert certs ih =>
      cases certs with
      | nil => simp [verifyAll]
      | cons issuer certs =>
          rw [List.isChain_cons_cons, ← ih, ← verifyIssuedBy_eq_ok_iff, verifyAll_cons_cons,
            bind_eq_ok_iff]
          constructor
          · rintro ⟨⟨⟩, first, rest⟩
            exact ⟨first, rest⟩
          · rintro ⟨first, rest⟩
            exact ⟨(), first, rest⟩

/-- The exceptions that step 2.b raises are turned into a failure if and only if the chain is
decided. -/
theorem decided_iff {certs : List (Certificate κ)} :
    Decided library certs ↔
      ∀ exception, verifyAll library certs = .error exception →
        exception = .invalidSignature ∨ exception = .unsupportedAlgorithm := by
  induction certs with
  | nil => simp [verifyAll, Decided]
  | cons cert certs ih =>
      cases certs with
      | nil => simp [verifyAll, Decided]
      | cons issuer certs =>
          unfold Decided
          rw [ih, verifyAll_cons_cons]
          unfold verifyIssuedBy
          cases issuer.publicKey with
          | error exception => simp [bind, Except.bind]
          | ok publicKey =>
              cases publicKey with
              | other => simp [bind, Except.bind, throw, throwThe, MonadExceptOf.throw]
              | ellipticCurve pubKey =>
                  cases verified :
                      library.verify pubKey cert.signature cert.tbsCertificateBytes with
                  | ok _ => simp [bind, Except.bind, verified]
                  | error exception => simp [bind, Except.bind, verified]

/-- The branches of step 2.b verify each signature of the chain. -/
theorem verifySignatures_eq {chain : CertificateChain κ} {privateEnvironment : Bool}
    (length :
      if privateEnvironment then chain.subCa2Cert = none ∧ chain.subCa1Cert = none
      else chain.subCa2Cert.isSome) :
    verifySignatures library chain privateEnvironment = verifyAll library chain.certs := by
  have lastLink : ∀ cert : Certificate κ,
      verifyAll library [cert, chain.rootCaCert] =
        verifyIssuedBy library chain.rootCaCert cert := by
    intro cert
    rw [verifyAll_cons_cons]
    cases verifyIssuedBy library chain.rootCaCert cert <;> rfl
  unfold verifySignatures CertificateChain.certs
  cases privateEnvironment with
  | true =>
      rcases length with ⟨none2, none1⟩
      rw [none2, none1]
      exact (lastLink chain.leafCert).symm
  | false =>
      rcases Option.isSome_iff_exists.mp length with ⟨subCa2Cert, found2⟩
      rw [found2]
      cases chain.subCa1Cert with
      | none =>
          change _ = verifyAll library [chain.leafCert, subCa2Cert, chain.rootCaCert]
          rw [verifyAll_cons_cons, lastLink]
          rfl
      | some subCa1Cert =>
          change _ = verifyAll library
            [chain.leafCert, subCa2Cert, subCa1Cert, chain.rootCaCert]
          rw [verifyAll_cons_cons, verifyAll_cons_cons, lastLink]
          rfl

/-- The last branch returns. -/
theorem onVerifyException_eq_ok {exception : PyError}
    (other : ¬ (exception = .invalidSignature ∨ exception = .unsupportedAlgorithm)) :
    onVerifyException exception = .ok () := by
  cases exception <;> first | rfl | simp at other

/-! ## A public key infrastructure -/

namespace Sample

def cert (pathLength : Option Nat) (publicKey : PublicKey Unit) : Certificate Unit where
  notValidBefore := 0
  notValidAfter := 100
  pathLength := .ok pathLength
  publicKey := .ok publicKey
  signature := [1]
  tbsCertificateBytes := [1]

/-- Certificates for a few byte strings. The fourth is a sub-CA 2 with an Ed448 key. -/
def pki : Cryptography Unit where
  loadDerX509Certificate
    | [1] => .ok (cert none (.ellipticCurve ()))
    | [2] => .ok (cert (some 0) (.ellipticCurve ()))
    | [3] => .ok (cert none (.ellipticCurve ()))
    | [4] => .ok (cert (some 0) .other)
    | _ => .error .valueError
  verify _ signature data := if signature = data then .ok () else .error .invalidSignature

end Sample

/-- `verify_certs` returns only for verified chains if and only if the chain that it finds,
if any, is decided. -/
theorem verifyCerts_sound_iff (now : Int) (leafCertBytes : List UInt8)
    (subCaCertsBytes : List (List UInt8)) {rootCaCertBytes : List UInt8}
    (privateEnvironment : Bool) (present : rootCaCertBytes ≠ []) :
    (verifyCerts library now leafCertBytes subCaCertsBytes rootCaCertBytes privateEnvironment =
        .ok () →
      VerifiedChain library leafCertBytes subCaCertsBytes rootCaCertBytes privateEnvironment) ↔
    ∀ chain, orderedChain library now leafCertBytes subCaCertsBytes rootCaCertBytes
      privateEnvironment = .ok (some chain) → Decided library chain.certs := by
  unfold verifyCerts
  cases found : orderedChain library now leafCertBytes subCaCertsBytes rootCaCertBytes
      privateEnvironment with
  | error exception => simp [bind, Except.bind]
  | ok result =>
      cases result with
      | none => exact absurd found (orderedChain_ne_none present)
      | some chain =>
          have ordered := ordered_of_orderedChain found
          change (tryCatch (verifySignatures library chain privateEnvironment)
            onVerifyException = .ok () → _) ↔ _
          rw [verifySignatures_eq ordered.length]
          cases verified : verifyAll library chain.certs with
          | ok _ =>
              have links := verifyAll_eq_ok_iff.mp verified
              constructor
              · rintro _ _ ⟨⟩
                exact decided_iff.mpr fun exception impossible => by
                  rw [verified] at impossible
                  cases impossible
              · rintro _ _
                exact ⟨chain, ordered, links⟩
          | error exception =>
              have notVerified : ¬ VerifiedChain library leafCertBytes subCaCertsBytes
                  rootCaCertBytes privateEnvironment := by
                rintro ⟨other, otherOrdered, links⟩
                have same := otherOrdered.unique ordered
                subst same
                rw [verifyAll_eq_ok_iff.mpr links] at verified
                cases verified
              constructor
              · rintro sound _ ⟨⟩
                apply decided_iff.mpr
                intro raised same
                rw [verified] at same
                cases same
                by_contra swallowed
                apply notVerified
                apply sound
                exact onVerifyException_eq_ok swallowed
              · intro decided returned
                rcases decided_iff.mp (decided chain rfl) exception verified with rfl | rfl
                · cases returned
                · cases returned

open Sample in
/-- A chain with one sub-CA. -/
theorem verifyCerts_sound_iff_subCa2 : VerifiedChain pki [1] [[2]] [3] false := by
  apply (verifyCerts_sound_iff 50 [1] [[2]] false (show [3] ≠ [] by decide)).mpr
  · intro chain found
    cases found
    exact .inr (.inr ⟨(), rfl, .inl ⟨rfl, .inr (.inr ⟨(), rfl, .inl ⟨rfl, trivial⟩⟩)⟩⟩)
  · rfl

open Sample in
/-- With a key of another type, `verify_certs` returns without any verification. -/
theorem verifyCerts_otherKey :
    verifyCerts pki 50 [1] [[4]] [3] false = .ok () ∧
      ¬ VerifiedChain pki [1] [[4]] [3] false := by
  refine ⟨rfl, ?_⟩
  rintro ⟨chain, ordered, links⟩
  have found : Ordered pki [1] [[4]] [3] false
      ⟨cert none (.ellipticCurve ()), some (cert (some 0) .other), none,
        cert none (.ellipticCurve ())⟩ :=
    @ordered_of_orderedChain _ pki 50 _ _ _ _ _ rfl
  have same := ordered.unique found
  subst same
  rcases (List.isChain_cons_cons.mp links).1 with ⟨pubKey, read, _⟩
  cases read

end Iso15118.Shared.Security
