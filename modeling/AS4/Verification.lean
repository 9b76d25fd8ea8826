import Mathlib
import AS4.EnvelopeModel

/-!
What a signature is checked against: the index of a document by element id, the
digest of a reference, the signature value over the canonical form of its signed
info, and the parts of the message a list of references covers.
-/

namespace Verification
open ElementTree ElementCodec FallibleSteps PythonData AS4Libraries AS4Errors SignatureModel MessagingModel
  EnvelopeModel

variable [Libraries]

section Index

/-- The `Id` attributes of one node: those of an element, or the
pseudo-attributes of a processing instruction, whose names need not be valid. -/
def nodeIds (n : Located) : Except PyError (List (String × Located)) :=
  match n.node with
  | .element _ attrib _ =>
      .ok ((attrib.filter fun entry => entry.1.localName == "Id").map fun entry => (entry.2, n))
  | .processingInstruction _ _ pseudo =>
      match pseudo.find? fun entry => !Libraries.validName entry.1 with
      | some entry => .error (.valueError s!"Invalid tag name {Libraries.repr entry.1}")
      | none => .ok ((pseudo.filter fun entry => entry.1 == "Id").map fun entry => (entry.2, n))
  | _ => .ok []

def collectIds : List Located → Except PyError (List (String × Located))
  | [] => .ok []
  | n :: rest => do
      let here ← nodeIds n
      let others ← collectIds rest
      return here ++ others

/-- `id_attributes` -/
def idAttributes (element : Located) : Except PyError (List (String × Located)) := collectIds element.iter

def insertIds (indexed : Dict String Located) : List (String × Located) → Except PyError (Dict String Located)
  | [] => .ok indexed
  | (identifier, element) :: rest =>
      if (Dict.get indexed identifier).isSome then .error (.receiptable (duplicateElementId identifier))
      else insertIds (Dict.set identifier element indexed) rest

/-- `index_elements_by_id` -/
def indexElementsById (element : Located) : Except PyError (Dict String Located) := do
  let identifiers ← idAttributes element
  insertIds [] identifiers

end Index

section Digests

/-- `DIGEST_ALGORITHM_MAP` -/
def digestAlgorithmMap (algorithm : String) : Option HashAlgorithm :=
  if algorithm = "http://www.w3.org/2001/04/xmlenc#sha256" then some .sha256
  else if algorithm = "http://www.w3.org/2001/04/xmldsig-more#sha384" then some .sha384
  else if algorithm = "http://www.w3.org/2001/04/xmlenc#sha512" then some .sha512
  else none

def computeDigest (digestAlgorithm : String) (content : Bytes) : Except PyError String :=
  match digestAlgorithmMap digestAlgorithm with
  | none => .error (.unsupportedDigestAlgorithm digestAlgorithm)
  | some algorithm => .ok (Base64.b64encode (Libraries.digest algorithm content))

/-- The prefixes of the first exclusive canonicalisation among the transforms. -/
def inclusiveNamespaces (reference : DsigReference) : List String :=
  match reference.transforms.transforms.find? fun transform => transform.algorithm == some exclusiveC14N with
  | some transform => transform.inclusiveNamespaces
  | none => []

def digestBytes (reference : DsigReference) (content : Bytes) : Except PyError String :=
  computeDigest reference.digestMethod.algorithm content

def digestElement (reference : DsigReference) (element : Located) : Except PyError String := do
  let form ← canonicalize element (inclusiveNamespaces reference)
  digestBytes reference form

def transformAlgorithms (reference : DsigReference) : List (Option String) :=
  reference.transforms.transforms.map (·.algorithm)

/-- `require_transforms`, for the one algorithm each caller allows. -/
def requireTransforms (reference : DsigReference) (allowed : String) : Except PyError Unit :=
  let algorithms := (transformAlgorithms reference).dedup
  if algorithms = [] ∨ ¬ algorithms.all (· == some allowed) then
    let named := join ", " (sorted (algorithms.map (·.getD "None")))
    .error (.unsupportedTransform (if named = "" then "none" else named))
  else .ok ()

def digestMatches (reference : DsigReference) (element : Located) : Except PyError Bool := do
  requireTransforms reference exclusiveC14N
  let digest ← digestElement reference element
  return digest == strip reference.digestValue.text

def digestMatchesBytes (reference : DsigReference) (content : Bytes) : Except PyError Bool := do
  requireTransforms reference attachmentContentSignature
  let digest ← digestBytes reference content
  return digest == strip reference.digestValue.text

/-- `ComparableReferenceFields` -/
structure ComparableReferenceFields where
  uri : String
  transformAlgorithms : List String
  digestAlgorithm : String
  digestValue : String
  deriving DecidableEq, Repr

def ComparableReferenceFields.fromReference (reference : DsigReference) : ComparableReferenceFields where
  uri := reference.uri.getD ""
  transformAlgorithms := sorted ((Verification.transformAlgorithms reference).filterMap fun algorithm =>
    algorithm.filter (· ≠ ""))
  digestAlgorithm := reference.digestMethod.algorithm
  digestValue := strip reference.digestValue.text

end Digests

section SignatureValue

/-- `SIGNATURE_ALGORITHMS` -/
def signatureAlgorithms (algorithm : String) : Option HashAlgorithm :=
  if algorithm = "http://www.w3.org/2001/04/xmldsig-more#rsa-sha256" then some .sha256
  else if algorithm = "http://www.w3.org/2001/04/xmldsig-more#rsa-sha384" then some .sha384
  else if algorithm = "http://www.w3.org/2001/04/xmldsig-more#rsa-sha512" then some .sha512
  else none

def signedInfoCanonicalized (info : SignedInfo) : Except PyError Bytes :=
  match info.etreeElement with
  | none => .ok []
  | some element => canonicalize element info.canonicalizationMethod.inclusiveNamespaces

def signatureBytes (signature : Signature) : Except PyError Bytes :=
  match signature.signatureValue.value with
  | none => .error (.valueError "No signature bytes found for signature")
  | some bytes => .ok bytes

def requireExclusiveCanonicalization (canonicalization : Option String) : Except PyError Unit :=
  if canonicalization ≠ some exclusiveC14N then .error (.unsupportedTransform (canonicalization.getD "None"))
  else .ok ()

def requireRsaPublicKey (certificate : Certificate) (algorithm : String) : Except PyError RSAPublicKey := do
  let key ← certificate.publicKey
  match key with
  | .rsa key => return key
  | .other typeName => .error (.unsupportedSignatureAlgorithm s!"{algorithm} with a {typeName}")

def signatureAlgorithmOf (algorithm : String) : Except PyError HashAlgorithm :=
  match signatureAlgorithms algorithm with
  | none => .error (.unsupportedSignatureAlgorithm algorithm)
  | some hash => .ok hash

/-- `Signature.verify`. The signature bytes are read before the signed info is
canonicalised. -/
def verify (signature : Signature) (certificate : Certificate) : Except PyError Unit := do
  let signatureAlgorithm := signature.signedInfo.signatureMethod.algorithm
  requireExclusiveCanonicalization signature.signedInfo.canonicalizationMethod.algorithm
  let algorithm ← signatureAlgorithmOf signatureAlgorithm
  let publicKey ← requireRsaPublicKey certificate signatureAlgorithm
  let bytes ← signatureBytes signature
  let data ← signedInfoCanonicalized signature.signedInfo
  if Libraries.rsaVerify publicKey algorithm data bytes then return () else .error .invalidSignature

end SignatureValue

section Coverage

/-- `COVERAGE_BY_TAG` -/
def coverageByTag (element : Located) : Option String :=
  if element.node.Tagged (eb3 "Messaging") then some "messaging"
  else if element.node.Tagged (soap12 "Body") then some "body"
  else none

def referenceUri (reference : DsigReference) : String := reference.uri.getD ""

def isAttachmentReference (reference : DsigReference) : Bool := startsWith "cid:" (referenceUri reference)

/-- The element a reference of the document names. -/
def target (elementsById : Dict String Located) (reference : DsigReference) : Option Located :=
  Dict.get elementsById (removePrefix "#" (referenceUri reference))

/-- `signature_coverage`, as the list of its members. -/
def signatureCoverage (signature : Signature) (elementsById : Dict String Located)
    (payloadHrefs : List String) : List String :=
  let references := signature.signedInfo.references
  let signedPayloads := (references.filter isAttachmentReference).map referenceUri
  let covered := (references.filter fun reference => !isAttachmentReference reference).filterMap
    fun reference => (target elementsById reference).bind coverageByTag
  if payloadHrefs.all signedPayloads.contains then "payloads" :: covered else covered

def verifySignatureCoverage (signature : Signature) (elementsById : Dict String Located)
    (payloadHrefs requiredCoverage : List String) : Except PyError Unit :=
  let missing := (requiredCoverage.filter fun kind =>
    !(signatureCoverage signature elementsById payloadHrefs).contains kind).dedup
  if missing = [] then .ok () else .error (.receiptable (signatureCoverageMissing (sorted missing)))

end Coverage

section ReferenceChecks

/-- The errors of a reference check that are answered with a signal. -/
def translateReferenceError : PyError → PyError
  | .unsupportedDigestAlgorithm message => .receiptable (unsupportedDigestAlgorithm message)
  | .unsupportedTransform message => .receiptable (unsupportedTransform message)
  | raised => raised

def verifyReferenceDigest (elementsById : Dict String Located) (reference : DsigReference) : Except PyError Unit :=
  let uri := referenceUri reference
  if isAttachmentReference reference then .ok ()
  else
    match target elementsById reference with
    | none => .error (.receiptable (referenceTargetNotFound uri))
    | some element => do
        let matched ← (digestMatches reference element).mapError translateReferenceError
        if matched then return () else .error (.receiptable (digestMismatch uri))

/-- `verify_reference_digests` -/
def verifyReferenceDigests (signature : Signature) (elementsById : Dict String Located) : Except PyError Unit :=
  each (verifyReferenceDigest elementsById) signature.signedInfo.references

def verifyAttachmentDigest (signedAttachments : Dict String Bytes) (reference : DsigReference) :
    Except PyError Unit :=
  let uri := referenceUri reference
  if isAttachmentReference reference then
    match Dict.get signedAttachments (removePrefix "cid:" uri) with
    | none => .error (.receiptable (referenceTargetNotFound uri))
    | some content => do
        let matched ← (digestMatchesBytes reference content).mapError translateReferenceError
        if matched then return () else .error (.receiptable (digestMismatch uri))
  else .ok ()

/-- `verify_attachment_digests` -/
def verifyAttachmentDigests (signature : Signature) (signedAttachments : Dict String Bytes) : Except PyError Unit :=
  each (verifyAttachmentDigest signedAttachments) signature.signedInfo.references

end ReferenceChecks

section IndexLaws

omit [Libraries] in
theorem insertIds_ok {entries : List (String × Located)} {indexed result : Dict String Located}
    (succeeded : insertIds indexed entries = .ok result) :
    result = indexed ++ entries ∧ (entries.map Prod.fst).Nodup ∧
      ∀ identifier ∈ entries.map Prod.fst, Dict.get indexed identifier = none := by
  induction entries generalizing indexed with
  | nil =>
      obtain rfl : indexed = result := by simpa [insertIds] using succeeded
      simp
  | cons entry rest ih =>
      obtain ⟨identifier, element⟩ := entry
      simp only [insertIds] at succeeded
      split at succeeded
      · simp at succeeded
      · rename_i fresh
        simp only [Option.not_isSome_iff_eq_none] at fresh
        obtain ⟨whole, distinct, absent⟩ := ih succeeded
        have appended : Dict.set identifier element indexed = indexed ++ [(identifier, element)] :=
          set_fresh fresh
        refine ⟨by rw [whole, appended]; simp, ?_, ?_⟩
        · simp only [List.map_cons, List.nodup_cons]
          refine ⟨fun again => ?_, distinct⟩
          have found := absent identifier again
          simp [get_set] at found
        · intro other member
          rcases List.mem_cons.mp member with rfl | later
          · exact fresh
          · have unfound := absent other later
            rw [get_set] at unfound
            split at unfound
            · simp at unfound
            · exact unfound

/-- The identifiers a node carries. -/
def idsOf (n : Located) : List String :=
  match n.node with
  | .element _ attrib _ => (attrib.filter fun entry => entry.1.localName == "Id").map (·.2)
  | .processingInstruction _ _ pseudo => (pseudo.filter fun entry => entry.1 == "Id").map (·.2)
  | _ => []

theorem nodeIds_ok {n : Located} {entries : List (String × Located)} (succeeded : nodeIds n = .ok entries) :
    entries = (idsOf n).map (·, n) := by
  unfold nodeIds at succeeded
  unfold idsOf
  split at succeeded
  · simpa [Function.comp_def] using succeeded.symm
  · split at succeeded
    · simp at succeeded
    · simpa [Function.comp_def] using succeeded.symm
  · simpa using succeeded.symm

theorem collectIds_ok {nodes : List Located} {entries : List (String × Located)}
    (succeeded : collectIds nodes = .ok entries) :
    entries = nodes.flatMap fun n => (idsOf n).map (·, n) := by
  induction nodes generalizing entries with
  | nil => simpa [collectIds] using succeeded.symm
  | cons n rest ih =>
      simp only [collectIds, bind_ok, pure_ok] at succeeded
      obtain ⟨here, first, others, tail, rfl⟩ := succeeded
      rw [nodeIds_ok first, ih tail]
      rfl

/-- The index of a document finds exactly the nodes that carry an identifier,
whatever their kind and place. -/
theorem index_get {document : Node} {index : Dict String Located}
    (indexed : indexElementsById (.root document) = .ok index) {identifier : String} {n : Located} :
    Dict.get index identifier = some n ↔ n.document = document ∧ identifier ∈ idsOf n := by
  simp only [indexElementsById, bind_ok] at indexed
  obtain ⟨entries, collected, inserted⟩ := indexed
  obtain ⟨same, distinct, -⟩ := insertIds_ok inserted
  obtain rfl : index = entries := same
  have listed := collectIds_ok collected
  have mem : (identifier, n) ∈ index ↔ n.document = document ∧ identifier ∈ idsOf n := by
    rw [listed, List.mem_flatMap]
    constructor
    · rintro ⟨m, below, inM⟩
      obtain ⟨other, carried, same⟩ := List.mem_map.mp inM
      obtain ⟨rfl, rfl⟩ := Prod.mk.inj same
      exact ⟨Located.mem_iter_root.mp below, carried⟩
    · rintro ⟨same, carried⟩
      exact ⟨n, Located.mem_iter_root.mpr same, List.mem_map.mpr ⟨identifier, carried, rfl⟩⟩
  rw [← mem]
  exact ⟨mem_of_get, get_of_mem distinct⟩

/-- No two nodes of an indexed document carry one identifier. -/
theorem index_unique {document : Node} {index : Dict String Located}
    (indexed : indexElementsById (.root document) = .ok index) {identifier : String} {n m : Located}
    (first : n.document = document ∧ identifier ∈ idsOf n)
    (second : m.document = document ∧ identifier ∈ idsOf m) : n = m :=
  Option.some.inj (((index_get indexed).mpr first).symm.trans ((index_get indexed).mpr second))

end IndexLaws

section Identifiers

/-- The identifiers a node carries, wherever it stands. -/
def identifiersOf : Node → List String
  | .element _ attrib _ => (attrib.filter fun entry => entry.1.localName == "Id").map (·.2)
  | .processingInstruction _ _ pseudo => (pseudo.filter fun entry => entry.1 == "Id").map (·.2)
  | _ => []

/-- Whether the pseudo-attributes of a processing instruction have valid names. -/
def wellNamed : Node → Bool
  | .processingInstruction _ _ pseudo => pseudo.all fun entry => Libraries.validName entry.1
  | _ => true

omit [Libraries] in
theorem idsOf_node (n : Located) : idsOf n = identifiersOf n.node := by
  unfold idsOf identifiersOf
  split <;> simp_all

theorem nodeIds_ok_iff {n : Located} : (∃ entries, nodeIds n = .ok entries) ↔ wellNamed n.node = true := by
  unfold nodeIds
  cases kind : n.node with
  | processingInstruction target data pseudo =>
      simp only [wellNamed]
      split
      · rename_i entry found
        have invalid := List.find?_some found
        have member := List.mem_of_find?_eq_some found
        simp only [reduceCtorEq, exists_false, List.all_eq_true, false_iff, not_forall]
        exact ⟨entry, member, by simpa using invalid⟩
      · rename_i absent
        simpa [List.find?_eq_none] using absent
  | _ => simp [wellNamed]

theorem collectIds_ok_iff {nodes : List Located} :
    (∃ entries, collectIds nodes = .ok entries) ↔ ∀ n ∈ nodes, wellNamed n.node = true := by
  induction nodes with
  | nil => simp [collectIds]
  | cons n rest ih =>
      simp only [collectIds, bind_ok, pure_ok, List.mem_cons, forall_eq_or_imp]
      rw [← ih, ← nodeIds_ok_iff]
      constructor
      · rintro ⟨_, here, first, others, tail, rfl⟩
        exact ⟨⟨here, first⟩, others, tail⟩
      · rintro ⟨⟨here, first⟩, others, tail⟩
        exact ⟨_, here, first, others, tail, rfl⟩

omit [Libraries] in
theorem insertIds_of_fresh {entries : List (String × Located)} {indexed : Dict String Located}
    (distinct : (entries.map Prod.fst).Nodup)
    (fresh : ∀ identifier ∈ entries.map Prod.fst, Dict.get indexed identifier = none) :
    ∃ result, insertIds indexed entries = .ok result := by
  induction entries generalizing indexed with
  | nil => exact ⟨indexed, rfl⟩
  | cons entry rest ih =>
      obtain ⟨identifier, element⟩ := entry
      simp only [List.map_cons, List.nodup_cons] at distinct
      have absent : Dict.get indexed identifier = none := fresh identifier (by simp)
      simp only [insertIds, absent, Option.isSome_none, Bool.false_eq_true, ↓reduceIte]
      apply ih distinct.2
      intro other member
      rw [get_set, if_neg]
      · exact fresh other (by simp [member])
      · rintro rfl
        exact distinct.1 member

/-- The identifiers of a whole tree, in document order. -/
def identifiers (node : Node) : List String := node.subtrees.flatMap identifiersOf

def identifiersIn (content : List Node) : List String := (subtreesIn content).flatMap identifiersOf

/-- A document can be indexed just when no identifier is carried twice and its
processing instructions are well named. -/
theorem index_ok_iff {document : Node} :
    (∃ index, indexElementsById (.root document) = .ok index) ↔
      (∀ node ∈ document.subtrees, wellNamed node = true) ∧ (identifiers document).Nodup := by
  have nodes : (Located.root document).iter.map (·.node) = document.subtrees := (Located.root document).iter_nodes
  have named : (∀ n ∈ (Located.root document).iter, wellNamed n.node = true) ↔
      ∀ node ∈ document.subtrees, wellNamed node = true := by
    rw [← nodes]
    simp only [List.mem_map]
    constructor
    · rintro each _ ⟨n, member, rfl⟩
      exact each n member
    · intro each n member
      exact each n.node ⟨n, member, rfl⟩
  have listed : ∀ entries, collectIds (Located.root document).iter = .ok entries →
      entries.map Prod.fst = identifiers document := by
    intro entries collected
    rw [collectIds_ok collected, List.map_flatMap, identifiers, ← nodes, List.flatMap_map]
    congr 1
    funext n
    simp [idsOf_node, Function.comp_def]
  simp only [indexElementsById, idAttributes, bind_ok]
  constructor
  · rintro ⟨index, entries, collected, inserted⟩
    refine ⟨named.mp (collectIds_ok_iff.mp ⟨entries, collected⟩), ?_⟩
    rw [← listed entries collected]
    exact (insertIds_ok inserted).2.1
  · rintro ⟨allNamed, distinct⟩
    obtain ⟨entries, collected⟩ := collectIds_ok_iff.mpr (named.mpr allNamed)
    rw [← listed entries collected] at distinct
    obtain ⟨index, inserted⟩ := insertIds_of_fresh distinct (fun _ _ => (rfl : Dict.get [] _ = none))
    exact ⟨index, entries, collected, inserted⟩

omit [Libraries] in
theorem identifiers_element (tag : QName) (attrib : List (QName × String)) (content : List Node) :
    identifiers (.element tag attrib content) = identifiersOf (.element tag attrib content) ++ identifiersIn content := by
  simp [identifiers, identifiersIn, Node.subtrees]

omit [Libraries] in
@[simp] theorem identifiersIn_nil : identifiersIn [] = [] := rfl

omit [Libraries] in
@[simp] theorem identifiersIn_cons (node : Node) (rest : List Node) :
    identifiersIn (node :: rest) = identifiers node ++ identifiersIn rest := by
  simp [identifiers, identifiersIn, subtreesIn]

omit [Libraries] in
@[simp] theorem identifiersIn_append (first second : List Node) :
    identifiersIn (first ++ second) = identifiersIn first ++ identifiersIn second := by
  induction first with
  | nil => rfl
  | cons node rest ih => simp [ih]

omit [Libraries] in
@[simp] theorem identifiersIn_textNode (s : String) : identifiersIn (textNode s) = [] := by
  unfold textNode
  split <;> rfl

end Identifiers

section DigestLaws

omit [Libraries] in
theorem requireTransforms_ok {reference : DsigReference} {allowed : String} :
    requireTransforms reference allowed = .ok () ↔
      transformAlgorithms reference ≠ [] ∧ ∀ algorithm ∈ transformAlgorithms reference, algorithm = some allowed := by
  unfold requireTransforms
  simp only [List.all_eq_true, List.mem_dedup, beq_iff_eq, List.dedup_eq_nil]
  split
  · rename_i refused
    simp only [reduceCtorEq, false_iff, not_and]
    tauto
  · rename_i accepted
    simp only [true_iff]
    tauto

/-- The digest a reference declares is the digest of this content. -/
def DigestOf (reference : DsigReference) (content : Bytes) : Prop :=
  ∃ algorithm, digestAlgorithmMap reference.digestMethod.algorithm = some algorithm ∧
    Base64.b64encode (Libraries.digest algorithm content) = strip reference.digestValue.text

theorem computeDigest_ok {algorithm : String} {content : Bytes} {digest : String} :
    computeDigest algorithm content = .ok digest ↔
      ∃ hash, digestAlgorithmMap algorithm = some hash ∧ Base64.b64encode (Libraries.digest hash content) = digest := by
  unfold computeDigest
  cases digestAlgorithmMap algorithm <;> simp

theorem digestMatches_true {reference : DsigReference} {element : Located} :
    digestMatches reference element = .ok true ↔
      requireTransforms reference exclusiveC14N = .ok () ∧
        ∃ form, Libraries.canonicalForm element (inclusiveNamespaces reference) = some form ∧
          DigestOf reference form := by
  simp only [digestMatches, digestElement, digestBytes, bind_ok, pure_ok, canonicalize_ok, computeDigest_ok,
    beq_iff_eq, DigestOf]
  constructor
  · rintro ⟨_, required, digest, ⟨form, canonical, hash, known, same⟩, matched⟩
    exact ⟨required, form, canonical, hash, known, same.trans matched⟩
  · rintro ⟨required, form, canonical, hash, known, same⟩
    exact ⟨(), required, _, ⟨form, canonical, hash, known, rfl⟩, same⟩

theorem digestMatchesBytes_true {reference : DsigReference} {content : Bytes} :
    digestMatchesBytes reference content = .ok true ↔
      requireTransforms reference attachmentContentSignature = .ok () ∧ DigestOf reference content := by
  simp only [digestMatchesBytes, digestBytes, bind_ok, pure_ok, computeDigest_ok, beq_iff_eq, DigestOf]
  constructor
  · rintro ⟨_, required, digest, ⟨hash, known, same⟩, matched⟩
    exact ⟨required, hash, known, same.trans matched⟩
  · rintro ⟨required, hash, known, same⟩
    exact ⟨(), required, _, ⟨hash, known, rfl⟩, same⟩

/-- A reference of the document that passed: its target, and the match. -/
theorem verifyReferenceDigest_ok {elementsById : Dict String Located} {reference : DsigReference} :
    verifyReferenceDigest elementsById reference = .ok () ↔
      (isAttachmentReference reference = false →
        ∃ element, target elementsById reference = some element ∧ digestMatches reference element = .ok true) := by
  simp only [verifyReferenceDigest]
  cases isAttachmentReference reference with
  | true => simp
  | false =>
      cases target elementsById reference with
      | none => simp
      | some element =>
          simp only [Bool.false_eq_true, ↓reduceIte, bind_ok, mapError_ok, forall_const, Option.some.injEq,
            exists_eq_left']
          constructor
          · rintro ⟨matched, checked, done⟩
            cases matched with
            | true => exact checked
            | false => simp at done
          · intro checked
            exact ⟨true, checked, rfl⟩

theorem verifyAttachmentDigest_ok {signedAttachments : Dict String Bytes} {reference : DsigReference} :
    verifyAttachmentDigest signedAttachments reference = .ok () ↔
      (isAttachmentReference reference = true →
        ∃ content, Dict.get signedAttachments (removePrefix "cid:" (referenceUri reference)) = some content ∧
          digestMatchesBytes reference content = .ok true) := by
  simp only [verifyAttachmentDigest]
  cases isAttachmentReference reference with
  | false => simp
  | true =>
      cases Dict.get signedAttachments (removePrefix "cid:" (referenceUri reference)) with
      | none => simp
      | some content =>
          simp only [↓reduceIte, bind_ok, mapError_ok, forall_const, Option.some.injEq, exists_eq_left']
          constructor
          · rintro ⟨matched, checked, done⟩
            cases matched with
            | true => exact checked
            | false => simp at done
          · intro checked
            exact ⟨true, checked, rfl⟩

end DigestLaws

section CoverageLaws

omit [Libraries] in
theorem verifySignatureCoverage_ok {signature : Signature} {elementsById : Dict String Located}
    {payloadHrefs requiredCoverage : List String} :
    verifySignatureCoverage signature elementsById payloadHrefs requiredCoverage = .ok () ↔
      ∀ kind ∈ requiredCoverage, kind ∈ signatureCoverage signature elementsById payloadHrefs := by
  unfold verifySignatureCoverage
  simp only [List.dedup_eq_nil]
  split
  · rename_i none
    simpa [List.filter_eq_nil_iff] using none
  · rename_i some
    simpa [List.filter_eq_nil_iff] using some

omit [Libraries] in
/-- A kind of element is covered when a reference names some element of that tag. -/
theorem covers_element {signature : Signature} {elementsById : Dict String Located} {payloadHrefs : List String}
    {kind : String} (element : kind ≠ "payloads") :
    kind ∈ signatureCoverage signature elementsById payloadHrefs ↔
      ∃ reference ∈ signature.signedInfo.references, isAttachmentReference reference = false ∧
        ∃ named, target elementsById reference = some named ∧ coverageByTag named = some kind := by
  unfold signatureCoverage
  have inCovered : kind ∈ ((signature.signedInfo.references.filter fun reference =>
        !isAttachmentReference reference).filterMap
          fun reference => (target elementsById reference).bind coverageByTag) ↔
      ∃ reference ∈ signature.signedInfo.references, isAttachmentReference reference = false ∧
        ∃ named, target elementsById reference = some named ∧ coverageByTag named = some kind := by
    simp only [List.mem_filterMap, List.mem_filter, Bool.not_eq_true', Option.bind_eq_some_iff, and_assoc]
  simp only
  split
  · rw [List.mem_cons, inCovered]
    simp [element]
  · exact inCovered

omit [Libraries] in
theorem coverageByTag_messaging {n : Located} :
    coverageByTag n = some "messaging" ↔ n.node.Tagged (eb3 "Messaging") := by
  unfold coverageByTag
  split
  · simpa
  · rename_i other
    split <;> simp [other]

omit [Libraries] in
theorem coverageByTag_body {n : Located} :
    coverageByTag n = some "body" ↔ n.node.Tagged (soap12 "Body") := by
  unfold coverageByTag
  split
  · rename_i messaging
    have other : ¬ n.node.Tagged (soap12 "Body") := by
      intro body
      have same := Option.some.inj (messaging.symm.trans body)
      simp [eb3, soap12] at same
    simp [other]
  · split
    · simpa
    · rename_i other
      simp [other]

omit [Libraries] in
/-- Payloads are covered when every declared one is referenced. -/
theorem covers_payloads {signature : Signature} {elementsById : Dict String Located} {payloadHrefs : List String} :
    "payloads" ∈ signatureCoverage signature elementsById payloadHrefs ↔
      ∀ href ∈ payloadHrefs, ∃ reference ∈ signature.signedInfo.references,
        isAttachmentReference reference = true ∧ referenceUri reference = href := by
  have notByTag : ∀ n : Located, coverageByTag n ≠ some "payloads" := by
    intro n
    unfold coverageByTag
    split
    · simp
    · split <;> simp
  have notCovered : "payloads" ∉ ((signature.signedInfo.references.filter fun reference =>
        !isAttachmentReference reference).filterMap
          fun reference => (target elementsById reference).bind coverageByTag) := by
    simp only [List.mem_filterMap, Option.bind_eq_some_iff, not_exists, not_and]
    intro reference _ n _
    exact notByTag n
  unfold signatureCoverage
  simp only
  split
  · rename_i all
    simp only [List.mem_cons, true_or, true_iff]
    simpa [List.all_eq_true, List.mem_map, and_assoc] using all
  · rename_i some
    simp only [notCovered, false_iff]
    simpa [List.all_eq_true, List.mem_map, and_assoc] using some

end CoverageLaws

section SignatureLaws

/-- The signature value is valid over this canonical form under this key. -/
def ValidOver (signature : Signature) (certificate : Certificate) (data : Bytes) : Prop :=
  ∃ algorithm key value,
    signatureAlgorithms signature.signedInfo.signatureMethod.algorithm = some algorithm ∧
      Libraries.publicKey certificate.der = some (.rsa key) ∧ signature.signatureValue.value = some value ∧
        Libraries.rsaVerify key algorithm data value = true

theorem verify_ok {signature : Signature} {certificate : Certificate} :
    verify signature certificate = .ok () ↔
      signature.signedInfo.canonicalizationMethod.algorithm = some exclusiveC14N ∧
        ∃ data, signedInfoCanonicalized signature.signedInfo = .ok data ∧ ValidOver signature certificate data := by
  have algorithmOf : ∀ name hash, signatureAlgorithmOf name = .ok hash ↔ signatureAlgorithms name = some hash := by
    intro name hash
    unfold signatureAlgorithmOf
    cases signatureAlgorithms name <;> simp
  have keyOf : ∀ name key, requireRsaPublicKey certificate name = .ok key ↔
      Libraries.publicKey certificate.der = some (.rsa key) := by
    intro name key
    simp only [requireRsaPublicKey, Certificate.publicKey]
    cases Libraries.publicKey certificate.der with
    | none => simp [bind, Except.bind]
    | some found => cases found <;> simp [bind, Except.bind, pure, Except.pure]
  have valueOf : ∀ value, signatureBytes signature = .ok value ↔ signature.signatureValue.value = some value := by
    intro value
    unfold signatureBytes
    cases signature.signatureValue.value <;> simp
  have exclusive : requireExclusiveCanonicalization signature.signedInfo.canonicalizationMethod.algorithm = .ok () ↔
      signature.signedInfo.canonicalizationMethod.algorithm = some exclusiveC14N := by
    simp [requireExclusiveCanonicalization]
  simp only [verify, bind_ok, algorithmOf, keyOf, valueOf, exclusive, exists_const]
  constructor
  · rintro ⟨canonical, algorithm, known, key, certified, value, present, data, form, checked⟩
    refine ⟨canonical, data, form, algorithm, key, value, known, certified, present, ?_⟩
    by_contra refused
    simp [refused] at checked
  · rintro ⟨canonical, data, form, algorithm, key, value, known, certified, present, checked⟩
    exact ⟨canonical, algorithm, known, key, certified, value, present, data, form, by simp [checked]⟩

end SignatureLaws

end Verification
