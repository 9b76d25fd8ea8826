import AS4.RecordReadings
import AS4.SignalBuilding
import AS4.WrittenEnvelope
import AS4.WrittenIdentifiers

/-!
What a written security header still proves after it was read: the digests and the
signature are taken again over the elements they were taken over, wherever these now
stand.
-/

namespace SignedReadings
open ElementTree ElementCodec ElementCodec.Codec FallibleSteps PythonData AS4Libraries AS4Errors SignatureModel
  MessagingModel EnvelopeModel Verification MessageParsing SignalBuilding RecordLaws RecordReadings WrittenIdentifiers

variable [Libraries]

section References

/-- Exclusive canonicalisation of an element does not depend on where it stands. -/
def PlaceFree : Prop :=
  ∀ n : Located, Libraries.canonicalForm n [] = Libraries.canonicalForm (.root n.node) []

theorem referenceForElement_ok {uri : String} {element : Node} {reference : DsigReference} :
    referenceForElement uri element = .ok reference ↔
      ∃ form, Libraries.canonicalForm (.root element) [] = some form ∧
        { transforms := ⟨[{ algorithm := some exclusiveC14N }]⟩
          digestMethod := ⟨xmlencSha256⟩
          digestValue := ⟨Base64.b64encode (Libraries.digest .sha256 form)⟩
          uri := some uri } = reference := by
  have supported : digestAlgorithmMap xmlencSha256 = some .sha256 := by decide
  simp only [referenceForElement, referenceForBytes, bind_ok, pure_ok, canonicalize_ok, computeDigest_ok, supported]
  constructor
  · rintro ⟨form, taken, _, ⟨hash, ⟨⟩, rfl⟩, rfl⟩
    exact ⟨form, taken, rfl⟩
  · rintro ⟨form, taken, rfl⟩
    exact ⟨form, taken, _, ⟨_, rfl, rfl⟩, rfl⟩

/-- A reference over an element matches it after both were written and read. -/
theorem reference_matches {uri : String} {element : Node} {reference reference' : DsigReference} {at' n : Located}
    (placeFree : PlaceFree) (made : referenceForElement uri element = .ok reference)
    (read : DsigReference.codec.reread at' reference reference') (here : n.node = element) :
    digestMatches reference' n = .ok true := by
  obtain ⟨form, taken, rfl⟩ := referenceForElement_ok.mp made
  obtain ⟨transforms, method, value, -, -⟩ := DsigReference.rereads read
  have supported : digestAlgorithmMap xmlencSha256 = some .sha256 := by decide
  have listed : written (some exclusiveC14N) = some exclusiveC14N := by decide
  simp only [List.map_cons, List.map_nil, listed] at transforms
  rw [digestMatches_true]
  refine ⟨requireTransforms_ok.mpr ?_, form, ?_, .sha256, ?_, ?_⟩
  · simp [transformAlgorithms, transforms]
  · have plain : inclusiveNamespaces reference' = [] := by
      simp [inclusiveNamespaces, transforms, Transform.inclusiveNamespaces, inclusivePrefixes]
    rw [plain, placeFree, here, taken]
  · rw [method]
    exact supported
  · rw [value, strip_strip, Base64.strip_b64encode]

/-- The reference names the element that carries its identifier. -/
theorem reference_target {identifier : String} {element : Node} {reference reference' : DsigReference} {at' n : Located}
    {index : Dict String Located} (made : referenceForElement ("#" ++ identifier) element = .ok reference)
    (read : DsigReference.codec.reread at' reference reference') (found : Dict.get index identifier = some n) :
    isAttachmentReference reference' = false ∧ target index reference' = some n := by
  obtain ⟨form, -, rfl⟩ := referenceForElement_ok.mp made
  have uri : referenceUri reference' = "#" ++ identifier := by
    rw [referenceUri, (DsigReference.rereads read).2.2.2.2, written_some (by simp)]
    rfl
  constructor
  · rw [isAttachmentReference, uri, Bool.eq_false_iff]
    intro attachment
    obtain ⟨rest, same⟩ := startsWith_iff.mp attachment
    have heads := congrArg (fun s : String => s.toList.head?) same
    simp at heads
  · rw [target, uri, removePrefix_append, found]

end References

section SignatureValues

omit [Libraries] in
theorem signatureValue_readable (value : Bytes) :
    (textOr base64BytesOptional none "value").readable (some value) := by
  refine textOr_readable.mpr (.inr ⟨some value, ?_⟩)
  have decoded := decodeBase64Bytes_b64encode value
  simp [base64BytesOptional, Scalar.optional, Base64.strip_b64encode, decoded, Except.map]

omit [Libraries] in
theorem canonicalization_readable {algorithm : String} (solid : algorithm ≠ "") :
    (requiredAttribute (Scalar.optional .string) (plain "Algorithm") "algorithm").readable (some algorithm) :=
  ⟨solid, some algorithm, rfl⟩

/-- The signature value verifies over the signed info as it is read back. -/
theorem verify_reread {signature signature' : Signature} {n : Located} {certificate : Certificate} {key : RSAPublicKey}
    {form value : Bytes} (placeFree : PlaceFree) (read : Signature.codec.reread n signature signature')
    (canonical : signature.signedInfo.canonicalizationMethod = { algorithm := some exclusiveC14N })
    (method : signature.signedInfo.signatureMethod = { algorithm := dsigRsaSha256 })
    (valued : signature.signatureValue.value = some value) (solid : value ≠ [])
    (keyed : Libraries.publicKey certificate.der = some (.rsa key))
    (formed : Libraries.canonicalForm (.root (SignedInfo.codec.element (ds "SignedInfo") signature.signedInfo)) [] =
      some form) (verifies : Libraries.rsaVerify key .sha256 form value = true) :
    verify signature' certificate = .ok () := by
  obtain ⟨⟨infoAt, -, here, infoRead⟩, valueRead, -⟩ := Signature.rereads read
  obtain ⟨stored, ⟨methodAt, canonicalRead⟩, methodRead, -⟩ := SignedInfo.rereads infoRead
  have canonical' : signature'.signedInfo.canonicalizationMethod = { algorithm := some exclusiveC14N } := by
    rw [← canonical]
    exact CanonicalizationMethod.rereads (by rw [canonical]) canonicalRead
  have method' : signature'.signedInfo.signatureMethod = { algorithm := dsigRsaSha256 } := methodRead.trans method
  have bytes : signatureBytes signature' = .ok value := by
    simp [signatureBytes, valueRead, valued, Option.filter, solid]
  have data : signedInfoCanonicalized signature'.signedInfo = .ok form := by
    simp only [signedInfoCanonicalized, stored, canonicalize_ok, canonical']
    rw [show CanonicalizationMethod.inclusiveNamespaces { algorithm := some exclusiveC14N } = [] from rfl, placeFree, here,
      formed]
  have algorithm : signatureAlgorithmOf dsigRsaSha256 = .ok .sha256 := by decide
  have publicKey : certificate.publicKey = .ok (.rsa key) := by simp [Certificate.publicKey, keyed]
  simp [verify, canonical', method', requireExclusiveCanonicalization, algorithm, requireRsaPublicKey, publicKey, bytes,
    data, verifies, bind, Except.bind, pure, Except.pure]

omit [Libraries] in
theorem flag_readable {attr : QName} {name : String} (flag : Bool) :
    (optionalAttribute boolScalar attr name).readable (some flag) := by
  refine .inr ⟨some flag, ?_⟩
  have decoded := boolScalar_rereads flag
  simp [Scalar.optional, decoded, Except.map]

end SignatureValues

section Headers

/-- An element of a document, under an identifier it carries there. -/
def Carries (document : Node) (entry : String × Node) : Prop :=
  ∃ n : Located, n.document = document ∧ n.node = entry.2 ∧ entry.1 ∈ idsOf n

omit [Libraries] in
theorem carries_of_subtree {document node : Node} {identifier : String} (below : node ∈ document.subtrees)
    (identified : identifier ∈ identifiersOf node) : Carries document (identifier, node) := by
  rw [← show (Located.root document).iter.map (·.node) = document.subtrees from (Located.root document).iter_nodes] at below
  obtain ⟨n, member, rfl⟩ := List.mem_map.mp below
  exact ⟨n, Located.mem_iter_root.mp member, rfl, idsOf_node n ▸ identified⟩

omit [Libraries] in
theorem subtrees_child {α : Type} (c : Codec α) (tag : QName) (value : α) {child below : Node}
    (written : child ∈ (c.dump value).children ++ (c.dump value).wildcard) (inside : below ∈ child.subtrees) :
    below ∈ (c.element tag value).subtrees := by
  have content : ∀ nodes : List Node, child ∈ nodes → below ∈ subtreesIn nodes := by
    intro nodes member
    induction nodes with
    | nil => simp at member
    | cons node rest ih =>
        rw [subtreesIn, List.mem_append]
        rcases List.mem_cons.mp member with rfl | later
        · exact .inl inside
        · exact .inr (ih later)
  refine List.mem_cons_of_mem _ (content _ ?_)
  rw [List.append_assoc]
  exact List.mem_append_right _ written

omit [Libraries] in
theorem subtrees_self {α : Type} (c : Codec α) (tag : QName) (value : α) :
    c.element tag value ∈ (c.element tag value).subtrees := List.mem_cons_self

theorem messaging_carried {envelope : Envelope} {messagingId : String}
    (identified : envelope.header.messaging.messagingId = some messagingId) (solid : messagingId ≠ "") :
    Carries (Envelope.codec.element (soap12 "Envelope") envelope)
      (messagingId, Messaging.codec.element (eb3 "Messaging") envelope.header.messaging) := by
  refine carries_of_subtree ?_ ?_
  · have inHeader : Messaging.codec.element (eb3 "Messaging") envelope.header.messaging ∈
        (Header.codec.element (soap12 "Header") envelope.header).subtrees :=
      subtrees_child _ _ _ (List.mem_cons_of_mem _ List.mem_cons_self) (subtrees_self ..)
    exact subtrees_child _ _ _ List.mem_cons_self inHeader
  · simp [identifiersOf, Codec.element, Fragment.toElement, Messaging.codec, optionalAttribute, attributeOr,
      attributeFragment, Scalar.optional, Scalar.string, identified, solid]
    exact .inl rfl

theorem body_carried {envelope : Envelope} {bodyId : String} (identified : envelope.body.bodyId = some bodyId)
    (solid : bodyId ≠ "") :
    Carries (Envelope.codec.element (soap12 "Envelope") envelope)
      (bodyId, Body.codec.element (soap12 "Body") envelope.body) := by
  refine carries_of_subtree ?_ ?_
  · exact subtrees_child _ _ _ (List.mem_cons_of_mem _ List.mem_cons_self) (subtrees_self ..)
  · simp [identifiersOf, Codec.element, Fragment.toElement, Body.codec, optionalAttribute, attributeOr,
      attributeFragment, Scalar.optional, Scalar.string, identified, solid]
    rfl

/-- A security header signed by the holder of a certificate over elements of its
document and over payloads. -/
structure Signed (document : Node) (security : Security) (certificate : Certificate) (token : BinarySecurityToken)
    (signature : Signature) (elements : List (String × Node)) (payloads : Dict String Bytes) : Prop where
  finds : findToken security ("#" ++ token.bstId) = some token
  typed : token.valueType = x509V3
  carries : token.value = Base64.b64encode certificate.der
  signed : security.signature = some signature
  names : signature.keyInfo.securityTokenReference.map (·.reference.uri) = [some ("#" ++ token.bstId)]
  canonical : signature.signedInfo.canonicalizationMethod = { algorithm := some exclusiveC14N }
  method : signature.signedInfo.signatureMethod = { algorithm := dsigRsaSha256 }
  references : ∃ overElements overPayloads, signature.signedInfo.references = overElements ++ overPayloads ∧
    List.Forall₂ (fun entry reference => referenceForElement ("#" ++ entry.1) entry.2 = .ok reference) elements
      overElements ∧
      List.Forall₂ (fun entry reference =>
        referenceForBytes ("cid:" ++ entry.1) entry.2 attachmentContentSignature = .ok reference) payloads overPayloads
  placed : ∀ entry ∈ elements, Carries document entry
  verifies : ∃ key form value, Libraries.publicKey certificate.der = some (.rsa key) ∧
    Libraries.canonicalForm (.root (SignedInfo.codec.element (ds "SignedInfo") signature.signedInfo)) [] = some form ∧
      signature.signatureValue.value = some value ∧ value ≠ [] ∧ Libraries.rsaVerify key .sha256 form value = true

/-- A reference names an element it matches. -/
def MatchesElement (index : Dict String Located) (entry : String × Node) (reference : DsigReference) : Prop :=
  ∃ n, isAttachmentReference reference = false ∧ target index reference = some n ∧ n.node = entry.2 ∧
    digestMatches reference n = .ok true

/-- A reference names an attachment with content it matches. -/
def MatchesPayload (entry : String × Bytes) (reference : DsigReference) : Prop :=
  referenceUri reference = "cid:" ++ entry.1 ∧ digestMatchesBytes reference entry.2 = .ok true

/-- A signature that verifies for a signer, over references that match. -/
structure Proves (security : Security) (certificate : Certificate) (index : Dict String Located) (signature : Signature)
    (elements : List (String × Node)) (payloads : Dict String Bytes) : Prop where
  signed : security.signature = some signature
  token : ∃ token, signatureTokenUri signature = some ("#" ++ token.bstId) ∧
    findToken security ("#" ++ token.bstId) = some token ∧ token.x509Certificate = .ok certificate
  verifies : verify signature certificate = .ok ()
  references : ∃ overElements overPayloads, signature.signedInfo.references = overElements ++ overPayloads ∧
    List.Forall₂ (MatchesElement index) elements overElements ∧ List.Forall₂ MatchesPayload payloads overPayloads

variable {document : Node} {security security' : Security} {certificate : Certificate} {token : BinarySecurityToken}
  {signature : Signature} {elements : List (String × Node)} {payloads : Dict String Bytes} {index : Dict String Located}

theorem payload_matches {entry : String × Bytes} {reference reference' : DsigReference} {n : Located}
    (made : referenceForBytes ("cid:" ++ entry.1) entry.2 attachmentContentSignature = .ok reference)
    (read : DsigReference.codec.reread n reference reference') : MatchesPayload entry reference' := by
  have supported : digestAlgorithmMap xmlencSha256 = some .sha256 := by decide
  have listed : written (some attachmentContentSignature) = some attachmentContentSignature := by decide
  simp only [referenceForBytes, bind_ok, pure_ok, computeDigest_ok, supported] at made
  obtain ⟨_, ⟨hash, ⟨⟩, rfl⟩, rfl⟩ := made
  obtain ⟨transforms, method, value, -, uri⟩ := DsigReference.rereads read
  simp only [List.map_cons, List.map_nil, listed] at transforms
  constructor
  · rw [referenceUri, uri, written_some (by simp)]
    rfl
  · rw [digestMatchesBytes_true]
    refine ⟨requireTransforms_ok.mpr (by simp [transformAlgorithms, transforms]), .sha256, ?_, ?_⟩
    · rw [method]
      exact supported
    · rw [value, strip_strip, Base64.strip_b64encode]

theorem element_matches {entry : String × Node} {reference reference' : DsigReference} {n : Located} (placeFree : PlaceFree)
    (indexed : indexElementsById (.root document) = .ok index) (carries : Carries document entry)
    (made : referenceForElement ("#" ++ entry.1) entry.2 = .ok reference)
    (read : DsigReference.codec.reread n reference reference') : MatchesElement index entry reference' := by
  obtain ⟨m, here, node, identified⟩ := carries
  obtain ⟨placed, targeted⟩ := reference_target made read ((index_get indexed).mpr ⟨here, identified⟩)
  exact ⟨m, placed, targeted, node, reference_matches placeFree made read node⟩

omit [Libraries] in
/-- The references read back match what the written ones were taken over. -/
theorem references_match {references references' : List DsigReference} {α : Type} {entries : List α}
    {made : α → DsigReference → Prop} {matched : α → DsigReference → Prop}
    (read : List.Forall₂ (fun before after => ∃ child, DsigReference.codec.reread child before after) references references')
    (each : List.Forall₂ made entries references)
    (keeps : ∀ entry ∈ entries, ∀ before after, made entry before →
      (∃ child, DsigReference.codec.reread child before after) → matched entry after) :
    List.Forall₂ matched entries references' := by
  induction each generalizing references' with
  | nil =>
      cases read
      exact .nil
  | @cons entry before entries references first rest ih =>
      cases read with
      | cons same others =>
          refine .cons (keeps entry List.mem_cons_self _ _ first same) (ih others ?_)
          exact fun entry member => keeps entry (List.mem_cons_of_mem _ member)

/-- A signed header still proves what it was signed over, once it was read. -/
theorem Signed.proves {n : Located} (placeFree : PlaceFree)
    (whole : Signed document security certificate token signature elements payloads)
    (read : Security.codec.reread n security security') (indexed : indexElementsById (.root document) = .ok index) :
    ∃ signature', Proves security' certificate index signature' elements payloads := by
  obtain ⟨tokens, -, -, signed⟩ := Security.rereads read
  rw [whole.signed] at signed
  obtain ⟨signature', carried, _, -, -, signatureRead⟩ : ∃ signature', security'.signature = some signature' ∧
      Below n (Signature.codec.element (ds "Signature") signature)
        fun child => Signature.codec.reread child signature signature' := by
    generalize security'.signature = found at signed
    cases signed with
    | some below => exact ⟨_, rfl, below⟩
  refine ⟨signature', carried, ⟨{ token with value := strip token.value }, ?_, ?_, ?_⟩, ?_, ?_⟩
  · have uris := (Signature.rereads signatureRead).2.2
    obtain ⟨reference, rest, listed, names, -⟩ := List.map_eq_cons_iff.mp whole.names
    rw [listed, List.map_cons, names, written_some (by simp)] at uris
    obtain ⟨reference', rest', found, head, -⟩ := List.map_eq_cons_iff.mp uris
    simp [signatureTokenUri, found, head]
  · have found := whole.finds
    simp only [findToken, tokens, List.find?_map, Function.comp_def] at found ⊢
    rw [found]
    rfl
  · have loads := loadDerX509Certificate_ok.mpr (rfl : certificate.der = certificate.der)
    simp [BinarySecurityToken.x509Certificate, whole.typed, whole.carries, Base64.strip_b64encode,
      Base64.b64decode_b64encode, Except.mapError, loads, bind, Except.bind]
  · obtain ⟨key, form, value, keyed, formed, valued, solid, verifies⟩ := whole.verifies
    exact verify_reread placeFree signatureRead whole.canonical whole.method valued solid keyed formed verifies
  · obtain ⟨⟨infoAt, -, -, infoRead⟩, -⟩ := Signature.rereads signatureRead
    obtain ⟨-, -, -, referencesRead⟩ := SignedInfo.rereads infoRead
    obtain ⟨overElements, overPayloads, listed, madeElements, madePayloads⟩ := whole.references
    rw [listed] at referencesRead
    refine ⟨_, _, (List.take_append_drop overElements.length signature'.signedInfo.references).symm, ?_, ?_⟩
    · have first := (List.forall₂_take_append _ _ _ referencesRead.flip).flip
      refine references_match first madeElements ?_
      rintro entry member before after made ⟨child, same⟩
      exact element_matches placeFree indexed (whole.placed entry member) made same
    · have second := (List.forall₂_drop_append _ _ _ referencesRead.flip).flip
      refine references_match second madePayloads ?_
      rintro entry - before after made ⟨child, same⟩
      exact payload_matches made same

end Headers

end SignedReadings
