import AS4.AcceptedMessage
import AS4.AcceptedDelivery

/-!
No reference escapes verification. The reference list of a signature is walked
three times, for coverage, for the elements of the document and for the decrypted
attachments; together the walks check every reference of the list that the
verified signature value is over, each against one target.
-/

namespace ReferenceVerification
open ElementTree ElementCodec ElementCodec.Codec FallibleSteps PythonData AS4Libraries AS4Errors SignatureModel MessagingModel
  EnvelopeModel Verification MessageParsing AcceptedMessage Serialisation RecordedExchange ReceivingRuns DeliveredMessage AcceptedDelivery

variable [Libraries]

/-- The signature value holds: over the canonical form of the element this signed
info was read from, under the certificate the resolver gave for the sender and
the one token the key info names. -/
structure SignatureValueVerified (context : AS4ParseContext) (document : Node) (envelope : Envelope)
    (signature : Signature) (signer : Certificate) : Prop where
  token : ∃ token embedded userMessage,
    signatureTokenUri signature = some ("#" ++ token.bstId) ∧
      envelope.header.security.binarySecurityTokens.filter (fun other => other.bstId == token.bstId) = [token] ∧
      token.x509Certificate = .ok embedded ∧ envelope.header.messaging.userMessages = [userMessage] ∧
      context.securityPolicy.signerResolver userMessage.partyInfo.partyFrom (some embedded) = .ok signer
  value : ∃ element form, element.document = document ∧ SignedInfo.codec.validate element = .ok signature.signedInfo ∧
    signature.signedInfo.canonicalizationMethod.algorithm = some exclusiveC14N ∧
      Libraries.canonicalForm element signature.signedInfo.canonicalizationMethod.inclusiveNamespaces = some form ∧
        ValidOver signature signer form

/-- Every transform a reference declares is the one allowed, and it has one. -/
def OnlyTransform (reference : DsigReference) (allowed : String) : Prop :=
  transformAlgorithms reference ≠ [] ∧ ∀ algorithm ∈ transformAlgorithms reference, algorithm = some allowed

/-- A reference was checked against its one target: the decrypted attachment it
names, or the only node of the document that carries the id it names. -/
def ReferenceVerified (document : Node) (decrypted : Dict String Bytes) (reference : DsigReference) : Prop :=
  if isAttachmentReference reference then
    OnlyTransform reference attachmentContentSignature ∧
      ∃ content, Dict.get decrypted (removePrefix "cid:" (referenceUri reference)) = some content ∧
        DigestOf reference content
  else
    OnlyTransform reference exclusiveC14N ∧
      ∃ element form, (∀ other : Located, other.document = document ∧
          removePrefix "#" (referenceUri reference) ∈ idsOf other ↔ other = element) ∧
        Libraries.canonicalForm element (inclusiveNamespaces reference) = some form ∧ DigestOf reference form

section Tokens

/-- Tokens with one id would be two nodes with one id, which the index refuses. -/
theorem tokens_distinct {document : Node} {index : Dict String Located}
    (indexed : indexElementsById (.root document) = .ok index) {children : List Located}
    {tokens : List BinarySecurityToken} (inside : ∀ child ∈ children, child.document = document)
    (distinct : children.Nodup)
    (read : List.Forall₂ (fun child token => BinarySecurityToken.codec.validate child = .ok token) children tokens) :
    (tokens.map (·.bstId)).Nodup := by
  have carries : ∀ child token, BinarySecurityToken.codec.validate child = .ok token →
      token.bstId ∈ idsOf child := by
    intro child token succeeded
    have carried := BinarySecurityToken.reads succeeded
    unfold idsOf
    cases node : child.node with
    | element tag attrib content =>
        rw [node, Node.attribute, Node.attrib] at carried
        exact List.mem_map.mpr ⟨(wsu "Id", token.bstId),
          List.mem_filter.mpr ⟨mem_of_get carried, rfl⟩, rfl⟩
    | text _ | comment _ | processingInstruction _ _ _ | entity _ =>
        simp [node, Node.attribute, Node.attrib] at carried
  induction read with
  | nil => simp
  | @cons child token others rest first remaining ih =>
      rw [List.nodup_cons] at distinct
      simp only [List.map_cons, List.nodup_cons]
      refine ⟨fun again => ?_, ih (fun c member => inside c (List.mem_cons_of_mem _ member)) distinct.2⟩
      obtain ⟨other, member, sameId⟩ := List.mem_map.mp again
      obtain ⟨sibling, inOthers, succeeded⟩ := forall₂_source remaining member
      have sameNode : child = sibling :=
        index_unique indexed ⟨inside child List.mem_cons_self, carries child token first⟩
          ⟨inside sibling (List.mem_cons_of_mem _ inOthers), sameId ▸ carries sibling other succeeded⟩
      exact distinct.1 (sameNode ▸ inOthers)

omit [Libraries] in
theorem filter_unique {tokens : List BinarySecurityToken} (distinct : (tokens.map (·.bstId)).Nodup)
    {token : BinarySecurityToken} (member : token ∈ tokens) :
    tokens.filter (fun other => other.bstId == token.bstId) = [token] := by
  induction tokens with
  | nil => simp at member
  | cons first rest ih =>
      simp only [List.map_cons, List.nodup_cons] at distinct
      rcases List.mem_cons.mp member with rfl | later
      · have none : rest.filter (fun other => other.bstId == token.bstId) = [] := by
          apply List.filter_eq_nil_iff.mpr
          intro other inRest same
          exact distinct.1 (List.mem_map.mpr ⟨other, inRest, by simpa using same⟩)
        simp [none]
      · have different : first.bstId ≠ token.bstId := fun same =>
          distinct.1 (List.mem_map.mpr ⟨token, later, same.symm⟩)
        rw [List.filter_cons_of_neg (by simpa using different)]
        exact ih distinct.2 later

end Tokens

section Signature

/-- The element the signed info of an accepted message was read from. -/
theorem signedInfo_element {document : Node} {envelope : Envelope} {signature : Signature}
    (validated : Envelope.codec.validate (.root document) = .ok envelope)
    (carried : envelope.header.security.signature = some signature) :
    ∃ element : Located, element.document = document ∧
      SignedInfo.codec.validate element = .ok signature.signedInfo ∧
        signature.signedInfo.etreeElement = some element := by
  obtain ⟨-, ⟨_, header, headerFound, headerRead⟩, -⟩ := Envelope.reads validated
  obtain ⟨⟨_, security, securityFound, securityRead⟩, -⟩ := Header.reads headerRead
  obtain ⟨-, signatureRead⟩ := Security.reads securityRead
  obtain ⟨_, child, childFound, childRead⟩ := signatureRead signature carried
  obtain ⟨_, info, infoFound, infoRead⟩ := Signature.reads childRead
  refine ⟨info, ?_, infoRead, (SignedInfo.reads infoRead).1⟩
  rw [lookupChildren_document infoFound, lookupChildren_document childFound, lookupChildren_document securityFound,
    lookupChildren_document headerFound]
  rfl

theorem tokens_unique {document : Node} {index : Dict String Located} {envelope : Envelope}
    (indexed : indexElementsById (.root document) = .ok index)
    (validated : Envelope.codec.validate (.root document) = .ok envelope) :
    (envelope.header.security.binarySecurityTokens.map (·.bstId)).Nodup := by
  obtain ⟨-, ⟨_, header, headerFound, headerRead⟩, -⟩ := Envelope.reads validated
  obtain ⟨⟨_, security, securityFound, securityRead⟩, -⟩ := Header.reads headerRead
  refine tokens_distinct indexed ?_ (foundChildren_nodup _ _ _) (Security.reads securityRead).1
  intro child member
  rw [(Located.mem_children.mp (mem_foundChildren member)).1, lookupChildren_document securityFound,
    lookupChildren_document headerFound]
  rfl

omit [Libraries] in
theorem signatureToken_ok {security : Security} {signature : Signature} {token : BinarySecurityToken}
    (found : signatureToken security signature = .ok token) :
    signatureTokenUri signature = some ("#" ++ token.bstId) ∧ token ∈ security.binarySecurityTokens := by
  simp only [signatureToken] at found
  split at found
  · simp [raise] at found
  · rename_i named
    cases uri : signatureTokenUri signature with
    | none => simp [uri] at named
    | some uri' =>
        simp only [uri, Option.getD_some] at found
        split at found
        · simp [raise] at found
        · rename_i first looked
          obtain rfl := Except.ok.inj found
          have matched := List.find?_some looked
          exact ⟨by simpa using matched, List.mem_of_find?_eq_some looked⟩

omit [Libraries] in
theorem requireUserMessage_ok {envelope : Envelope} {userMessage : UserMessage} :
    requireUserMessage envelope = .ok userMessage ↔ envelope.header.messaging.userMessages = [userMessage] := by
  simp only [requireUserMessage, Messaging.userMessage, Messaging.onlyOne]
  generalize envelope.header.messaging.userMessages = users
  rcases users with _ | ⟨only, _ | ⟨second, rest⟩⟩
  · simp [bind, Except.bind, raise]
  · simp [bind, Except.bind, pure, Except.pure]
  · simp [bind, Except.bind]

theorem signatureValue_verified {context : AS4ParseContext} {document : Node} {index : Dict String Located}
    {envelope : Envelope} {signature : Signature} {signer : Certificate}
    (indexed : indexElementsById (.root document) = .ok index)
    (validated : Envelope.codec.validate (.root document) = .ok envelope)
    (carried : envelope.header.security.signature = some signature)
    (verified : verifySignature context envelope.header.security envelope index signature = .ok signer) :
    SignatureValueVerified context document envelope signature signer := by
  obtain ⟨token, userMessage, embedded, found, read, loaded, resolved, valid, -, -⟩ := verifySignature_ok.mp verified
  obtain ⟨named, member⟩ := signatureToken_ok found
  obtain ⟨element, inside, infoRead, kept⟩ := signedInfo_element validated carried
  obtain ⟨exclusive, data, canonicalized, signed⟩ := verify_ok.mp valid
  refine ⟨⟨token, embedded, userMessage, named, filter_unique (tokens_unique indexed validated) member, loaded,
    requireUserMessage_ok.mp read, mapError_ok.mp resolved⟩, element, data, inside, infoRead, exclusive, ?_, signed⟩
  simpa [signedInfoCanonicalized, kept, canonicalize_ok] using canonicalized

end Signature

section References

/-- The walks over the elements and over the attachments divide the list. -/
theorem reference_verified {document : Node} {index : Dict String Located} {decrypted : Dict String Bytes}
    {reference : DsigReference} (indexed : indexElementsById (.root document) = .ok index)
    (element : verifyReferenceDigest index reference = .ok ())
    (attachment : verifyAttachmentDigest decrypted reference = .ok ()) :
    ReferenceVerified document decrypted reference := by
  unfold ReferenceVerified
  split
  · rename_i toAttachment
    obtain ⟨content, found, matched⟩ := verifyAttachmentDigest_ok.mp attachment toAttachment
    obtain ⟨required, digest⟩ := digestMatchesBytes_true.mp matched
    exact ⟨requireTransforms_ok.mp required, content, found, digest⟩
  · rename_i toElement
    obtain ⟨named, found, matched⟩ := verifyReferenceDigest_ok.mp element (by simpa using toElement)
    obtain ⟨required, form, canonical, digest⟩ := digestMatches_true.mp matched
    refine ⟨requireTransforms_ok.mp required, named, form, fun other => ?_, canonical, digest⟩
    constructor
    · intro carries
      exact index_unique indexed carries ((index_get indexed).mp found)
    · rintro rfl
      exact (index_get indexed).mp found

end References

/-- An accepted message whose policy checks digests: it is signed where that is
required, and a signature it carries was verified in its value, in every one of
its references and in what these cover. -/
theorem accepted_references_verified {cls : MessageClass} {context : AS4ParseContext} {soapBytes : Bytes}
    {mimeAttachments : Dict String Bytes} {message : AS4Message}
    (parsed : parse cls context soapBytes mimeAttachments = .ok message) (accepted : message.parseError = none)
    (digests : context.securityPolicy.verifyDigests = true) :
    ∃ document envelope index decrypted, Libraries.parseXml soapBytes = some document ∧
      Envelope.codec.validate (.root document) = .ok envelope ∧ message.soapEnvelope = some envelope ∧
      indexElementsById (.root document) = .ok index ∧
      getDecryptedData context envelope.header.security mimeAttachments = .ok decrypted ∧
      (context.securityPolicy.signRequired = true → envelope.header.security.signature ≠ none) ∧
      ∀ signature, envelope.header.security.signature = some signature →
        (∃ signer, message.signerCertificate = some signer ∧
          SignatureValueVerified context document envelope signature signer) ∧
        (∀ reference ∈ signature.signedInfo.references, ReferenceVerified document decrypted reference) ∧
        ∃ userMessage, envelope.header.messaging.userMessages = [userMessage] ∧
          ∀ kind ∈ context.securityPolicy.requiredCoverage,
            kind ∈ signatureCoverage signature index (payloadHrefs userMessage) := by
  obtain ⟨reading, accepts⟩ := parse_accepts parsed accepted
  refine ⟨reading.document, reading.envelope, reading.index, reading.decrypted, accepts.parsed, accepts.validated,
    accepts.stored, accepts.indexed, accepts.decrypts, ?_, ?_⟩
  · intro required absent
    obtain ⟨signature, present⟩ := accepts.carries_signature required
    simp [absent] at present
  · intro signature carried
    obtain ⟨read, signer, kept, valid⟩ := accepts.verified_signature carried
    obtain ⟨token, userMessage, embedded, -, found, -, -, -, covered, elements⟩ := verifySignature_ok.mp valid
    refine ⟨⟨signer, kept, signatureValue_verified accepts.indexed accepts.validated carried valid⟩, ?_,
      userMessage, requireUserMessage_ok.mp found, verifySignatureCoverage_ok.mp covered⟩
    intro reference member
    have attachments := accepts.attachmentsMatch digests signature (by simp [read])
    simp only [verifySignedElements, digests, if_true] at elements
    exact reference_verified accepts.indexed (each_ok.mp elements reference member)
      (each_ok.mp attachments reference member)

omit [Libraries] in
/-- The delivered message carries a signature, and each of its references was verified. -/
theorem delivered_references_verified :
    letI := signing honestDocuments
    ∃ message envelope signature decrypted, parse .peppol
        { localParty := answeringParty honestDocuments
          securityPolicy := { signerResolver := trustEmbedded honestDocuments } }
        (plainText honestDocument) deliveredAttachments = .ok message ∧ message.soapEnvelope = some envelope ∧
      envelope.header.security.signature = some signature ∧
        ∀ reference ∈ signature.signedInfo.references, ReferenceVerified honestDocument decrypted reference := by
  let _ := signing honestDocuments
  obtain ⟨message, _, parsed, sound, -⟩ := honest_accepted { signerResolver := trustEmbedded honestDocuments } rfl rfl
    (by simp)
  obtain ⟨document, envelope, index, decrypted, read, -, stored, -, -, signed, verified⟩ :=
    accepted_references_verified parsed sound rfl
  obtain rfl : document = honestDocument := Option.some.inj (read.symm.trans (documents_parse honest_apart).1)
  obtain ⟨signature, carried⟩ := Option.ne_none_iff_exists'.mp (signed rfl)
  exact ⟨message, envelope, signature, decrypted, parsed, stored, carried, (verified signature carried).2.1⟩

end ReferenceVerification
