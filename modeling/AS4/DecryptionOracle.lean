import AS4.RecordedExchange
import AS4.WrittenEnvelope

/-!
What the sender of a message learns from its rejection about the key transport. A
data reference is either broken, whatever the session key is, or names an
attachment that is then decrypted; the loop over the references reports the first
that is broken or does not decrypt.
-/

namespace DecryptionOracle
open ElementTree ElementCodec ElementCodec.Codec FallibleSteps PythonData AS4Libraries AS4Errors SignatureModel
  EncryptionModel MessagingModel EnvelopeModel Verification MessageParsing RecordLaws RecordReadings WrittenEnvelope
  RecordedExchange Serialisation

variable [Libraries]

section References

omit [Libraries] in
/-- The attachment a data reference names, for AES-GCM to decrypt. -/
def namedAttachment (security : Security) (mimeAttachments : Dict String Bytes) (reference : XencReference) :
    Except PyError (String × Bytes) :=
  let uri := reference.uri.getD ""
  if uri = "" then raise encryptedDataReferenceNotFound.new
  else
    match security.getEncryptedData (dropFirst uri) with
    | none => raise (encryptedDataNotFound uri)
    | some data => do
        let attachmentId ← encryptedAttachmentId data
        match Dict.get mimeAttachments attachmentId with
        | none => raise (encryptedAttachmentNotFound attachmentId)
        | some content =>
            if data.encryptionMethod.algorithm = aes128Gcm then return (attachmentId, content)
            else raise (unsupportedEncryptionAlgorithm data.encryptionMethod.algorithm)

def openAttachment (sessionKey content : Bytes) : Option Bytes :=
  Libraries.aesgcmDecrypt sessionKey (content.take 12) (content.drop 12)

theorem decryptReference_eq (sessionKey : Bytes) (security : Security) (mimeAttachments : Dict String Bytes)
    (reference : XencReference) :
    decryptReference sessionKey security mimeAttachments reference = (do
      let (attachmentId, content) ← namedAttachment security mimeAttachments reference
      match openAttachment sessionKey content with
      | none => raise decryptionFailed.new
      | some decrypted => return (attachmentId, decrypted)) := by
  simp only [decryptReference, namedAttachment, decryptAttachment, openAttachment]
  by_cases unnamed : reference.uri.getD "" = ""
  · simp [unnamed, raise, bind, Except.bind]
  · rw [if_neg unnamed, if_neg unnamed]
    cases security.getEncryptedData (dropFirst (reference.uri.getD "")) with
    | none => rfl
    | some data =>
        dsimp only
        cases encryptedAttachmentId data with
        | error raised => rfl
        | ok attachmentId =>
            simp only [bind, Except.bind]
            cases Dict.get mimeAttachments attachmentId with
            | none => rfl
            | some content =>
                by_cases supported : data.encryptionMethod.algorithm = aes128Gcm
                · simp only [supported, ↓reduceIte, pure, Except.pure]
                  cases Libraries.aesgcmDecrypt sessionKey (content.take 12) (content.drop 12) <;> rfl
                · simp only [supported, ↓reduceIte]
                  rfl

omit [Libraries] in
/-- Nothing that is wrong with a reference is reported like a failed decryption. -/
theorem namedAttachment_error {security : Security} {mimeAttachments : Dict String Bytes} {reference : XencReference}
    {raised : PyError} (failed : namedAttachment security mimeAttachments reference = .error raised) :
    ∃ error, raised = .receiptable error ∧ error ≠ decryptionFailed.new := by
  have differs : ∀ error : BaseAS4ReceiptableError, error.errorClass.name ≠ decryptionFailed.name →
      error ≠ decryptionFailed.new := by
    rintro error other rfl
    exact other rfl
  simp only [namedAttachment] at failed
  split at failed
  · obtain rfl := Except.error.inj failed
    exact ⟨_, rfl, differs _ (by decide)⟩
  · split at failed
    · obtain rfl := Except.error.inj failed
      exact ⟨_, rfl, differs _ (show "EncryptedDataNotFoundException" ≠ "DecryptionFailedException" by decide)⟩
    · rcases bind_error.mp failed with unnamed | ⟨attachmentId, -, broken⟩
      · unfold encryptedAttachmentId at unnamed
        split at unnamed
        · obtain rfl := Except.error.inj unnamed
          exact ⟨_, rfl, differs _ (by decide)⟩
        · split at unnamed
          · obtain rfl := Except.error.inj unnamed
            exact ⟨_, rfl, differs _ (by decide)⟩
          · simp at unnamed
      · split at broken
        · obtain rfl := Except.error.inj broken
          exact ⟨_, rfl, differs _ (show "EncryptedAttachmentNotFoundException" ≠ "DecryptionFailedException" by decide)⟩
        · split at broken
          · simp at broken
          · obtain rfl := Except.error.inj broken
            exact ⟨_, rfl,
              differs _ (show "UnsupportedEncryptionAlgorithmException" ≠ "DecryptionFailedException" by decide)⟩

/-- The first reference that is broken or does not decrypt stops the loop. -/
theorem decryptReferences_error {sessionKey : Bytes} {security : Security} {mimeAttachments : Dict String Bytes}
    {references : List XencReference} {decrypted : Dict String Bytes} {raised : PyError} :
    decryptReferences sessionKey security mimeAttachments references decrypted = .error raised ↔
      ∃ front reference back, references = front ++ reference :: back ∧
        (∀ earlier ∈ front, ∃ entry, decryptReference sessionKey security mimeAttachments earlier = .ok entry) ∧
        decryptReference sessionKey security mimeAttachments reference = .error raised := by
  induction references generalizing decrypted with
  | nil => simp [decryptReferences]
  | cons first rest ih =>
      simp only [decryptReferences, bind_error, ih]
      constructor
      · rintro (here | ⟨entry, opened, front, reference, back, rfl, passed, failed⟩)
        · exact ⟨[], first, rest, rfl, by simp, here⟩
        · refine ⟨first :: front, reference, back, rfl, ?_, failed⟩
          intro earlier member
          rcases List.mem_cons.mp member with rfl | later
          · exact ⟨entry, opened⟩
          · exact passed earlier later
      · rintro ⟨front, reference, back, split, passed, failed⟩
        cases front with
        | nil =>
            obtain ⟨rfl, rfl⟩ := List.cons.inj split
            exact .inl failed
        | cons head tail =>
            obtain ⟨rfl, rfl⟩ := List.cons.inj split
            obtain ⟨entry, opened⟩ := passed first List.mem_cons_self
            exact .inr ⟨entry, opened, tail, reference, back, rfl,
              fun earlier member => passed earlier (List.mem_cons_of_mem _ member), failed⟩

end References

section Behaviours

omit [Libraries] in
/-- The encrypted session key a message hands to the private key, with the data
references of the encrypted key. -/
def transportedKey (security : Security) : Option (Bytes × List XencReference) :=
  security.encryptedKey.bind fun key =>
    let cipherValue := (key.cipherData.cipherValue.bind (·.value)).getD ""
    if cipherValue = "" ∨ key.encryptionMethod.algorithm ≠ rsaOaep then none
    else (Base64.b64decode true cipherValue).toOption.map fun encrypted => (encrypted, key.referenceList.dataReference)

/-- A session key under which some referenced attachment does not decrypt. -/
def LeavesUndecrypted (security : Security) (mimeAttachments : Dict String Bytes) (references : List XencReference)
    (sessionKey : Bytes) : Prop :=
  ∃ reference ∈ references, ∃ attachmentId content,
    namedAttachment security mimeAttachments reference = .ok (attachmentId, content) ∧
      openAttachment sessionKey content = none

/-- What a private key may do with a message: the key transport fails, or yields a
session key under which some referenced attachment does not decrypt. -/
def Behaves (security : Security) (mimeAttachments : Dict String Bytes) (privateKey : AS4PrivateKey) : Prop :=
  ∀ encrypted references, transportedKey security = some (encrypted, references) →
    (∃ message, privateKey.decrypt encrypted = .error (.valueError message)) ∨
      ∃ sessionKey, privateKey.decrypt encrypted = .ok sessionKey ∧
        LeavesUndecrypted security mimeAttachments references sessionKey

/-- Before the first broken data reference, a session key that leaves something
undecrypted leaves something undecrypted already. -/
def TellsNothing (security : Security) (mimeAttachments : Dict String Bytes) : Prop :=
  ∀ encrypted references, transportedKey security = some (encrypted, references) →
    ∀ front broken back, references = front ++ broken :: back →
      (∀ earlier ∈ front, ∃ entry, namedAttachment security mimeAttachments earlier = .ok entry) →
      (∃ raised, namedAttachment security mimeAttachments broken = .error raised) →
        ∀ sessionKey, LeavesUndecrypted security mimeAttachments references sessionKey →
          LeavesUndecrypted security mimeAttachments front sessionKey

def withPrivateKey (context : AS4ParseContext) (privateKey : AS4PrivateKey) : AS4ParseContext :=
  { context with
    localParty :=
      { context.localParty with credentials := { context.localParty.credentials with privateKey := privateKey } } }

end Behaviours

section Decryption
variable {context : AS4ParseContext} {security : Security} {mimeAttachments : Dict String Bytes} {encrypted : Bytes}
  {references : List XencReference}

theorem getDecryptedData_transported (transported : transportedKey security = some (encrypted, references)) :
    getDecryptedData context security mimeAttachments =
      (match context.localParty.credentials.privateKey.decrypt encrypted with
        | .ok sessionKey => decryptReferences sessionKey security mimeAttachments references []
        | .error (.valueError _) => raise decryptionFailed.new
        | .error raised => .error raised) := by
  unfold transportedKey at transported
  obtain ⟨key, present, transported⟩ := Option.bind_eq_some_iff.mp transported
  simp only at transported
  split at transported
  · simp at transported
  · rename_i usable
    push Not at usable
    obtain ⟨bytes, decoded, same⟩ := Option.map_eq_some_iff.mp transported
    obtain ⟨rfl, rfl⟩ := Prod.mk.inj same
    have decoded : Base64.b64decode true ((key.cipherData.cipherValue.bind (·.value)).getD "") = .ok bytes := by
      cases ran : Base64.b64decode true ((key.cipherData.cipherValue.bind (·.value)).getD "") with
      | error message => simp [ran, Except.toOption] at decoded
      | ok other => simpa [ran, Except.toOption] using decoded
    simp only [getDecryptedData, present, usable.1, usable.2, ne_eq, not_true_eq_false, ↓reduceIte, decryptSessionKey,
      decoded]
    simp only [Except.mapError, bind, Except.bind]
    cases context.localParty.credentials.privateKey.decrypt bytes with
    | ok sessionKey => rfl
    | error raised => cases raised <;> rfl

theorem getDecryptedData_untransported (untransported : transportedKey security = none) (first second : AS4PrivateKey) :
    getDecryptedData (withPrivateKey context first) security mimeAttachments =
      getDecryptedData (withPrivateKey context second) security mimeAttachments := by
  unfold getDecryptedData
  cases present : security.encryptedKey with
  | none => rfl
  | some key =>
      dsimp only
      by_cases empty : (key.cipherData.cipherValue.bind (·.value)).getD "" = ""
      · rw [if_pos empty, if_pos empty]
      · rw [if_neg empty, if_neg empty]
        by_cases other : key.encryptionMethod.algorithm ≠ rsaOaep
        · rw [if_pos other, if_pos other]
        · rw [if_neg other, if_neg other]
          have undecoded : (Base64.b64decode true ((key.cipherData.cipherValue.bind (·.value)).getD "")).toOption = none := by
            simpa [transportedKey, present, empty, other] using untransported
          simp only [decryptSessionKey]
          cases ran : Base64.b64decode true ((key.cipherData.cipherValue.bind (·.value)).getD "") with
          | ok bytes => simp [ran, Except.toOption] at undecoded
          | error message => simp [Except.mapError, bind, Except.bind]

/-- Where decryption tells nothing, only a failed decryption is reported once the
key transport succeeded. -/
theorem decryptReferences_uniform (transported : transportedKey security = some (encrypted, references))
    (tells : TellsNothing security mimeAttachments) {sessionKey : Bytes}
    (leaves : LeavesUndecrypted security mimeAttachments references sessionKey) {raised : PyError}
    (failed : decryptReferences sessionKey security mimeAttachments references [] = .error raised) :
    raised = .receiptable decryptionFailed.new := by
  obtain ⟨front, reference, back, split, passed, failed⟩ := decryptReferences_error.mp failed
  rw [decryptReference_eq] at failed
  rcases bind_error.mp failed with broken | ⟨⟨attachmentId, content⟩, -, unopened⟩
  · have named : ∀ earlier ∈ front, ∃ entry, namedAttachment security mimeAttachments earlier = .ok entry := by
      intro earlier member
      obtain ⟨entry, opened⟩ := passed earlier member
      rw [decryptReference_eq] at opened
      obtain ⟨found, named, -⟩ := bind_ok.mp opened
      exact ⟨found, named⟩
    obtain ⟨earlier, member, attachmentId, content, found, closed⟩ :=
      tells _ _ transported front reference back split named ⟨raised, broken⟩ sessionKey leaves
    obtain ⟨entry, opened⟩ := passed earlier member
    rw [decryptReference_eq] at opened
    simp [found, closed, bind, Except.bind, raise] at opened
  · dsimp only at unopened
    split at unopened
    · exact (Except.error.inj unopened).symm
    · simp at unopened

theorem getDecryptedData_uniform (transported : transportedKey security = some (encrypted, references))
    (tells : TellsNothing security mimeAttachments) {privateKey : AS4PrivateKey}
    (behaves : Behaves security mimeAttachments privateKey) {raised : PyError}
    (failed : getDecryptedData (withPrivateKey context privateKey) security mimeAttachments = .error raised) :
    raised = .receiptable decryptionFailed.new := by
  rw [getDecryptedData_transported transported] at failed
  have kept : (withPrivateKey context privateKey).localParty.credentials.privateKey = privateKey := rfl
  rw [kept] at failed
  rcases behaves encrypted references transported with ⟨message, fails⟩ | ⟨sessionKey, yields, leaves⟩
  · rw [fails] at failed
    exact (Except.error.inj failed).symm
  · rw [yields] at failed
    exact decryptReferences_uniform transported tells leaves failed

/-- A session key that opens everything in front of a broken reference gets to it. -/
theorem decryptReferences_reaches {front back : List XencReference} {broken : XencReference} {sessionKey : Bytes}
    (named : ∀ earlier ∈ front, ∃ entry, namedAttachment security mimeAttachments earlier = .ok entry)
    (opens : ¬ LeavesUndecrypted security mimeAttachments front sessionKey) {raised : PyError}
    (failed : namedAttachment security mimeAttachments broken = .error raised) :
    decryptReferences sessionKey security mimeAttachments (front ++ broken :: back) [] = .error raised := by
  refine decryptReferences_error.mpr ⟨front, broken, back, rfl, ?_, ?_⟩
  · intro earlier member
    obtain ⟨⟨attachmentId, content⟩, found⟩ := named earlier member
    rw [decryptReference_eq, found]
    cases opened : openAttachment sessionKey content with
    | none => exact absurd ⟨earlier, member, attachmentId, content, found, opened⟩ opens
    | some decrypted => exact ⟨(attachmentId, decrypted), by simp [bind, Except.bind, opened, pure, Except.pure]⟩
  · rw [decryptReference_eq, failed]
    rfl

end Decryption

section Rejections

/-- The stages in front of decryption let the message pass. -/
def ReachesDecryption (context : AS4ParseContext) (soapBytes : Bytes) (envelope : Envelope) : Prop :=
  ∃ document identifiers identity index signed, Libraries.parseXml soapBytes = some document ∧
    preValidate (.root document) = .ok identifiers ∧
    getAddressedTo ((Located.root document).find partyToPath) = .ok identity ∧
    Envelope.codec.validate (.root document) = .ok envelope ∧
    indexElementsById (.root document) = .ok index ∧
    getVerifiedSignature context envelope.header.security envelope index = .ok signed

/-- What decryption raises is what the message is rejected with. -/
theorem parse_of_decryption_error (cls : MessageClass) {context : AS4ParseContext} {soapBytes : Bytes}
    {mimeAttachments : Dict String Bytes} {envelope : Envelope} {raised : PyError}
    (reaches : ReachesDecryption context soapBytes envelope)
    (failed : getDecryptedData context envelope.header.security mimeAttachments = .error raised) :
    ∃ fields : AS4Message, parse cls context soapBytes mimeAttachments =
      (match caught raised with
        | some error => .ok { fields with parseError := some error }
        | none => .error raised) := by
  obtain ⟨document, ⟨messageId, messagingId⟩, identity, index, ⟨signature, signer⟩, parsed, identified, addressed,
    validated, indexed, verified⟩ := reaches
  have core : ∀ before, ∃ after, processAs4 context (.root document) mimeAttachments before = .error raised after := by
    intro before
    refine ⟨{ before with
      mimeAttachments := mimeAttachments, soapEnvelope := some envelope, signerCertificate := signer }, ?_⟩
    simp only [processAs4, Envelope.modelValidateEtree, validated, Except.mapError, indexed, verified, failed,
      bind, EStateM.bind, lift, modify, modifyGet, MonadStateOf.modifyGet, EStateM.modifyGet]
  have stopped : ∀ before, ∃ after, process cls context (.root document) mimeAttachments before =
      .error raised after := by
    intro before
    obtain ⟨after, stops⟩ := core before
    cases cls with
    | as4 => exact ⟨after, stops⟩
    | peppol => exact ⟨after, by simp only [process, processPeppol, bind, EStateM.bind, stops]⟩
  obtain ⟨after, stops⟩ := stopped
    { ({} : AS4Message) with messageId := messageId, messagingId := messagingId, addressedTo := some identity }
  have steps : parseSteps cls context soapBytes mimeAttachments {} = .error raised after := by
    refine Eq.trans ?_ stops
    simp only [parseSteps, parseXml_ok.mpr parsed, identified, addressed, bind, EStateM.bind, lift, modify, modifyGet,
      MonadStateOf.modifyGet, EStateM.modifyGet]
  refine ⟨after, ?_⟩
  cases answered : caught raised <;> simp only [parse, steps, answered]

theorem parseError_of_decryption_error {cls : MessageClass} {context : AS4ParseContext} {soapBytes : Bytes}
    {mimeAttachments : Dict String Bytes} {envelope : Envelope} {raised : PyError} {message : AS4Message}
    (reaches : ReachesDecryption context soapBytes envelope)
    (failed : getDecryptedData context envelope.header.security mimeAttachments = .error raised)
    (parsed : parse cls context soapBytes mimeAttachments = .ok message) : message.parseError = caught raised := by
  obtain ⟨fields, outcome⟩ := parse_of_decryption_error cls reaches failed
  rw [outcome] at parsed
  cases answered : caught raised with
  | none => simp [answered] at parsed
  | some error =>
      simp only [answered, Except.ok.injEq] at parsed
      rw [← parsed]

/-- The rejections of one message under two behaviours of the private key look the
same. -/
def Indistinguishable (cls : MessageClass) (context : AS4ParseContext) (soapBytes : Bytes)
    (mimeAttachments : Dict String Bytes) : Prop :=
  ∀ envelope, ReachesDecryption context soapBytes envelope →
    ∀ first second : AS4PrivateKey, Behaves envelope.header.security mimeAttachments first →
      Behaves envelope.header.security mimeAttachments second →
      (∃ raised, getDecryptedData (withPrivateKey context first) envelope.header.security mimeAttachments = .error raised) →
      (∃ raised, getDecryptedData (withPrivateKey context second) envelope.header.security mimeAttachments = .error raised) →
        ∀ message message', parse cls (withPrivateKey context first) soapBytes mimeAttachments = .ok message →
          parse cls (withPrivateKey context second) soapBytes mimeAttachments = .ok message' →
            message.parseError = message'.parseError

/-- A broken data reference tells a session key that opens everything in front of it,
and leaves another attachment undecrypted, from a failed key transport. -/
theorem distinguishes {cls : MessageClass} {context : AS4ParseContext} {soapBytes : Bytes}
    {mimeAttachments : Dict String Bytes} {envelope : Envelope} {encrypted sessionKey : Bytes}
    {references front back : List XencReference} {broken : XencReference} {raised : PyError}
    (reaches : ReachesDecryption context soapBytes envelope)
    (transported : transportedKey envelope.header.security = some (encrypted, references))
    (split : references = front ++ broken :: back)
    (named : ∀ earlier ∈ front, ∃ entry, namedAttachment envelope.header.security mimeAttachments earlier = .ok entry)
    (failed : namedAttachment envelope.header.security mimeAttachments broken = .error raised)
    (leaves : LeavesUndecrypted envelope.header.security mimeAttachments references sessionKey)
    (opens : ¬ LeavesUndecrypted envelope.header.security mimeAttachments front sessionKey) :
    ¬ Indistinguishable cls context soapBytes mimeAttachments := by
  intro same
  obtain ⟨error, rfl, differs⟩ := namedAttachment_error failed
  let failing : AS4PrivateKey := ⟨.ok, fun _ => .error (.valueError "")⟩
  let yielding : AS4PrivateKey := ⟨.ok, fun _ => .ok sessionKey⟩
  have first : getDecryptedData (withPrivateKey context failing) envelope.header.security mimeAttachments =
      .error (.receiptable decryptionFailed.new) :=
    getDecryptedData_transported transported
  have second : getDecryptedData (withPrivateKey context yielding) envelope.header.security mimeAttachments =
      .error (.receiptable error) := by
    rw [getDecryptedData_transported transported, split]
    exact decryptReferences_reaches named opens failed
  have failingReaches : ReachesDecryption (withPrivateKey context failing) soapBytes envelope := reaches
  have yieldingReaches : ReachesDecryption (withPrivateKey context yielding) soapBytes envelope := reaches
  obtain ⟨fields, parsed⟩ := parse_of_decryption_error cls failingReaches first
  obtain ⟨fields', parsed'⟩ := parse_of_decryption_error cls yieldingReaches second
  have yields : Behaves envelope.header.security mimeAttachments yielding := by
    intro encrypted' references' transported'
    obtain ⟨rfl, rfl⟩ := Prod.mk.inj (Option.some.inj (transported.symm.trans transported'))
    exact .inr ⟨sessionKey, rfl, leaves⟩
  have equal := same envelope reaches failing yielding (fun _ _ _ => .inl ⟨_, rfl⟩) yields ⟨_, first⟩ ⟨_, second⟩ _ _
    parsed parsed'
  exact differs (Option.some.inj equal).symm

/-- Rejections by decryption tell nothing of the key transport just when the message
has no broken data reference that a session key may get to and still fail. -/
theorem decryption_errors_indistinguishable_iff (cls : MessageClass) (context : AS4ParseContext) (soapBytes : Bytes)
    (mimeAttachments : Dict String Bytes) : Indistinguishable cls context soapBytes mimeAttachments ↔
      ∀ envelope, ReachesDecryption context soapBytes envelope →
        TellsNothing envelope.header.security mimeAttachments := by
  constructor
  · intro same envelope reaches encrypted references transported front broken back split named ⟨raised, failed⟩
      sessionKey leaves
    by_contra opens
    exact distinguishes reaches transported split named failed leaves opens same
  · rintro tells envelope reaches first second behaves behaves' ⟨raised, failed⟩ ⟨raised', failed'⟩ message message'
      parsed parsed'
    have reached : ∀ privateKey, ReachesDecryption (withPrivateKey context privateKey) soapBytes envelope :=
      fun _ => reaches
    rw [parseError_of_decryption_error (reached first) failed parsed,
      parseError_of_decryption_error (reached second) failed' parsed']
    cases transported : transportedKey envelope.header.security with
    | none =>
        rw [getDecryptedData_untransported transported first second, failed'] at failed
        rw [Except.error.inj failed]
    | some transport =>
        obtain ⟨encrypted, references⟩ := transport
        rw [getDecryptedData_uniform transported (tells envelope reaches) behaves failed,
          getDecryptedData_uniform transported (tells envelope reaches) behaves' failed']

end Rejections

section TwoReferences

omit [Libraries] in
/-- An encrypted key whose first data reference has no URI; the second names an
attachment. -/
def oracleKey : EncryptedKey where
  encryptionMethod := { algorithm := rsaOaep }
  keyInfo := {}
  cipherData := { cipherValue := some { value := some "AAAA" } }
  referenceList := { dataReference := [{}, { uri := some "#D" }] }

omit [Libraries] in
def oracleData : EncryptedType where
  encryptionMethod := { algorithm := aes128Gcm }
  keyInfo := {}
  cipherData := { cipherReference := some { transforms := {}, uri := some "cid:a" } }
  encryptedTypeId := some "D"

omit [Libraries] in
def oracleSecurity : Security where
  binarySecurityTokens := [⟨SignalBuilding.base64Binary, x509V3, "T", "token"⟩]
  encryptedKey := some oracleKey
  encryptedData := some [oracleData]

theorem oracleSecurity_admits : Security.codec.admits oracleSecurity := by
  simp [Security.codec, BinarySecurityToken.codec, EncryptedKey.codec, EncryptedType.codec, EncryptionMethod.codec,
    KeyInfo.codec, CipherData.codec, CipherValue.codec, CipherReference.codec, XencTransforms.codec, ReferenceList.codec,
    XencReference.codec, stringText, oracleSecurity, oracleKey, oracleData]

theorem oracleSecurity_readable : Security.codec.readable oracleSecurity := by
  have words : SignalBuilding.base64Binary ≠ "" ∧ x509V3 ≠ "" ∧ rsaOaep ≠ "" ∧ aes128Gcm ≠ "" ∧ strip "token" ≠ "" := by
    decide
  have understood : (attributeOr boolScalar true (soap12 "mustUnderstand") "must_understand").readable true :=
    .inr ⟨true, boolScalar_rereads true⟩
  have ciphered : (textOr (Scalar.optional .string) none "value").readable (some "AAAA") :=
    .inr ⟨_, rfl⟩
  simp [Security.codec, BinarySecurityToken.codec, EncryptedKey.codec, EncryptedType.codec, EncryptionMethod.codec,
    KeyInfo.codec, CipherData.codec, CipherValue.codec, CipherReference.codec, XencTransforms.codec, ReferenceList.codec,
    XencReference.codec, stringText, oracleSecurity, oracleKey, oracleData, words, understood, ciphered]

/-- What is read of the header asks for the key transport, and the first of its two
references is broken. -/
theorem oracleSecurity_reads {n : Located} {security : Security} (read : Security.codec.reread n oracleSecurity security) :
    security.signature = none ∧
      ∃ encrypted broken named, transportedKey security = some (encrypted, [broken, named]) ∧
        namedAttachment security [("a", [])] broken = .error (.receiptable encryptedDataReferenceNotFound.new) ∧
          namedAttachment security [("a", [])] named = .ok ("a", []) := by
  obtain ⟨-, keyRead, dataRead, signed⟩ := Security.rereads read
  have unsigned : security.signature = none := by
    generalize security.signature = found at signed
    cases signed
    rfl
  obtain ⟨key, carried, _, keyRead⟩ : ∃ key, security.encryptedKey = some key ∧
      ∃ child, EncryptedKey.codec.reread child oracleKey key := by
    generalize security.encryptedKey = found at keyRead
    cases keyRead with
    | some same => exact ⟨_, rfl, same⟩
  obtain ⟨typeRead, uris⟩ := EncryptedKey.rereads keyRead
  obtain ⟨algorithm, ⟨_, cipherRead⟩, -⟩ := EncryptedType.rereads typeRead
  obtain ⟨value, ciphered, _, valueRead⟩ := CipherData.rereads_value rfl cipherRead
  have valued := CipherValue.rereads rfl (by decide) valueRead
  obtain ⟨broken, named, listed, unnamed, placed⟩ : ∃ broken named,
      key.referenceList.dataReference = [broken, named] ∧ broken.uri = none ∧ named.uri = some "#D" := by
    have uris : key.referenceList.dataReference.map (·.uri) = [none, some "#D"] := uris.trans (by decide)
    obtain ⟨broken, rest, listed, unnamed, uris⟩ := List.map_eq_cons_iff.mp uris
    obtain ⟨named, rest, rfl, placed, none⟩ := List.map_eq_cons_iff.mp uris
    obtain rfl := List.map_eq_nil_iff.mp none
    exact ⟨broken, named, listed, unnamed, placed⟩
  obtain ⟨data, collected, _, dataRead⟩ : ∃ data, security.encryptedData.getD [] = [data] ∧
      ∃ child, EncryptedType.codec.reread child oracleData data := by
    obtain ⟨data, rest, same, none, collected⟩ := List.forall₂_cons_left_iff.mp dataRead
    obtain rfl := List.forall₂_nil_left_iff.mp none
    exact ⟨data, collected, same⟩
  obtain ⟨cipher, ⟨_, referenceRead⟩, identified⟩ := EncryptedType.rereads dataRead
  obtain ⟨reference, referenced, target⟩ := CipherData.rereads_reference rfl referenceRead
  refine ⟨unsigned, [0, 0, 0], broken, named, ?_, ?_, ?_⟩
  · have text : (key.cipherData.cipherValue.bind (·.value)).getD "" = "AAAA" := by
      rw [ciphered, Option.bind_some, valued]
      decide
    have decoded : Base64.b64decode true "AAAA" = .ok [0, 0, 0] := by decide
    simp [transportedKey, carried, text, algorithm, oracleKey, decoded, Except.toOption, listed]
  · simp [namedAttachment, unnamed, raise]
  · have identified : data.encryptedTypeId = some "D" := identified.trans (by decide)
    have found : security.getEncryptedData (dropFirst "#D") = some data := by
      have short : dropFirst "#D" = "D" := by decide
      simp [Security.getEncryptedData, collected, identified, short]
    have attachment : encryptedAttachmentId data = .ok "a" := by
      have uri : data.cipherData.cipherReference.bind (·.uri) = some "cid:a" := by
        rw [referenced, Option.bind_some, target]
        decide
      simp only [encryptedAttachmentId, uri]
      decide
    have supported : data.encryptionMethod.algorithm = aes128Gcm := cipher
    simp [namedAttachment, placed, found, attachment, supported, bind, Except.bind, pure, Except.pure, Dict.get]

omit [Libraries] in
/-- Under a policy that asks for no signature, a broken reference in front of one that
names an attachment tells whether the key transport succeeded. -/
theorem broken_reference_tells :
    letI := recorded []
    let document := Envelope.codec.element (soap12 "Envelope") (plainEnvelope answerTime oracleSecurity)
    letI := recorded [document]
    let context := receivingContext [document]
    ¬ Indistinguishable .as4 { context with securityPolicy := { context.securityPolicy with signRequired := false } }
      (plainText document) [("a", [])] := by
  intro document
  let _ := recorded [document]
  intro context
  have stamps : Stamps answerTime := ⟨by decide, answerTime, by decide⟩
  obtain ⟨envelope, read, ⟨_, security⟩, -⟩ := plainEnvelope_reads stamps oracleSecurity_admits oracleSecurity_readable
  obtain ⟨unsigned, encrypted, broken, named, transported, failed, found⟩ := oracleSecurity_reads security
  obtain ⟨index, indexed⟩ : ∃ index, indexElementsById (.root document) = .ok index :=
    index_ok_iff.mpr ⟨by decide, by decide⟩
  have parsed : Libraries.parseXml (plainText document) = some document := by
    change [document].find? _ = _
    rw [List.find?_cons_of_pos (by simp)]
  have reaches : ReachesDecryption { context with
      securityPolicy := { context.securityPolicy with signRequired := false } } (plainText document) envelope :=
    ⟨document, _, _, index, (none, none), parsed, plainEnvelope_identified, plainEnvelope_addressed, read, indexed,
      by simp [getVerifiedSignature, unsigned]⟩
  have leaves : LeavesUndecrypted envelope.header.security [("a", [])] [broken, named] [] :=
    ⟨named, by simp, "a", [], found, by decide⟩
  exact distinguishes reaches transported (show [broken, named] = [] ++ broken :: [named] from rfl) (by simp) failed leaves (by simp [LeavesUndecrypted])

end TwoReferences

end DecryptionOracle
