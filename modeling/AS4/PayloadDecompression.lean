import AS4.GzipStreams
import AS4.PayloadCoverage
import AS4.LooseMessages

/-!
What becomes of the payloads once they are decrypted. A part that declares gzip has its
attachment decompressed within a limit; the loop over the parts writes what it has
decompressed back where it read it, so an attachment that two parts name is decompressed
by each of them in turn.
-/

namespace PayloadDecompression
open ElementTree ElementCodec ElementCodec.Codec FallibleSteps PythonData GzipStreams AS4Libraries AS4Errors SignatureModel
  EncryptionModel RecordLaws RecordReadings MessagingModel EnvelopeModel Verification MessageParsing MessageBuilding
  AcceptedMessage Serialisation RecordedExchange WrittenEnvelope SignedReadings MessageReadings ReceivingRuns
  DeliveredMessage AcceptedDelivery PayloadCoverage LooseMessages

section Limits
variable [Libraries] {stream : Bytes → GzipStream UInt8} {part : PartProperties} {content : Bytes} {maximumSize : Int}

/-- `GzipFile` reads the bytes it is given as this stream. -/
structure ReadsStreams (stream : Bytes → GzipStream UInt8) : Prop where
  reads : ∀ content size, 0 < size → Libraries.gzipRead content size = (stream content).read size.toNat

/-- The three ways a decompression ends. -/
inductive Ends (stream : GzipStream UInt8) (maximumSize : Int) : Except PyError Bytes → Prop where
  | returned {content : Bytes} (whole : stream.WellFormed content) (fits : (content.length : Int) ≤ maximumSize) :
      Ends stream maximumSize (.ok content)
  | tooLarge (long : maximumSize + 1 ≤ (stream.decompressed.length : Int)) :
      Ends stream maximumSize (raise decompressedPayloadTooLarge.new)
  | failed (short : (stream.decompressed.length : Int) ≤ maximumSize) (broken : ∀ content, ¬ stream.WellFormed content) :
      Ends stream maximumSize (raise decompressionFailed.new)

theorem decompress_ends (reader : ReadsStreams stream) (gzip : part.compressionType = some "application/gzip")
    (content : Bytes) (bounded : 0 ≤ maximumSize) :
    Ends (stream content) maximumSize (decompress part content maximumSize) := by
  obtain ⟨limit, rfl⟩ := Int.eq_ofNat_of_zero_le bounded
  have read : Libraries.gzipRead content (limit + 1) = (stream content).read (limit + 1) := reader.reads content _ (by omega)
  simp only [decompress, gzip, ne_eq, not_true_eq_false, ↓reduceIte, read]
  cases result : (stream content).read (limit + 1) with
  | none =>
      -- nothing was read, so the fault comes before the byte that would be one too many
      have short : (stream content).decompressed.length ≤ limit := by
        by_contra long
        have within : limit + 1 ≤ (stream content).decompressed.length := by omega
        simp [GzipStream.read_within within] at result
      refine .failed (by omega) fun whole wellFormed => ?_
      rw [(GzipStream.read_beyond (by omega)).mpr wellFormed] at result
      simp at result
  | some decompressed =>
      rcases GzipStream.read_past_limit.mp result with ⟨long, rfl⟩ | ⟨short, whole⟩
      · have exceeds : (limit : Int) < ((stream content).decompressed.take (limit + 1)).length := by
          rw [List.length_take]
          omega
        simp only [exceeds, ↓reduceIte]
        exact .tooLarge (by omega)
      · have fits : ¬ (limit : Int) < decompressed.length := by
          rw [whole.whole]
          omega
        simp only [fits, ↓reduceIte]
        exact .returned whole (by omega)

/-- A decompression returns the whole of a well-formed payload within the limit, refuses
as too large what decompresses past the limit before any fault, and fails otherwise. -/
theorem decompress_exact (reader : ReadsStreams stream) (gzip : part.compressionType = some "application/gzip")
    (content : Bytes) (bounded : 0 ≤ maximumSize) :
    (∀ decompressed, decompress part content maximumSize = .ok decompressed ↔
      (stream content).WellFormed decompressed ∧ (decompressed.length : Int) ≤ maximumSize) ∧
    (decompress part content maximumSize = raise decompressedPayloadTooLarge.new ↔
      maximumSize + 1 ≤ ((stream content).decompressed.length : Int)) ∧
    (decompress part content maximumSize = raise decompressionFailed.new ↔
      (¬ ∃ decompressed, (stream content).WellFormed decompressed ∧ (decompressed.length : Int) ≤ maximumSize) ∧
        ¬ maximumSize + 1 ≤ ((stream content).decompressed.length : Int)) := by
  have apart : (raise decompressedPayloadTooLarge.new : Except PyError Bytes) ≠ raise decompressionFailed.new := by
    simp only [raise, ne_eq, Except.error.injEq, PyError.receiptable.injEq]
    decide
  have ends := decompress_ends reader gzip content bounded
  generalize decompress part content maximumSize = outcome at ends
  cases ends with
  | @returned whole wellFormed fits =>
      have same := wellFormed.whole
      refine ⟨fun decompressed => ?_, ?_, ?_⟩
      · simp only [Except.ok.injEq]
        constructor
        · rintro rfl
          exact ⟨wellFormed, fits⟩
        · rintro ⟨other, -⟩
          exact same.trans other.whole.symm
      · simp only [raise, reduceCtorEq, false_iff, not_le]
        rw [← same]
        omega
      · simp only [raise, reduceCtorEq, false_iff, not_and]
        exact fun none => absurd ⟨whole, wellFormed, fits⟩ none
  | tooLarge long =>
      refine ⟨fun decompressed => ?_, by simp [long], ?_⟩
      · simp only [raise, reduceCtorEq, false_iff, not_and]
        intro wellFormed
        rw [wellFormed.whole]
        omega
      · simp [apart, long]
  | failed short broken =>
      refine ⟨fun decompressed => ?_, ?_, ?_⟩
      · simp [raise, broken]
      · simp only [apart.symm, false_iff]
        omega
      · simp only [true_iff, not_exists, not_and]
        exact ⟨fun _ wellFormed => absurd wellFormed (broken _), by omega⟩

end Limits

section Nested

/-- The letter x, compressed. -/
def innerPayload : Bytes :=
  [31, 139, 8, 0, 0, 0, 0, 0, 2, 3, 171, 0, 0, 131, 22, 220, 140, 1, 0, 0, 0]

/-- What is compressed twice. -/
def nestedPayload : Bytes :=
  [31, 139, 8, 0, 0, 0, 0, 0, 2, 3, 147, 239, 230, 96, 0, 1, 38, 230, 213, 12, 12, 205, 98, 119, 122, 24, 129,
   28, 0, 64, 9, 165, 163, 21, 0, 0, 0]

/-- The same, encrypted under the recorded session key. -/
def sealedPayload : Bytes :=
  [1, 2, 3, 4, 5, 6, 7, 8, 9, 10, 11, 12, 109, 132, 57, 174, 126, 141, 115, 86, 125, 128, 252, 145, 217, 175,
   76, 195, 130, 91, 234, 71, 16, 103, 28, 151, 79, 245, 33, 91, 159, 240, 188, 14, 171, 46, 27, 118, 40, 159,
   172, 63, 44, 117, 228, 113, 215, 15, 151, 102, 241, 4, 94, 240, 248]

def sealedAttachments : Dict String Bytes := [(attachmentId, sealedPayload)]

def nestedStream (content : Bytes) : GzipStream UInt8 :=
  if content == nestedPayload then .member innerPayload .ends
  else if content == innerPayload then .member [120] .ends
  else .faulty []

/-- The signing toolkit, which opens the nested payload in place of the recorded one. -/
@[reducible] def nested (documents : List Node) : Libraries :=
  { signing documents with
    aesgcmDecrypt := fun key nonce data =>
      if key == sessionKey && nonce == sealedPayload.take 12 && data == sealedPayload.drop 12 then some nestedPayload
      else none
    gzipRead := fun content size =>
      let stream := nestedStream content
      stream.read (if size < 0 then stream.decompressed.length + 1 else size.toNat) }

theorem nested_reads (documents : List Node) :
    letI := nested documents
    ReadsStreams nestedStream := by
  let _ := nested documents
  refine ⟨fun content size positive => ?_⟩
  change (nestedStream content).read (if size < 0 then _ else size.toNat) = _
  rw [if_neg (by omega)]

theorem nestedStream_outer : nestedStream nestedPayload = .member innerPayload .ends := by
  simp [nestedStream]

theorem nestedStream_inner : nestedStream innerPayload = .member [120] .ends := by
  have apart : (innerPayload == nestedPayload) = false := by decide
  simp [nestedStream, apart]

def gzipPart : PartProperties := ⟨[⟨none, "application/gzip", "CompressionType"⟩]⟩

/-- The nested payload comes out whole, and what is left is compressed still. -/
theorem nested_decompresses :
    letI := nested []
    (∀ decompressed, decompress gzipPart nestedPayload 21 = .ok decompressed ↔
      (nestedStream nestedPayload).WellFormed decompressed ∧ (decompressed.length : Int) ≤ 21) ∧
    (decompress gzipPart nestedPayload 21 = raise decompressedPayloadTooLarge.new ↔
      (21 : Int) + 1 ≤ ((nestedStream nestedPayload).decompressed.length : Int)) ∧
    (decompress gzipPart nestedPayload 21 = raise decompressionFailed.new ↔
      (¬ ∃ decompressed, (nestedStream nestedPayload).WellFormed decompressed ∧ (decompressed.length : Int) ≤ 21) ∧
        ¬ (21 : Int) + 1 ≤ ((nestedStream nestedPayload).decompressed.length : Int)) :=
  @decompress_exact (nested []) nestedStream gzipPart 21 (nested_reads []) rfl nestedPayload (by decide)

end Nested

section Repetition
variable [Libraries] {context : AS4ParseContext} {mimeAttachments : Dict String Bytes}

/-- What decompressing makes of a payload, whichever part asks for it. -/
def gunzip (maximumSize : Int) (content : Bytes) : Except PyError Bytes :=
  match Libraries.gzipRead content (maximumSize + 1) with
  | none => raise decompressionFailed.new
  | some decompressed =>
      if maximumSize < decompressed.length then raise decompressedPayloadTooLarge.new else .ok decompressed

def gunzipTimes (maximumSize : Int) : Nat → Bytes → Except PyError Bytes
  | 0, content => .ok content
  | times + 1, content => do
      let once ← gunzip maximumSize content
      gunzipTimes maximumSize times once

/-- The part names this attachment and declares it compressed. -/
def declaresGzip (identifier : String) (part : PartInfo) : Bool :=
  let href := part.href.getD ""
  href != "" && removePrefix "cid:" href == identifier &&
    part.partProperties.compressionType == some "application/gzip"

/-- How many parts have this attachment decompressed. -/
def timesDeclared (identifier : String) (parts : List PartInfo) : Nat := parts.countP (declaresGzip identifier)

theorem decompress_gzip {part : PartProperties} {content : Bytes} {maximumSize : Int}
    (gzip : part.compressionType = some "application/gzip") :
    decompress part content maximumSize = gunzip maximumSize content := by
  rw [decompress, if_neg (by simp [gzip])]
  rfl

theorem gunzipTimes_one {maximumSize : Int} {content : Bytes} :
    gunzipTimes maximumSize 1 content = gunzip maximumSize content := by
  simp only [gunzipTimes]
  exact bind_pure _

/-- A part that is not about an attachment leaves it, and one that is decompresses it if
it says so. -/
theorem decompressPart_get {before after : Dict String Bytes} {part : PartInfo}
    (succeeded : decompressPart context mimeAttachments before part = .ok after) {identifier : String} {content : Bytes}
    (present : Dict.get before identifier = some content) :
    ∃ content', Dict.get after identifier = some content' ∧
      if declaresGzip identifier part then gunzip context.securityPolicy.maximumDecompressedSize content = .ok content'
      else content' = content := by
  simp only [decompressPart] at succeeded
  split at succeeded
  · rename_i unnamed
    obtain rfl := Except.ok.inj succeeded
    exact ⟨content, present, by simp [declaresGzip, unnamed]⟩
  · rename_i named
    split at succeeded
    · simp [raise] at succeeded
    · by_cases same : removePrefix "cid:" (part.href.getD "") = identifier
      · rw [same, present] at succeeded
        simp only [bind_ok, pure_ok] at succeeded
        obtain ⟨decompressed, read, rfl⟩ := succeeded
        refine ⟨decompressed, by simp [get_set], ?_⟩
        by_cases gzip : part.partProperties.compressionType = some "application/gzip"
        · have declared : declaresGzip identifier part = true := by simp [declaresGzip, named, same, gzip]
          rw [decompress_gzip gzip] at read
          simpa [declared] using read
        · have undeclared : declaresGzip identifier part = false := by simp [declaresGzip, gzip]
          rw [decompress_plain gzip] at read
          simpa [undeclared, eq_comm] using read
      · have undeclared : declaresGzip identifier part = false := by simp [declaresGzip, same]
        refine ⟨content, ?_, by simp [undeclared]⟩
        split at succeeded
        · obtain rfl := Except.ok.inj succeeded
          exact present
        · simp only [bind_ok, pure_ok] at succeeded
          obtain ⟨_, -, rfl⟩ := succeeded
          rw [get_set, if_neg (Ne.symm same), present]

/-- The loop decompresses an attachment once for every part that names it and declares
gzip. -/
theorem decompressParts_times {parts : List PartInfo} {before after : AS4Message} {result : PUnit}
    (succeeded : decompressParts context mimeAttachments parts before = .ok result after) {identifier : String}
    {content : Bytes} (present : Dict.get before.decryptedData identifier = some content) :
    ∃ delivered, Dict.get after.decryptedData identifier = some delivered ∧
      gunzipTimes context.securityPolicy.maximumDecompressedSize (timesDeclared identifier parts) content =
        .ok delivered := by
  induction parts generalizing before content with
  | nil =>
      simp only [decompressParts, state_pure_ok] at succeeded
      obtain ⟨-, rfl⟩ := succeeded
      exact ⟨content, present, rfl⟩
  | cons part rest ih =>
      simp only [decompressParts, state_bind_ok, state_get_ok, lift_ok, state_modify_ok] at succeeded
      obtain ⟨fields, _, ⟨rfl, rfl⟩, decompressed, _, ⟨one, rfl⟩, _, _, rfl, remaining⟩ := succeeded
      obtain ⟨content', kept, step⟩ := decompressPart_get one present
      obtain ⟨delivered, found, later⟩ := ih remaining kept
      refine ⟨delivered, found, ?_⟩
      rw [timesDeclared, List.countP_cons]
      split at step
      · rename_i declared
        simp only [declared, ↓reduceIte, gunzipTimes, step]
        exact later
      · rename_i undeclared
        simpa [timesDeclared, undeclared, step] using later

end Repetition

section Delivery
variable [Libraries] {cls : MessageClass} {context : AS4ParseContext} {soapBytes : Bytes} {security : Security}
  {mimeAttachments decrypted : Dict String Bytes} {message : AS4Message}

/-- What an attachment decrypts to, under the session key the message carries. -/
def attachmentPlaintext (context : AS4ParseContext) (security : Security) (mimeAttachments : Dict String Bytes)
    (identifier : String) : Option Bytes := do
  let encryptedKey ← security.encryptedKey
  let cipherValue := (encryptedKey.cipherData.cipherValue.bind (·.value)).getD ""
  let sessionKey ← (decryptSessionKey context cipherValue).toOption
  let content ← Dict.get mimeAttachments identifier
  Libraries.aesgcmDecrypt sessionKey (content.take 12) (content.drop 12)

theorem decryptReference_plaintext {sessionKey content : Bytes} {reference : XencReference} {identifier : String}
    (succeeded : decryptReference sessionKey security mimeAttachments reference = .ok (identifier, content)) :
    ∃ attached, Dict.get mimeAttachments identifier = some attached ∧
      Libraries.aesgcmDecrypt sessionKey (attached.take 12) (attached.drop 12) = some content := by
  simp only [decryptReference] at succeeded
  split at succeeded
  · simp [raise] at succeeded
  · split at succeeded
    · simp [raise] at succeeded
    · simp only [bind_ok] at succeeded
      obtain ⟨attachmentId, -, remaining⟩ := succeeded
      split at remaining
      · simp [raise] at remaining
      · rename_i attached found
        simp only [bind_ok, pure_ok, Prod.mk.injEq] at remaining
        obtain ⟨_, opened, rfl, rfl⟩ := remaining
        refine ⟨attached, found, ?_⟩
        unfold decryptAttachment at opened
        split at opened
        · split at opened
          · simp [raise] at opened
          · rename_i opens
            rw [opens, Except.ok.inj opened]
        · simp [raise] at opened

/-- Whatever the loop over the data references writes is a plaintext. -/
theorem decryptReferences_plaintext {sessionKey : Bytes} {references : List XencReference} {before after : Dict String Bytes}
    (succeeded : decryptReferences sessionKey security mimeAttachments references before = .ok after) {identifier : String}
    {plaintext : Bytes} (found : Dict.get after identifier = some plaintext) :
    Dict.get before identifier = some plaintext ∨ ∃ attached, Dict.get mimeAttachments identifier = some attached ∧
      Libraries.aesgcmDecrypt sessionKey (attached.take 12) (attached.drop 12) = some plaintext := by
  induction references generalizing before with
  | nil =>
      obtain rfl := Except.ok.inj succeeded
      exact .inl found
  | cons reference rest ih =>
      simp only [decryptReferences, bind_ok] at succeeded
      obtain ⟨⟨attachmentId, content⟩, one, remaining⟩ := succeeded
      rcases ih remaining with kept | opened
      · rw [get_set] at kept
        split at kept
        · rename_i same
          obtain rfl := Option.some.inj kept
          rw [same]
          exact .inr (decryptReference_plaintext one)
        · exact .inl kept
      · exact .inr opened

theorem getDecryptedData_plaintext (succeeded : getDecryptedData context security mimeAttachments = .ok decrypted)
    {identifier : String} {plaintext : Bytes} (found : Dict.get decrypted identifier = some plaintext) :
    attachmentPlaintext context security mimeAttachments identifier = some plaintext := by
  unfold getDecryptedData at succeeded
  split at succeeded
  · split at succeeded
    · simp [raise] at succeeded
    · obtain rfl := Except.ok.inj succeeded
      simp [Dict.get] at found
  · rename_i key present
    simp only at succeeded
    split at succeeded
    · simp [raise] at succeeded
    · split at succeeded
      · simp [raise] at succeeded
      · simp only [bind_ok] at succeeded
        obtain ⟨sessionKey, opens, remaining⟩ := succeeded
        rcases decryptReferences_plaintext remaining found with before | ⟨attached, carried, opened⟩
        · simp [Dict.get] at before
        · simp [attachmentPlaintext, present, opens, Except.toOption, carried, opened]

/-- The decrypted data an accepted message is left with. -/
theorem parse_unpacks (parsed : parse cls context soapBytes mimeAttachments = .ok message)
    (accepted : message.parseError = none) :
    ∃ envelope user payloadInfo decrypted, ∃ before after : AS4Message, message.soapEnvelope = some envelope ∧
      requireUserMessage envelope = .ok user ∧ user.payloadInfo = some payloadInfo ∧
      getDecryptedData context envelope.header.security mimeAttachments = .ok decrypted ∧
      decompressParts context mimeAttachments payloadInfo.partInfo before = .ok () after ∧
      before.decryptedData = decrypted ∧ message.decryptedData = after.decryptedData := by
  unfold parse at parsed
  split at parsed
  · rename_i result fields succeeded
    obtain rfl := Except.ok.inj parsed
    simp only [parseSteps, state_bind_ok, lift_ok, state_modify_ok] at succeeded
    obtain ⟨document, _, ⟨-, rfl⟩, ⟨messageId, messagingId⟩, _, ⟨-, rfl⟩, _, _, rfl, identity, _, ⟨-, rfl⟩, _, _, rfl,
      remaining⟩ := succeeded
    obtain ⟨middle, _, core, stored, -, delivered, -⟩ := process_accepts remaining
    simp only [processAs4, state_bind_ok, lift_ok, state_modify_ok] at core
    obtain ⟨_, _, rfl, envelope, _, ⟨-, rfl⟩, _, _, rfl, index, _, ⟨-, rfl⟩, ⟨signature, signer⟩, _, ⟨-, rfl⟩, _, _, rfl,
      decrypted, _, ⟨decrypts, rfl⟩, _, _, rfl, _, _, ⟨-, rfl⟩, userMessage, _, ⟨carries, rfl⟩, payloadInfo, _,
      ⟨declares, rfl⟩, unpacked⟩ := core
    have kept := (decompressParts_keeps unpacked).1
    refine ⟨envelope, userMessage, payloadInfo, decrypted, _, middle, ?_, carries, ?_, decrypts, unpacked, rfl, delivered⟩
    · rw [stored, kept]
    · unfold requirePayloadInfo at declares
      split at declares
      · simp [raise] at declares
      · rename_i declared
        rw [declared, Except.ok.inj declares]
  · split at parsed
    · obtain rfl := Except.ok.inj parsed
      simp at accepted
    · simp at parsed

/-- A payload is handed on as it was decrypted, or decompressed once if some part that
names it declares gzip. -/
def DeliveredOnce (context : AS4ParseContext) (security : Security) (mimeAttachments : Dict String Bytes)
    (parts : List PartInfo) (identifier : String) (delivered : Bytes) : Prop :=
  ∃ plaintext, attachmentPlaintext context security mimeAttachments identifier = some plaintext ∧
    ((∀ part ∈ parts, declaresGzip identifier part = false) → delivered = plaintext) ∧
    ((∃ part ∈ parts, declaresGzip identifier part = true) →
      gunzip context.securityPolicy.maximumDecompressedSize plaintext = .ok delivered)

/-- Decompressing the payload as often as it is declared comes to decompressing it
once. -/
def OnceIsEnough (context : AS4ParseContext) (parts : List PartInfo) (identifier : String) (plaintext : Bytes) : Prop :=
  2 ≤ timesDeclared identifier parts →
    gunzipTimes context.securityPolicy.maximumDecompressedSize (timesDeclared identifier parts) plaintext =
      gunzip context.securityPolicy.maximumDecompressedSize plaintext

/-- The payloads of an accepted message were each decompressed once exactly when none is
named by two parts that declare gzip, but for one that further decompressing leaves
alone. -/
theorem decompressed_once_iff (parsed : parse cls context soapBytes mimeAttachments = .ok message)
    (accepted : message.parseError = none) :
    ∃ envelope user payloadInfo, message.soapEnvelope = some envelope ∧ requireUserMessage envelope = .ok user ∧
      user.payloadInfo = some payloadInfo ∧
      ((∀ identifier delivered, Dict.get message.decryptedData identifier = some delivered →
          DeliveredOnce context envelope.header.security mimeAttachments payloadInfo.partInfo identifier delivered) ↔
        ∀ identifier ∈ encryptedAttachments envelope.header.security, ∀ plaintext,
          attachmentPlaintext context envelope.header.security mimeAttachments identifier = some plaintext →
            OnceIsEnough context payloadInfo.partInfo identifier plaintext) := by
  obtain ⟨envelope, user, payloadInfo, decrypted, before, after, stored, carries, declares, decrypts, unpacked, rfl,
    delivers⟩ := parse_unpacks parsed accepted
  refine ⟨envelope, user, payloadInfo, stored, carries, declares, ?_⟩
  rw [delivers]
  have keys := (decompressParts_keeps unpacked).2
  constructor
  · intro once identifier member plaintext opened repeated
    have present := (decrypted_keys decrypts identifier).mpr member
    obtain ⟨content, found⟩ := Option.isSome_iff_exists.mp present
    obtain rfl : content = plaintext :=
      Option.some.inj ((getDecryptedData_plaintext decrypts found).symm.trans opened)
    obtain ⟨delivered, kept, times⟩ := decompressParts_times unpacked found
    obtain ⟨_, same, -, gunzipped⟩ := once identifier delivered kept
    obtain rfl := Option.some.inj (opened.symm.trans same)
    have declared : 0 < timesDeclared identifier payloadInfo.partInfo := by omega
    rw [times, gunzipped (List.countP_pos_iff.mp declared)]
  · intro enough identifier delivered kept
    have present : (Dict.get before.decryptedData identifier).isSome = true := by
      rw [← keys, kept]
      rfl
    obtain ⟨plaintext, found⟩ := Option.isSome_iff_exists.mp present
    have opened := getDecryptedData_plaintext decrypts found
    obtain ⟨_, same, times⟩ := decompressParts_times unpacked found
    obtain rfl := Option.some.inj (kept.symm.trans same)
    refine ⟨plaintext, opened, fun undeclared => ?_, fun declared => ?_⟩
    · have none : timesDeclared identifier payloadInfo.partInfo = 0 := List.countP_eq_zero.mpr (by simpa using undeclared)
      rw [none] at times
      exact (Except.ok.inj times).symm
    · have some : 0 < timesDeclared identifier payloadInfo.partInfo := List.countP_pos_iff.mpr declared
      by_cases repeated : 2 ≤ timesDeclared identifier payloadInfo.partInfo
      · rw [← enough identifier ((decrypted_keys decrypts identifier).mp present) plaintext opened repeated, times]
      · have single : timesDeclared identifier payloadInfo.partInfo = 1 := by omega
        rw [← times, single, gunzipTimes_one]

end Delivery

section Doubled

/-- A part is decompressed once, where it is declared once. -/
theorem delivered_once :
    letI := signing honestDocuments
    ∃ message envelope user payloadInfo, parse .peppol (defaultContext honestDocuments) (plainText honestDocument)
        deliveredAttachments = .ok message ∧ message.soapEnvelope = some envelope ∧
      requireUserMessage envelope = .ok user ∧ user.payloadInfo = some payloadInfo ∧
      ((∀ identifier delivered, Dict.get message.decryptedData identifier = some delivered →
          DeliveredOnce (defaultContext honestDocuments) envelope.header.security deliveredAttachments
            payloadInfo.partInfo identifier delivered) ↔
        ∀ identifier ∈ encryptedAttachments envelope.header.security, ∀ plaintext,
          attachmentPlaintext (defaultContext honestDocuments) envelope.header.security deliveredAttachments identifier =
              some plaintext →
            OnceIsEnough (defaultContext honestDocuments) payloadInfo.partInfo identifier plaintext) := by
  let _ := signing honestDocuments
  obtain ⟨message, _, parsed, sound, -⟩ := honest_accepted { signerResolver := trustEmbedded honestDocuments } rfl rfl
    (by simp)
  obtain ⟨envelope, user, payloadInfo, stored, carries, declares, once⟩ := decompressed_once_iff parsed sound
  exact ⟨message, envelope, user, payloadInfo, parsed, stored, carries, declares, once⟩

/-- The same attachment, twice. -/
def doubledHrefs : List (Option String) := [some ("cid:" ++ attachmentId), some ("cid:" ++ attachmentId)]

/-- A message that declares its one attachment twice, each time as compressed. -/
def doubledDocument : Node :=
  letI := signing []
  Envelope.codec.element (soap12 "Envelope")
    (looseEnvelope "message" (unsignedSecurity [48, 2]) (doubledHrefs.map deliveredPart))

/-- A policy that requires no signature, for the receiver of the nested payload. -/
def nestedContext (documents : List Node) : @AS4ParseContext (nested documents) :=
  letI := nested documents
  { localParty :=
      { identity := peppolIdentity "9932:1111111111"
        credentials := { certificate := ⟨[48, 1], rfl⟩, privateKey := ⟨fun data => .ok (0 :: data), .ok⟩ } }
    securityPolicy := { signRequired := false } }

theorem nested_encrypted (documents : List Node) :
    letI := nested documents
    Encrypted (unsignedSecurity [48, 2]) (nestedContext documents).localParty.credentials.privateKey deliveredKey
      deliveredData "D" attachmentId sealedPayload nestedPayload := by
  let _ := nested documents
  have solid : sessionKey ≠ [] := by decide +kernel
  have opens : Libraries.aesgcmDecrypt sessionKey (sealedPayload.take 12) (sealedPayload.drop 12) = some nestedPayload := by
    change (if (sessionKey == sessionKey && sealedPayload.take 12 == sealedPayload.take 12 &&
      sealedPayload.drop 12 == sealedPayload.drop 12) = true then _ else _) = _
    simp only [beq_self_eq_true, Bool.and_self, ↓reduceIte]
  exact ⟨rfl, rfl, ⟨_, sessionKey, sessionKey, rfl, rfl, solid, rfl, opens⟩, rfl, rfl, ⟨rfl, by decide⟩, ⟨_, rfl, rfl⟩, rfl⟩

theorem nested_stamps :
    letI := nested [doubledDocument]
    Stamps answerTime :=
  ⟨by decide, answerTime, by decide⟩

/-- Each of the two decompressions goes through. -/
theorem nested_gunzips (documents : List Node) :
    letI := nested documents
    gunzip (1024 ^ 3) nestedPayload = .ok innerPayload ∧ gunzip (1024 ^ 3) innerPayload = .ok [120] := by
  let _ := nested documents
  have reads : ∀ content whole, (nestedStream content).decompressed = whole → (nestedStream content).WellFormed whole →
      whole.length ≤ 1024 ^ 3 → gunzip (1024 ^ 3) content = .ok whole := by
    intro content whole same wellFormed fits
    have beyond : (nestedStream content).decompressed.length < ((1024 : Int) ^ 3 + 1).toNat := by
      rw [same]
      omega
    have read : Libraries.gzipRead content (1024 ^ 3 + 1) = some whole :=
      ((nested_reads documents).reads content _ (by decide)).trans ((GzipStream.read_beyond beyond).mpr wellFormed)
    have short : ¬ (1024 : Int) ^ 3 < whole.length := by omega
    simp only [gunzip, read, short, ↓reduceIte]
  constructor
  · refine reads nestedPayload innerPayload ?_ ?_ (by decide)
    · rw [nestedStream_outer]
      rfl
    · rw [nestedStream_outer]
      exact .member .ends
  · refine reads innerPayload [120] ?_ ?_ (by decide)
    · rw [nestedStream_inner]
      rfl
    · rw [nestedStream_inner]
      exact .member .ends

/-- The parts of the doubled message, as they are read. -/
theorem doubled_parts {parts : List PartInfo}
    (read : List.Forall₂ (fun part part' => ∃ child, PartInfo.codec.reread child part part')
      (doubledHrefs.map deliveredPart) parts) :
    ∃ first second, parts = [first, second] ∧ ∀ part ∈ parts, part.href = some ("cid:" ++ attachmentId) ∧
      part.partProperties.compressionType = some "application/gzip" := by
  have reads : ∀ child part, PartInfo.codec.reread child (deliveredPart (some ("cid:" ++ attachmentId))) part →
      part.href = some ("cid:" ++ attachmentId) ∧ part.partProperties.compressionType = some "application/gzip" := by
    intro child part partRead
    obtain ⟨properties, href⟩ := PartInfo.rereads partRead
    have gzip : strip "application/gzip" = "application/gzip" := by decide
    refine ⟨?_, by simp [PartProperties.compressionType, properties, deliveredPart, partFor, gzip]⟩
    rw [href]
    exact written_some (by simp)
  cases read with
  | @cons _ first _ _ one others =>
      obtain ⟨second, rfl, two⟩ := mem_single others
      refine ⟨first, second, rfl, List.forall_mem_cons.mpr ⟨?_, List.forall_mem_singleton.mpr ?_⟩⟩
      · obtain ⟨child, same⟩ := one
        exact reads child first same
      · obtain ⟨child, same⟩ := two
        exact reads child second same

/-- An unsigned message that declares its one attachment twice is accepted, and the
attachment decompressed by each declaration. -/
theorem doubled_accepted [Libraries] {context : AS4ParseContext} {soapBytes signer sealed outer middle inner : Bytes}
    (stamps : Stamps answerTime) (solid : signer ≠ [])
    (parsed : Libraries.parseXml soapBytes = some (Envelope.codec.element (soap12 "Envelope")
      (looseEnvelope "message" (unsignedSecurity signer) (doubledHrefs.map deliveredPart))))
    (lax : context.securityPolicy.signRequired = false)
    (encrypted : Encrypted (unsignedSecurity signer) context.localParty.credentials.privateKey deliveredKey deliveredData "D"
      attachmentId sealed outer)
    (first : gunzip context.securityPolicy.maximumDecompressedSize outer = .ok middle)
    (second : gunzip context.securityPolicy.maximumDecompressedSize middle = .ok inner) (apart : middle ≠ inner) :
    ∃ message envelope user payloadInfo, parse .as4 context soapBytes [(attachmentId, sealed)] = .ok message ∧
      message.parseError = none ∧ message.soapEnvelope = some envelope ∧ requireUserMessage envelope = .ok user ∧
      user.payloadInfo = some payloadInfo ∧ Dict.get message.decryptedData attachmentId = some inner ∧
      attachmentPlaintext context envelope.header.security [(attachmentId, sealed)] attachmentId = some outer ∧
      ¬ DeliveredOnce context envelope.header.security [(attachmentId, sealed)] payloadInfo.partInfo attachmentId inner := by
  have attached : Dict.get [(attachmentId, sealed)] attachmentId = some sealed := by simp [Dict.get]
  have unpacked : ∀ parts, List.Forall₂ (fun part part' => ∃ child, PartInfo.codec.reread child part part')
      (doubledHrefs.map deliveredPart) parts →
        ∀ fields : AS4Message, fields.decryptedData = [(attachmentId, outer)] →
          decompressParts context [(attachmentId, sealed)] parts fields =
            .ok () { fields with decryptedData := [(attachmentId, inner)] } := by
    intro parts read fields decrypted
    obtain ⟨one, two, rfl, declared⟩ := doubled_parts read
    obtain ⟨⟨oneNamed, oneGzip⟩, ⟨twoNamed, twoGzip⟩, -⟩ := (List.forall_mem_cons.mp declared).imp id List.forall_mem_cons.mp
    rw [decompressParts_step oneNamed attached decrypted ((decompress_gzip oneGzip).trans first)]
    exact decompressParts_one twoNamed attached rfl ((decompress_gzip twoGzip).trans second)
  have decrypts : ∀ child security', Security.codec.reread child (unsignedSecurity signer) security' →
      getDecryptedData context security' [(attachmentId, sealed)] = .ok [(attachmentId, outer)] :=
    fun _ _ read => encrypted.decrypts read attached
  obtain ⟨message, envelope, user, accepted, sound, -, delivered, stored, ⟨child, security⟩, carries, -, payloadInfo,
    declares, parts⟩ :=
    unsigned_accepted stamps (by decide) (by decide) (unsignedSecurity_writes solid) (by decide) parsed rfl lax decrypts
      unpacked
  have opened := getDecryptedData_plaintext (decrypts _ _ security)
    (show Dict.get [(attachmentId, outer)] attachmentId = some outer by simp [Dict.get])
  refine ⟨message, envelope, user, payloadInfo, accepted, sound, stored, carries, declares, by simp [delivered, Dict.get],
    opened, ?_⟩
  rintro ⟨plaintext, same, -, once⟩
  obtain rfl := Option.some.inj (opened.symm.trans same)
  obtain ⟨one, two, listed, declared⟩ := doubled_parts parts
  have member : one ∈ payloadInfo.partInfo := by simp [listed]
  obtain ⟨named, gzip⟩ := declared one member
  have again := once ⟨one, member, by simp [declaresGzip, named, gzip, removePrefix_append]⟩
  rw [first] at again
  exact apart (Except.ok.inj again)

/-- An attachment that two parts declare as compressed is decompressed twice. -/
theorem doubly_decompressed :
    letI := nested [doubledDocument]
    ∃ message envelope user payloadInfo, parse .as4 (nestedContext [doubledDocument]) (plainText doubledDocument)
        sealedAttachments = .ok message ∧ message.parseError = none ∧ message.soapEnvelope = some envelope ∧
      requireUserMessage envelope = .ok user ∧ user.payloadInfo = some payloadInfo ∧
      Dict.get message.decryptedData attachmentId = some [120] ∧
      attachmentPlaintext (nestedContext [doubledDocument]) envelope.header.security sealedAttachments attachmentId =
        some nestedPayload ∧
      ¬ DeliveredOnce (nestedContext [doubledDocument]) envelope.header.security sealedAttachments payloadInfo.partInfo
        attachmentId [120] := by
  obtain ⟨outer, inner⟩ := nested_gunzips [doubledDocument]
  exact @doubled_accepted (nested [doubledDocument]) (nestedContext [doubledDocument]) _ [48, 2] sealedPayload nestedPayload
    innerPayload [120] nested_stamps (by simp) (alone_listed doubledDocument) rfl
    (nested_encrypted [doubledDocument]) outer inner (by decide)

end Doubled

end PayloadDecompression
