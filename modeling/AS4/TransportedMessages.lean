import AS4.CompletedExchanges
import AS4.MimeFormat

/-!
A message on its way. `get_request_data` writes the envelope and the attachments in parts,
and `unpack_message` takes the envelope and the first attachment out of them; between the
two the bytes are those of the multipart format, read line by line. What is handed on is
what was packed, as long as no line of it could be taken for the boundary.
-/

namespace TransportedMessages
open ElementTree ElementCodec FallibleSteps PythonData AS4Libraries AS4Errors MimeFormat MessagingModel EnvelopeModel
  MessageParsing MessageBuilding Exchange AcceptedBuilds

section Entities

/-- What is read of the header of an entity. -/
structure MimeFields where
  contentType : String
  contentId : Option String := none
  boundary : Option Bytes := none
  decode : Bytes → Bytes := id

/-- What the main type of the content says about the body. -/
def MimeFields.kind (fields : MimeFields) : Kind :=
  if startsWith "multipart/" fields.contentType then .multipart fields.boundary
  else if startsWith "message/" fields.contentType then .message
  else .text

theorem kind_text {fields : MimeFields} (whole : startsWith "multipart/" fields.contentType = false)
    (plain : startsWith "message/" fields.contentType = false) : fields.kind = .text := by
  simp [MimeFields.kind, whole, plain]

mutual
/-- The part that an entity is; the content of one in parts, or of a message, is not its own. -/
def toPart : Entity MimeFields → MimePart
  | .text fields content => .part fields.contentType fields.contentId (some (fields.decode content)) []
  | .message fields => .part fields.contentType fields.contentId none []
  | .multipart fields parts => .part fields.contentType fields.contentId none (toParts parts)

def toParts : List (Entity MimeFields) → List MimePart
  | [] => []
  | part :: rest => toPart part :: toParts rest
end

theorem toParts_map (parts : List (Entity MimeFields)) : toParts parts = parts.map toPart := by
  induction parts with
  | nil => rfl
  | cons part rest ih => rw [toParts, ih, List.map_cons]

/-- `f"{name}: {value}"` -/
def headerLine (header : String × String) : Bytes := utf8 s!"{header.1}: {header.2}"

/-- `encode_multipart_formdata` of fields without a disposition. -/
def encodeMultipart (boundary : String) (parts : List (List (String × String) × Bytes)) : Bytes :=
  writeParts (utf8 boundary) (parts.map fun part => ⟨part.1.map headerLine, part.2⟩)

theorem payloadFromRequest_written (requestHeaders : Dict String String) (requestBody : Bytes) :
    payloadFromRequest requestHeaders requestBody = writeHeader (requestHeaders.map headerLine) ++ requestBody := by
  simp [payloadFromRequest, writeHeader, headerLine, crlf, List.flatMap_map]

end Entities

section Packing
variable [Libraries]

def soapHeader : List (String × String) := [("Content-Type", "application/soap+xml; charset=UTF-8")]

def attachmentHeader (id : String) : List (String × String) :=
  [("Content-Type", "application/octet-stream"), ("Content-ID", s!"<{id}>")]

/-- A header as it is read: its lines, each with its end. -/
def headerLines (header : List (String × String)) : List Bytes := header.map fun entry => headerLine entry ++ crlf

/-- The MIME parser and encoder of the toolkit, over what is read of a header. -/
structure Mime (fields : List Bytes → MimeFields) : Prop where
  parses : ∀ data, Libraries.parseMime data = toPart (readText fields MimeFields.kind data)
  encodes : ∀ boundary parts, Libraries.encodeMultipart boundary parts = encodeMultipart boundary parts
  soap : fields (headerLines soapHeader) = { contentType := "application/soap+xml" }

/-- The header of an attachment is one line for each field, and names it. -/
structure Names (fields : List Bytes → MimeFields) (id : String) : Prop where
  line : OneLine (utf8 id)
  read : fields (headerLines (attachmentHeader id)) =
    { contentType := "application/octet-stream", contentId := some s!"<{id}>" }

/-- The header of the request says that the body is in parts, and where it is cut. -/
structure Heads (fields : List Bytes → MimeFields) (requestHeaders : Dict String String) (boundary : String) : Prop where
  lines : IsHeader (requestHeaders.map headerLine)
  read : ∃ read, fields (headerLines requestHeaders) = read ∧ read.contentType = "multipart/related" ∧
    read.boundary = some (utf8 boundary)

/-- No line of the content could be taken for the boundary. -/
def Undelimited (boundary : String) (content : Bytes) : Prop :=
  ∀ line ∈ splitLines (content ++ crlf), delimiter (utf8 boundary) line = none

/-- What is handed on of the attachments: the first one, under its id without brackets. -/
def handedOn (soapBytes : Bytes) : Dict String Bytes → Except PyError (Bytes × Dict String Bytes)
  | [] => raise payloadPartNotFound.new
  -- The brackets are those that were written around the id, and any of its own.
  | (id, content) :: _ =>
      if stripBrackets s!"<{id}>" = "" then raise (payloadPartNotFound.new "Payload part carries no Content-ID header")
      else .ok (soapBytes, [(stripBrackets s!"<{id}>", content)])

omit [Libraries] in
theorem utf8_append (first second : String) : utf8 (first ++ second) = utf8 first ++ utf8 second := by
  simp [utf8]

section Headers

omit [Libraries] in
theorem soapHeader_line : soapHeader.map headerLine = [utf8 "Content-Type: application/soap+xml; charset=UTF-8"] := rfl

omit [Libraries] in
theorem soapHeader_good : IsHeader (soapHeader.map headerLine) := by
  intro line member
  rw [soapHeader_line, List.mem_singleton] at member
  subst member
  exact ⟨by decide, by decide⟩

omit [Libraries] in
theorem attachmentHeader_lines (id : String) : (attachmentHeader id).map headerLine =
    [utf8 "Content-Type: application/octet-stream", utf8 "Content-ID: <" ++ utf8 id ++ utf8 ">"] := by
  have split : headerLine ("Content-ID", s!"<{id}>") = utf8 ("Content-ID: <" ++ id ++ ">") := by
    rw [headerLine]
    rfl
  simp only [attachmentHeader, List.map_cons, List.map_nil, split, utf8_append]
  rfl

omit [Libraries] in
theorem contentId_header (rest : Bytes) : isHeaderLine (utf8 "Content-ID: <" ++ rest) = true := by
  have name : utf8 "Content-ID: <" = utf8 "Content-ID" ++ (58 :: utf8 " <") := utf8_append "Content-ID" ": <"
  have all : (utf8 "Content-ID").all isNameByte = true := by decide
  have letters := List.all_eq_true.mp all
  simp only [isHeaderLine, name, List.append_assoc, List.dropWhile_append_of_pos letters]
  simp [isNameByte]

omit [Libraries] in
theorem attachmentHeader_good {id : String} (one : OneLine (utf8 id)) : IsHeader ((attachmentHeader id).map headerLine) := by
  intro line member
  rw [attachmentHeader_lines] at member
  rcases List.mem_pair.mp member with rfl | rfl
  · exact ⟨by decide, by decide⟩
  · refine ⟨oneLine_append.mpr ⟨oneLine_append.mpr ⟨by decide, one⟩, by decide⟩, ?_⟩
    simpa only [List.append_assoc] using contentId_header (utf8 id ++ (utf8 ">" ++ crlf))

omit [Libraries] in
/-- The headers of the parts start with a letter. -/
theorem header_undelimited {boundary : Bytes} {line rest : Bytes} (starts : line.head? = some 67) :
    delimiter boundary (line ++ rest) = none := by
  have begins : (line ++ rest).head? = some 67 := by simp [List.head?_append, starts]
  exact not_delimiter begins (by decide)

end Headers

variable {fields : List Bytes → MimeFields} {message : AS4Message} {envelope : Envelope} {draws : Draws}
  {sentHeaders requestHeaders : Dict String String} {body : Bytes}

/-- The parts a message is packed into. -/
def packedParts (soapBytes : Bytes) (attachments : Dict String Bytes) : List (List (String × String) × Bytes) :=
  (soapHeader, soapBytes) :: attachments.map fun attachment => (attachmentHeader attachment.1, attachment.2)

theorem requestData_packed (mime : Mime fields) (requested : requestData message draws = .ok (sentHeaders, body))
    (stored : message.soapEnvelope = some envelope) :
    body = encodeMultipart draws.boundary (packedParts (envelopeBytes envelope) message.mimeAttachments) := by
  simp only [requestData, stored, Except.ok.injEq, Prod.mk.injEq] at requested
  rw [← requested.2, mime.encodes]
  rfl

/-- A part that is read back as it is written. -/
structure Readable (fields : List Bytes → MimeFields) (boundary : String) (part : List (String × String) × Bytes) : Prop where
  header : IsHeader (part.1.map headerLine)
  text : (fields (headerLines part.1)).kind = .text
  lines : ∀ line ∈ part.1.map headerLine, delimiter (utf8 boundary) (line ++ crlf) = none
  content : Undelimited boundary part.2

theorem soap_readable {soapBytes : Bytes} (mime : Mime fields) (apart : Undelimited draws.boundary soapBytes) :
    Readable fields draws.boundary (soapHeader, soapBytes) := by
  have text : MimeFields.kind { contentType := "application/soap+xml" } = .text := kind_text (by decide) (by decide)
  refine ⟨soapHeader_good, by rw [mime.soap, text], ?_, apart⟩
  intro line member
  rw [soapHeader_line, List.mem_singleton] at member
  exact header_undelimited (by rw [member]; decide)

omit [Libraries] in
theorem attachment_readable {attachment : String × Bytes} (names : Names fields attachment.1)
    (apart : Undelimited draws.boundary attachment.2) :
    Readable fields draws.boundary (attachmentHeader attachment.1, attachment.2) := by
  have text : (fields (headerLines (attachmentHeader attachment.1))).kind = .text := by
    have octets : startsWith "multipart/" "application/octet-stream" = false ∧
        startsWith "message/" "application/octet-stream" = false := by decide
    rw [names.read]
    exact kind_text octets.1 octets.2
  refine ⟨attachmentHeader_good names.line, text, ?_, apart⟩
  intro line member
  rw [attachmentHeader_lines] at member
  rcases List.mem_pair.mp member with rfl | rfl
  · exact header_undelimited (by decide)
  · rw [List.append_assoc, List.append_assoc]
    exact header_undelimited (by decide)

omit [Libraries] in
/-- What the multipart format makes of parts that are read back. -/
theorem parts_read {parts : List (List (String × String) × Bytes)} (headed : Heads fields requestHeaders draws.boundary)
    (one : OneLine (utf8 draws.boundary)) (solid : parts ≠ []) (readable : ∀ part ∈ parts, Readable fields draws.boundary part) :
    ∃ contentId, toPart (readText fields MimeFields.kind
        (writeHeader (requestHeaders.map headerLine) ++ encodeMultipart draws.boundary parts)) =
      .part "multipart/related" contentId none (parts.map fun part =>
        .part (fields (headerLines part.1)).contentType (fields (headerLines part.1)).contentId
          (some ((fields (headerLines part.1)).decode part.2)) []) := by
  obtain ⟨header, read, related, cut⟩ := headed.read
  have same : ∀ header : List (String × String), (header.map headerLine).map (· ++ crlf) = headerLines header := by
    intro header
    simp [headerLines]
  have kind : (fields ((requestHeaders.map headerLine).map (· ++ crlf))).kind = .multipart (some (utf8 draws.boundary)) := by
    have begins : startsWith "multipart/" "multipart/related" = true := by decide
    rw [same, read, MimeFields.kind, related, cut, begins, if_pos rfl]
  -- The headers are written as pairs, and read as lines.
  let written := parts.map fun part => (⟨part.1.map headerLine, part.2⟩ : Part)
  have each : ∀ part ∈ written, IsHeader part.header ∧ (fields (part.header.map (· ++ crlf))).kind = .text ∧
      Apart (utf8 draws.boundary) part := by
    intro part member
    obtain ⟨part, inside, rfl⟩ := List.mem_map.mp member
    obtain ⟨good, text, lines, content⟩ := readable part inside
    exact ⟨good, by simpa only [same] using text, lines, content⟩
  have back := readText_written fields MimeFields.kind headed.lines kind one (by simpa [written] using solid)
    (fun part member => (each part member).1) (fun part member => (each part member).2.1)
    (fun part member => (each part member).2.2)
  refine ⟨header.contentId, ?_⟩
  rw [encodeMultipart, back, toPart, toParts_map, same, read, related]
  simp [written, toPart, same]

/-- The envelope is unpacked with the first attachment, whatever else is attached. -/
theorem related_unpacks {payload soapBytes : Bytes} {contentId : Option String} {attachments : Dict String Bytes}
    (parsed : Libraries.parseMime payload = .part "multipart/related" contentId none
      (.part "application/soap+xml" none (some soapBytes) [] :: attachments.map fun attachment =>
        .part "application/octet-stream" (some s!"<{attachment.1}>") (some attachment.2) [])) :
    unpackMessage payload = handedOn soapBytes attachments := by
  cases attachments with
  | nil => simp [unpackMessage, Exchange.parseMime, parsed, findPart, findPartIn, handedOn, raise, bind, Except.bind]
  | cons attachment others =>
      obtain ⟨id, content⟩ := attachment
      have both : Exchange.parseMime payload = .ok (.part "application/soap+xml" none (some soapBytes) [],
          .part "application/octet-stream" (some s!"<{id}>") (some content) []) := by
        simp [Exchange.parseMime, parsed, findPart, findPartIn]
      simp only [unpackMessage, both, handedOn, partContent, partContentId, Option.map_some, Option.getD_some, bind, Except.bind,
        pure, Except.pure]
      rfl

/-- A message is packed into parts, and what is unpacked of it is its envelope and its
first attachment as they were. -/
theorem packed_unpacks (mime : Mime fields) (requested : requestData message draws = .ok (sentHeaders, body))
    (stored : message.soapEnvelope = some envelope) (headed : Heads fields requestHeaders draws.boundary)
    (one : OneLine (utf8 draws.boundary)) (named : ∀ attachment ∈ message.mimeAttachments, Names fields attachment.1)
    (envelopeApart : Undelimited draws.boundary (envelopeBytes envelope))
    (attachmentsApart : ∀ attachment ∈ message.mimeAttachments, Undelimited draws.boundary attachment.2) :
    unpackMessage (payloadFromRequest requestHeaders body) = handedOn (envelopeBytes envelope) message.mimeAttachments := by
  have parsed := mime.parses (payloadFromRequest requestHeaders body)
  rw [requestData_packed mime requested stored, payloadFromRequest_written] at parsed
  have readable : ∀ part ∈ packedParts (envelopeBytes envelope) message.mimeAttachments, Readable fields draws.boundary part := by
    intro part member
    rcases List.mem_cons.mp member with rfl | attached
    · exact soap_readable mime envelopeApart
    · obtain ⟨attachment, inside, rfl⟩ := List.mem_map.mp attached
      exact attachment_readable (named attachment inside) (attachmentsApart attachment inside)
  obtain ⟨contentId, read⟩ := parts_read headed one (by simp [packedParts]) readable
  have attached : message.mimeAttachments.map (fun attachment => MimePart.part
      (fields (headerLines (attachmentHeader attachment.1))).contentType
        (fields (headerLines (attachmentHeader attachment.1))).contentId
          (some ((fields (headerLines (attachmentHeader attachment.1))).decode attachment.2)) []) =
      message.mimeAttachments.map fun attachment =>
        .part "application/octet-stream" (some s!"<{attachment.1}>") (some attachment.2) [] := by
    apply List.map_congr_left
    intro attachment inside
    rw [(named attachment inside).read]
    rfl
  -- The parts are searched in the order they were written in, so the first attachment is found.
  refine related_unpacks (?_ : _ = MimePart.part "multipart/related" contentId none _)
  rw [payloadFromRequest_written, requestData_packed mime requested stored, parsed, read, packedParts, List.map_cons,
    List.map_map, mime.soap]
  exact congrArg (fun parts => MimePart.part "multipart/related" contentId none
    (.part "application/soap+xml" none (some (envelopeBytes envelope)) [] :: parts)) attached

end Packing

section Mail

/-- The value of a field, to the end of its line. -/
def fieldValue (name : String) (lines : List Bytes) : Option Bytes :=
  (lines.find? fun line => (utf8 (name ++ ": ")).isPrefixOf line).map fun line =>
    (line.drop (utf8 (name ++ ": ")).length).takeWhile fun byte => byte != 13 && byte != 10

/-- What stands in quotes behind a start, wherever that is. -/
def quotedAfter (start : Bytes) : Bytes → Option Bytes
  | [] => none
  | byte :: rest =>
      match after start (byte :: rest) with
      | some behind => some (behind.takeWhile fun byte => byte != 34)
      | none => quotedAfter start rest

/-- The fields of a header, as they are written here. -/
def mailFields (lines : List Bytes) : MimeFields :=
  let contentType := (fieldValue "Content-Type" lines).getD []
  { contentType := asciiText (contentType.takeWhile fun byte => byte != 59)
    contentId := (fieldValue "Content-ID" lines).map asciiText
    boundary := quotedAfter (utf8 "boundary=\"") contentType }

/-- A toolkit that sends and receives mail. -/
@[reducible] def mailing : Libraries :=
  { ReceivingRuns.signing [] with
    parseMime := fun data => toPart (readText mailFields MimeFields.kind data)
    encodeMultipart := encodeMultipart }

def mailedContent : Bytes := [13, 10, 45, 45, 1, 10]

def mailedMessage : @AS4Message mailing :=
  letI := mailing
  { soapEnvelope := some (LooseMessages.looseEnvelope "message" (LooseMessages.bareSecurity [1]) [])
    mimeAttachments := [("payload@as4", mailedContent), ("other@as4", [])] }

/-- A text of one line that starts with a bracket is no boundary. -/
theorem markup_undelimited {boundary : String} {content : Bytes} (one : OneLine content) (starts : content.head? = some 60) :
    Undelimited boundary content := by
  intro line member
  rw [splitLines_line one, List.mem_singleton] at member
  have begins : line.head? = some 60 := by rw [member, List.head?_append, starts]; rfl
  exact not_delimiter begins (by decide)

/-- What a header says, field by field. -/
theorem mailFields_read {lines : List Bytes} {contentType : String} {contentId : Option String} {boundary : Option Bytes}
    (typed : asciiText (((fieldValue "Content-Type" lines).getD []).takeWhile fun byte => byte != 59) = contentType)
    (identified : (fieldValue "Content-ID" lines).map asciiText = contentId)
    (cut : quotedAfter (utf8 "boundary=\"") ((fieldValue "Content-Type" lines).getD []) = boundary) :
    mailFields lines = { contentType := contentType, contentId := contentId, boundary := boundary } := by
  subst typed identified cut
  rfl

theorem mailing_mime : @Mime mailing mailFields := by
  refine @Mime.mk mailing _ (fun _ => rfl) (fun _ _ => rfl) ?_
  exact mailFields_read (by decide) (by decide) (by decide)

theorem payload_named : Names mailFields "payload@as4" :=
  ⟨by decide, mailFields_read (by decide) (by decide) (by decide)⟩

theorem other_named : Names mailFields "other@as4" :=
  ⟨by decide, mailFields_read (by decide) (by decide) (by decide)⟩

def mailedHeaders : Dict String String :=
  [("Content-Type", "multipart/related; type=\"application/soap+xml\"; boundary=\"7e7baf89ef78969bd8345f3965f3aede\""),
    ("Message-ID", "<20260906-223020-c8a67167-2983-4f58-a9f9-b2d69b14f84c-@as4>"), ("Mime-Version", "1.0"),
    ("User-Agent", "python-as4/0.1.0")]

theorem mailedHeaders_head : Heads mailFields mailedHeaders RecordedExchange.draws.boundary := by
  refine ⟨?_, _, mailFields_read rfl rfl rfl, ?_, ?_⟩
  · have good : (mailedHeaders.map headerLine).all (fun line =>
        (line.all fun byte => byte != 13 && byte != 10) && isHeaderLine (line ++ crlf)) = true := by decide
    intro line member
    have both := List.all_eq_true.mp good line member
    rw [Bool.and_eq_true] at both
    exact ⟨oneLine_iff.mpr both.1, both.2⟩
  · show asciiText _ = _
    decide
  · show quotedAfter _ _ = _
    decide

theorem mailed_requested :
    letI := mailing
    ∃ body, requestData mailedMessage RecordedExchange.draws = .ok (mailedHeaders, body) := ⟨_, rfl⟩

theorem mailedEnvelope_undelimited :
    letI := mailing
    Undelimited RecordedExchange.draws.boundary
      (envelopeBytes (LooseMessages.looseEnvelope "message" (LooseMessages.bareSecurity [1]) [])) := by
  let _ := mailing
  have one : OneLine (envelopeBytes (LooseMessages.looseEnvelope "message" (LooseMessages.bareSecurity [1]) [])) := by
    decide +kernel
  exact markup_undelimited one rfl

/-- The message is mailed, and its envelope and first attachment arrive. -/
theorem mailed_unpacks :
    letI := mailing
    ∃ body, requestData mailedMessage RecordedExchange.draws = .ok (mailedHeaders, body) ∧
      unpackMessage (payloadFromRequest mailedHeaders body) =
        .ok (envelopeBytes (LooseMessages.looseEnvelope "message" (LooseMessages.bareSecurity [1]) []),
          [("payload@as4", mailedContent)]) := by
  let _ := mailing
  obtain ⟨body, requested⟩ := mailed_requested
  refine ⟨body, requested, ?_⟩
  have named : ∀ attachment ∈ mailedMessage.mimeAttachments, Names mailFields attachment.1 := by
    intro attachment member
    rcases List.mem_pair.mp member with rfl | rfl
    · exact payload_named
    · exact other_named
  have apart : ∀ attachment ∈ mailedMessage.mimeAttachments, Undelimited RecordedExchange.draws.boundary attachment.2 := by
    intro attachment member
    rcases List.mem_pair.mp member with rfl | rfl
    · unfold Undelimited
      decide
    · unfold Undelimited
      decide
  have bare : stripBrackets (toString "<" ++ toString "payload@as4" ++ toString ">") = "payload@as4" := by decide
  have unpacked := packed_unpacks mailing_mime requested rfl mailedHeaders_head (by decide) named mailedEnvelope_undelimited apart
  rw [unpacked]
  show handedOn _ (("payload@as4", mailedContent) :: _) = _
  rw [handedOn, bare, if_neg (by decide)]

end Mail

end TransportedMessages
