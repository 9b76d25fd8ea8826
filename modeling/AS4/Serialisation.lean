import AS4.Comments

/-!
Writing element trees as XML text: as they stand, and in exclusive canonical form.
Namespaces go by the prefixes the documents of the library use; the text of a
namespace without one of these is not meant to be read.

The canonical form is made from the tree without its comments, so trees that
differ only by comments share it.
-/

namespace Serialisation
open ElementTree Comments PythonData

section Equality

mutual
def sameNode : Node → Node → Bool
  | .element tag attrib content, .element tag' attrib' content' =>
      tag == tag' && attrib == attrib' && sameContent content content'
  | .text data, .text data' => data == data'
  | .comment data, .comment data' => data == data'
  | .processingInstruction target data pseudo, .processingInstruction target' data' pseudo' =>
      target == target' && data == data' && pseudo == pseudo'
  | .entity name, .entity name' => name == name'
  | _, _ => false

def sameContent : List Node → List Node → Bool
  | [], [] => true
  | node :: rest, node' :: rest' => sameNode node node' && sameContent rest rest'
  | _, _ => false
end

mutual
theorem sameNode_iff (first second : Node) : sameNode first second = true ↔ first = second := by
  match first, second with
  | .element _ _ content, .element _ _ content' =>
      simp [sameNode, sameContent_iff content content', and_assoc]
  | .text _, .text _ | .comment _, .comment _ | .entity _, .entity _ => simp [sameNode]
  | .processingInstruction _ _ _, .processingInstruction _ _ _ => simp [sameNode, and_assoc]
  | .element _ _ _, .text _ | .element _ _ _, .comment _ | .element _ _ _, .processingInstruction _ _ _
  | .element _ _ _, .entity _ | .text _, .element _ _ _ | .text _, .comment _
  | .text _, .processingInstruction _ _ _ | .text _, .entity _ | .comment _, .element _ _ _ | .comment _, .text _
  | .comment _, .processingInstruction _ _ _ | .comment _, .entity _ | .processingInstruction _ _ _, .element _ _ _
  | .processingInstruction _ _ _, .text _ | .processingInstruction _ _ _, .comment _
  | .processingInstruction _ _ _, .entity _ | .entity _, .element _ _ _ | .entity _, .text _ | .entity _, .comment _
  | .entity _, .processingInstruction _ _ _ => simp [sameNode]

theorem sameContent_iff (first second : List Node) : sameContent first second = true ↔ first = second := by
  match first, second with
  | [], [] | [], _ :: _ | _ :: _, [] => simp [sameContent]
  | node :: rest, node' :: rest' => simp [sameContent, sameNode_iff node node', sameContent_iff rest rest']
end

instance : DecidableEq Node := fun first second => decidable_of_iff _ (sameNode_iff first second)

end Equality

section Names

/-- The prefixes of the documents of the library; the last three are those a
writer makes up. -/
def prefixes : List (String × String) :=
  [("http://www.w3.org/2003/05/soap-envelope", "S12"),
   ("http://www.w3.org/2000/09/xmldsig#", "ds"),
   ("http://docs.oasis-open.org/ebxml-msg/ebms/v3.0/ns/core/200704/", "eb3"),
   ("http://www.w3.org/2001/04/xmlenc#", "enc"),
   ("http://docs.oasis-open.org/wss/2004/01/oasis-200401-wss-wssecurity-secext-1.0.xsd", "wsse"),
   ("http://docs.oasis-open.org/wss/2004/01/oasis-200401-wss-wssecurity-utility-1.0.xsd", "wsu"),
   ("http://docs.oasis-open.org/ebxml-bp/ebbp-signals-2.0", "ebbpsig"),
   ("http://www.w3.org/XML/1998/namespace", "xml"),
   ("http://www.w3.org/2009/xmlenc11#", "ns0"),
   ("http://docs.oasis-open.org/wss/oasis-wss-wssecurity-secext-1.1.xsd", "ns1"),
   ("http://www.unece.org/cefact/namespaces/StandardBusinessDocumentHeader", "ns0")]

/-- Any other namespace is the default one. -/
def prefixOf (uri : String) : String := (prefixes.lookup uri).getD ""

/-- The namespaces declared around a document. -/
def outermost : List (String × String) := [("", ""), ("xml", "http://www.w3.org/XML/1998/namespace")]

def qualified (name : QName) : String :=
  if prefixOf name.uri = "" then name.localName else prefixOf name.uri ++ ":" ++ name.localName

/-- The namespaces an element has to declare where these are already declared. -/
def undeclared (declared : List (String × String)) (tag : QName) (attrib : List (QName × String)) : List String :=
  let used := tag.uri :: (attrib.map (·.1.uri)).filter (· ≠ "")
  (used.reverse.dedup.reverse).filter fun uri => declared.lookup (prefixOf uri) ≠ some uri

end Names

section Text

/-- How one writing of a document differs from another. -/
structure Style where
  attributeOrder : List (QName × String) → List (QName × String)
  namespaceOrder : List String → List String
  escapeText : Char → List Char
  escapeAttribute : Char → List Char
  selfClosing : Bool

def escapeWith (table : List (Char × String)) (c : Char) : List Char :=
  match table.lookup c with
  | some reference => reference.toList
  | none => [c]

def carriageReturn : Char := Char.ofNat 13

def quote : Char := Char.ofNat 34

/-- What exclusive canonicalisation prescribes. -/
def canonicalStyle : Style where
  attributeOrder := List.insertionSort fun first second =>
    first.1.uri < second.1.uri ∨ first.1.uri = second.1.uri ∧ first.1.localName ≤ second.1.localName
  namespaceOrder := List.insertionSort fun first second => prefixOf first ≤ prefixOf second
  escapeText := escapeWith [('&', "&amp;"), ('<', "&lt;"), ('>', "&gt;"), (carriageReturn, "&#xD;")]
  escapeAttribute := escapeWith [('&', "&amp;"), ('<', "&lt;"), (quote, "&quot;"), ('\t', "&#x9;"),
    ('\n', "&#xA;"), (carriageReturn, "&#xD;")]
  selfClosing := false

/-- What `etree.tostring` writes. -/
def plainStyle : Style where
  attributeOrder := id
  namespaceOrder := id
  escapeText := escapeWith [('&', "&amp;"), ('<', "&lt;"), ('>', "&gt;"), (carriageReturn, "&#13;")]
  escapeAttribute := escapeWith [('&', "&amp;"), ('<', "&lt;"), ('>', "&gt;"), (quote, "&quot;"), ('\t', "&#9;"),
    ('\n', "&#10;"), (carriageReturn, "&#13;")]
  selfClosing := true

def attributeText (name : List Char) (value : List Char) : List Char := [' '] ++ name ++ ['=', quote] ++ value ++ [quote]

def namespaceText (uri : String) : List Char :=
  attributeText (if prefixOf uri = "" then "xmlns" else "xmlns:" ++ prefixOf uri).toList uri.toList

def startTag (style : Style) (new : List String) (tag : QName) (attrib : List (QName × String)) : List Char :=
  ['<'] ++ (qualified tag).toList ++ (style.namespaceOrder new).flatMap namespaceText ++
    (style.attributeOrder attrib).flatMap fun entry =>
      attributeText (qualified entry.1).toList (entry.2.toList.flatMap style.escapeAttribute)

mutual
def writeNode (style : Style) (declared : List (String × String)) : Node → List Char
  | .element tag attrib content =>
      let new := undeclared declared tag attrib
      let body := writeContent style (new.map (fun uri => (prefixOf uri, uri)) ++ declared) content
      if style.selfClosing && content.isEmpty then startTag style new tag attrib ++ "/>".toList
      else startTag style new tag attrib ++ ['>'] ++ body ++ "</".toList ++ (qualified tag).toList ++ ['>']
  | .text data => data.toList.flatMap style.escapeText
  | .comment data => "<!--".toList ++ data.toList ++ "-->".toList
  | .processingInstruction target data _ => "<?".toList ++ target.toList ++ [' '] ++ data.toList ++ "?>".toList
  | .entity name => ['&'] ++ name.toList ++ [';']

def writeContent (style : Style) (declared : List (String × String)) : List Node → List Char
  | [] => []
  | node :: rest => writeNode style declared node ++ writeContent style declared rest
end

/-- `etree.tostring` -/
def plainText (document : Node) : Bytes :=
  (writeNode plainStyle outermost document).flatMap String.utf8EncodeChar

/-- Exclusive canonical form, without inclusive prefixes and without comments. -/
def canonicalText (element : Node) : Bytes :=
  (writeNode canonicalStyle outermost (withoutComments element)).flatMap String.utf8EncodeChar

end Text

end Serialisation
