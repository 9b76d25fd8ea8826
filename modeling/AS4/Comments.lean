import AS4.ElementCodec

/-!
Element trees that differ only by comments. Dropping a comment joins the text on
either side of it, so an element's whole text may be longer than the leading text
that is read of it.
-/

namespace Comments
open ElementTree ElementCodec FallibleSteps PythonData

section Dropping

/-- Text put in front of some content. -/
def joinText (data : String) : List Node → List Node
  | .text more :: rest => .text (data ++ more) :: rest
  | content => .text data :: content

mutual
def withoutComments : Node → Node
  | .element tag attrib content => .element tag attrib (contentWithoutComments content)
  | node => node

def contentWithoutComments : List Node → List Node
  | [] => []
  | .comment _ :: rest => contentWithoutComments rest
  | .text data :: rest => joinText data (contentWithoutComments rest)
  | node :: rest => withoutComments node :: contentWithoutComments rest
end

end Dropping

end Comments
