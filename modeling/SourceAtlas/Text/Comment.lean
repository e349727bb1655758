import SourceAtlas.Text.Split

namespace SourceAtlas.Text

/-- What opens a block comment; the longer forms come first. -/
def blockOpeners : List (List Char) := ["/**".toList, "/*!".toList, "/*".toList]

def lineMarkers : List (List Char) := ["///".toList, "//!".toList, "//".toList, "#".toList]

def quotes : List (List Char) := ["\"\"\"".toList, "'''".toList, "\"".toList, "'".toList]

def cleanStarred (line : List Char) : List Char := trim ((after? ['*'] (trim line)).getD (trim line))

def cleanMarked (line : List Char) : List Char :=
  trim ((lineMarkers.findSome? fun marker => after? marker (trim line)).getD (trim line))

/-- The text of one comment. A block loses its delimiters, the stars of its lines and its empty lines; other
comments are taken line by line, since one comment may hold several marked lines. -/
def cleanComment (cs : List Char) : List Char :=
  match blockOpeners.findSome? fun opener => after? opener (trim cs) with
  | some body =>
    let body := (before? "*/".toList body).getD body
    ['\n'].intercalate (((lines body).map cleanStarred).filter (!·.isEmpty))
  | none => ['\n'].intercalate ((lines (trim cs)).map cleanMarked)

/-- The text of a documentation string: the outermost quotes and the blanks inside them are dropped. -/
def cleanDocstring (cs : List Char) : List Char :=
  trim ((quotes.findSome? fun quote => (after? quote (trim cs)).bind (before? quote)).getD (trim cs))

end SourceAtlas.Text
