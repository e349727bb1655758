import SourceAtlas.Text.Blank

namespace SourceAtlas.Text

def words (cs : List Char) : List (List Char) := (cs.splitOnP isBlank).filter (!·.isEmpty)

def collapse (cs : List Char) : List Char := [' '].intercalate (words cs)

def dropReturn (line : List Char) : List Char := (before? ['\r'] line).getD line

/-- The lines of a text. Each line feed ends one, and the carriage return before it goes with it; what
follows the last line feed is a line only if it is not empty. -/
def lines (cs : List Char) : List (List Char) :=
  let pieces := cs.splitOn '\n'
  pieces.dropLast.map dropReturn ++ (pieces.getLast?.filter (!·.isEmpty)).toList

def firstLine (cs : List Char) : List Char := trim ((lines cs).head?.getD [])

end SourceAtlas.Text
