/-! Texts are lists of characters throughout the project; a `String` is only the outer form of one. -/

namespace SourceAtlas.Text

/-- The code points with the property White_Space. -/
def blanks : List Nat :=
  [0x09, 0x0A, 0x0B, 0x0C, 0x0D, 0x20, 0x85, 0xA0, 0x1680, 0x2000, 0x2001, 0x2002, 0x2003, 0x2004, 0x2005,
   0x2006, 0x2007, 0x2008, 0x2009, 0x200A, 0x2028, 0x2029, 0x202F, 0x205F, 0x3000]

def isBlank (c : Char) : Bool := blanks.contains c.toNat

def dropEnd (p : Char → Bool) (cs : List Char) : List Char := (cs.reverse.dropWhile p).reverse

def dropBoth (p : Char → Bool) (cs : List Char) : List Char := dropEnd p (cs.dropWhile p)

def trim (cs : List Char) : List Char := dropBoth isBlank cs

def after? (pre cs : List Char) : Option (List Char) :=
  if pre.isPrefixOf cs then some (cs.drop pre.length) else none

def before? (post cs : List Char) : Option (List Char) :=
  if post.isSuffixOf cs then some (cs.take (cs.length - post.length)) else none

end SourceAtlas.Text
