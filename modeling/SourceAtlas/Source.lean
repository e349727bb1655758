import SourceAtlas.Symbol

namespace SourceAtlas

abbrev Bytes := List UInt8

/-- A place in a source: the line and the column, in bytes, both counted from zero. -/
structure Position where
  line : Nat
  column : Nat
  deriving DecidableEq

namespace Bytes

def newline : UInt8 := 10

def position (source : Bytes) (offset : Nat) : Position where
  line := (source.take offset).count newline
  column := ((source.take offset).reverse.takeWhile (· != newline)).length

def text? (source : Bytes) (start stop : Nat) : Option String :=
  String.fromUTF8? ⟨((source.take stop).drop start).toArray⟩

def decode? (source : Bytes) : Option String := String.fromUTF8? ⟨source.toArray⟩

def span (source : Bytes) (start stop : Nat) : Span where
  startLine := UInt32.ofNat (source.position start).line + 1
  startColumn := UInt32.ofNat (source.position start).column + 1
  endLine := UInt32.ofNat (source.position stop).line + 1
  endColumn := UInt32.ofNat (source.position stop).column + 1
  startByte := UInt64.ofNat start
  endByte := UInt64.ofNat stop

end Bytes

end SourceAtlas
