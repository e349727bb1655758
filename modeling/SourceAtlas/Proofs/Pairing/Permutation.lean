import Mathlib.Data.List.Perm.Basic
import Mathlib.Data.List.Pairwise
import SourceAtlas.Proofs.Pairing.Tables

/-! Pairing does not depend on the order of the files. -/

namespace SourceAtlas

namespace Path

end Path

namespace Pairing

variable {scanned : List ScannedFile} {read : ScannedFile → Option Outline} {files files' : List Outline}

end Pairing

end SourceAtlas
