import Mathlib.Data.List.TakeWhile
import Mathlib.Data.Nat.Notation
import SourceAtlas.Source

namespace SourceAtlas

lemma toNat_ofNat_add_one {n : ℕ} (h : n + 1 < UInt32.size) : (UInt32.ofNat n + 1).toNat = 1 + n := by
  have he : UInt32.ofNat n + 1 = UInt32.ofNat (n + 1) := by
    rw [UInt32.ofNat_add]
    rfl
  rw [he, UInt32.toNat_ofNat_of_lt' h, Nat.add_comm]

namespace Bytes

variable {source : Bytes} {offset : ℕ}

/-- What stands between the last line break before an offset and the offset. -/
def LineBefore (source : Bytes) (offset : ℕ) (line : Bytes) : Prop :=
  ∃ before, source.take offset = before ++ line ∧ newline ∉ line ∧ ∀ b ∈ before.getLast?, b = newline

lemma exists_lineBefore (source : Bytes) (offset : ℕ) :
    ∃ line, source.LineBefore offset line ∧ (source.position offset).column = line.length := by
  set reversed := (source.take offset).reverse with hr
  let line := (reversed.takeWhile (· != newline)).reverse
  let before := (reversed.dropWhile (· != newline)).reverse
  refine ⟨line, ⟨before, ?_, ?_, ?_⟩, ?_⟩
  · rw [← List.reverse_append, List.takeWhile_append_dropWhile, hr, List.reverse_reverse]
  · intro hm
    have hne := List.mem_takeWhile_imp (List.mem_reverse.mp hm)
    simp at hne
  · intro b hb
    rw [List.getLast?_reverse] at hb
    have hhead := List.head?_dropWhile_not (· != newline) reversed
    rw [hb] at hhead
    simpa using hhead
  · rw [List.length_reverse]
    rfl

lemma LineBefore.length_le {line : Bytes} (h : source.LineBefore offset line) :
    line.length ≤ (source.take offset).length := by
  obtain ⟨before, he, -⟩ := h
  rw [he, List.length_append]
  exact Nat.le_add_left _ _

structure Pinpoints (source : Bytes) (offset : ℕ) (line column : UInt32) : Prop where
  line : line.toNat = 1 + (source.take offset).count newline
  column : ∃ text, source.LineBefore offset text ∧ column.toNat = 1 + text.length

lemma pinpoints_position (h : (source.take offset).length + 1 < UInt32.size) :
    source.Pinpoints offset (UInt32.ofNat (source.position offset).line + 1)
      (UInt32.ofNat (source.position offset).column + 1) := by
  obtain ⟨text, ht, hc⟩ := source.exists_lineBefore offset
  have hline : (source.take offset).count newline ≤ (source.take offset).length := List.count_le_length
  have hcolumn := ht.length_le
  refine ⟨toNat_ofNat_add_one (n := (source.take offset).count newline) (by omega), text, ht, ?_⟩
  rw [hc]
  exact toNat_ofNat_add_one (by omega)

lemma not_pinpoints_column_zero {line : UInt32} : ¬ source.Pinpoints offset line 0 := by
  rintro ⟨-, text, -, hcolumn⟩
  rw [UInt32.toNat_zero] at hcolumn
  omega

lemma position_of_newline_notMem (h : newline ∉ source) (ho : offset ≤ source.length) :
    source.position offset = ⟨0, offset⟩ := by
  have htake : newline ∉ source.take offset := fun hm => h (List.mem_of_mem_take hm)
  have hall : (source.take offset).reverse.takeWhile (· != newline) = (source.take offset).reverse := by
    refine List.takeWhile_eq_self_iff.mpr fun b hb => ?_
    have hne : b ≠ newline := fun he => htake (he ▸ List.mem_reverse.mp hb)
    simpa using hne
  rw [position, hall, List.count_eq_zero_of_not_mem htake, List.length_reverse, List.length_take, Nat.min_eq_left ho]

end Bytes

end SourceAtlas
