import Mathlib.Data.List.Basic
import SourceAtlas.Import.GoModules
import SourceAtlas.Proofs.Text.Lines

namespace SourceAtlas.GoModules

open Text

/-- A line that declares a module: `module` and a path, bare or in quotes, with blanks around them, and perhaps a
comment. -/
structure Directive where
  indent : List Char
  gap : List Char
  quoted : Bool
  path : List Char
  trail : List Char
  comment : Option (List Char)
  indent_blank : ∀ c ∈ indent, isBlank c = true ∧ c ≠ '\n'
  gap_ne_nil : gap ≠ []
  gap_blank : ∀ c ∈ gap, c = ' ' ∨ c = '\t'
  path_ne_nil : path ≠ []
  path_tight : ∀ c ∈ path, isBlank c = false ∧ c ≠ '"'
  trail_blank : ∀ c ∈ trail, isBlank c = true ∧ c ≠ '\n'
  comment_oneLine : ∀ text ∈ comment, '\n' ∉ text

namespace Directive

variable (d : Directive)

def quote : List Char := if d.quoted then ['"'] else []

def remark : List Char := d.comment.elim [] ("//".toList ++ ·)

def line : List Char :=
  d.indent ++ ("module".toList ++ (d.gap ++ ((d.quote ++ d.path) ++ (d.quote ++ (d.trail ++ d.remark)))))

def added (comment : List Char) : List Char :=
  d.quote ++ (d.trail ++ ("//".toList ++ dropEnd (· == '"') (dropEnd isBlank comment)))

def reading : List Char := d.path ++ d.comment.elim [] d.added

lemma eq_quote_of_mem {c : Char} (h : c ∈ d.quote) : c = '"' := by
  unfold quote at h
  split at h
  · exact List.mem_singleton.mp h
  · cases h

lemma quote_tight : ∀ c ∈ d.quote, isBlank c = false := by
  intro c hc
  rw [d.eq_quote_of_mem hc]
  decide

lemma quoted_path_tight : ∀ c ∈ d.quote ++ d.path, isBlank c = false :=
  List.forall_mem_append.mpr ⟨d.quote_tight, fun c hc => (d.path_tight c hc).1⟩

lemma quoted_path_ne_nil : d.quote ++ d.path ≠ [] := List.append_ne_nil_of_right_ne_nil _ d.path_ne_nil

lemma gap_isBlank : ∀ c ∈ d.gap, isBlank c = true := by
  intro c hc
  rcases d.gap_blank c hc with rfl | rfl <;> decide

lemma newline_not_mem_line : '\n' ∉ d.line := by
  have hpath : '\n' ∉ d.path := fun h => absurd (d.path_tight _ h).1 (by decide)
  have hquote : '\n' ∉ d.quote := fun h => absurd (d.quote_tight _ h) (by decide)
  have hgap : '\n' ∉ d.gap := fun h => absurd (d.gap_blank _ h) (by decide)
  have hremark : '\n' ∉ d.remark := by
    rw [remark]
    cases hc : d.comment with
    | none => exact List.not_mem_nil
    | some text => simpa using d.comment_oneLine text hc
  have hindent : '\n' ∉ d.indent := fun h => (d.indent_blank _ h).2 rfl
  have htrail : '\n' ∉ d.trail := fun h => (d.trail_blank _ h).2 rfl
  simp [line, hindent, hgap, hquote, hpath, htrail, hremark]

lemma line_ne_nil : d.line ≠ [] := by simp [line]

def rest : List Char := d.quote ++ d.comment.elim [] fun text => d.trail ++ ("//".toList ++ dropEnd isBlank text)

lemma dropEnd_isBlank_rest : dropEnd isBlank (d.quote ++ (d.trail ++ d.remark)) = d.rest := by
  rw [remark, rest]
  cases d.comment with
  | none =>
    have htrail : ∀ c ∈ d.trail ++ [], isBlank c = true := by simpa using fun c hc => (d.trail_blank c hc).1
    rw [Option.elim_none, dropEnd_append htrail, dropEnd_of_forall d.quote_tight, Option.elim_none, List.append_nil]
  | some text =>
    have hmark := dropEnd_append_tight (w := "//".toList) (by simp) (isBlank_of_any rfl) (d.quote ++ d.trail) text
    simpa only [Option.elim_some, List.append_assoc] using hmark

lemma trim_line : trim d.line = "module".toList ++ (d.gap ++ ((d.quote ++ d.path) ++ d.rest)) := by
  rw [line, trim_blank_append fun c hc => (d.indent_blank c hc).1, trim_append_tight (by simp) (isBlank_of_any rfl),
    dropEnd_append_tight d.quoted_path_ne_nil d.quoted_path_tight, dropEnd_isBlank_rest]

lemma trim_rest : trim (d.gap ++ ((d.quote ++ d.path) ++ d.rest)) = (d.quote ++ d.path) ++ d.rest := by
  have hrest := dropEnd_append_tight d.quoted_path_ne_nil d.quoted_path_tight [] (d.quote ++ (d.trail ++ d.remark))
  rw [List.nil_append, List.nil_append, dropEnd_isBlank_rest] at hrest
  rw [trim_blank_append d.gap_isBlank, ← hrest, trim_dropEnd, hrest,
    trim_append_tight d.quoted_path_ne_nil d.quoted_path_tight, dropEnd_isBlank_rest]

lemma dropBoth_quote : dropBoth (· == '"') ((d.quote ++ d.path) ++ d.rest) = d.reading := by
  have hquote : ∀ c ∈ d.quote, (c == '"') = true := fun c hc => beq_iff_eq.mpr (d.eq_quote_of_mem hc)
  have hpath : ∀ c ∈ d.path, (c == '"') = false := fun c hc => beq_false_of_ne (d.path_tight c hc).2
  have hhead : ∀ c ∈ (d.path ++ d.rest).head?, (c == '"') = false := by
    rw [List.head?_append_of_ne_nil _ d.path_ne_nil]
    exact fun c hc => hpath c (List.mem_of_mem_head? hc)
  rw [dropBoth, List.append_assoc, List.dropWhile_append_of_pos hquote, dropWhile_eq_self hhead, rest, reading]
  cases d.comment with
  | none => rw [Option.elim_none, List.append_nil, dropEnd_append hquote, dropEnd_of_forall hpath, Option.elim_none,
      List.append_nil]
  | some text =>
    have hmark := dropEnd_append_cons (p := (· == '"')) (x := '/') (by decide)
      (d.path ++ (d.quote ++ (d.trail ++ ['/']))) (dropEnd isBlank text)
    simpa [added] using hmark

lemma moduleOfLine?_line : moduleOfLine? d.line = some (String.ofList d.reading) := by
  obtain ⟨c, gap, hgap⟩ := List.exists_cons_of_ne_nil d.gap_ne_nil
  have hblank : (d.gap ++ ((d.quote ++ d.path) ++ d.rest)).head?.any isBlank = true := by
    rw [hgap]
    exact d.gap_isBlank c (by simp [hgap])
  have hne : d.reading.isEmpty = false := by simp [reading, d.path_ne_nil]
  rw [moduleOfLine?, trim_line, after?_append]
  simp only [trim_rest, dropBoth_quote, hblank, hne, Bool.not_false, Bool.and_self, if_true]

lemma reading_eq_path_iff : d.reading = d.path ↔ d.comment = none := by
  rw [reading, List.append_right_eq_self]
  cases d.comment with
  | none => simp
  | some text => simp [added]

end Directive

variable {line : List Char}

def Opens (line : List Char) : Prop := ∃ c rest, trim line = "module".toList ++ c :: rest ∧ isBlank c = true

lemma opens_iff : Opens line ↔
    ((after? "module".toList (trim line)).any fun rest => rest.head?.any isBlank) = true := by
  rw [Option.any_eq_true]
  constructor
  · rintro ⟨c, rest, ht, hc⟩
    exact ⟨c :: rest, after?_eq_some_iff.mpr ht, hc⟩
  · rintro ⟨rest, ht, hb⟩
    cases rest with
    | nil => cases hb
    | cons c rest => exact ⟨c, rest, after?_eq_some_iff.mp ht, hb⟩

instance (line : List Char) : Decidable (Opens line) := decidable_of_iff _ opens_iff.symm

lemma moduleOfLine?_eq_none (h : ¬ Opens line) : moduleOfLine? line = none := by
  rw [opens_iff] at h
  rw [moduleOfLine?]
  cases ht : after? "module".toList (trim line) with
  | none => rfl
  | some rest =>
    have hb : rest.head?.any isBlank = false := by
      rw [ht] at h
      exact Bool.eq_false_iff.mpr h
    simp [hb]

lemma moduleOfLine?_dropReturn (line : List Char) : moduleOfLine? (dropReturn line) = moduleOfLine? line := by
  rw [moduleOfLine?, moduleOfLine?, trim_dropReturn]

lemma declaredModule?_append {before : List (List Char)} (h : ∀ line ∈ before, '\n' ∉ line ∧ ¬ Opens line)
    (rest : List Char) :
    declaredModule? (String.ofList (before.flatMap (· ++ ['\n']) ++ rest)) = (lines rest).findSome? moduleOfLine? := by
  have hnone : (before.map dropReturn).findSome? moduleOfLine? = none := by
    apply List.findSome?_eq_none_iff.mpr
    refine List.forall_mem_map.mpr fun line hline => ?_
    rw [moduleOfLine?_dropReturn, moduleOfLine?_eq_none (h line hline).2]
  rw [declaredModule?, String.toList_ofList, lines_flatMap_append fun line hline => (h line hline).1,
    List.findSome?_append, hnone, Option.none_or]

lemma findSome?_lines_line (d : Directive) {after : List Char} (h : ∀ c ∈ after.head?, c = '\n') :
    (lines (d.line ++ after)).findSome? moduleOfLine? = moduleOfLine? d.line := by
  cases after with
  | nil =>
    rw [List.append_nil, lines_tight d.newline_not_mem_line, if_neg d.line_ne_nil, List.findSome?_singleton]
  | cons c after =>
    obtain rfl := h c rfl
    rw [lines_append_newline d.newline_not_mem_line, List.findSome?_cons, moduleOfLine?_dropReturn,
      d.moduleOfLine?_line]

theorem module_is_read_unless_comment_follows (before : List (List Char))
    (hbefore : ∀ line ∈ before, '\n' ∉ line ∧ ¬ Opens line) (d : Directive) (after : List Char)
    (hafter : ∀ c ∈ after.head?, c = '\n') :
    let text := String.ofList (before.flatMap (· ++ ['\n']) ++ (d.line ++ after))
    declaredModule? text = some (String.ofList d.reading) ∧
      (declaredModule? text = some (String.ofList d.path) ↔ d.comment = none) := by
  intro text
  have hread : declaredModule? text = some (String.ofList d.reading) := by
    rw [declaredModule?_append hbefore, findSome?_lines_line d hafter, d.moduleOfLine?_line]
  refine ⟨hread, ?_⟩
  rw [hread, Option.some_inj, String.ofList_inj, d.reading_eq_path_iff]

def quotedDirective : Directive where
  indent := ['\t']
  gap := [' ', '\t']
  quoted := true
  path := "acme.org/tool".toList
  trail := [' ', '\r']
  comment := none
  indent_blank := by simp; decide
  gap_ne_nil := List.cons_ne_nil _ _
  gap_blank := by simp
  path_ne_nil := by decide
  path_tight c hc := ⟨isBlank_of_any rfl c hc, fun h => absurd (h ▸ hc) (by decide)⟩
  trail_blank := by simp; decide
  comment_oneLine := by simp

theorem quoted_module_is_read_behind_other_lines :
    declaredModule? "// module of the tool\r\nmodules \"x\"\r\n\tmodule \t\"acme.org/tool\" \r\nmodule other // x\n" =
      some "acme.org/tool" := by
  have hbefore : ∀ line ∈ ["// module of the tool\r".toList, "modules \"x\"\r".toList], '\n' ∉ line ∧ ¬ Opens line := by
    decide +kernel
  have hread := module_is_read_unless_comment_follows _ hbefore quotedDirective "\nmodule other // x\n".toList (by simp)
  exact hread.2.mpr rfl

def commentedDirective : Directive where
  indent := []
  gap := [' ']
  quoted := false
  path := "github.com/me/proj".toList
  trail := [' ']
  comment := some " the project".toList
  indent_blank := by simp
  gap_ne_nil := List.cons_ne_nil _ _
  gap_blank := by simp
  path_ne_nil := by decide
  path_tight c hc := ⟨isBlank_of_any rfl c hc, fun h => absurd (h ▸ hc) (by decide)⟩
  trail_blank := by simp; decide
  comment_oneLine := by simp

theorem comment_is_read_as_part_of_module :
    String.ofList (commentedDirective.line ++ ['\n']) = "module github.com/me/proj // the project\n" ∧
      declaredModule? "module github.com/me/proj // the project\n" = some "github.com/me/proj // the project" ∧
      declaredModule? "module github.com/me/proj // the project\n" ≠ some (String.ofList commentedDirective.path) := by
  decide +kernel

end SourceAtlas.GoModules
