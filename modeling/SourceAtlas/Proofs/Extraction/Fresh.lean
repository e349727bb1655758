import Mathlib.Tactic.Lemma
import SourceAtlas.Pool.Batch

/-! What extractors remember never changes what they find. -/

namespace SourceAtlas

variable {disk : Disk} {modules : GoModules} {file : ScannedFile} {outline : Outline}

namespace GoModules

def Agrees (modules : GoModules) (disk : Disk) : Prop :=
  ∀ entry ∈ modules.known, entry.2 = findModule? disk entry.1

end GoModules

namespace Extraction

lemma withoutTree_path {path : Path} {language : Language} {source : Bytes} {why : ParseFailure}
    (h : (withoutTree path language source why).outline? = some outline) : outline.path = path := by
  obtain rfl := Option.some.inj h
  rfl

lemma ofStored_path {language : Language} {grammar : Grammar} {passes : List Pass} {stored : StoredFile}
    (h : (ofStored file language grammar passes stored).outline? = some outline) :
    outline.path = file.path := by
  unfold ofStored at h
  split at h
  · exact withoutTree_path h
  · split at h
    · exact withoutTree_path h
    · dsimp only at h
      split at h <;> obtain rfl := Option.some.inj h <;> rfl

lemma readThen_path {next : StoredFile → Extraction}
    (hn : ∀ stored outline, (next stored).outline? = some outline → outline.path = file.path)
    (h : (disk.readThen file next).outline? = some outline) : outline.path = file.path := by
  unfold Disk.readThen at h
  split at h
  · exact hn _ _ h
  · cases h

lemma extract_path {language : Language} {passes : List Pass}
    (h : (disk.extract file language passes).outline? = some outline) : outline.path = file.path :=
  readThen_path (fun _ _ => ofStored_path) h

lemma combine_path {path : Path} {first second : Extraction}
    (h₁ : ∀ outline, first.outline? = some outline → outline.path = path)
    (h₂ : ∀ outline, second.outline? = some outline → outline.path = path)
    (h : (ObjCpp.combine first second).outline? = some outline) : outline.path = path := by
  cases first with
  | complete cpp =>
    cases second with
    | complete objc =>
      obtain rfl := Option.some.inj h
      exact h₁ cpp rfl
    | incomplete objc problem => exact h₁ _ h
    | failed problem => exact h₁ _ h
  | incomplete cpp problem =>
    cases second with
    | complete objc => exact h₂ _ h
    | incomplete objc other =>
      obtain rfl := Option.some.inj h
      exact h₁ cpp rfl
    | failed other => exact h₁ _ h
  | failed problem =>
    cases second with
    | complete objc => exact h₂ _ h
    | incomplete objc other => cases h
    | failed other => cases h

end Extraction

namespace Extractor

def KeepsPaths (e : Extractor) (disk : Disk) : Prop :=
  ∀ file outline, (Result.ofAttempt file.path (e.run disk {} file).1).outline = some outline →
    outline.path = file.path

lemma objCpp_keepsPaths (disk : Disk) : objCpp.KeepsPaths disk := by
  intro file outline h
  refine Extraction.readThen_path (fun stored outline hs => ?_) h
  exact Extraction.combine_path (fun _ => Extraction.ofStored_path) (fun _ => Extraction.ofStored_path) hs

lemma keepsPaths_of_mem_all {e : Extractor} (he : e ∈ all) (disk : Disk) : e.KeepsPaths disk := by
  simp only [all, List.mem_cons, List.not_mem_nil, or_false] at he
  rcases he with rfl | rfl | rfl | rfl | rfl | rfl | rfl | rfl | rfl
  iterate 7 exact fun _ _ h => Extraction.extract_path h
  · exact objCpp_keepsPaths disk
  · exact fun _ _ h => Extraction.extract_path h

end Extractor

namespace Registry

variable {registry : Registry}

lemma mem_of_route? {e : Extractor} (h : registry.route? file = some e) : e ∈ registry.extractors := by
  obtain ⟨language, -, hl⟩ := Option.bind_eq_some_iff.mp h
  rw [extractorFor?_eq_find?] at hl
  exact List.mem_reverse.mp (List.mem_of_find?_eq_some hl)

lemma extract_path (hr : ∀ e ∈ registry.extractors, e ∈ Extractor.all)
    (h : (Result.ofAttempt file.path (registry.extract disk {} file).1).outline = some outline) :
    outline.path = file.path := by
  unfold extract at h
  split at h
  · rename_i e he
    exact Extractor.keepsPaths_of_mem_all (hr e (mem_of_route? he)) disk file outline h
  · cases h

end Registry

end SourceAtlas
