import Fpd.Providers.Extract
import Mathlib.Data.List.Induction

namespace Fpd
namespace Providers

open Unix
open Unix.Path

/-!
# Where an extraction writes

An archive comes from the network and may name its entries at will.  All that is
taken from a name is its stem, and to that the extraction adds an extension, so
what it writes lies in the directory for providers and nowhere else.
-/

/-- The file of a provider in the directory, and no way out of it. -/
structure LiesIn (directory provider place : OsStr) : Prop where
  parent : parent place = some (components directory)
  fileName : fileName place = some (provider ++ ascii ".wasm")
  notNested : separator ∉ provider ++ ascii ".wasm"
  notDot : provider ++ ascii ".wasm" ≠ [dot]
  notDots : provider ++ ascii ".wasm" ≠ [dot, dot]

/-- What becomes of one entry: it is skipped, or the extraction fails, or it is
written under its stem in the directory. -/
def Contained (directory : OsStr) (entry : Entry) (before after : Files × Except Error Unit) :
    Prop :=
  after = before ∨ (after.1 = before.1 ∧ after.2 ≠ .ok ()) ∨
    Exists fun provider => Exists fun place =>
      fileStem entry.path = some provider ∧ LiesIn directory provider place ∧
        after = (Function.update before.1 place (some entry.bytes), .ok ())

variable {destination : OsStr -> OsStr} {skips : OsStr -> Bool} {message : String}
  {files : Files} {entries : List Entry} {providersWasmDir provider : OsStr}
  {wasmDir : Option OsStr}

/-- The last component is a name, because of what is added to the stem. -/
theorem component_wasm (provider : OsStr) :
    component (provider ++ ascii ".wasm") = some (.normal (provider ++ ascii ".wasm")) := by
  have length : 5 ≤ (provider ++ ascii ".wasm").length := by
    rw [List.length_append]
    exact Nat.le_add_left _ _
  unfold component
  rw [if_neg, if_neg]
  · intro same
    rw [same] at length
    exact absurd length (by decide)
  · rintro (same | same) <;>
    · rw [same] at length
      exact absurd length (by decide)

theorem plainName_wasm (named : separator ∉ provider) : PlainName (provider ++ ascii ".wasm") := by
  refine ⟨?_, component_wasm provider⟩
  rw [List.mem_append, not_or]
  exact ⟨named, separator_not_mem_wasm⟩

theorem liesIn_getProviderDestination (named : separator ∉ provider) :
    LiesIn (wasmDir.getD providersWasmDir) provider
      (getProviderDestination providersWasmDir wasmDir provider) := by
  obtain ⟨relative, proper⟩ := plainName_wasm named
  refine ⟨parent_push relative proper, fileName_push relative proper, relative, ?_, ?_⟩
  · intro same
    rw [same] at proper
    cases proper
  · intro same
    rw [same] at proper
    cases proper

/-! ## Entry by entry -/

/-- One entry more, once the entries before it are done. -/
theorem extract_concat (entry : Entry) :
    extract destination skips message files (entries ++ [entry]) =
      match extract destination skips message files entries with
      | (extracted, .error error) => (extracted, .error error)
      | (extracted, .ok ()) => extract destination skips message extracted [entry] := by
  induction entries generalizing files with
  | nil => rfl
  | cons first rest inductionHypothesis =>
      rw [List.cons_append, extract, extract]
      by_cases skipped : skips first.path = true
      · rw [if_pos skipped, if_pos skipped]
        exact inductionHypothesis
      · rw [if_neg skipped, if_neg skipped]
        cases stem : fileStem first.path with
        | none => rfl
        | some provider => exact inductionHypothesis

/-- No entry is treated in any other way, whatever has been extracted before. -/
theorem extract_contained (entry : Entry) :
    Contained (wasmDir.getD providersWasmDir) entry
      (extract (getProviderDestination providersWasmDir wasmDir) skips message files entries)
      (extract (getProviderDestination providersWasmDir wasmDir) skips message files
        (entries ++ [entry])) := by
  rw [extract_concat]
  rcases extract (getProviderDestination providersWasmDir wasmDir) skips message files entries
    with ⟨extracted, result⟩
  cases result with
  | error error => exact Or.inl rfl
  | ok =>
      simp only [extract]
      by_cases skipped : skips entry.path = true
      · rw [if_pos skipped]
        exact Or.inl rfl
      · rw [if_neg skipped]
        cases stem : fileStem entry.path with
        | none => exact Or.inr (Or.inl ⟨rfl, by simp⟩)
        | some provider =>
            exact Or.inr (Or.inr ⟨provider, _, stem,
              liesIn_getProviderDestination (separator_not_mem_of_fileStem stem), rfl⟩)

/-! ## Whole archives -/

/-- Each entry of an archive is contained, and so is every file that has changed
in the end. -/
structure ContainsAll (directory : OsStr)
    (download : Files -> List Entry -> Files × Except Error Unit) : Prop where
  entries : forall files earlier entry,
    Contained directory entry (download files earlier) (download files (earlier ++ [entry]))
  changed : forall files entries path, (download files entries).1 path ≠ files path ->
    Exists fun entry => entry ∈ entries ∧ Exists fun provider =>
      fileStem entry.path = some provider ∧ LiesIn directory provider path

theorem Contained.eq_or_liesIn {directory path : OsStr} {entry : Entry}
    {before after : Files × Except Error Unit}
    (contained : Contained directory entry before after) :
    after.1 path = before.1 path ∨ Exists fun provider =>
      fileStem entry.path = some provider ∧ LiesIn directory provider path := by
  rcases contained with rfl | ⟨same, _⟩ | ⟨provider, place, stem, inside, rfl⟩
  · exact Or.inl rfl
  · exact Or.inl (congrFun same path)
  · by_cases here : path = place
    · subst here
      exact Or.inr ⟨provider, stem, inside⟩
    · exact Or.inl (Function.update_of_ne here _ _)

theorem containsAll_of_entries {directory : OsStr}
    {download : Files -> List Entry -> Files × Except Error Unit}
    (start : forall files, (download files []).1 = files)
    (every : forall files earlier entry,
      Contained directory entry (download files earlier) (download files (earlier ++ [entry]))) :
    ContainsAll directory download := by
  refine ⟨every, fun files entries path differs => ?_⟩
  induction entries using List.reverseRecOn with
  | nil => exact absurd (congrFun (start files) path) differs
  | append_singleton earlier entry inductionHypothesis =>
      rcases (every files earlier entry).eq_or_liesIn with same | inside
      · rw [same] at differs
        rcases inductionHypothesis differs with ⟨other, member, inside⟩
        exact ⟨other, List.mem_append_left _ member, inside⟩
      · exact ⟨entry, List.mem_append_right _ List.mem_cons_self, inside⟩

/-- Whatever the names in a tarball or a zip, nothing is written outside the
directory for providers. -/
theorem extraction_contained (providersWasmDir : OsStr) (wasmDir : Option OsStr) :
    ContainsAll (wasmDir.getD providersWasmDir)
        (downloadProvidersTarball providersWasmDir wasmDir) ∧
      ContainsAll (wasmDir.getD providersWasmDir)
        (downloadProvidersZip providersWasmDir wasmDir) :=
  ⟨containsAll_of_entries (fun _ => rfl) fun _ _ => extract_contained,
    containsAll_of_entries (fun _ => rfl) fun _ _ => extract_contained⟩

end Providers
end Fpd
